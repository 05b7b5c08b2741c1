import Jitong.AcceptedLogins

/-!
The flag that lets the client runtime send. `nativeCreateRuntime` of `im_runtime_jni.cpp` sets it
from what it reads of the account, and the event sink of `im_auth_jni.cpp` with every event.
-/

namespace Jitong

open Lib

def Sent.toSink : Sent → Option AccountEvent
  | .event told => some told
  | _ => none

/-- Where `nativeCreateRuntime` stands: the runtime is in its handle, the state of the account
was read, the connection too, or the call has returned. -/
inductive CreationStage
  | registered
  | stateRead (authenticated : Bool)
  | aligning (authenticated : Bool)
  | returned
  deriving DecidableEq

/-- `accountAuthenticated` is `m_accountAuthenticated`. -/
structure RuntimeGate where
  accountAuthenticated : Bool := false
  stage : CreationStage := .registered
  deriving DecidableEq

def RuntimeGate.setAccountAuthenticated (runtime : RuntimeGate) (authenticated : Bool) :
    RuntimeGate := { runtime with accountAuthenticated := authenticated }

def RuntimeGate.onAccountEvent (runtime : RuntimeGate) (event : AccountEvent) : RuntimeGate :=
  runtime.setAccountAuthenticated
    (event.accountState = .authenticated ∧ event.connectionState = .connected)

/-- `NativeSdkHandle`, with whether the connection of its core is open. -/
structure SdkHandle where
  account : AccountSession
  connected : Bool := false
  runtime : Option RuntimeGate := none

/-- A call of the account session up to its return, the connection as it opens or closes, and
the calls that make and destroy the runtime; `goOn` is the next part of `nativeCreateRuntime`. -/
inductive HandleEvent
  | account (env : Surroundings) (call : AccountCall)
  | connection (isOpen : Bool)
  | createRuntime
  | goOn
  | destroyRuntime

namespace SdkHandle

def authenticated (handle : SdkHandle) : Bool := handle.account.machine.state = .authenticated

def goOn (handle : SdkHandle) (runtime : RuntimeGate) : RuntimeGate :=
  match runtime.stage with
  | .registered => { runtime with stage := .stateRead handle.authenticated }
  | .stateRead authenticated =>
      { runtime with stage := .aligning (authenticated && handle.connected) }
  | .aligning authenticated =>
      { runtime.setAccountAuthenticated authenticated with stage := .returned }
  | .returned => runtime

def step (handle : SdkHandle) : HandleEvent → SdkHandle
  | .account env call =>
      let account := handle.account.step (env, call)
      { handle with
        account
        runtime := handle.runtime.map fun runtime =>
          (account.sent.filterMap Sent.toSink).foldl RuntimeGate.onAccountEvent runtime }
  | .connection isOpen => { handle with connected := isOpen }
  | .createRuntime =>
      if handle.runtime.isSome then handle else { handle with runtime := some {} }
  | .goOn => { handle with runtime := handle.runtime.map handle.goOn }
  | .destroyRuntime => { handle with runtime := none }

/-- Once its creation has returned, the flag of a runtime is up while the account is
authenticated and connected, and down while the account is not authenticated. -/
def GateFollows (handle : SdkHandle) : Prop :=
  ∀ runtime, handle.runtime = some runtime → runtime.stage = .returned →
    (handle.authenticated = true → handle.connected = true →
      runtime.accountAuthenticated = true) ∧
    (handle.authenticated = false → runtime.accountAuthenticated = false)

end SdkHandle

def Action.emits (action : Action) : Bool :=
  match action.type with
  | .emitEvent _ | .rejectOperation _ => true
  | _ => false

def Action.connects (action : Action) : Bool :=
  match action.type with
  | .emitEvent event => event.connectionState = .connected
  | _ => false

namespace AuthStateMachine

variable (machine : AuthStateMachine)

/-- A machine that changes its state has an event for it, and no event of a machine says that
the connection is up. -/
structure Loud (actions : List Action) (after : AuthStateMachine) : Prop where
  changed : after.state = machine.state ∨ actions.any Action.emits = true
  unconnected : actions.any Action.connects = false

variable {machine}

theorem transition_loud {started : AuthStateMachine} (kept : started.state = machine.state)
    (next : AccountState) (front back : List Action)
    (before : front.any Action.connects = false) (after : back.any Action.connects = false) :
    machine.Loud (front ++ (started.transitionTo next).1 ++ back) (started.transitionTo next).2 := by
  unfold transitionTo
  split
  · exact ⟨.inl kept, by simp [before, after]⟩
  · exact ⟨.inr (by simp [Action.emits, emit]), by simp [before, after, Action.connects, emit]⟩

theorem unchanged_loud {actions : List Action} (unconnected : actions.any Action.connects = false) :
    machine.Loud actions machine := ⟨.inl rfl, unconnected⟩

variable (machine)

theorem requestLogin_loud (account : Bytes) (method : AuthMethod) :
    machine.Loud (machine.requestLogin account method).2.1
      (machine.requestLogin account method).2.2 := by
  unfold requestLogin
  split
  · split <;> exact unchanged_loud rfl
  · split
    · exact unchanged_loud rfl
    · refine transition_loud ?_ .authenticating [] _ rfl ?_ <;> rfl

theorem requestRefreshForLogin_loud (account : Bytes) :
    machine.Loud (machine.requestRefreshForLogin account).2.1
      (machine.requestRefreshForLogin account).2.2 := by
  unfold requestRefreshForLogin
  split
  · exact unchanged_loud rfl
  · refine transition_loud ?_ .refreshing [] _ rfl ?_ <;> rfl

theorem requestRefresh_loud :
    machine.Loud machine.requestRefresh.2.1 machine.requestRefresh.2.2 := by
  unfold requestRefresh
  split
  · exact unchanged_loud rfl
  · split
    · exact unchanged_loud rfl
    · refine transition_loud ?_ .refreshing [] _ rfl ?_ <;> rfl

theorem requestTokenLoginOnConnected_loud :
    machine.Loud machine.requestTokenLoginOnConnected.2.1
      machine.requestTokenLoginOnConnected.2.2 := by
  unfold requestTokenLoginOnConnected
  split
  · exact unchanged_loud rfl
  · refine transition_loud ?_ .authenticating [] _ rfl ?_ <;> rfl

theorem cancelAuthentication_loud :
    machine.Loud machine.cancelAuthentication.1 machine.cancelAuthentication.2 :=
  @transition_loud machine { machine with
    generation := machine.generation + 1
    operationId := 0
    authMethod := .none
    autoReconnectAllowed := false } rfl .loggedOut [{ type := .cancelReconnect }]
    [{ type := .disconnect }] rfl rfl

theorem onConnected_loud : machine.Loud machine.onConnected machine := by
  refine unchanged_loud ?_
  unfold onConnected
  cases machine.state with
  | authenticating => by_cases token : machine.authMethod = .accessToken <;> simp [Action.connects, token]
  | _ => rfl

theorem onDisconnected_loud (intentional : Bool) :
    machine.Loud (machine.onDisconnected intentional).1
      (machine.onDisconnected intentional).2 := by
  unfold onDisconnected
  split
  · exact unchanged_loud rfl
  · split
    · exact unchanged_loud rfl
    · split
      · exact unchanged_loud rfl
      · split
        · have loud := @transition_loud machine machine rfl .loggedOut
            [machine.emit .loginFailed .networkUnreachable] [] rfl rfl
          rwa [List.append_nil] at loud
        · exact unchanged_loud rfl

theorem onAuthSucceeded_loud (generation : UInt32) (userId : Int32) :
    machine.Loud (machine.onAuthSucceeded generation userId).1
      (machine.onAuthSucceeded generation userId).2 := by
  unfold onAuthSucceeded
  split
  · exact unchanged_loud rfl
  · split
    · exact unchanged_loud rfl
    · refine transition_loud ?_ .authenticated [] _ rfl ?_ <;> rfl

theorem onAuthFailed_loud (generation : UInt32) (error : AuthError) :
    machine.Loud (machine.onAuthFailed generation error).1
      (machine.onAuthFailed generation error).2 := by
  unfold onAuthFailed
  split
  · exact unchanged_loud rfl
  · split
    · exact unchanged_loud rfl
    · refine transition_loud ?_ .loggedOut [machine.emit .loginFailed error] _ rfl ?_ <;> rfl

theorem onRefreshSucceeded_loud (generation : UInt32) :
    machine.Loud (machine.onRefreshSucceeded generation).1
      (machine.onRefreshSucceeded generation).2 := by
  unfold onRefreshSucceeded
  split
  · exact unchanged_loud rfl
  · split
    · exact unchanged_loud rfl
    · refine transition_loud ?_ .authenticated [] _ rfl ?_ <;> rfl

theorem onRefreshFailed_loud (generation : UInt32) (error : AuthError) :
    machine.Loud (machine.onRefreshFailed generation error).1
      (machine.onRefreshFailed generation error).2 := by
  unfold onRefreshFailed
  split
  · exact unchanged_loud rfl
  · split
    · exact unchanged_loud rfl
    · split
      · refine transition_loud ?_ .loggedOutKicked [machine.emit .refreshFailed error] _ rfl ?_ <;> rfl
      · have loud := @transition_loud machine machine rfl .authenticated
            [machine.emit .refreshFailed error] [] rfl rfl
        rwa [List.append_nil] at loud

theorem onKicked_loud (reason : AuthError) :
    machine.Loud (machine.onKicked reason).1 (machine.onKicked reason).2 :=
  @transition_loud machine { machine with autoReconnectAllowed := false } rfl .loggedOutKicked
    [{ type := .cancelReconnect }] _ rfl rfl

theorem onLogoutCompleted_loud :
    machine.Loud machine.onLogoutCompleted.1 machine.onLogoutCompleted.2 where
  changed := .inr (by simp [onLogoutCompleted, Action.emits, emit])
  unconnected := (transition_loud rfl .loggedOut [] _ rfl (by rfl)).unconnected

end AuthStateMachine

namespace AccountSession

def told (session : AccountSession) : Bool := session.sent.any fun call => call.toSink.isSome

def toldConnected (session : AccountSession) : Bool :=
  session.sent.any fun call => call.toSink.any fun event => event.connectionState = .connected

/-- An end without events is that of a way without events, which leaves the state, and no event
says that the connection is up. -/
structure Hushed (before after : AccountSession) : Prop where
  unchanged : after.told = false →
    before.told = false ∧ after.machine.state = before.machine.state
  unconnected : before.toldConnected = false → after.toldConnected = false

theorem Hushed.refl (session : AccountSession) : Hushed session session :=
  ⟨fun told => ⟨told, rfl⟩, id⟩

theorem Hushed.trans {first second third : AccountSession} (before : Hushed first second)
    (after : Hushed second third) : Hushed first third := by
  refine ⟨fun told => ?_, after.unconnected ∘ before.unconnected⟩
  obtain ⟨middle, state⟩ := after.unchanged told
  obtain ⟨start, same⟩ := before.unchanged middle
  exact ⟨start, state.trans same⟩

theorem Hushed.of {before middle after : AccountSession} (hushed : Hushed middle after)
    (sent : middle.sent = before.sent) (machine : middle.machine = before.machine) :
    Hushed before after := by
  refine .trans ⟨fun told => ⟨?_, by rw [machine]⟩, fun told => ?_⟩ hushed
  · simpa only [AccountSession.told, sent] using told
  · simpa only [toldConnected, sent] using told

theorem Hushed.told {before after : AccountSession} (hushed : Hushed before after)
    (told : before.told = true) : after.told = true := by
  by_contra quiet
  have start := (hushed.unchanged (by simpa using quiet)).1
  simp [told] at start

theorem hand_hushed {before after : AccountSession} {call : Sent}
    (machine : after.machine.state = before.machine.state)
    (sent : after.sent = before.sent ++ [call])
    (unconnected : (call.toSink.any fun event => event.connectionState = .connected) = false) :
    Hushed before after := by
  refine ⟨fun told => ?_, fun start => ?_⟩
  · simp only [AccountSession.told, sent, List.any_append, Bool.or_eq_false_iff] at told
    exact ⟨told.1, machine⟩
  · simp only [toldConnected] at start
    simp [toldConnected, sent, List.any_append, start, unconnected]

variable (env : Surroundings) (session : AccountSession)

theorem runPlainAction_hushed {action : Action} (unconnected : action.connects = false) :
    Hushed session (session.runPlainAction env action) := by
  unfold runPlainAction
  cases kind : action.type with
  | sendTokenLogin => exact .refl _
  | sendRefresh => exact .refl _
  | sendLogout => exact .refl _
  | emitEvent event =>
      exact hand_hushed rfl rfl (by simpa [Action.connects, kind, Sent.toSink] using unconnected)
  | _ => exact hand_hushed rfl rfl rfl

theorem runPlainAction_told {action : Action} (emits : action.emits = true) :
    (session.runPlainAction env action).told = true := by
  unfold runPlainAction
  cases kind : action.type with
  | emitEvent event => simp [told, hand, Sent.toSink]
  | rejectOperation error => simp [told, hand, Sent.toSink]
  | _ => simp [Action.emits, kind] at emits

section Actions

variable {run : AccountSession → Action → AccountSession}
  (each : ∀ session action, action.connects = false → Hushed session (run session action))
  (emitting : ∀ session action, action.emits = true → (run session action).told = true)

include each in
theorem foldl_hushed {actions : List Action} (unconnected : actions.any Action.connects = false)
    (session : AccountSession) : Hushed session (actions.foldl run session) := by
  induction actions generalizing session with
  | nil => exact .refl session
  | cons action rest ih =>
      rw [List.any_cons, Bool.or_eq_false_iff] at unconnected
      exact (each session action unconnected.1).trans (ih unconnected.2 _)

include each emitting in
theorem foldl_told {actions : List Action} (unconnected : actions.any Action.connects = false)
    (emitted : actions.any Action.emits = true) (session : AccountSession) :
    (actions.foldl run session).told = true := by
  induction actions generalizing session with
  | nil => simp at emitted
  | cons action rest ih =>
      rw [List.any_cons, Bool.or_eq_false_iff] at unconnected
      rw [List.any_cons, Bool.or_eq_true] at emitted
      rcases emitted with first | later
      · exact (foldl_hushed each unconnected.2 _).told (emitting session action first)
      · exact ih unconnected.2 later _

include each emitting in
theorem answered_hushed {session middle : AccountSession} {actions : List Action}
    (loud : session.machine.Loud actions middle.machine) (sent : middle.sent = session.sent) :
    Hushed session (actions.foldl run middle) := by
  have ran := foldl_hushed each loud.unconnected middle
  refine ⟨fun quiet => ?_, fun start => ran.unconnected (by simpa [toldConnected, sent] using start)⟩
  obtain ⟨start, state⟩ := ran.unchanged quiet
  refine ⟨by simpa [told, sent] using start, state.trans ?_⟩
  refine loud.changed.resolve_right fun emitted => ?_
  simp [foldl_told each emitting loud.unconnected emitted] at quiet

end Actions

theorem runPlainActions_hushed {middle : AccountSession} {actions : List Action}
    (loud : session.machine.Loud actions middle.machine) (sent : middle.sent = session.sent) :
    Hushed session (middle.runPlainActions env actions) :=
  answered_hushed (fun session _ => session.runPlainAction_hushed env)
    (fun session _ => session.runPlainAction_told env) loud sent

theorem onRefreshRefused_hushed (requestGeneration : UInt32) :
    Hushed session (session.onRefreshRefused env requestGeneration) := by
  unfold onRefreshRefused
  simp only
  split
  · exact .refl _
  · exact session.runPlainActions_hushed env (session.machine.onRefreshFailed_loud _ _) rfl

theorem onLogoutResult_hushed (requestGeneration : UInt32) :
    Hushed session (session.onLogoutResult env requestGeneration) := by
  unfold onLogoutResult
  split
  · exact .refl _
  · exact session.runPlainActions_hushed env session.machine.onLogoutCompleted_loud rfl

theorem sendTokenLogin_hushed : Hushed session (session.sendTokenLogin env) := by
  unfold sendTokenLogin
  split
  · exact hand_hushed rfl rfl rfl
  · exact session.runPlainActions_hushed env (session.machine.onAuthFailed_loud _ _) rfl

theorem sendRefresh_hushed : Hushed session (session.sendRefresh env) := by
  unfold sendRefresh
  rcases session.tokens.beginRefresh env with ⟨_ | ⟨letter, rest⟩, tokens⟩
  · exact session.runPlainActions_hushed env (session.machine.onRefreshFailed_loud _ _) rfl
  · simp only
    split
    · exact hand_hushed rfl rfl rfl
    · exact (onRefreshRefused_hushed env { session with tokens } session.machine.generation).of
        rfl rfl

theorem sendLogout_hushed : Hushed session (session.sendLogout env) := by
  unfold sendLogout
  split
  · exact hand_hushed rfl rfl rfl
  · exact session.onLogoutResult_hushed env _

theorem runAction_hushed {action : Action} (unconnected : action.connects = false) :
    Hushed session (session.runAction env action) := by
  unfold runAction
  split
  · exact session.sendTokenLogin_hushed env
  · exact session.sendRefresh_hushed env
  · exact session.sendLogout_hushed env
  · exact session.runPlainAction_hushed env unconnected

theorem runAction_told {action : Action} (emits : action.emits = true) :
    (session.runAction env action).told = true := by
  unfold runAction
  split
  · rename_i kind
    simp [Action.emits, kind] at emits
  · rename_i kind
    simp [Action.emits, kind] at emits
  · rename_i kind
    simp [Action.emits, kind] at emits
  · exact session.runPlainAction_told env emits

theorem runActions_hushed {middle : AccountSession} {actions : List Action}
    (loud : session.machine.Loud actions middle.machine) (sent : middle.sent = session.sent) :
    Hushed session (middle.runActions env actions) :=
  answered_hushed (fun session _ => session.runAction_hushed env)
    (fun session _ => session.runAction_told env) loud sent

theorem loginOnConnected_hushed : Hushed session (session.loginOnConnected env) :=
  session.runActions_hushed env session.machine.requestTokenLoginOnConnected_loud rfl

theorem call_hushed (call : AccountCall) : Hushed session (session.call env call) := by
  cases call with
  | startWithPassword account password =>
      have loud : session.machine.Loud (session.machine.requestPasswordLogin account).2.1
          (session.machine.requestPasswordLogin account).2.2 :=
        session.machine.requestLogin_loud account .password
      simp only [AccountSession.call, startWithPassword]
      split <;> exact session.runActions_hushed env loud rfl
  | startWithSavedToken account =>
      have login := session.machine.requestLogin_loud account .accessToken
      have refresh := session.machine.requestRefreshForLogin_loud account
      simp only [AccountSession.call, startWithSavedToken, AuthStateMachine.requestTokenLogin]
      split
      · exact ⟨fun told => ⟨told, rfl⟩, id⟩
      · split
        · exact ⟨fun told => ⟨told, rfl⟩, id⟩
        · split
          · exact session.runActions_hushed env refresh rfl
          · exact session.runActions_hushed env login rfl
  | logout allDevices => exact session.runActions_hushed env ⟨.inl rfl, rfl⟩ rfl
  | cancel => exact session.runActions_hushed env session.machine.cancelAuthentication_loud rfl
  | tick =>
      simp only [AccountSession.call, tick]
      split
      · exact .refl _
      · split
        · exact session.runActions_hushed env session.machine.requestRefresh_loud rfl
        · exact .refl _
  | onConnectResult succeeded =>
      simp only [AccountSession.call, onConnectResult]
      split
      · split
        · exact (loginOnConnected_hushed env { session with
            reconnect := session.reconnect.reset
            reauthenticateAfterReconnect := false }).of rfl rfl
        · exact session.runActions_hushed env (AuthStateMachine.onConnected_loud _) rfl
      · exact session.runActions_hushed env (session.machine.onDisconnected_loud false) rfl
  | onDisconnected intentional =>
      have loud := session.machine.onDisconnected_loud intentional
      simp only [AccountSession.call, onDisconnected]
      split
      · exact session.runActions_hushed env loud rfl
      · split <;> exact session.runActions_hushed env loud rfl
  | onLoginResult protoResult result requestGeneration =>
      simp only [AccountSession.call, onLoginResult]
      split
      · exact .refl _
      · split
        · split
          · exact session.runActions_hushed env (session.machine.onAuthSucceeded_loud _ _) rfl
          · exact session.runActions_hushed env (session.machine.onAuthFailed_loud _ _) rfl
        · exact session.runActions_hushed env (session.machine.onAuthFailed_loud _ _) rfl
  | onTokenLoginResult protoResult userId accessExpireAt requestGeneration =>
      simp only [AccountSession.call, onTokenLoginResult]
      split
      · exact .refl _
      · split
        · exact session.runActions_hushed env (session.machine.onAuthSucceeded_loud _ _) rfl
        · exact session.runActions_hushed env (session.machine.onAuthFailed_loud _ _) rfl
  | onRefreshResult protoResult result requestGeneration =>
      simp only [AccountSession.call, onRefreshResult]
      split
      · exact session.onRefreshRefused_hushed env requestGeneration
      · split
        · exact .refl _
        · split
          · exact session.runActions_hushed env (session.machine.onRefreshFailed_loud _ _) rfl
          · have settled := @runActions_hushed env session { session with
                tokens := (session.tokens.rotate env result.accessToken result.refreshToken
                  result.accessExpireAt result.refreshExpireAt result.sessionId).2
                machine := (session.machine.onRefreshSucceeded
                  (session.resultGeneration requestGeneration)).2
                tokenLoginAfterRefresh := false } _
              (session.machine.onRefreshSucceeded_loud _) rfl
            split
            · exact settled.trans (loginOnConnected_hushed env _)
            · exact settled
  | onLogoutResult protoResult requestGeneration =>
      exact session.onLogoutResult_hushed env requestGeneration
  | onKicked reason => exact session.runActions_hushed env (session.machine.onKicked_loud _) rfl
  | onReconnectFired =>
      simp only [AccountSession.call, onReconnectFired]
      split
      · exact .refl _
      · exact hand_hushed rfl rfl rfl

def reauthenticates (call : AccountCall) : Bool :=
  match session.machine.state with
  | .authenticating => session.completesLogin env call
  | .refreshing => session.fallsBack env call
  | .authenticated => call = .tick && session.tokens.accessNeedsRefresh env &&
      !session.tokens.refreshInFlight && !session.tokens.canBegin env
  | _ => false

theorem authenticated_told (synced : session.generation = session.machine.generation)
    (ready : session.machine.state = .authenticated) (call : AccountCall)
    (idle : session.reauthenticates env call = false)
    (stays : (session.call env call).machine.state = .authenticated) :
    (session.call env call).told = session.told := by
  have free : session.machine.authenticationInFlight = false := by
    simp [AuthStateMachine.authenticationInFlight, ready]
  have result (requestGeneration : UInt32) := session.resultGeneration_cases synced requestGeneration
  change (session.call env call).view.machine.state = .authenticated at stays
  cases call with
  | startWithPassword account password =>
      rcases session.startWithPassword_cases env account password with ⟨busy, _⟩ | ⟨_, same⟩
      · simp [free] at busy
      · simp [AccountSession.call, same, AuthStateMachine.startedFor,
          AuthStateMachine.beginOperation] at stays
  | startWithSavedToken account =>
      rcases session.startWithSavedToken_cases env account with
        ⟨unloaded, _⟩ | ⟨tokens, loaded, unexpired, ⟨_, busy | ⟨_, known, usable⟩⟩ | ⟨_, _, same⟩⟩
      · simp [AccountSession.call, startWithSavedToken, unloaded, told]
      · simp [free] at busy
      · subst known
        simp [AccountSession.call, startWithSavedToken, loaded, unexpired, usable, told,
          AuthStateMachine.requestTokenLogin, AuthStateMachine.requestLogin, free, ready, runActions]
      · simp only [AccountSession.call, same, AuthStateMachine.startedFor,
          AuthStateMachine.beginOperation] at stays
        split at stays <;> simp at stays
  | logout allDevices =>
      rcases session.logout_cases env allDevices with ⟨packet, built, _⟩ | ⟨_, same⟩
      · have ran : session.call env (.logout allDevices) = ({ session with
            logoutAllDevices := allDevices
            machine := { session.machine with autoReconnectAllowed := false }.beginOperation
            generation := { session.machine with
              autoReconnectAllowed := false }.beginOperation.generation
            reconnect := session.reconnect.disable }.hand .cancelReconnect).sendLogout env := rfl
        rw [ran]
        simp [sendLogout, hand, built, told, Sent.toSink]
      · simp [AccountSession.call, same, AuthStateMachine.onLogoutCompleted_cases] at stays
  | cancel => simp [AccountSession.call, cancel_view, AuthStateMachine.cancelAuthentication_cases] at stays
  | tick =>
      simp only [reauthenticates, ready, decide_true, Bool.true_and] at idle
      rcases session.tick_cases env with ⟨same, _⟩ | ⟨_, due, unflagged, middle, begun, same⟩
      · rw [AccountSession.call, same]
      · exfalso
        simp only [due, unflagged, Bool.not_false, Bool.true_and, Bool.not_eq_false'] at idle
        rw [AccountSession.call, same, middle.sendRefresh_state env
          (by rw [begun]; rfl) (by rw [begun]; rfl), begun] at stays
        simp [view, refreshing, idle] at stays
  | onConnectResult succeeded =>
      cases succeeded with
      | false =>
          simp only [AccountSession.call, onConnectResult, AuthStateMachine.onDisconnected, ready]
          cases session.machine.autoReconnectAllowed with
          | true => simp [runActions, runAction, runPlainAction, told, hand, Sent.toSink]
          | false => simp [runActions, told]
      | true =>
          simp only [AccountSession.call, onConnectResult, if_true] at stays ⊢
          split
          · rename_i flagged
            rw [if_pos flagged] at stays
            exact absurd stays (loginOnConnected_state env { session with
              reconnect := session.reconnect.reset, reauthenticateAfterReconnect := false } synced)
          · simp [AuthStateMachine.onConnected, ready, runActions, told]
  | onDisconnected intentional =>
      simp only [AccountSession.call, onDisconnected, AuthStateMachine.onDisconnected, ready]
      cases intentional with
      | true => simp [runActions, told]
      | false =>
          cases allowed : session.machine.autoReconnectAllowed with
          | true =>
              simp [runActions, runAction, runPlainAction, told, hand, Sent.toSink, ready, allowed]
          | false => simp [runActions, told, ready, allowed]
  | onLoginResult protoResult loginResult requestGeneration =>
      simp only [AccountSession.call, onLoginResult]
      rcases result requestGeneration with ⟨other, _⟩ | ⟨same, _⟩
      · rw [if_pos other]
      · rw [if_neg (by simp [same])]
        split
        · split <;> simp [AuthStateMachine.onAuthSucceeded, AuthStateMachine.onAuthFailed, ready,
            same, runActions, told]
        · simp [AuthStateMachine.onAuthFailed, ready, same, runActions, told]
  | onTokenLoginResult protoResult userId accessExpireAt requestGeneration =>
      simp only [AccountSession.call, onTokenLoginResult]
      rcases result requestGeneration with ⟨other, _⟩ | ⟨same, _⟩
      · rw [if_pos other]
      · rw [if_neg (by simp [same])]
        split <;> simp [AuthStateMachine.onAuthSucceeded, AuthStateMachine.onAuthFailed, ready,
          same, runActions, told]
  | onRefreshResult protoResult refreshResult requestGeneration =>
      rcases result requestGeneration with ⟨other, _⟩ | ⟨same, _⟩
      · simp [AccountSession.call, onRefreshResult, onRefreshRefused, other]
      · by_cases success : protoResult = resultSuccess
        · simp only [AccountSession.call, onRefreshResult, success, same, ne_eq, not_true_eq_false,
            if_false] at stays ⊢
          split
          · simp [AuthStateMachine.onRefreshFailed, ready, runActions, told]
          · rename_i taken
            rw [if_neg taken] at stays
            split
            · rename_i follows
              rw [if_pos follows] at stays
              refine absurd stays (loginOnConnected_state env _ ?_)
              simp [AuthStateMachine.onRefreshSucceeded, ready, runActions, synced]
            · simp [AuthStateMachine.onRefreshSucceeded, ready, runActions, told]
        · simp [AccountSession.call, onRefreshResult, onRefreshRefused, success, same,
            AuthStateMachine.onRefreshFailed, ready, runPlainActions, told]
  | onLogoutResult protoResult requestGeneration =>
      simp only [AccountSession.call, onLogoutResult_view] at stays
      split at stays
      · simp [AuthStateMachine.onLogoutCompleted_cases] at stays
      · rename_i stale
        rw [AccountSession.call, onLogoutResult, if_pos (by simpa [current] using stale)]
  | onKicked reason => simp [AccountSession.call, onKicked_view, AuthStateMachine.onKicked_cases] at stays
  | onReconnectFired =>
      simp only [AccountSession.call, onReconnectFired]
      split
      · rfl
      · simp [told, hand, Sent.toSink]

theorem told_of_changed {before after : AccountSession} (hushed : Hushed before after)
    (changed : after.machine.state ≠ before.machine.state) : after.told = true := by
  by_contra quiet
  exact changed (hushed.unchanged (by simpa using quiet)).2

theorem tick_told (ready : session.machine.state = .authenticated)
    (due : session.tokens.accessNeedsRefresh env = true)
    (unflagged : session.tokens.refreshInFlight = false) :
    (session.call env .tick).told = true := by
  simp only [AccountSession.call, tick, ready, due, unflagged, ne_eq, not_true_eq_false,
    Bool.not_false, and_self, if_true, if_false]
  have loud := session.machine.requestRefresh_loud
  have emitted : session.machine.requestRefresh.2.1.any Action.emits = true := by
    refine loud.changed.resolve_left ?_
    simp [AuthStateMachine.requestRefresh, AuthStateMachine.transitionTo, ready,
      AuthStateMachine.beginOperation]
  exact foldl_told (fun session _ => session.runAction_hushed env)
    (fun session _ => session.runAction_told env) loud.unconnected emitted _

theorem reauthenticates_iff (synced : session.generation = session.machine.generation)
    (quiet : session.told = false) (call : AccountCall) :
    ((session.call env call).machine.state = .authenticated ∧ (session.call env call).told = true) ↔
      session.reauthenticates env call = true := by
  have hushed := session.call_hushed env call
  unfold reauthenticates
  cases state : session.machine.state with
  | authenticating =>
      have exact := session.authenticating_authenticated_iff env synced state call
      simp only [← exact, and_iff_left_iff_imp]
      intro entered
      exact told_of_changed hushed (by simp [entered, state])
  | refreshing =>
      have exact := session.refreshing_authenticated_iff env synced state call
      simp only [← exact, and_iff_left_iff_imp]
      intro entered
      exact told_of_changed hushed (by simp [entered, state])
  | authenticated =>
      have again : session.reauthenticates env call = true ↔
          (call = .tick && session.tokens.accessNeedsRefresh env &&
            !session.tokens.refreshInFlight && !session.tokens.canBegin env) = true := by
        simp [reauthenticates, state]
      rw [← again]
      constructor
      · rintro ⟨stays, told⟩
        by_contra idle
        have same := session.authenticated_told env synced state call (by simpa using idle) stays
        simp [told, quiet] at same
      · intro restarts
        simp only [again, Bool.and_eq_true, decide_eq_true_eq, Bool.not_eq_true'] at restarts
        obtain ⟨⟨⟨rfl, due⟩, unflagged⟩, refused⟩ := restarts
        refine ⟨?_, session.tick_told env state due unflagged⟩
        rcases session.tick_cases env with ⟨_, others⟩ | ⟨_, _, _, middle, begun, same⟩
        · simp [state, due, unflagged] at others
        · change (session.call env .tick).view.machine.state = .authenticated
          rw [AccountSession.call, same, middle.sendRefresh_state env
            (by rw [begun]; rfl) (by rw [begun]; rfl), begun]
          exact refused
  | loggedOut =>
      refine iff_of_false (fun both => ?_) (by simp)
      obtain ⟨entered, _⟩ := both
      rcases session.enters_authenticated env synced (by simp [state]) call entered with
        ready | ⟨waiting, _⟩
      · simp [state] at ready
      · simp [state] at waiting
  | loggedOutKicked =>
      refine iff_of_false (fun both => ?_) (by simp)
      obtain ⟨entered, _⟩ := both
      rcases session.enters_authenticated env synced (by simp [state]) call entered with
        ready | ⟨waiting, _⟩
      · simp [state] at ready
      · simp [state] at waiting

end AccountSession

theorem foldl_onAccountEvent {calls : List Sent} (runtime : RuntimeGate)
    (unconnected : (calls.any fun call =>
      call.toSink.any fun event => event.connectionState = .connected) = false) :
    (calls.filterMap Sent.toSink).foldl RuntimeGate.onAccountEvent runtime =
      runtime.setAccountAuthenticated (runtime.accountAuthenticated &&
        !calls.any fun call => call.toSink.isSome) := by
  induction calls generalizing runtime with
  | nil => simp [RuntimeGate.setAccountAuthenticated]
  | cons call rest ih =>
      rw [List.any_cons, Bool.or_eq_false_iff] at unconnected
      cases shown : call.toSink with
      | none => simp [shown, ih runtime unconnected.2]
      | some event =>
          have down : ¬event.connectionState = .connected := by simpa [shown] using unconnected.1
          rw [List.filterMap_cons_some shown, List.foldl_cons, ih _ unconnected.2]
          simp [RuntimeGate.onAccountEvent, RuntimeGate.setAccountAuthenticated, down, shown]

namespace SdkHandle

def keepsGate (handle : SdkHandle) (event : HandleEvent) : Bool :=
  match handle.runtime with
  | none => true
  | some runtime =>
      match runtime.stage, event with
      | .returned, .account env call =>
          !(handle.connected && handle.account.reauthenticates env call)
      | .returned, .connection isOpen =>
          !(isOpen && handle.authenticated && !runtime.accountAuthenticated)
      | .aligning true, .goOn => handle.authenticated
      | .aligning false, .goOn => !(handle.authenticated && handle.connected)
      | _, _ => true

def Synced (handle : SdkHandle) : Prop :=
  handle.account.generation = handle.account.machine.generation

theorem step_synced (handle : SdkHandle) (event : HandleEvent) (synced : handle.Synced) :
    (handle.step event).Synced := by
  cases event with
  | account env call => exact handle.account.step_synced synced (env, call)
  | createRuntime =>
      simp only [step]
      split <;> exact synced
  | _ => exact synced

theorem account_runtime (handle : SdkHandle) (env : Surroundings) (call : AccountCall) :
    (handle.step (.account env call)).runtime = handle.runtime.map fun runtime =>
      runtime.setAccountAuthenticated (runtime.accountAuthenticated &&
        !(AccountSession.call env { handle.account with sent := [] } call).told) := by
  have hushed := AccountSession.call_hushed env { handle.account with sent := [] } call
  simp only [step]
  congr 1
  funext runtime
  exact foldl_onAccountEvent runtime (hushed.unconnected rfl)

theorem account_gateFollows (handle : SdkHandle) (synced : handle.Synced)
    (follows : handle.GateFollows) (env : Surroundings) (call : AccountCall) {runtime : RuntimeGate}
    (created : handle.runtime = some runtime) (returned : runtime.stage = .returned) :
    (handle.step (.account env call)).GateFollows ↔
      ¬(handle.connected = true ∧ handle.account.reauthenticates env call = true) := by
  let quiet : AccountSession := { handle.account with sent := [] }
  have hushed := quiet.call_hushed env call
  have again : quiet.reauthenticates env call = handle.account.reauthenticates env call := by
    cases call <;> rfl
  have exact := quiet.reauthenticates_iff env synced rfl call
  have after := handle.account_runtime env call
  rw [created, Option.map_some] at after
  have state : (handle.step (.account env call)).authenticated =
      decide ((quiet.call env call).machine.state = .authenticated) := rfl
  have link : (handle.step (.account env call)).connected = handle.connected := rfl
  rw [← again, ← exact]
  unfold GateFollows
  simp only [after, state, link, Option.some.injEq, forall_eq', RuntimeGate.setAccountAuthenticated,
    returned, forall_const, decide_eq_true_eq, decide_eq_false_iff_not]
  cases told : (quiet.call env call).told with
  | true => simp only [Bool.not_true, Bool.and_false]; tauto
  | false =>
      have before := follows runtime created returned
      have same : (quiet.call env call).machine.state = handle.account.machine.state :=
        (hushed.unchanged told).2
      simp only [authenticated, decide_eq_true_eq, decide_eq_false_iff_not] at before
      simpa [same] using before

theorem step_gateFollows_iff (handle : SdkHandle) (event : HandleEvent) (synced : handle.Synced)
    (follows : handle.GateFollows) :
    (handle.step event).GateFollows ↔ handle.keepsGate event = true := by
  cases created : handle.runtime with
  | none =>
      refine iff_of_true ?_ (by simp [keepsGate, created])
      intro runtime made returned
      cases event with
      | createRuntime =>
          simp only [step, created, Option.isSome_none, Bool.false_eq_true, if_false,
            Option.some.injEq] at made
          simp [← made] at returned
      | _ => simp [step, created] at made
  | some runtime =>
      have stage (events : List AccountEvent) :
          (events.foldl RuntimeGate.onAccountEvent runtime).stage = runtime.stage :=
        foldl_view RuntimeGate.stage RuntimeGate.onAccountEvent (fun _ _ => rfl) events runtime
      cases event with
      | account env call =>
          by_cases returned : runtime.stage = .returned
          · rw [handle.account_gateFollows synced follows env call created returned]
            cases opened : handle.connected <;> simp [keepsGate, created, returned, opened]
          · refine iff_of_true ?_ (by simp [keepsGate, created, returned])
            intro later made after
            simp only [step, created, Option.map_some, Option.some.injEq] at made
            rw [← made, stage] at after
            exact absurd after returned
      | connection isOpen =>
          have after : (handle.step (.connection isOpen)).runtime = some runtime := created
          by_cases returned : runtime.stage = .returned
          · have before := (follows runtime created returned).2
            have state : (handle.step (.connection isOpen)).authenticated = handle.authenticated := rfl
            have link : (handle.step (.connection isOpen)).connected = isOpen := rfl
            simp only [GateFollows, after, state, link, Option.some.injEq, forall_eq', returned,
              forall_const, keepsGate, created]
            cases ready : handle.authenticated with
            | true => cases isOpen <;> simp
            | false => cases isOpen <;> simp [before ready]
          · refine iff_of_true ?_ (by simp [keepsGate, created, returned])
            intro later made afterwards
            rw [after, Option.some.injEq] at made
            exact absurd (made ▸ afterwards) returned
      | createRuntime =>
          have same : handle.step .createRuntime = handle := by simp [step, created]
          rw [same]
          refine iff_of_true follows ?_
          cases stage : runtime.stage <;> simp [keepsGate, created, stage]
      | goOn =>
          have after : (handle.step .goOn).runtime = some (handle.goOn runtime) := by
            simp [step, created]
          have state : (handle.step .goOn).authenticated = handle.authenticated := rfl
          have link : (handle.step .goOn).connected = handle.connected := rfl
          simp only [GateFollows, after, state, link, Option.some.injEq, forall_eq', keepsGate, created]
          cases reached : runtime.stage with
          | registered => simp [goOn, reached]
          | stateRead authenticated => simp [goOn, reached]
          | aligning seen =>
              simp only [goOn, reached, RuntimeGate.setAccountAuthenticated, forall_const]
              cases seen <;> cases handle.authenticated <;> simp
          | returned =>
              have before := follows runtime created reached
              simpa [goOn, reached] using before
      | destroyRuntime =>
          refine iff_of_true ?_ ?_
          · intro later made
            simp [step] at made
          · cases stage : runtime.stage <;> simp [keepsGate, created, stage]

/-- In a run, the flag follows the session after every call exactly when no call tells of an
account that is authenticated on an open connection, none opens under an authenticated account
with the flag down, and no creation applies what has changed since it read it. -/
theorem gate_follows_iff (deviceId : Bytes) (store : KeyStore) (events : List HandleEvent) :
    (∀ front back, front ++ back = events →
      (front.foldl step { account := .initial deviceId store }).GateFollows) ↔
      guarded step keepsGate { account := .initial deviceId store } events = true :=
  prefixes_iff_guarded Synced GateFollows step_synced step_gateFollows_iff
    { account := .initial deviceId store } rfl (by simp [GateFollows]) events

/-- A runtime that is made during a session may send until the refresh of its token is done. -/
theorem gate_shut_by_refresh :
    let result : AuthResult := {
      userId := 1001
      accessToken := ascii "acc-tok"
      refreshToken := ascii "ref-tok"
      accessExpireAt := 1000100
      refreshExpireAt := 1086400
      sessionId := ascii "sess-abc" }
    let login := [
      .account (surroundingsAt 1000000) (.startWithPassword (ascii "alice") (ascii "pw")),
      .connection true, .account (surroundingsAt 1000000) (.onConnectResult true),
      .account (surroundingsAt 1000000) (.onLoginResult resultSuccess result 1),
      .createRuntime, .goOn, .goOn, .goOn]
    let refresh := [
      .account (surroundingsAt 1000090) .tick,
      .account (surroundingsAt 1000090) (.onRefreshResult resultSuccess
        { result with accessToken := ascii "next", accessExpireAt := 1001000 } 2)]
    let ready := login.foldl step { account := .initial (ascii "dev-1") {} }
    let reached := refresh.foldl step ready
    ready.runtime = some ⟨true, .returned⟩ ∧ reached.runtime = some ⟨false, .returned⟩ ∧
      reached.authenticated = true ∧ reached.connected = true := by
  decide +kernel

end SdkHandle

end Jitong
