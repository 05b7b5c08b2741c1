import Jitong.LateResults

/-!
Whether a session that is authenticated can still refresh: the in-flight flag of its token
manager, the request id in the store and the state of the machine, over runs with restarts.
-/

namespace Jitong

open Lib

def Sent.isRefresh : Sent → Bool
  | refresh .. => true
  | _ => false

def AccountCall.endsRequest : AccountCall → Bool
  | onRefreshResult .. | onConnectResult _ | onDisconnected _ | cancel | onKicked _ => true
  | _ => false

inductive RefreshEvent
  | call (env : Surroundings) (call : AccountCall)
  | restart

structure Refreshable where
  session : AccountSession
  outstanding : Bool := false

def Refreshable.step (state : Refreshable) : RefreshEvent → Refreshable
  | .restart => { session := .initial state.session.deviceId state.session.tokens.store }
  | .call env call =>
      let after := state.session.step (env, call)
      let requests := after.sent.filter Sent.isRequest
      { session := after
        outstanding := requests.any Sent.isRefresh ||
          (state.outstanding && !call.endsRequest && !requests.contains .connect) }

def Refreshable.Refreshes (state : Refreshable) : Prop :=
  let tokens := state.session.tokens
  state.session.machine.state = .authenticated → state.outstanding = false →
    ∀ env, tokens.accessNeedsRefresh env = true → tokens.canBegin env = true →
      (AuthRequestBuilder.buildRefresh env state.session.deviceId tokens.session.refreshToken
        (tokens.beginRefresh env).1).isSome = true →
      ∃ packet generation, .refresh packet generation ∈ (state.session.step (env, .tick)).sent ∧
        (storedRequestId tokens.store tokens.session.account ≠ [] →
          packet.requestId = storedRequestId tokens.store tokens.session.account)

/-- Whether an event brings no session with its in-flight flag up to `authenticated`: no token
login succeeds with it up, no refreshed tokens are refused by the store, and no saved session
with a pending id is loaded over the one in use. -/
def keepsRefreshing (state : Refreshable) : RefreshEvent → Bool
  | .restart => true
  | .call env call =>
      let session := state.session
      let tokens := session.tokens
      let flagged := tokens.session.valid && tokens.refreshInFlight
      match call with
      | .onTokenLoginResult protoResult _ _ requestGeneration =>
          !session.current requestGeneration || protoResult ≠ resultSuccess ||
            session.machine.state ≠ .authenticating || !flagged
      | .onRefreshResult protoResult result requestGeneration =>
          !session.current requestGeneration || protoResult ≠ resultSuccess ||
            session.machine.state ≠ .refreshing || (session.rotation env result).1 || !flagged
      | .startWithSavedToken account =>
          session.machine.state ≠ .authenticated || account ≠ session.machine.account ||
            match storedSession tokens.store account with
            | none => true
            | some saved =>
                let loaded := { tokens with session := saved }
                loaded.refreshExpired env || !loaded.accessUsable env ||
                  !loaded.recoverRequest.refreshInFlight
      | _ => true

structure TokenManager.Coherent (manager : TokenManager) : Prop where
  named : manager.refreshInFlight = true → manager.refreshRequestId ≠ []
  stored : manager.session.valid = true → manager.refreshInFlight = false →
    storedRequestId manager.store manager.session.account = []

namespace TokenManager

variable (env : Surroundings) {manager : TokenManager}

theorem revokeFamily_coherent (manager : TokenManager) : (manager.revokeFamily env).2.Coherent := by
  rw [revokeFamily_eq]
  exact ⟨by simp, by simp [TokenSession.valid]⟩

theorem replaceSession_coherent (coherent : manager.Coherent) (session : TokenSession) :
    (manager.replaceSession env session).2.Coherent := by
  rcases manager.replaceSession_cases env session with ⟨_, answered⟩ | ⟨_, answered⟩
  · rw [answered]
    exact coherent
  · rw [answered]
    exact ⟨by simp, fun _ _ => apply_storedRequestId _ _ _⟩

theorem beginRefresh_coherent (coherent : manager.Coherent) :
    (manager.beginRefresh env).2.Coherent := by
  rcases manager.beginRefresh_cases env with
    ⟨_, _, answered⟩ | ⟨_, ⟨_, answered⟩ | ⟨_, answered⟩⟩
  · rw [answered]
    exact coherent
  · rw [answered]
    exact coherent
  · rw [answered]
    exact ⟨fun _ => manager.newRequestId_ne_nil env, by simp⟩

theorem cancelRefresh_coherent (coherent : manager.Coherent) :
    (manager.cancelRefresh env).2.Coherent := by
  rcases manager.cancelRefresh_cases env with answered | answered
  · rw [answered]
    exact coherent
  · rw [answered]
    exact ⟨by simp, fun _ _ => apply_storedRequestId _ _ _⟩

theorem recoverRequest_flag (manager : TokenManager) :
    manager.recoverRequest.refreshInFlight = false ↔
      manager.refreshInFlight = false ∧
        storedRequestId manager.store manager.session.account = [] := by
  unfold recoverRequest
  simp only
  split
  · rename_i empty
    simp [empty]
  · rename_i pending
    simp [pending]

theorem loadFromStore_coherent (coherent : manager.Coherent) (account : Bytes) :
    (manager.loadFromStore env account).2.Coherent := by
  rcases manager.loadFromStore_cases env account with
    ⟨_, answered⟩ | ⟨saved, _, ⟨_, answered⟩ | ⟨_, answered⟩⟩
  · rw [answered]
    exact revokeFamily_coherent env _
  · rw [answered]
    exact revokeFamily_coherent env _
  · rw [answered]
    constructor
    · intro flagged
      rw [recoverRequest_requestId]
      split
      · rename_i empty
        refine coherent.named ?_
        rw [← Bool.not_eq_false]
        intro lowered
        have kept := (recoverRequest_flag { manager with session := saved }).mpr ⟨lowered, empty⟩
        simp [kept] at flagged
      · rename_i pending
        exact pending
    · intro _ lowered
      rw [recoverRequest_store, recoverRequest_session]
      exact ((recoverRequest_flag { manager with session := saved }).mp lowered).2

end TokenManager

namespace AccountSession

variable (env : Surroundings) (session : AccountSession)

theorem sendRefresh_coherent (synced : session.view.generation = session.view.machine.generation)
    (coherent : session.view.tokens.Coherent) : (session.sendRefresh env).view.tokens.Coherent := by
  rcases session.sendRefresh_cases env synced with ⟨_, same⟩ | ⟨_, ⟨_, same⟩ | ⟨_, _, same⟩⟩
  · rw [same]
    exact TokenManager.beginRefresh_coherent env coherent
  · rw [same]
    exact TokenManager.revokeFamily_coherent env _
  · rw [same]
    exact TokenManager.beginRefresh_coherent env coherent

theorem call_coherent (synced : session.generation = session.machine.generation)
    (coherent : session.view.tokens.Coherent) (call : AccountCall) :
    (session.call env call).view.tokens.Coherent := by
  have revoked (manager : TokenManager) := TokenManager.revokeFamily_coherent env manager
  cases call with
  | startWithPassword account password =>
      rcases session.startWithPassword_cases env account password with ⟨_, same⟩ | ⟨_, same⟩
      · simpa only [AccountSession.call, same] using coherent
      · simpa only [AccountSession.call, same] using coherent
  | startWithSavedToken account =>
      have loads : (session.tokens.loadFromStore env account).2.Coherent :=
        TokenManager.loadFromStore_coherent env coherent account
      rcases session.startWithSavedToken_cases env account with
        ⟨_, same⟩ | ⟨tokens, loaded, _, ⟨same, _⟩ | ⟨_, _, same⟩⟩
      · simpa only [AccountSession.call, same] using loads
      · rw [loaded] at loads
        simpa only [AccountSession.call, same] using loads
      · rw [loaded] at loads
        simpa only [AccountSession.call, same] using loads
  | logout allDevices =>
      rcases session.logout_cases env allDevices with ⟨_, _, same⟩ | ⟨_, same⟩
      · simpa only [AccountSession.call, same] using coherent
      · simpa only [AccountSession.call, same] using revoked _
  | cancel =>
      have cancelled : (session.tokens.cancelRefresh env).2.Coherent :=
        TokenManager.cancelRefresh_coherent env coherent
      simpa only [AccountSession.call, cancel_view] using cancelled
  | tick =>
      rcases session.tick_cases env with ⟨same, _⟩ | ⟨_, _, _, middle, begun, same⟩
      · simpa only [AccountSession.call, same] using coherent
      · simp only [AccountSession.call, same]
        exact middle.sendRefresh_coherent env (by rw [begun]; rfl) (by rw [begun]; exact coherent)
  | onConnectResult succeeded =>
      simp only [AccountSession.call]
      rcases session.onConnectResult_cases env synced succeeded with
        ⟨_, _, _, same⟩ | ⟨_, _, ⟨_, same⟩ | ⟨_, middle, begun, same⟩⟩ |
          ⟨_, _, ⟨_, same⟩ | ⟨_, _, _, same⟩ | ⟨_, _, middle, begun, same⟩ |
            ⟨_, middle, begun, same⟩⟩
      · simpa only [same] using coherent
      · simpa only [same] using coherent
      · rw [same, sendTokenLogin_tokens, begun]
        exact coherent
      · simpa only [same] using coherent
      · simpa only [same] using coherent
      · rw [same, sendTokenLogin_tokens, begun]
        exact coherent
      · rw [same]
        exact middle.sendRefresh_coherent env (by rw [begun]; exact synced)
          (by rw [begun]; exact coherent)
  | onDisconnected intentional =>
      obtain ⟨_, _, same⟩ := session.onDisconnected_cases env intentional
      simpa only [AccountSession.call, same] using coherent
  | onLoginResult protoResult result requestGeneration =>
      simp only [AccountSession.call, session.onLoginResult_view env synced]
      split
      · split
        · rw [loginSettled_tokens]
          exact TokenManager.replaceSession_coherent env coherent _
        · rw [loginSettled_tokens]
          exact coherent
      · exact coherent
  | onTokenLoginResult protoResult userId _ requestGeneration =>
      simp only [AccountSession.call, session.onTokenLoginResult_view env synced]
      split
      · rw [loginSettled_tokens]
        exact coherent
      · exact coherent
  | onRefreshResult protoResult result requestGeneration =>
      have rotates : (session.rotation env result).2.Coherent :=
        TokenManager.replaceSession_coherent env coherent _
      simp only [AccountSession.call]
      rcases session.onRefreshResult_cases env synced protoResult result requestGeneration with
        ⟨_, same⟩ | ⟨_, ⟨_, same⟩ | ⟨_, _, same⟩ | ⟨_, _, middle, begun, same⟩⟩
      · simpa only [same] using coherent
      · simpa only [same] using revoked _
      · simpa only [same] using rotates
      · have kept : middle.view.tokens.Coherent := by
          rw [begun]
          exact rotates
        have fresh := session.rotated_synced synced begun
        rw [same]
        split
        · rw [middle.loginOnConnected_tokens env fresh]
          exact kept
        · exact kept
  | onLogoutResult _ requestGeneration =>
      simp only [AccountSession.call, onLogoutResult_view]
      split
      · exact revoked _
      · exact coherent
  | onKicked _ => simpa only [AccountSession.call, onKicked_view] using revoked _
  | onReconnectFired =>
      simp only [AccountSession.call]
      rcases session.onReconnectFired_view with same | ⟨_, same⟩
      · simpa only [same] using coherent
      · simpa only [same] using coherent

def Unwedged (view : SessionView) : Prop :=
  view.machine.state = .authenticated → view.tokens.session.valid = true →
    view.tokens.refreshInFlight = false

theorem Unwedged.elsewhere {view : SessionView} (left : view.machine.state ≠ .authenticated) :
    Unwedged view := fun ready => absurd ready left

theorem Unwedged.blank {view : SessionView} {account : Bytes}
    (blank : view.tokens.session = { account }) : Unwedged view := by
  intro _ valid
  simp [blank, TokenSession.valid] at valid

theorem revoked_unwedged {view : SessionView} {manager : TokenManager}
    (revoked : view.tokens = (manager.revokeFamily env).2) : Unwedged view := by
  rw [TokenManager.revokeFamily_eq] at revoked
  exact Unwedged.blank (congrArg TokenManager.session revoked)

theorem sendTokenLogin_unwedged (waiting : session.view.machine.state = .authenticating) :
    Unwedged (session.sendTokenLogin env).view := by
  refine Unwedged.elsewhere ?_
  rcases session.sendTokenLogin_cases env with ⟨_, _, _, same⟩ | ⟨_, same⟩
  · rw [same]
    simp [waiting]
  · rw [same, (session.view.machine.onAuthFailed_cases _ _).2]
    split
    · simp
    · simp [waiting]

theorem sendRefresh_unwedged (waiting : session.view.machine.state = .refreshing)
    (synced : session.view.generation = session.view.machine.generation)
    (coherent : session.view.tokens.Coherent) : Unwedged (session.sendRefresh env).view := by
  rcases session.sendRefresh_cases env synced with ⟨refused, same⟩ | ⟨_, ⟨_, same⟩ | ⟨_, _, same⟩⟩
  · rw [same]
    intro _ _
    rcases session.view.tokens.beginRefresh_cases env with
      ⟨_, named, answered⟩ | ⟨free, ⟨_, answered⟩ | ⟨_, answered⟩⟩
    · exact absurd (by simpa [answered] using refused) named
    · simp only [answered]
      rw [← Bool.not_eq_true]
      exact fun flagged => free ⟨flagged, coherent.named flagged⟩
    · exact absurd (by simpa [answered] using refused) (session.view.tokens.newRequestId_ne_nil env)
  · rw [same]
    exact revoked_unwedged env rfl
  · rw [same]
    exact Unwedged.elsewhere (by simp [waiting])

theorem loginSettled_unwedged (unwedged : Unwedged session.view) (tokens : TokenManager)
    (accepted : Bool)
    (lowered : accepted = true → session.machine.state = .authenticating →
      tokens.session.valid = true → tokens.refreshInFlight = false)
    (kept : tokens = session.tokens ∨ tokens.refreshInFlight = false) :
    Unwedged (session.loginSettled tokens accepted) := by
  unfold loginSettled
  split
  · rename_i waiting
    cases accepted with
    | true => exact fun _ => lowered rfl waiting
    | false => exact Unwedged.elsewhere (by simp)
  · rcases kept with rfl | down
    · exact unwedged
    · exact fun _ _ => down

theorem loginOnConnected_unwedged (synced : session.generation = session.machine.generation) :
    Unwedged (session.loginOnConnected env).view := by
  rcases session.loginOnConnected_cases env synced with
    ⟨elsewhere, same⟩ | ⟨_, middle, begun, same⟩
  · rw [same]
    exact Unwedged.elsewhere elsewhere
  · rw [same]
    exact middle.sendTokenLogin_unwedged env (by rw [begun]; rfl)

theorem startWithSavedToken_unwedged_iff (outstanding : Bool) (account : Bytes) :
    Unwedged (session.startWithSavedToken env account).2.view ↔
      keepsRefreshing { session, outstanding } (.call env (.startWithSavedToken account)) =
        true := by
  simp only [keepsRefreshing]
  rcases session.startWithSavedToken_cases env account with
    ⟨refused, same⟩ | ⟨tokens, loaded, _, outcome⟩
  · rw [same]
    rcases session.tokens.loadFromStore_cases env account with
      ⟨missing, answered⟩ | ⟨saved, stored, ⟨expired, answered⟩ | ⟨_, answered⟩⟩
    · exact iff_of_true (Unwedged.blank (session.tokens.loadFromStore_refused env refused).1)
        (by simp [missing])
    · exact iff_of_true (Unwedged.blank (session.tokens.loadFromStore_refused env refused).1)
        (by simp [stored, expired])
    · simp [answered] at refused
  · rcases session.tokens.loadFromStore_cases env account with
      ⟨_, answered⟩ | ⟨saved, stored, ⟨_, answered⟩ | ⟨fresh, answered⟩⟩
    · simp [answered] at loaded
    · simp [answered] at loaded
    · obtain rfl : { session.tokens with session := saved }.recoverRequest = tokens := by
        simpa [answered] using loaded
      have usable : { session.tokens with session := saved }.recoverRequest.accessUsable env =
          { session.tokens with session := saved }.accessUsable env := by
        simp only [TokenManager.accessUsable, TokenManager.recoverRequest_session]
      have valid : { session.tokens with session := saved }.recoverRequest.session.valid = true := by
        rw [TokenManager.recoverRequest_session]
        exact (TokenManager.storedSession_sound stored).2
      simp only [usable] at outcome
      simp only [stored, fresh, Bool.false_or]
      rcases outcome with ⟨same, busy⟩ | ⟨free, unknown, same⟩
      · rw [same]
        by_cases ready : session.machine.state = .authenticated
        · rcases busy with busy | ⟨_, known, usable⟩
          · simp [AuthStateMachine.authenticationInFlight, ready] at busy
          · simp only [ready, known, usable]
            constructor
            · intro lowered
              simpa using lowered ready valid
            · intro lowered _ _
              simpa using lowered
        · exact iff_of_true (Unwedged.elsewhere ready) (by simp [ready])
      · rw [same]
        refine iff_of_true (Unwedged.elsewhere ?_) ?_
        · simp only [AuthStateMachine.startedFor, AuthStateMachine.beginOperation]
          split <;> simp
        · by_cases ready : session.machine.state = .authenticated
          · by_cases known : account = session.machine.account
            · simp [show { session.tokens with session := saved }.accessUsable env = false by
                simpa [ready, known] using unknown]
            · simp [known]
          · simp [ready]

theorem onRefreshResult_unwedged_iff (synced : session.generation = session.machine.generation)
    (unwedged : Unwedged session.view) (outstanding : Bool) (protoResult : Int32)
    (result : AuthResult) (requestGeneration : UInt32) :
    Unwedged (session.onRefreshResult env protoResult result requestGeneration).view ↔
      keepsRefreshing { session, outstanding }
        (.call env (.onRefreshResult protoResult result requestGeneration)) = true := by
  simp only [keepsRefreshing]
  rcases session.onRefreshResult_cases env synced protoResult result requestGeneration with
    ⟨stale, same⟩ | ⟨known, ⟨refused, same⟩ | ⟨success, failed, same⟩ |
      ⟨success, taken, middle, begun, same⟩⟩
  · rw [same]
    exact iff_of_true unwedged (by simp [stale])
  · rw [same]
    exact iff_of_true (revoked_unwedged env rfl) (by simp [refused])
  · have kept : (session.rotation env result).2 = session.tokens := by
      rcases session.tokens.replaceSession_cases env (session.tokens.rotatedSession
          result.accessToken result.refreshToken result.accessExpireAt result.refreshExpireAt
          result.sessionId) with ⟨_, answered⟩ | ⟨_, answered⟩
      · exact congrArg Prod.snd answered
      · simp [rotation, TokenManager.rotate, answered] at failed
    rw [same, kept, (session.machine.onRefreshFailed_cases _ _).2]
    by_cases waiting : session.machine.state = .refreshing
    · simp [Unwedged, AuthError.revokes, waiting, known, success, failed, imp_iff_not_or]
    · refine iff_of_true ?_ (by simp [waiting])
      rw [if_neg (by simp [waiting])]
      exact unwedged
  · have lowered : middle.view.tokens.refreshInFlight = false := by
      rw [begun]
      rcases session.tokens.replaceSession_cases env (session.tokens.rotatedSession
          result.accessToken result.refreshToken result.accessExpireAt result.refreshExpireAt
          result.sessionId) with ⟨_, answered⟩ | ⟨_, answered⟩
      · simp [rotation, TokenManager.rotate, answered] at taken
      · simp [rotated, view, rotation, TokenManager.rotate, answered]
    have fresh := session.rotated_synced synced begun
    refine iff_of_true ?_ (by simp [taken])
    rw [same]
    split
    · exact middle.loginOnConnected_unwedged env fresh
    · exact fun _ _ => lowered

theorem call_unwedged_iff (synced : session.generation = session.machine.generation)
    (coherent : session.view.tokens.Coherent) (unwedged : Unwedged session.view)
    (outstanding : Bool) (call : AccountCall) :
    Unwedged (session.call env call).view ↔
      keepsRefreshing { session, outstanding } (.call env call) = true := by
  have settled (tokens : TokenManager) := session.loginSettled_unwedged unwedged tokens
  have dropped (intentional : Bool) (requests : List Sent) (flag : Bool) :
      Unwedged { session.view with
        machine := (session.machine.onDisconnected intentional).2
        reauthenticateAfterReconnect := flag
        requests } := by
    rw [(session.machine.onDisconnected_cases intentional).2]
    split
    · exact Unwedged.elsewhere (by simp)
    · exact unwedged
  cases call with
  | startWithSavedToken account => exact session.startWithSavedToken_unwedged_iff env outstanding account
  | onRefreshResult protoResult result requestGeneration =>
      exact session.onRefreshResult_unwedged_iff env synced unwedged outstanding protoResult result
        requestGeneration
  | onTokenLoginResult protoResult userId accessExpireAt requestGeneration =>
      simp only [AccountSession.call, session.onTokenLoginResult_view env synced, keepsRefreshing]
      cases known : session.current requestGeneration with
      | false => exact iff_of_true unwedged (by simp)
      | true =>
          simp only [if_true]
          by_cases success : protoResult = resultSuccess
          · by_cases waiting : session.machine.state = .authenticating
            · simp [loginSettled, Unwedged, success, waiting, imp_iff_not_or]
            · exact iff_of_true
                (settled _ _ (fun _ entered => absurd entered waiting) (.inl rfl)) (by simp [waiting])
          · exact iff_of_true
              (settled _ _ (fun accepted => absurd accepted (by simp [success])) (.inl rfl))
              (by simp [success])
  | startWithPassword account password =>
      refine iff_of_true ?_ rfl
      rcases session.startWithPassword_cases env account password with ⟨_, same⟩ | ⟨_, same⟩
      · simpa only [AccountSession.call, same] using unwedged
      · simp only [AccountSession.call, same]
        exact Unwedged.elsewhere (by simp [AuthStateMachine.startedFor, AuthStateMachine.beginOperation])
  | logout allDevices =>
      refine iff_of_true ?_ rfl
      rcases session.logout_cases env allDevices with ⟨_, _, same⟩ | ⟨_, same⟩
      · simp only [AccountSession.call, same]
        exact unwedged
      · simp only [AccountSession.call, same]
        exact revoked_unwedged env rfl
  | cancel =>
      refine iff_of_true ?_ rfl
      simp only [AccountSession.call, cancel_view]
      exact Unwedged.elsewhere (by simp [AuthStateMachine.cancelAuthentication_cases])
  | tick =>
      refine iff_of_true ?_ rfl
      rcases session.tick_cases env with ⟨same, _⟩ | ⟨_, _, _, middle, begun, same⟩
      · simpa only [AccountSession.call, same] using unwedged
      · simp only [AccountSession.call, same]
        exact middle.sendRefresh_unwedged env (by rw [begun]; rfl) (by rw [begun]; rfl)
          (by rw [begun]; exact coherent)
  | onConnectResult succeeded =>
      refine iff_of_true ?_ rfl
      simp only [AccountSession.call]
      rcases session.onConnectResult_cases env synced succeeded with
        ⟨_, _, _, same⟩ | ⟨_, _, ⟨_, same⟩ | ⟨_, middle, begun, same⟩⟩ |
          ⟨_, _, ⟨_, same⟩ | ⟨_, _, _, same⟩ | ⟨waiting, _, middle, begun, same⟩ |
            ⟨waiting, middle, begun, same⟩⟩
      · rw [same]
        exact dropped _ _ _
      · rw [same]
        exact unwedged
      · rw [same]
        exact middle.sendTokenLogin_unwedged env (by rw [begun]; rfl)
      · rw [same]
        exact unwedged
      · rw [same]
        exact unwedged
      · rw [same]
        exact middle.sendTokenLogin_unwedged env (by rw [begun]; exact waiting)
      · rw [same]
        exact middle.sendRefresh_unwedged env (by rw [begun]; exact waiting)
          (by rw [begun]; exact synced) (by rw [begun]; exact coherent)
  | onDisconnected intentional =>
      refine iff_of_true ?_ rfl
      obtain ⟨_, _, same⟩ := session.onDisconnected_cases env intentional
      simp only [AccountSession.call, same]
      exact dropped _ _ _
  | onLoginResult protoResult result requestGeneration =>
      refine iff_of_true ?_ rfl
      simp only [AccountSession.call, session.onLoginResult_view env synced]
      split
      · split
        · rcases session.tokens.replaceSession_cases env (session.resultSession result) with
            ⟨_, answered⟩ | ⟨_, answered⟩
          · simp only [TokenManager.adopt, answered]
            exact settled _ _ (by simp) (.inl rfl)
          · simp only [TokenManager.adopt, answered]
            exact settled _ _ (fun _ _ _ => rfl) (.inr rfl)
        · exact settled _ _ (by simp) (.inl rfl)
      · exact unwedged
  | onLogoutResult _ requestGeneration =>
      refine iff_of_true ?_ rfl
      simp only [AccountSession.call, onLogoutResult_view]
      split
      · exact revoked_unwedged env rfl
      · exact unwedged
  | onKicked _ =>
      refine iff_of_true ?_ rfl
      simp only [AccountSession.call, onKicked_view]
      exact revoked_unwedged env rfl
  | onReconnectFired =>
      refine iff_of_true ?_ rfl
      simp only [AccountSession.call]
      rcases session.onReconnectFired_view with same | ⟨_, same⟩
      · rw [same]
        exact unwedged
      · rw [same]
        exact unwedged

def Calm (machine : AuthStateMachine) : Prop :=
  machine.state ≠ .authenticated ∧ machine.state ≠ .authenticating

def Waits (found : Bool) (view : SessionView) : Prop :=
  (view.requests.any Sent.isRefresh || (found && !view.requests.contains .connect)) = true →
    Calm view.machine

theorem Waits.calm {found : Bool} {view : SessionView} (calm : Calm view.machine) :
    Waits found view := fun _ => calm

theorem Waits.kept {found : Bool} {view : SessionView}
    (unsent : view.requests.any Sent.isRefresh = false) (calm : found = true → Calm view.machine) :
    Waits found view := by
  intro waited
  simp only [unsent, Bool.false_or, Bool.and_eq_true] at waited
  exact calm waited.1

theorem Waits.connects {found : Bool} {view : SessionView} (before : List Sent)
    (requests : view.requests = before ++ [.connect]) (unsent : before.any Sent.isRefresh = false) :
    Waits found view := by
  intro waited
  simp [requests, unsent, Sent.isRefresh] at waited

theorem sendRefresh_waits (waiting : session.view.machine.state = .refreshing)
    (synced : session.view.generation = session.view.machine.generation)
    (quiet : session.view.requests = []) : Waits false (session.sendRefresh env).view := by
  rcases session.sendRefresh_cases env synced with ⟨_, same⟩ | ⟨_, ⟨_, same⟩ | ⟨_, _, same⟩⟩
  · rw [same]
    exact Waits.kept (by simp [quiet]) (by simp)
  · rw [same]
    exact Waits.kept (by simp [quiet]) (by simp)
  · rw [same]
    exact Waits.calm (by simp [Calm, waiting])

theorem sendTokenLogin_waits (quiet : session.view.requests = []) :
    Waits false (session.sendTokenLogin env).view := by
  rcases session.sendTokenLogin_cases env with ⟨_, _, _, same⟩ | ⟨_, same⟩
  · rw [same]
    exact Waits.kept (by simp [quiet, Sent.isRefresh]) (by simp)
  · rw [same]
    exact Waits.kept (by simp [quiet]) (by simp)

theorem loginOnConnected_waits (synced : session.generation = session.machine.generation)
    (quiet : session.view.requests = []) : Waits false (session.loginOnConnected env).view := by
  rcases session.loginOnConnected_cases env synced with ⟨_, same⟩ | ⟨_, middle, begun, same⟩
  · rw [same]
    exact Waits.kept (by simp [quiet]) (by simp)
  · rw [same]
    exact middle.sendTokenLogin_waits env (by rw [begun]; exact quiet)

theorem loginSettled_waits (quiet : session.view.requests = []) {found : Bool}
    (calm : found = true → Calm session.machine) (tokens : TokenManager) (accepted : Bool) :
    Waits found (session.loginSettled tokens accepted) := by
  unfold loginSettled
  split
  · rename_i waiting
    exact Waits.kept (by simp [quiet]) fun waited => absurd waiting (calm waited).2
  · exact Waits.kept (by simp [quiet]) calm

theorem call_waits (synced : session.generation = session.machine.generation)
    (quiet : session.view.requests = []) {outstanding : Bool}
    (calm : outstanding = true → Calm session.machine) (call : AccountCall) :
    Waits (outstanding && !call.endsRequest) (session.call env call).view := by
  have unsent : session.view.requests.any Sent.isRefresh = false := by simp [quiet]
  have kept : (outstanding && true) = true → Calm session.machine := by simpa using calm
  have settled := session.loginSettled_waits quiet kept
  have scheduledOnly (requests : List Sent) (scheduled : requests = [] ∨
      session.machine.autoReconnectAllowed = true ∧
        ∃ delayMs, requests = [.scheduleReconnect delayMs]) :
      (session.view.requests ++ requests).any Sent.isRefresh = false := by
    rcases scheduled with rfl | ⟨_, delayMs, rfl⟩
    · simp [quiet]
    · simp [quiet, Sent.isRefresh]
  cases call with
  | startWithPassword account password =>
      rcases session.startWithPassword_cases env account password with ⟨_, same⟩ | ⟨_, same⟩
      · simp only [AccountSession.call, same]
        exact Waits.kept unsent kept
      · simp only [AccountSession.call, same]
        exact Waits.connects _ rfl unsent
  | startWithSavedToken account =>
      rcases session.startWithSavedToken_cases env account with
        ⟨_, same⟩ | ⟨_, _, _, ⟨same, _⟩ | ⟨_, _, same⟩⟩
      · simp only [AccountSession.call, same]
        exact Waits.kept unsent kept
      · simp only [AccountSession.call, same]
        exact Waits.kept unsent kept
      · simp only [AccountSession.call, same]
        exact Waits.connects _ rfl unsent
  | logout allDevices =>
      rcases session.logout_cases env allDevices with ⟨_, _, same⟩ | ⟨_, same⟩
      · simp only [AccountSession.call, same]
        exact Waits.kept (by simp [quiet, Sent.isRefresh]) kept
      · simp only [AccountSession.call, same]
        exact Waits.calm (by simp [Calm, AuthStateMachine.onLogoutCompleted_cases])
  | cancel =>
      simp only [AccountSession.call, cancel_view]
      exact Waits.calm (by simp [Calm, AuthStateMachine.cancelAuthentication_cases])
  | tick =>
      rcases session.tick_cases env with ⟨same, _⟩ | ⟨ready, _, _, middle, begun, same⟩
      · simp only [AccountSession.call, same]
        exact Waits.kept unsent kept
      · have found : outstanding = false := by
          rw [← Bool.not_eq_true]
          exact fun waited => (calm waited).1 ready
        simp only [AccountSession.call, same, found]
        exact middle.sendRefresh_waits env (by rw [begun]; rfl) (by rw [begun]; rfl)
          (by rw [begun]; exact quiet)
  | onConnectResult succeeded =>
      simp only [AccountSession.call]
      rw [AccountCall.endsRequest, Bool.not_true, Bool.and_false]
      rcases session.onConnectResult_cases env synced succeeded with
        ⟨_, requests, scheduled, same⟩ | ⟨_, _, ⟨_, same⟩ | ⟨_, middle, begun, same⟩⟩ |
          ⟨_, _, ⟨_, same⟩ | ⟨_, _, _, same⟩ | ⟨_, _, middle, begun, same⟩ |
            ⟨waiting, middle, begun, same⟩⟩
      · rw [same]
        exact Waits.kept (scheduledOnly requests scheduled) (by simp)
      · rw [same]
        exact Waits.kept unsent (by simp)
      · rw [same]
        exact middle.sendTokenLogin_waits env (by rw [begun]; exact quiet)
      · rw [same]
        exact Waits.kept unsent (by simp)
      · rw [same]
        exact Waits.kept (by simp [quiet, Sent.isRefresh]) (by simp)
      · rw [same]
        exact middle.sendTokenLogin_waits env (by rw [begun]; exact quiet)
      · rw [same]
        exact middle.sendRefresh_waits env (by rw [begun]; exact waiting)
          (by rw [begun]; exact synced) (by rw [begun]; exact quiet)
  | onDisconnected intentional =>
      obtain ⟨requests, scheduled, same⟩ := session.onDisconnected_cases env intentional
      simp only [AccountSession.call, same]
      exact Waits.kept (scheduledOnly requests scheduled) (by simp [AccountCall.endsRequest])
  | onLoginResult protoResult result requestGeneration =>
      simp only [AccountSession.call, session.onLoginResult_view env synced]
      split
      · split <;> exact settled _ _
      · exact Waits.kept unsent kept
  | onTokenLoginResult protoResult userId _ requestGeneration =>
      simp only [AccountSession.call, session.onTokenLoginResult_view env synced]
      split
      · exact settled _ _
      · exact Waits.kept unsent kept
  | onRefreshResult protoResult result requestGeneration =>
      simp only [AccountSession.call]
      rw [AccountCall.endsRequest, Bool.not_true, Bool.and_false]
      rcases session.onRefreshResult_cases env synced protoResult result requestGeneration with
        ⟨_, same⟩ | ⟨_, ⟨_, same⟩ | ⟨_, _, same⟩ | ⟨_, _, middle, begun, same⟩⟩
      · rw [same]
        exact Waits.kept unsent (by simp)
      · rw [same]
        exact Waits.kept unsent (by simp)
      · rw [same]
        exact Waits.kept unsent (by simp)
      · have silent : middle.view.requests = [] := by
          rw [begun]
          exact quiet
        rw [same]
        split
        · exact middle.loginOnConnected_waits env (session.rotated_synced synced begun) silent
        · exact Waits.kept (by simp [silent]) (by simp)
  | onLogoutResult _ requestGeneration =>
      simp only [AccountSession.call, onLogoutResult_view]
      split
      · exact Waits.calm (by simp [Calm, AuthStateMachine.onLogoutCompleted_cases])
      · exact Waits.kept unsent kept
  | onKicked _ =>
      simp only [AccountSession.call, onKicked_view]
      exact Waits.calm (by simp [Calm, AuthStateMachine.onKicked_cases])
  | onReconnectFired =>
      simp only [AccountSession.call]
      rcases session.onReconnectFired_view with same | ⟨_, same⟩
      · rw [same]
        exact Waits.kept unsent kept
      · rw [same]
        exact Waits.connects _ rfl unsent

end AccountSession

structure Refreshable.Tight (state : Refreshable) : Prop where
  synced : state.session.generation = state.session.machine.generation
  coherent : state.session.tokens.Coherent
  waits : state.outstanding = true → AccountSession.Calm state.session.machine

namespace Refreshable

variable (state : Refreshable)

theorem initial_tight (deviceId : Bytes) (store : KeyStore) :
    ({ session := .initial deviceId store } : Refreshable).Tight :=
  ⟨rfl, ⟨by simp [AccountSession.initial], by simp [AccountSession.initial, TokenSession.valid]⟩,
    by simp⟩

theorem step_tight (tight : state.Tight) (event : RefreshEvent) : (state.step event).Tight := by
  cases event with
  | restart => exact initial_tight _ _
  | call env call =>
      have quiet : ({ state.session with sent := [] } : AccountSession).view.requests = [] := rfl
      constructor
      · exact state.session.step_synced tight.synced (env, call)
      · exact AccountSession.call_coherent env { state.session with sent := [] } tight.synced
          tight.coherent call
      · exact AccountSession.call_waits env { state.session with sent := [] } tight.synced quiet
          tight.waits call

theorem refreshes_iff (tight : state.Tight) :
    state.Refreshes ↔ AccountSession.Unwedged state.session.view := by
  constructor
  · intro refreshes ready valid
    have waited : state.outstanding = false := by
      rw [← Bool.not_eq_true]
      exact fun waited => (tight.waits waited).1 ready
    have alive : state.session.tokens.session.valid = true := valid
    change state.session.tokens.refreshInFlight = false
    rw [← Bool.not_eq_true]
    intro flagged
    let env := surroundingsAt state.session.tokens.session.accessExpireAt
    have needed : state.session.tokens.accessNeedsRefresh env = true := by
      simp only [TokenManager.accessNeedsRefresh, alive, true_and, decide_eq_true_eq]
      change _ + 60 ≥ _
      exact Int.le_add_of_nonneg_right (by decide)
    have begins : state.session.tokens.canBegin env = true := by
      simp [TokenManager.canBegin, flagged, tight.coherent.named flagged]
    obtain ⟨packet, generation, sent, _⟩ := refreshes ready waited env needed begins rfl
    have idle : state.session.step (env, .tick) = { state.session with sent := [] } := by
      simp [AccountSession.step, AccountSession.call, AccountSession.tick, flagged]
    simp [idle] at sent
  · intro unwedged ready _ env needed begins signed
    have valid : state.session.tokens.session.valid = true := by
      simp only [TokenManager.accessNeedsRefresh, decide_eq_true_eq] at needed
      exact needed.1
    have lowered : state.session.tokens.refreshInFlight = false := unwedged ready valid
    rcases AccountSession.tick_cases env { state.session with sent := [] } with
      ⟨_, idle⟩ | ⟨_, _, _, middle, begun, same⟩
    · have flagged : state.session.tokens.refreshInFlight = true := idle ready needed
      simp [lowered] at flagged
    · have sends := middle.sendRefresh_cases env (by rw [begun]; rfl)
      have tokens : middle.view.tokens = state.session.tokens := congrArg SessionView.tokens begun
      have deviceId : middle.view.deviceId = state.session.deviceId :=
        congrArg SessionView.deviceId begun
      have requests : middle.view.requests = [] := congrArg SessionView.requests begun
      rw [tokens, deviceId, requests, TokenManager.beginRefresh_session] at sends
      rcases sends with ⟨refused, _⟩ | ⟨_, ⟨unbuilt, _⟩ | ⟨packet, built, left⟩⟩
      · simp [(state.session.tokens.beginRefresh_eq_nil_iff env).mp refused] at begins
      · simp [unbuilt] at signed
      · refine ⟨packet, middle.view.machine.generation, ?_, ?_⟩
        · have after : state.session.step (env, .tick) = middle.sendRefresh env := same
          have handed : .refresh packet middle.view.machine.generation ∈
              (middle.sendRefresh env).sent.filter Sent.isRequest := by
            change _ ∈ (middle.sendRefresh env).view.requests
            simp [left]
          rw [after]
          exact List.mem_of_mem_filter handed
        · intro persisted
          exact absurd (tight.coherent.stored valid lowered) persisted

theorem step_refreshes_iff (tight : state.Tight) (refreshes : state.Refreshes)
    (event : RefreshEvent) :
    (state.step event).Refreshes ↔ keepsRefreshing state event = true := by
  rw [refreshes_iff _ (state.step_tight tight event)]
  have unwedged := (state.refreshes_iff tight).mp refreshes
  cases event with
  | restart =>
      exact iff_of_true (AccountSession.Unwedged.elsewhere (by simp [step, AccountSession.initial,
        AccountSession.view])) rfl
  | call env call =>
      have exact := AccountSession.call_unwedged_iff env { state.session with sent := [] }
        tight.synced tight.coherent unwedged state.outstanding call
      refine exact.trans ?_
      cases call <;> rfl

end Refreshable

/-- In a run, every state owes its refreshes and sends them exactly when no event brings a flag
that is up to a session that is authenticated. -/
theorem refresh_unwedged_iff (deviceId : Bytes) (store : KeyStore) (events : List RefreshEvent) :
    (∀ front back, front ++ back = events →
      (front.foldl Refreshable.step { session := .initial deviceId store }).Refreshes) ↔
      guarded Refreshable.step keepsRefreshing { session := .initial deviceId store } events =
        true := by
  have first : ({ session := .initial deviceId store } : Refreshable).Tight :=
    Refreshable.initial_tight deviceId store
  refine prefixes_iff_guarded Refreshable.Tight Refreshable.Refreshes
    (fun state event tight => state.step_tight tight event)
    (fun state event tight refreshes => state.step_refreshes_iff tight refreshes event)
    { session := .initial deviceId store } first ?_ events
  exact (Refreshable.refreshes_iff _ first).mpr (AccountSession.Unwedged.elsewhere
    (by simp [AccountSession.initial, AccountSession.view]))

/-- Refreshed tokens that the store refuses: no later tick refreshes again. -/
theorem refreshUnstored_wedges :
    let result : AuthResult := {
      userId := 1001
      accessToken := ascii "acc-tok"
      refreshToken := ascii "ref-tok"
      accessExpireAt := 1000900
      refreshExpireAt := 1086400
      sessionId := ascii "sess-abc" }
    let env := surroundingsAt 1000000
    let later := surroundingsAt 1000850
    let reached := [
      .call env (.startWithPassword (ascii "alice") (ascii "pw")),
      .call env (.onConnectResult true), .call env (.onLoginResult resultSuccess result 1),
      .call later .tick,
      .call (surroundingsAt 1000850 false) (.onRefreshResult resultSuccess result 2)].foldl
        Refreshable.step { session := .initial (ascii "dev-1") {} }
    reached.session.machine.state = .authenticated ∧ reached.outstanding = false ∧
      reached.session.tokens.accessNeedsRefresh later = true ∧
      (reached.session.step (later, .tick)).sent = [] := by
  decide +kernel

end Jitong
