import Jitong.AccountSession

/-!
What each call of an account session can do, said once: the fields that its invariants speak
of and the requests that it hands to its transport.
-/

namespace Jitong

def Action.silent (action : Action) : Bool :=
  match action.type with
  | .emitEvent _ | .disconnect | .cancelReconnect | .rejectOperation _ => true
  | _ => false

def Sent.isRequest : Sent → Bool
  | connect | passwordLogin .. | tokenLogin .. | refresh .. | logout .. | scheduleReconnect _ => true
  | _ => false

def AuthError.revokes (error : AuthError) : Bool := error = .tokenRevoked ∨ error = .tokenExpired

structure SessionView where
  deviceId : Bytes
  machine : AuthStateMachine
  tokens : TokenManager
  account : Bytes
  generation : UInt32
  tokenLoginAfterRefresh : Bool
  reauthenticateAfterReconnect : Bool
  requests : List Sent

def AccountSession.view (session : AccountSession) : SessionView where
  deviceId := session.deviceId
  machine := session.machine
  tokens := session.tokens
  account := session.account
  generation := session.generation
  tokenLoginAfterRefresh := session.tokenLoginAfterRefresh
  reauthenticateAfterReconnect := session.reauthenticateAfterReconnect
  requests := session.sent.filter Sent.isRequest

namespace AuthStateMachine

variable (machine : AuthStateMachine)

@[simp] theorem transitionTo_machine (next : AccountState) :
    (machine.transitionTo next).2 = { machine with state := next } := by
  unfold transitionTo
  split
  · rename_i same
    rw [same]
  · rfl

@[simp] theorem transitionTo_silent (next : AccountState) :
    (machine.transitionTo next).1.all Action.silent = true := by
  unfold transitionTo
  split <;> rfl

theorem begun (next : AccountState) (type : ActionType) :
    ∃ events operation, events.all Action.silent = true ∧
      (let (events, after) := machine.transitionTo next
       (after.operationId, events ++ [{ type, operationId := after.operationId : Action }], after)) =
      (machine.operationId, events ++ [{ type, operationId := operation }],
        { machine with state := next }) := by
  refine ⟨(machine.transitionTo next).1, machine.operationId, transitionTo_silent _ _, ?_⟩
  simp

def startedFor (account : Bytes) (method : AuthMethod) (state : AccountState) :
    AuthStateMachine :=
  { machine with
    account
    authMethod := method
    autoReconnectAllowed := true
    state }.beginOperation

theorem requestLogin_cases (account : Bytes) (method : AuthMethod) :
    (∃ operation actions, actions.all Action.silent = true ∧
      (machine.authenticationInFlight = true ∨ machine.state = .authenticated ∧
        account = machine.account ∧ method = .accessToken) ∧
      machine.requestLogin account method = (operation, actions, machine)) ∨
    machine.authenticationInFlight = false ∧
      ¬(machine.state = .authenticated ∧ account = machine.account ∧ method = .accessToken) ∧
      ∃ events operation, events.all Action.silent = true ∧ machine.requestLogin account method =
        (machine.nextOperationId, events ++ [{ type := .connect, operationId := operation }],
          machine.startedFor account method .authenticating) := by
  unfold requestLogin
  split
  · rename_i busy
    split
    · exact .inl ⟨_, _, rfl, .inl busy, rfl⟩
    · exact .inl ⟨_, _, rfl, .inl busy, rfl⟩
  · rename_i free
    split
    · rename_i known
      exact .inl ⟨_, _, rfl, .inr known, rfl⟩
    · rename_i unknown
      exact .inr ⟨by simpa using free, unknown, begun _ _ _⟩

theorem requestRefreshForLogin_cases (account : Bytes) :
    (machine.authenticationInFlight = true ∧
      machine.requestRefreshForLogin account = (0, [rejectBusy], machine)) ∨
    machine.authenticationInFlight = false ∧ ∃ events operation, events.all Action.silent = true ∧
      machine.requestRefreshForLogin account =
        (machine.nextOperationId, events ++ [{ type := .connect, operationId := operation }],
          machine.startedFor account .accessToken .refreshing) := by
  unfold requestRefreshForLogin
  split
  · rename_i busy
    exact .inl ⟨busy, rfl⟩
  · rename_i free
    exact .inr ⟨by simpa using free, begun _ _ _⟩

theorem requestRefresh_cases (ready : machine.state = .authenticated) :
    ∃ events operation, events.all Action.silent = true ∧
      machine.requestRefresh =
        (machine.nextOperationId, events ++ [{ type := .sendRefresh, operationId := operation }],
          { machine with
            stateBeforeRefresh := machine.state
            state := .refreshing }.beginOperation) := by
  unfold requestRefresh
  rw [if_neg (by simp [ready]), if_neg (by simp [ready])]
  exact begun _ _ _

theorem requestTokenLoginOnConnected_cases :
    (machine.state ≠ .authenticated ∧
      machine.requestTokenLoginOnConnected = (0, [], machine)) ∨
    machine.state = .authenticated ∧ ∃ events operation, events.all Action.silent = true ∧
      machine.requestTokenLoginOnConnected =
        (machine.nextOperationId,
          events ++ [{ type := .sendTokenLogin, operationId := operation }],
          { machine with
            authMethod := .accessToken
            state := .authenticating }.beginOperation) := by
  unfold requestTokenLoginOnConnected
  split
  · rename_i elsewhere
    exact .inl ⟨elsewhere, rfl⟩
  · rename_i ready
    exact .inr ⟨by simpa using ready, begun _ _ _⟩

/-! The signals, whose actions are silent. -/

theorem cancelAuthentication_cases :
    machine.cancelAuthentication.1.all Action.silent = true ∧
      machine.cancelAuthentication.2 =
        { machine with
          generation := machine.generation + 1
          operationId := 0
          authMethod := .none
          autoReconnectAllowed := false
          state := .loggedOut } := by
  unfold cancelAuthentication
  simp [Action.silent]

def dropsLogin (intentional : Bool) : Bool :=
  !intentional ∧ machine.autoReconnectAllowed ∧ machine.state = .authenticating

theorem onDisconnected_cases (intentional : Bool) :
    ((machine.onDisconnected intentional).1.all Action.silent = true ∨
        machine.autoReconnectAllowed = true ∧ ∃ operationId,
          (machine.onDisconnected intentional).1 = [{ type := .scheduleReconnect, operationId }]) ∧
      (machine.onDisconnected intentional).2 =
        if machine.dropsLogin intentional then { machine with state := .loggedOut }
        else machine := by
  unfold onDisconnected dropsLogin
  cases intentional with
  | true => simp
  | false =>
      cases allowed : machine.autoReconnectAllowed with
      | false => simp
      | true => cases state : machine.state <;> simp [state, allowed, Action.silent, emit]

theorem onAuthSucceeded_cases (generation : UInt32) (userId : Int32) :
    (machine.onAuthSucceeded generation userId).1.all Action.silent = true ∧
      (machine.onAuthSucceeded generation userId).2 =
        if generation = machine.generation ∧ machine.state = .authenticating then
          { machine with state := .authenticated }
        else machine := by
  unfold onAuthSucceeded
  by_cases current : generation = machine.generation
  · by_cases waiting : machine.state = .authenticating
    · simp [current, waiting, Action.silent, emit]
    · simp [current, waiting]
  · simp [current]

theorem onAuthFailed_cases (generation : UInt32) (error : AuthError) :
    (machine.onAuthFailed generation error).1.all Action.silent = true ∧
      (machine.onAuthFailed generation error).2 =
        if generation = machine.generation ∧ machine.state = .authenticating then
          { machine with state := .loggedOut }
        else machine := by
  unfold onAuthFailed
  by_cases current : generation = machine.generation
  · by_cases waiting : machine.state = .authenticating
    · simp [current, waiting, Action.silent, emit]
    · simp [current, waiting]
  · simp [current]

theorem onRefreshSucceeded_cases (generation : UInt32) :
    (machine.onRefreshSucceeded generation).1.all Action.silent = true ∧
      (machine.onRefreshSucceeded generation).2 =
        if generation = machine.generation ∧ machine.state = .refreshing then
          { machine with state := .authenticated }
        else machine := by
  unfold onRefreshSucceeded
  by_cases current : generation = machine.generation
  · by_cases waiting : machine.state = .refreshing
    · simp [current, waiting, Action.silent, emit]
    · simp [current, waiting]
  · simp [current]

theorem onRefreshFailed_cases (generation : UInt32) (error : AuthError) :
    (machine.onRefreshFailed generation error).1.all Action.silent = true ∧
      (machine.onRefreshFailed generation error).2 =
        if generation = machine.generation ∧ machine.state = .refreshing then
          if AuthError.revokes error then
            { machine with autoReconnectAllowed := false, state := .loggedOutKicked }
          else { machine with state := .authenticated }
        else machine := by
  unfold onRefreshFailed AuthError.revokes
  by_cases current : generation = machine.generation
  · by_cases waiting : machine.state = .refreshing
    · by_cases revoked : error = .tokenRevoked ∨ error = .tokenExpired
      · simp [current, waiting, revoked, Action.silent, emit]
      · simp [current, waiting, revoked, Action.silent, emit]
    · simp [current, waiting]
  · simp [current]

theorem onRefreshFailed_generation (generation : UInt32) (error : AuthError) :
    (machine.onRefreshFailed generation error).2.generation = machine.generation := by
  rw [(machine.onRefreshFailed_cases generation error).2]
  split
  · split <;> rfl
  · rfl

theorem onKicked_cases (reason : AuthError) :
    (machine.onKicked reason).1.all Action.silent = true ∧
      (machine.onKicked reason).2 =
        { machine with autoReconnectAllowed := false, state := .loggedOutKicked } := by
  unfold onKicked
  simp [Action.silent, emit]

theorem onLogoutCompleted_cases :
    machine.onLogoutCompleted.1.all Action.silent = true ∧
      machine.onLogoutCompleted.2 =
        { machine with
          autoReconnectAllowed := false
          account := []
          authMethod := .none
          state := .loggedOut
          operationId := 0 } := by
  unfold onLogoutCompleted
  simp [Action.silent, emit]

end AuthStateMachine

namespace AccountSession

variable (env : Surroundings) (session : AccountSession)

theorem runPlainAction_silent {action : Action} (silent : action.silent = true) :
    (session.runPlainAction env action).view = session.view := by
  unfold runPlainAction
  cases kind : action.type with
  | emitEvent event => simp [view, hand, List.filter_append, Sent.isRequest]
  | rejectOperation error => simp [view, hand, List.filter_append, Sent.isRequest]
  | disconnect => simp [view, hand, List.filter_append, Sent.isRequest]
  | cancelReconnect => simp [view, hand, List.filter_append, Sent.isRequest]
  | _ => simp [Action.silent, kind] at silent

theorem runAction_silent {action : Action} (silent : action.silent = true) :
    session.runAction env action = session.runPlainAction env action := by
  unfold runAction
  cases kind : action.type with
  | sendTokenLogin => simp [Action.silent, kind] at silent
  | sendRefresh => simp [Action.silent, kind] at silent
  | sendLogout => simp [Action.silent, kind] at silent
  | _ => rfl

theorem runPlainActions_silent {actions : List Action} (silent : actions.all Action.silent = true) :
    (session.runPlainActions env actions).view = session.view := by
  induction actions generalizing session with
  | nil => rfl
  | cons action rest ih =>
      simp only [List.all_cons, Bool.and_eq_true] at silent
      have first := session.runPlainAction_silent env silent.1
      exact (ih _ silent.2).trans first

theorem runActions_silent {actions : List Action} (silent : actions.all Action.silent = true) :
    (session.runActions env actions).view = session.view := by
  induction actions generalizing session with
  | nil => rfl
  | cons action rest ih =>
      simp only [List.all_cons, Bool.and_eq_true] at silent
      have first := session.runPlainAction_silent env silent.1
      rw [← session.runAction_silent env silent.1] at first
      exact (ih _ silent.2).trans first

theorem runActions_last {events : List Action} (silent : events.all Action.silent = true)
    (action : Action) :
    ∃ middle : AccountSession, middle.view = session.view ∧
      session.runActions env (events ++ [action]) = middle.runAction env action :=
  ⟨session.runActions env events, session.runActions_silent env silent, List.foldl_concat _ _ _ _⟩

/-! The requests of a call, by the view that they find. -/

theorem runConnect_view (operationId : UInt64) :
    (session.runAction env { type := .connect, operationId }).view =
      { session.view with
        generation := session.view.machine.generation
        requests := session.view.requests ++ [.connect] } := by
  simp [runAction, runPlainAction, hand, view, List.filter_append, Sent.isRequest]

theorem runPasswordLogin_view (operationId : UInt64) :
    ∃ password, (session.runAction env { type := .sendPasswordLogin, operationId }).view =
      { session.view with
        requests := session.view.requests ++
          [.passwordLogin session.view.account password session.view.machine.generation] } := by
  refine ⟨session.pendingPassword, ?_⟩
  simp [runAction, runPlainAction, hand, view, List.filter_append, Sent.isRequest]

theorem sendTokenLogin_cases :
    (∃ packet requestId,
      AuthRequestBuilder.buildTokenLogin env session.view.deviceId
        session.view.tokens.session.accessToken session.view.tokens.session.sessionId =
          some (packet, requestId) ∧
      (session.sendTokenLogin env).view = { session.view with
        requests := session.view.requests ++ [.tokenLogin session.view.tokens.session.account
          packet requestId session.view.machine.generation] }) ∨
    AuthRequestBuilder.buildTokenLogin env session.view.deviceId
        session.view.tokens.session.accessToken session.view.tokens.session.sessionId = none ∧
      (session.sendTokenLogin env).view = { session.view with
        machine := (session.view.machine.onAuthFailed session.view.generation
          .deviceProofFailed).2 } := by
  unfold sendTokenLogin
  split
  · rename_i packet requestId built
    refine .inl ⟨packet, requestId, built, ?_⟩
    simp [hand, view, List.filter_append, Sent.isRequest]
  · rename_i unbuilt
    refine .inr ⟨unbuilt, ?_⟩
    exact runPlainActions_silent env _ (session.machine.onAuthFailed_cases _ _).1

theorem sendTokenLogin_tokens : (session.sendTokenLogin env).view.tokens = session.view.tokens := by
  rcases session.sendTokenLogin_cases env with ⟨_, _, _, same⟩ | ⟨_, same⟩
  · rw [same]
  · rw [same]

def current (requestGeneration : UInt32) : Bool :=
  requestGeneration = 0 ∨ requestGeneration = session.machine.generation

theorem resultGeneration_cases (synced : session.generation = session.machine.generation)
    (requestGeneration : UInt32) :
    (session.resultGeneration requestGeneration ≠ session.machine.generation ∧
      session.current requestGeneration = false) ∨
    session.resultGeneration requestGeneration = session.machine.generation ∧
      session.current requestGeneration = true := by
  unfold resultGeneration current
  by_cases unnumbered : requestGeneration = 0
  · simp [unnumbered, synced]
  · by_cases same : requestGeneration = session.machine.generation
    · simp [same, synced]
    · simp [unnumbered, same]

theorem onRefreshRefused_view (synced : session.generation = session.machine.generation)
    (requestGeneration : UInt32) :
    (session.onRefreshRefused env requestGeneration).view =
      if session.current requestGeneration then
        { session.view with
          tokens := (session.tokens.revokeFamily env).2
          machine :=
            (session.machine.onRefreshFailed session.machine.generation .tokenRevoked).2 }
      else session.view := by
  unfold onRefreshRefused
  rcases session.resultGeneration_cases synced requestGeneration with
    ⟨other, stale⟩ | ⟨same, known⟩
  · simp [other, stale]
  · simp only [same, known, ne_eq, not_true_eq_false, if_false, if_true]
    exact runPlainActions_silent env _ (session.machine.onRefreshFailed_cases _ _).1

theorem onLogoutResult_view (requestGeneration : UInt32) :
    (session.onLogoutResult env requestGeneration).view =
      if session.current requestGeneration then
        { session.view with
          tokens := (session.tokens.revokeFamily env).2
          machine := session.machine.onLogoutCompleted.2 }
      else session.view := by
  unfold onLogoutResult
  simp only
  split
  · rename_i stale
    rw [if_neg (by simpa [AccountSession.current] using stale)]
  · rename_i known
    rw [if_pos (by simpa [AccountSession.current, not_and, or_iff_not_imp_left] using known)]
    exact runPlainActions_silent env _ session.machine.onLogoutCompleted_cases.1

theorem sendRefresh_cases (synced : session.view.generation = session.view.machine.generation) :
    ((session.view.tokens.beginRefresh env).1 = [] ∧
      (session.sendRefresh env).view = { session.view with
        tokens := (session.view.tokens.beginRefresh env).2
        machine := (session.view.machine.onRefreshFailed session.view.machine.generation
          .internal).2 }) ∨
    (session.view.tokens.beginRefresh env).1 ≠ [] ∧
      (AuthRequestBuilder.buildRefresh env session.view.deviceId
          (session.view.tokens.beginRefresh env).2.session.refreshToken
          (session.view.tokens.beginRefresh env).1 = none ∧
        (session.sendRefresh env).view = { session.view with
          tokens := ((session.view.tokens.beginRefresh env).2.revokeFamily env).2
          machine := (session.view.machine.onRefreshFailed session.view.machine.generation
            .tokenRevoked).2 } ∨
      ∃ packet, AuthRequestBuilder.buildRefresh env session.view.deviceId
          (session.view.tokens.beginRefresh env).2.session.refreshToken
          (session.view.tokens.beginRefresh env).1 = some packet ∧
        (session.sendRefresh env).view = { session.view with
          tokens := (session.view.tokens.beginRefresh env).2
          requests := session.view.requests ++
            [.refresh packet session.view.machine.generation] }) := by
  change session.generation = session.machine.generation at synced
  unfold sendRefresh
  rcases begun : session.tokens.beginRefresh env with ⟨requestId, tokens⟩
  have begunView : session.view.tokens.beginRefresh env = (requestId, tokens) := begun
  rw [begunView]
  cases requestId with
  | nil =>
      refine .inl ⟨rfl, ?_⟩
      have ended := runPlainActions_silent env
        { session with
          tokens
          machine := (session.machine.onRefreshFailed session.generation .internal).2 }
        (session.machine.onRefreshFailed_cases session.generation .internal).1
      refine ended.trans ?_
      simp only [view, synced]
  | cons letter rest =>
      refine .inr ⟨by simp, ?_⟩
      simp only
      split
      · rename_i packet built
        refine .inr ⟨packet, built, ?_⟩
        simp [hand, view, List.filter_append, Sent.isRequest]
      · rename_i unbuilt
        refine .inl ⟨unbuilt, ?_⟩
        rw [onRefreshRefused_view env { session with tokens } synced,
          if_pos (by simp [AccountSession.current])]
        rfl

/-! The calls. -/

theorem startWithPassword_cases (account password : Bytes) :
    (session.machine.authenticationInFlight = true ∧
      (session.startWithPassword env account password).2.view = session.view) ∨
    session.machine.authenticationInFlight = false ∧
      (session.startWithPassword env account password).2.view = { session.view with
        machine := session.machine.startedFor account .password .authenticating
        account := if session.machine.nextOperationId = 0 then session.account else account
        generation := session.machine.generation + 1
        tokenLoginAfterRefresh :=
          if session.machine.nextOperationId = 0 then session.tokenLoginAfterRefresh else false
        requests := session.view.requests ++ [.connect] } := by
  unfold startWithPassword AuthStateMachine.requestPasswordLogin
  rcases session.machine.requestLogin_cases account .password with
    ⟨operation, actions, silent, refused, answered⟩ |
      ⟨free, _, events, operation, silent, answered⟩
  · have inFlight : session.machine.authenticationInFlight = true := by simpa using refused
    refine .inl ⟨inFlight, ?_⟩
    simp only [answered]
    split
    · exact runActions_silent env _ silent
    · rename_i accepted
      exfalso
      rw [AuthStateMachine.requestLogin, if_pos inFlight] at answered
      split at answered
      · simp only [Prod.mk.injEq] at answered
        exact accepted (.inr answered.2.1.symm)
      · simp only [Prod.mk.injEq] at answered
        exact accepted (.inl answered.1.symm)
  · refine .inr ⟨free, ?_⟩
    simp only [answered, List.append_eq_nil_iff, List.cons_ne_nil, and_false, or_false]
    by_cases wrapped : session.machine.nextOperationId = 0
    · simp only [if_pos wrapped]
      obtain ⟨middle, same, ran⟩ := runActions_last env
        { session with machine := session.machine.startedFor account .password .authenticating }
        silent { type := .connect, operationId := operation }
      rw [ran, runConnect_view, same]
      rfl
    · simp only [if_neg wrapped]
      obtain ⟨middle, same, ran⟩ := runActions_last env
        { session with
          machine := session.machine.startedFor account .password .authenticating
          account
          pendingPassword := password
          tokenLoginAfterRefresh := false
          reconnect := session.reconnect.reset }
        silent { type := .connect, operationId := operation }
      rw [ran, runConnect_view, same]
      rfl

theorem startWithSavedToken_cases (account : Bytes) :
    ((session.tokens.loadFromStore env account).1 = false ∧
      (session.startWithSavedToken env account).2.view = { session.view with
        tokens := (session.tokens.loadFromStore env account).2 }) ∨
    ∃ tokens, session.tokens.loadFromStore env account = (true, tokens) ∧
      tokens.refreshExpired env = false ∧
      let bound := { session.view with
        tokens, account
        tokenLoginAfterRefresh := !tokens.accessUsable env }
      ((session.startWithSavedToken env account).2.view = bound ∧
          (session.machine.authenticationInFlight = true ∨ session.machine.state = .authenticated ∧
            account = session.machine.account ∧ tokens.accessUsable env = true) ∨
        session.machine.authenticationInFlight = false ∧
          ¬(session.machine.state = .authenticated ∧ account = session.machine.account ∧
            tokens.accessUsable env = true) ∧
          (session.startWithSavedToken env account).2.view = { bound with
            machine := session.machine.startedFor account .accessToken
              (if tokens.accessUsable env then .authenticating else .refreshing)
            generation := session.machine.generation + 1
            requests := session.view.requests ++ [.connect] }) := by
  have fresh : ∀ tokens, session.tokens.loadFromStore env account = (true, tokens) →
      tokens.refreshExpired env = false := by
    intro tokens loaded
    rcases session.tokens.loadFromStore_cases env account with
      ⟨_, answered⟩ | ⟨saved, _, ⟨_, answered⟩ | ⟨unexpired, answered⟩⟩
    · simp [answered] at loaded
    · simp [answered] at loaded
    · rw [answered, Prod.mk.injEq] at loaded
      rw [← loaded.2]
      simpa only [TokenManager.refreshExpired, TokenManager.recoverRequest_session] using unexpired
  unfold startWithSavedToken
  rcases loaded : session.tokens.loadFromStore env account with ⟨success, tokens⟩
  cases success with
  | false => exact .inl ⟨rfl, rfl⟩
  | true =>
      have unexpired := fresh tokens loaded
      refine .inr ⟨tokens, rfl, unexpired, ?_⟩
      simp only [Bool.not_true, Bool.false_eq_true, if_false, unexpired, and_false]
      cases usable : tokens.accessUsable env with
      | true =>
          simp only [Bool.not_true, Bool.false_eq_true, if_false, if_true]
          rcases session.machine.requestLogin_cases account .accessToken with
            ⟨operation, actions, silent, refused, answered⟩ |
              ⟨free, unknown, events, operation, silent, answered⟩
          · refine .inl ⟨?_, by simpa using refused⟩
            simp only [AuthStateMachine.requestTokenLogin, answered]
            exact runActions_silent env _ silent
          · refine .inr ⟨free, by simpa using unknown, ?_⟩
            simp only [AuthStateMachine.requestTokenLogin, answered]
            obtain ⟨middle, same, ran⟩ := runActions_last env
              { session with
                tokens, account
                machine := session.machine.startedFor account .accessToken .authenticating
                tokenLoginAfterRefresh := false
                reconnect := session.reconnect.reset }
              silent { type := .connect, operationId := operation }
            rw [ran, runConnect_view, same]
            rfl
      | false =>
          simp only [Bool.not_false, if_true, Bool.false_eq_true, if_false]
          rcases session.machine.requestRefreshForLogin_cases account with
            ⟨busy, answered⟩ | ⟨free, events, operation, silent, answered⟩
          · refine .inl ⟨?_, .inl busy⟩
            simp only [answered]
            exact runActions_silent env _ rfl
          · refine .inr ⟨free, by simp, ?_⟩
            simp only [answered]
            obtain ⟨middle, same, ran⟩ := runActions_last env
              { session with
                tokens, account
                machine := session.machine.startedFor account .accessToken .refreshing
                tokenLoginAfterRefresh := true
                reconnect := session.reconnect.reset }
              silent { type := .connect, operationId := operation }
            rw [ran, runConnect_view, same]
            rfl

theorem logout_cases (allDevices : Bool) :
    let asked := { session.machine with autoReconnectAllowed := false }.beginOperation
    (∃ packet, AuthRequestBuilder.buildLogout env session.deviceId
          session.tokens.session.refreshToken allDevices = some packet ∧
        (session.logout env allDevices).view = { session.view with
          machine := asked
          generation := asked.generation
          requests := session.view.requests ++ [.logout packet asked.generation] }) ∨
      AuthRequestBuilder.buildLogout env session.deviceId
          session.tokens.session.refreshToken allDevices = none ∧
        (session.logout env allDevices).view = { session.view with
          tokens := (session.tokens.revokeFamily env).2
          machine := asked.onLogoutCompleted.2
          generation := asked.generation } := by
  intro asked
  have ran : session.logout env allDevices = ({ session with
      logoutAllDevices := allDevices
      machine := asked
      generation := asked.generation
      reconnect := session.reconnect.disable }.hand .cancelReconnect).sendLogout env := rfl
  rw [ran]
  unfold sendLogout
  split
  · rename_i packet built
    refine .inl ⟨packet, built, ?_⟩
    simp [hand, view, List.filter_append, Sent.isRequest]
  · rename_i unbuilt
    refine .inr ⟨unbuilt, ?_⟩
    rw [onLogoutResult_view, if_pos (by simp [AccountSession.current])]
    simp [hand, view, List.filter_append, Sent.isRequest]

theorem cancel_view :
    (session.cancel env).view = { session.view with
      tokens := (session.tokens.cancelRefresh env).2
      machine := session.machine.cancelAuthentication.2
      generation := session.machine.cancelAuthentication.2.generation
      tokenLoginAfterRefresh := false } :=
  runActions_silent env _ session.machine.cancelAuthentication_cases.1

def refreshing : AccountSession :=
  let machine := { session.machine with
    stateBeforeRefresh := session.machine.state
    state := .refreshing }.beginOperation
  { session with machine, generation := machine.generation }

theorem tick_cases :
    (session.tick env = session ∧ (session.machine.state = .authenticated →
      session.tokens.accessNeedsRefresh env = true →
        session.tokens.refreshInFlight = true)) ∨
    session.machine.state = .authenticated ∧ session.tokens.accessNeedsRefresh env = true ∧
      session.tokens.refreshInFlight = false ∧ ∃ middle : AccountSession,
        middle.view = session.refreshing.view ∧ session.tick env = middle.sendRefresh env := by
  unfold tick
  split
  · rename_i elsewhere
    exact .inl ⟨rfl, fun ready => absurd ready elsewhere⟩
  · rename_i ready
    simp only [not_not] at ready
    split
    · rename_i due
      simp only [Bool.not_eq_true'] at due
      refine .inr ⟨ready, due.1, due.2, ?_⟩
      obtain ⟨events, operation, silent, answered⟩ := session.machine.requestRefresh_cases ready
      obtain ⟨middle, same, ran⟩ := runActions_last env session.refreshing silent
        { type := .sendRefresh, operationId := operation }
      refine ⟨middle, same, ?_⟩
      simp only [answered]
      exact ran
    · rename_i idle
      refine .inl ⟨rfl, fun _ needed => ?_⟩
      simpa [needed] using idle

def reauthenticating : AccountSession :=
  let machine := { session.machine with
    authMethod := .accessToken
    state := .authenticating }.beginOperation
  { session with machine, generation := machine.generation }

theorem loginOnConnected_cases (synced : session.generation = session.machine.generation) :
    (session.machine.state ≠ .authenticated ∧ session.loginOnConnected env = session) ∨
    session.machine.state = .authenticated ∧ ∃ middle : AccountSession,
      middle.view = session.reauthenticating.view ∧
        session.loginOnConnected env = middle.sendTokenLogin env := by
  unfold loginOnConnected
  rcases session.machine.requestTokenLoginOnConnected_cases with
    ⟨elsewhere, answered⟩ | ⟨ready, events, operation, silent, answered⟩
  · refine .inl ⟨elsewhere, ?_⟩
    simp only [answered, ← synced]
    rfl
  · refine .inr ⟨ready, ?_⟩
    obtain ⟨middle, same, ran⟩ := runActions_last env session.reauthenticating silent
      { type := .sendTokenLogin, operationId := operation }
    refine ⟨middle, same, ?_⟩
    simp only [answered]
    exact ran

theorem runDisconnected_view (machine : AuthStateMachine) (intentional : Bool) :
    ∃ requests, (requests = [] ∨ machine.autoReconnectAllowed = true ∧
        ∃ delayMs, requests = [.scheduleReconnect delayMs]) ∧
      (session.runActions env (machine.onDisconnected intentional).1).view = { session.view with
        requests := session.view.requests ++ requests } := by
  rcases (machine.onDisconnected_cases intentional).1 with silent | ⟨allowed, operationId, answered⟩
  · refine ⟨[], .inl rfl, ?_⟩
    rw [runActions_silent env session silent, List.append_nil]
  · rw [answered]
    refine ⟨[.scheduleReconnect (session.reconnect.nextDelayMs env.jitter).1],
      .inr ⟨allowed, _, rfl⟩, ?_⟩
    simp [runActions, runAction, runPlainAction, hand, view, List.filter_append, Sent.isRequest]

theorem onDisconnected_cases (intentional : Bool) :
    ∃ requests, (requests = [] ∨ session.machine.autoReconnectAllowed = true ∧
        ∃ delayMs, requests = [.scheduleReconnect delayMs]) ∧
      (session.onDisconnected env intentional).view = { session.view with
        machine := (session.machine.onDisconnected intentional).2
        reauthenticateAfterReconnect := session.reauthenticateAfterReconnect ||
          (!intentional && session.machine.state = .authenticated)
        requests := session.view.requests ++ requests } := by
  let marked : AccountSession := { session with
    machine := (session.machine.onDisconnected intentional).2
    reauthenticateAfterReconnect := session.reauthenticateAfterReconnect ||
      (!intentional && session.machine.state = .authenticated) }
  have ran : session.onDisconnected env intentional =
      marked.runActions env (session.machine.onDisconnected intentional).1 := by
    unfold onDisconnected
    simp only
    split
    · rename_i waiting
      simp [marked, waiting, TokenManager.suspendRefresh]
    · split
      · rename_i lost
        simp [marked, lost]
      · rename_i kept
        have unmarked : (!intentional && decide (session.machine.state = .authenticated)) = false := by
          simpa using kept
        simp [marked, unmarked]
  obtain ⟨requests, allowed, same⟩ := runDisconnected_view env marked session.machine intentional
  exact ⟨requests, allowed, by rw [ran, same]; rfl⟩

theorem onConnectResult_cases (synced : session.generation = session.machine.generation)
    (succeeded : Bool) :
    (succeeded = false ∧ ∃ requests,
      (requests = [] ∨ session.machine.autoReconnectAllowed = true ∧
        ∃ delayMs, requests = [.scheduleReconnect delayMs]) ∧
      (session.onConnectResult env succeeded).view = { session.view with
        machine := (session.machine.onDisconnected false).2
        requests := session.view.requests ++ requests }) ∨
    (succeeded = true ∧ session.reauthenticateAfterReconnect = true ∧
      ((session.machine.state ≠ .authenticated ∧
          (session.onConnectResult env succeeded).view =
            { session.view with reauthenticateAfterReconnect := false }) ∨
        session.machine.state = .authenticated ∧ ∃ middle : AccountSession,
          middle.view = { session.reauthenticating.view with
            reauthenticateAfterReconnect := false } ∧
          session.onConnectResult env succeeded = middle.sendTokenLogin env)) ∨
    succeeded = true ∧ session.reauthenticateAfterReconnect = false ∧
      ((session.machine.authenticationInFlight = false ∧
          (session.onConnectResult env succeeded).view = session.view) ∨
        (session.machine.state = .authenticating ∧ session.machine.authMethod ≠ .accessToken ∧
          ∃ password, (session.onConnectResult env succeeded).view = { session.view with
            requests := session.view.requests ++
              [.passwordLogin session.account password session.machine.generation] }) ∨
        (session.machine.state = .authenticating ∧ session.machine.authMethod = .accessToken ∧
          ∃ middle : AccountSession, middle.view = session.view ∧
            session.onConnectResult env succeeded = middle.sendTokenLogin env) ∨
        session.machine.state = .refreshing ∧ ∃ middle : AccountSession,
          middle.view = session.view ∧
            session.onConnectResult env succeeded = middle.sendRefresh env) := by
  unfold onConnectResult
  cases succeeded with
  | false =>
      obtain ⟨requests, allowed, same⟩ := runDisconnected_view env
        { session with machine := (session.machine.onDisconnected false).2 } session.machine false
      exact .inl ⟨rfl, requests, allowed, same⟩
  | true =>
      simp only [if_true]
      split
      · rename_i flagged
        refine .inr (.inl ⟨trivial, flagged, ?_⟩)
        rcases loginOnConnected_cases env { session with
            reconnect := session.reconnect.reset
            reauthenticateAfterReconnect := false } synced with
          ⟨elsewhere, ran⟩ | ⟨ready, middle, same, ran⟩
        · exact .inl ⟨elsewhere, by rw [ran]; rfl⟩
        · exact .inr ⟨ready, middle, same, ran⟩
      · rename_i unflagged
        refine .inr (.inr ⟨trivial, by simpa using unflagged, ?_⟩)
        let fresh : AccountSession := { session with reconnect := session.reconnect.reset }
        unfold AuthStateMachine.onConnected AuthStateMachine.authenticationInFlight
        cases state : session.machine.state with
        | authenticating =>
            refine .inr ?_
            by_cases method : session.machine.authMethod = .accessToken
            · refine .inr (.inl ⟨rfl, method, fresh, rfl, ?_⟩)
              simp only [method, if_true]
              rfl
            · refine .inl ⟨rfl, method, ?_⟩
              simp only [method, if_false]
              exact runPasswordLogin_view env fresh session.machine.operationId
        | refreshing => exact .inr (.inr (.inr ⟨rfl, fresh, rfl, rfl⟩))
        | _ => exact .inl ⟨rfl, rfl⟩

def loginSettled (tokens : TokenManager) (accepted : Bool) : SessionView :=
  if session.machine.state = .authenticating then
    { session.view with
      tokens
      machine := { session.machine with
        state := if accepted then .authenticated else .loggedOut } }
  else { session.view with tokens }

theorem loginSettled_tokens (tokens : TokenManager) (accepted : Bool) :
    (session.loginSettled tokens accepted).tokens = tokens := by
  unfold loginSettled
  split <;> rfl

theorem runSucceeded_view (tokens : TokenManager) (userId : Int32) :
    let answer := session.machine.onAuthSucceeded session.machine.generation userId
    ({ session with tokens, machine := answer.2 }.runActions env answer.1).view =
      session.loginSettled tokens true := by
  intro answer
  have answered := session.machine.onAuthSucceeded_cases session.machine.generation userId
  refine (runActions_silent env _ answered.1).trans ?_
  unfold loginSettled
  simp only [answer, answered.2]
  by_cases waiting : session.machine.state = .authenticating
  · simp [waiting, view]
  · simp [waiting, view]

theorem runFailed_view (tokens : TokenManager) (error : AuthError) :
    let answer := session.machine.onAuthFailed session.machine.generation error
    ({ session with tokens, machine := answer.2 }.runActions env answer.1).view =
      session.loginSettled tokens false := by
  intro answer
  have answered := session.machine.onAuthFailed_cases session.machine.generation error
  refine (runActions_silent env _ answered.1).trans ?_
  unfold loginSettled
  simp only [answer, answered.2]
  by_cases waiting : session.machine.state = .authenticating
  · simp [waiting, view]
  · simp [waiting, view]

def resultSession (result : AuthResult) : TokenSession where
  account := session.account
  accessToken := result.accessToken
  refreshToken := result.refreshToken
  accessExpireAt := result.accessExpireAt
  refreshExpireAt := result.refreshExpireAt
  sessionId := result.sessionId

theorem onLoginResult_view (synced : session.generation = session.machine.generation)
    (protoResult : Int32) (result : AuthResult) (requestGeneration : UInt32) :
    (session.onLoginResult env protoResult result requestGeneration).view =
      if session.current requestGeneration then
        if protoResult = resultSuccess then
          session.loginSettled (session.tokens.adopt env (session.resultSession result)).2
            (session.tokens.adopt env (session.resultSession result)).1
        else session.loginSettled session.tokens false
      else session.view := by
  unfold onLoginResult
  rcases session.resultGeneration_cases synced requestGeneration with
    ⟨other, stale⟩ | ⟨same, known⟩
  · simp [other, stale]
  · simp only [same, known, ne_eq, not_true_eq_false, if_false, if_true]
    split
    · have offered : session.resultSession result = {
          account := session.account
          accessToken := result.accessToken
          refreshToken := result.refreshToken
          accessExpireAt := result.accessExpireAt
          refreshExpireAt := result.refreshExpireAt
          sessionId := result.sessionId } := rfl
      rw [← offered]
      cases (session.tokens.adopt env (session.resultSession result)).1 with
      | true => exact session.runSucceeded_view env _ _
      | false => exact session.runFailed_view env _ _
    · exact session.runFailed_view env session.tokens _

theorem onTokenLoginResult_view (synced : session.generation = session.machine.generation)
    (protoResult userId : Int32) (requestGeneration : UInt32) :
    (session.onTokenLoginResult env protoResult userId requestGeneration).view =
      if session.current requestGeneration then
        session.loginSettled session.tokens (protoResult = resultSuccess)
      else session.view := by
  unfold onTokenLoginResult
  rcases session.resultGeneration_cases synced requestGeneration with
    ⟨other, stale⟩ | ⟨same, known⟩
  · simp [other, stale]
  · simp only [same, known, ne_eq, not_true_eq_false, if_false, if_true]
    by_cases success : protoResult = resultSuccess
    · simp only [success, if_true, decide_true]
      exact session.runSucceeded_view env session.tokens _
    · simp only [success, if_false, decide_false]
      exact session.runFailed_view env session.tokens _

def rotated (tokens : TokenManager) : AccountSession :=
  { session with
    tokens
    machine :=
      (session.machine.onRefreshSucceeded session.machine.generation).2
    tokenLoginAfterRefresh := false }

theorem rotated_synced (synced : session.generation = session.machine.generation)
    {middle : AccountSession} {tokens : TokenManager}
    (begun : middle.view = (session.rotated tokens).view) :
    middle.generation = middle.machine.generation := by
  change middle.view.generation = middle.view.machine.generation
  rw [begun]
  simp only [rotated, view, AuthStateMachine.onRefreshSucceeded_cases]
  split <;> exact synced

def rotation (result : AuthResult) : Bool × TokenManager :=
  session.tokens.rotate env result.accessToken result.refreshToken result.accessExpireAt
    result.refreshExpireAt result.sessionId

theorem onRefreshResult_cases (synced : session.generation = session.machine.generation)
    (protoResult : Int32) (result : AuthResult) (requestGeneration : UInt32) :
    (session.current requestGeneration = false ∧
      (session.onRefreshResult env protoResult result requestGeneration).view = session.view) ∨
    session.current requestGeneration = true ∧
      ((protoResult ≠ resultSuccess ∧
        (session.onRefreshResult env protoResult result requestGeneration).view =
          { session.view with
            tokens := (session.tokens.revokeFamily env).2
            machine :=
              (session.machine.onRefreshFailed session.machine.generation .tokenRevoked).2 }) ∨
      (protoResult = resultSuccess ∧ (session.rotation env result).1 = false ∧
        (session.onRefreshResult env protoResult result requestGeneration).view =
          { session.view with
            tokens := (session.rotation env result).2
            machine := (session.machine.onRefreshFailed session.machine.generation .internal).2 }) ∨
      protoResult = resultSuccess ∧ (session.rotation env result).1 = true ∧
        ∃ middle : AccountSession,
          middle.view = (session.rotated (session.rotation env result).2).view ∧
          session.onRefreshResult env protoResult result requestGeneration =
            if session.tokenLoginAfterRefresh then middle.loginOnConnected env else middle) := by
  unfold onRefreshResult
  split
  · rename_i refused
    rw [onRefreshRefused_view env session synced]
    cases known : session.current requestGeneration with
    | false => exact .inl ⟨rfl, rfl⟩
    | true => exact .inr ⟨rfl, .inl ⟨refused, rfl⟩⟩
  · rename_i success
    simp only [not_not] at success
    rcases session.resultGeneration_cases synced requestGeneration with
      ⟨other, stale⟩ | ⟨same, known⟩
    · exact .inl ⟨stale, by simp [other]⟩
    · refine .inr ⟨known, .inr ?_⟩
      simp only [same, ne_eq, not_true_eq_false, if_false]
      split
      · rename_i failed
        refine .inl ⟨success, by simpa [rotation] using failed, ?_⟩
        exact runActions_silent env _ (session.machine.onRefreshFailed_cases _ _).1
      · rename_i succeeded
        refine .inr ⟨success, by simpa [rotation] using succeeded, ?_⟩
        exact ⟨_, runActions_silent env (session.rotated (session.rotation env result).2)
          (session.machine.onRefreshSucceeded_cases session.machine.generation).1, rfl⟩

theorem onKicked_view :
    (session.onKicked env).view = { session.view with
      tokens := (session.tokens.revokeFamily env).2
      machine := (session.machine.onKicked .kickedByOtherDevice).2 } :=
  runActions_silent env _ (session.machine.onKicked_cases .kickedByOtherDevice).1

theorem onReconnectFired_view :
    session.onReconnectFired.view = session.view ∨
      session.reconnect.enabled = true ∧ session.onReconnectFired.view =
        { session.view with requests := session.view.requests ++ [.connect] } := by
  unfold onReconnectFired
  split
  · exact .inl rfl
  · rename_i enabled
    refine .inr ⟨by simpa using enabled, ?_⟩
    simp [hand, view, List.filter_append, Sent.isRequest]

/-! The session's copy of the generation. -/

theorem sendTokenLogin_generation :
    (session.sendTokenLogin env).view.generation = session.view.generation ∧
      (session.sendTokenLogin env).view.machine.generation = session.view.machine.generation := by
  rcases session.sendTokenLogin_cases env with ⟨_, _, _, same⟩ | ⟨_, same⟩
  · rw [same]
    exact ⟨rfl, rfl⟩
  · rw [same, (session.view.machine.onAuthFailed_cases _ _).2]
    split <;> exact ⟨rfl, rfl⟩

theorem sendRefresh_generation
    (synced : session.view.generation = session.view.machine.generation) :
    (session.sendRefresh env).view.generation = session.view.generation ∧
      (session.sendRefresh env).view.machine.generation = session.view.machine.generation := by
  have failed := session.view.machine.onRefreshFailed_generation session.view.machine.generation
  rcases session.sendRefresh_cases env synced with ⟨_, same⟩ | ⟨_, ⟨_, same⟩ | ⟨_, _, same⟩⟩
  · rw [same]
    exact ⟨rfl, failed _⟩
  · rw [same]
    exact ⟨rfl, failed _⟩
  · rw [same]
    exact ⟨rfl, rfl⟩

theorem loginOnConnected_synced (synced : session.generation = session.machine.generation) :
    (session.loginOnConnected env).view.generation =
      (session.loginOnConnected env).view.machine.generation := by
  rcases session.loginOnConnected_cases env synced with ⟨_, same⟩ | ⟨_, middle, begun, same⟩
  · rw [same]
    exact synced
  · rw [same, (middle.sendTokenLogin_generation env).1, (middle.sendTokenLogin_generation env).2,
      begun]
    rfl

theorem loginSettled_generation (tokens : TokenManager) (accepted : Bool) :
    (session.loginSettled tokens accepted).generation = session.generation ∧
      (session.loginSettled tokens accepted).machine.generation = session.machine.generation := by
  unfold loginSettled
  split <;> exact ⟨rfl, rfl⟩

theorem call_synced (synced : session.generation = session.machine.generation)
    (call : AccountCall) :
    (session.call env call).generation = (session.call env call).machine.generation := by
  change (session.call env call).view.generation = (session.call env call).view.machine.generation
  have kept := session.machine.onRefreshFailed_generation session.machine.generation
  cases call with
  | startWithPassword account password =>
      rcases session.startWithPassword_cases env account password with ⟨_, same⟩ | ⟨_, same⟩
      · exact (congrArg SessionView.generation same).trans
          (synced.trans (congrArg (·.machine.generation) same).symm)
      · simp only [AccountSession.call, same]
        rfl
  | startWithSavedToken account =>
      rcases session.startWithSavedToken_cases env account with
        ⟨_, same⟩ | ⟨_, _, _, ⟨same, _⟩ | ⟨_, _, same⟩⟩
      · simp only [AccountSession.call, same]
        exact synced
      · simp only [AccountSession.call, same]
        exact synced
      · simp only [AccountSession.call, same]
        rfl
  | logout allDevices =>
      rcases session.logout_cases env allDevices with ⟨_, _, same⟩ | ⟨_, same⟩
      · simp only [AccountSession.call, same]
      · simp only [AccountSession.call, same, AuthStateMachine.onLogoutCompleted_cases]
  | cancel => simp only [AccountSession.call, cancel_view]
  | tick =>
      rcases session.tick_cases env with ⟨same, _⟩ | ⟨_, _, _, middle, begun, same⟩
      · simp only [AccountSession.call, same]
        exact synced
      · have fresh : middle.view.generation = middle.view.machine.generation := by
          rw [begun]
          rfl
        simp only [AccountSession.call, same, middle.sendRefresh_generation env fresh]
        exact fresh
  | onConnectResult succeeded =>
      simp only [AccountSession.call]
      rcases session.onConnectResult_cases env synced succeeded with
        ⟨_, _, _, same⟩ | ⟨_, _, ⟨_, same⟩ | ⟨_, middle, begun, same⟩⟩ |
          ⟨_, _, ⟨_, same⟩ | ⟨_, _, _, same⟩ | ⟨_, _, middle, begun, same⟩ |
            ⟨_, middle, begun, same⟩⟩
      · rw [same]
        simp only [AuthStateMachine.onDisconnected_cases]
        split <;> exact synced
      · rw [same]
        exact synced
      · rw [same, (middle.sendTokenLogin_generation env).1,
          (middle.sendTokenLogin_generation env).2, begun]
        rfl
      · rw [same]
        exact synced
      · rw [same]
        exact synced
      · rw [same, (middle.sendTokenLogin_generation env).1,
          (middle.sendTokenLogin_generation env).2, begun]
        exact synced
      · have fresh : middle.view.generation = middle.view.machine.generation := by
          rw [begun]
          exact synced
        rw [same, (middle.sendRefresh_generation env fresh).1,
          (middle.sendRefresh_generation env fresh).2]
        exact fresh
  | onDisconnected intentional =>
      obtain ⟨_, _, same⟩ := session.onDisconnected_cases env intentional
      simp only [AccountSession.call, same, AuthStateMachine.onDisconnected_cases]
      split <;> exact synced
  | onLoginResult protoResult result requestGeneration =>
      simp only [AccountSession.call, session.onLoginResult_view env synced]
      split
      · split <;> simp only [loginSettled_generation, synced]
      · exact synced
  | onTokenLoginResult protoResult userId _ requestGeneration =>
      simp only [AccountSession.call, session.onTokenLoginResult_view env synced]
      split
      · simp only [loginSettled_generation, synced]
      · exact synced
  | onRefreshResult protoResult result requestGeneration =>
      simp only [AccountSession.call]
      rcases session.onRefreshResult_cases env synced protoResult result requestGeneration with
        ⟨_, same⟩ | ⟨_, ⟨_, same⟩ | ⟨_, _, same⟩ | ⟨_, _, middle, begun, same⟩⟩
      · rw [same]
        exact synced
      · rw [same]
        exact synced.trans (kept _).symm
      · rw [same]
        exact synced.trans (kept _).symm
      · have fresh := session.rotated_synced synced begun
        rw [same]
        split
        · exact middle.loginOnConnected_synced env fresh
        · exact fresh
  | onLogoutResult _ requestGeneration =>
      simp only [AccountSession.call, onLogoutResult_view, AuthStateMachine.onLogoutCompleted_cases]
      split <;> exact synced
  | onKicked _ =>
      simp only [AccountSession.call, onKicked_view, AuthStateMachine.onKicked_cases]
      exact synced
  | onReconnectFired =>
      simp only [AccountSession.call]
      rcases session.onReconnectFired_view with same | ⟨_, same⟩
      · rw [same]
        exact synced
      · rw [same]
        exact synced

theorem step_synced (synced : session.generation = session.machine.generation)
    (input : Surroundings × AccountCall) :
    (session.step input).generation = (session.step input).machine.generation :=
  call_synced input.1 { session with sent := [] } synced input.2

end AccountSession

end Jitong
