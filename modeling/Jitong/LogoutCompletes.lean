import Jitong.AccountView
import Jitong.Lib.Run

/-!
Whether a logout that waits for its answer is left alone: what the ticks, the connections and
the late results in between hand on, and what the answer leaves of the tokens.
-/

namespace Jitong

open Lib

def AccountCall.mayFollowLogout : AccountCall → Bool
  | tick | onConnectResult _ | onDisconnected _ | onReconnectFired | onLoginResult .. |
    onTokenLoginResult .. | onRefreshResult .. => true
  | _ => false

def KeyStore.NoTokens (store : KeyStore) (account : Bytes) : Prop :=
  ∀ suffix ∈ tokenSuffixes, store.values (keyOf account suffix) = none

def restsAfterLogout (session : AccountSession) (input : Surroundings × AccountCall) : Bool :=
  let env := input.1
  let tokens := session.tokens
  match input.2 with
  | .tick => session.machine.state ≠ .authenticated || !tokens.accessNeedsRefresh env ||
      tokens.refreshInFlight
  | .onConnectResult true =>
      match session.machine.state, session.reauthenticateAfterReconnect with
      | .authenticated, flag => !flag
      | .authenticating, false => session.machine.authMethod = .accessToken &&
          (AuthRequestBuilder.buildTokenLogin env session.deviceId tokens.session.accessToken
            tokens.session.sessionId).isNone
      | .refreshing, false => !tokens.canBegin env ||
          (AuthRequestBuilder.buildRefresh env session.deviceId
            (tokens.beginRefresh env).2.session.refreshToken (tokens.beginRefresh env).1).isNone
      | _, _ => true
  | .onRefreshResult protoResult result requestGeneration =>
      !session.current requestGeneration || protoResult ≠ resultSuccess ||
        !(session.rotation env result).1 || !session.tokenLoginAfterRefresh ||
          (session.machine.state ≠ .refreshing && session.machine.state ≠ .authenticated)
  | .onReconnectFired => !session.reconnect.enabled
  | _ => true

theorem AuthStateMachine.onRefreshFailed_denied (machine : AuthStateMachine)
    (denied : machine.autoReconnectAllowed = false) (generation : UInt32) (error : AuthError) :
    (machine.onRefreshFailed generation error).2.autoReconnectAllowed = false := by
  rw [(machine.onRefreshFailed_cases generation error).2]
  split
  · split
    · rfl
    · exact denied
  · exact denied

namespace AccountSession

variable (env : Surroundings) (session : AccountSession)

def Rests (session : AccountSession) (input : Surroundings × AccountCall) : Prop :=
  (session.step input).sent.filter Sent.isRequest = [] ∧
    (session.step input).machine.generation = session.machine.generation

def RestsView (after : SessionView) : Prop :=
  after.requests = [] ∧ after.machine.generation = session.machine.generation

theorem sendTokenLogin_rests (quiet : session.view.requests = []) :
    ((session.sendTokenLogin env).view.requests = [] ↔
      (AuthRequestBuilder.buildTokenLogin env session.view.deviceId
        session.view.tokens.session.accessToken session.view.tokens.session.sessionId).isNone =
          true) ∧
      (session.sendTokenLogin env).view.machine.autoReconnectAllowed =
        session.view.machine.autoReconnectAllowed := by
  rcases session.sendTokenLogin_cases env with ⟨packet, requestId, built, same⟩ | ⟨unbuilt, same⟩
  · rw [same, built]
    exact ⟨by simp, rfl⟩
  · rw [same, unbuilt, (session.view.machine.onAuthFailed_cases _ _).2]
    refine ⟨by simpa using quiet, ?_⟩
    split <;> rfl

theorem sendRefresh_rests (quiet : session.view.requests = [])
    (synced : session.view.generation = session.view.machine.generation)
    (denied : session.view.machine.autoReconnectAllowed = false) :
    ((session.sendRefresh env).view.requests = [] ↔
      (!session.view.tokens.canBegin env || (AuthRequestBuilder.buildRefresh env
        session.view.deviceId (session.view.tokens.beginRefresh env).2.session.refreshToken
        (session.view.tokens.beginRefresh env).1).isNone) = true) ∧
      (session.sendRefresh env).view.machine.autoReconnectAllowed = false := by
  have failed := session.view.machine.onRefreshFailed_denied denied session.view.machine.generation
  have begins := session.view.tokens.beginRefresh_eq_nil_iff env
  rcases session.sendRefresh_cases env synced with
    ⟨empty, same⟩ | ⟨made, ⟨unbuilt, same⟩ | ⟨packet, built, same⟩⟩
  · rw [same, begins.mp empty]
    exact ⟨by simpa using quiet, failed _⟩
  · rw [same, unbuilt]
    exact ⟨by simpa using quiet, failed _⟩
  · rw [same, built]
    rw [ne_eq, begins, Bool.not_eq_false] at made
    exact ⟨by simp [made], denied⟩

theorem reauthenticating_generation :
    session.reauthenticating.machine.generation ≠ session.machine.generation := by
  simp [reauthenticating, AuthStateMachine.beginOperation]

theorem loginOnConnected_rests (quiet : session.view.requests = [])
    (synced : session.generation = session.machine.generation)
    (denied : session.machine.autoReconnectAllowed = false) :
    (session.RestsView (session.loginOnConnected env).view ↔
      session.machine.state ≠ .authenticated) ∧
      (session.loginOnConnected env).view.machine.autoReconnectAllowed = false := by
  rcases session.loginOnConnected_cases env synced with
    ⟨elsewhere, same⟩ | ⟨ready, middle, begun, same⟩
  · rw [same]
    exact ⟨iff_of_true ⟨quiet, rfl⟩ elsewhere, denied⟩
  · rw [same]
    refine ⟨iff_of_false ?_ (by simp [ready]), ?_⟩
    · rintro ⟨_, kept⟩
      rw [(middle.sendTokenLogin_generation env).2, begun] at kept
      exact session.reauthenticating_generation kept
    · rw [(middle.sendTokenLogin_rests env (by rw [begun]; exact quiet)).2, begun]
      exact denied

theorem tick_rests (quiet : session.view.requests = [])
    (denied : session.machine.autoReconnectAllowed = false) :
    (session.RestsView (session.tick env).view ↔
      restsAfterLogout session (env, .tick) = true) ∧
      (session.tick env).view.machine.autoReconnectAllowed = false := by
  simp only [restsAfterLogout]
  rcases session.tick_cases env with ⟨same, idle⟩ | ⟨ready, needed, free, middle, begun, same⟩
  · rw [same]
    refine ⟨iff_of_true ⟨quiet, rfl⟩ ?_, denied⟩
    cases pending : session.tokens.refreshInFlight with
    | true => simp
    | false =>
        simp only [pending] at idle
        by_cases ready : session.machine.state = .authenticated
        · simpa [ready] using idle ready
        · simp [ready]
  · have fresh : middle.view.generation = middle.view.machine.generation := by
      rw [begun]
      rfl
    rw [same]
    refine ⟨iff_of_false ?_ (by simp [ready, needed, free]), ?_⟩
    · rintro ⟨_, kept⟩
      rw [(middle.sendRefresh_generation env fresh).2, begun] at kept
      simp [refreshing, view, AuthStateMachine.beginOperation] at kept
    · exact (middle.sendRefresh_rests env (by rw [begun]; exact quiet) fresh
        (by rw [begun]; exact denied)).2

theorem machine_onDisconnected_rests (denied : session.machine.autoReconnectAllowed = false)
    (intentional : Bool) :
    (session.machine.onDisconnected intentional).2 = session.machine := by
  rw [(session.machine.onDisconnected_cases intentional).2]
  simp [AuthStateMachine.dropsLogin, denied]

theorem onConnectResult_rests (quiet : session.view.requests = [])
    (synced : session.generation = session.machine.generation)
    (denied : session.machine.autoReconnectAllowed = false) (succeeded : Bool) :
    (session.RestsView (session.onConnectResult env succeeded).view ↔
      restsAfterLogout session (env, .onConnectResult succeeded) = true) ∧
      (session.onConnectResult env succeeded).view.machine.autoReconnectAllowed = false := by
  rcases session.onConnectResult_cases env synced succeeded with
    ⟨rfl, requests, unscheduled, same⟩ |
      ⟨rfl, flagged, ⟨elsewhere, same⟩ | ⟨ready, middle, begun, same⟩⟩ |
      ⟨rfl, unflagged, ⟨free, same⟩ | ⟨waiting, method, password, same⟩ |
        ⟨waiting, method, middle, begun, same⟩ | ⟨waiting, middle, begun, same⟩⟩
  · obtain rfl : requests = [] := by simpa [denied] using unscheduled
    rw [same, session.machine_onDisconnected_rests denied]
    exact ⟨iff_of_true ⟨by simpa using quiet, rfl⟩ rfl, denied⟩
  · rw [same]
    refine ⟨iff_of_true ⟨quiet, rfl⟩ ?_, denied⟩
    simp only [restsAfterLogout, flagged]
    cases state : session.machine.state with
    | authenticated => exact absurd state elsewhere
    | _ => rfl
  · rw [same]
    refine ⟨iff_of_false ?_ (by simp [restsAfterLogout, ready, flagged]), ?_⟩
    · rintro ⟨_, kept⟩
      rw [(middle.sendTokenLogin_generation env).2, begun] at kept
      exact session.reauthenticating_generation kept
    · rw [(middle.sendTokenLogin_rests env (by rw [begun]; exact quiet)).2, begun]
      exact denied
  · rw [same]
    refine ⟨iff_of_true ⟨quiet, rfl⟩ ?_, denied⟩
    simp only [restsAfterLogout, unflagged]
    cases state : session.machine.state with
    | authenticating => simp [AuthStateMachine.authenticationInFlight, state] at free
    | refreshing => simp [AuthStateMachine.authenticationInFlight, state] at free
    | _ => rfl
  · rw [same]
    refine ⟨iff_of_false ?_ (by simp [restsAfterLogout, waiting, unflagged, method]), denied⟩
    rintro ⟨unsent, _⟩
    simp at unsent
  · have made := middle.sendTokenLogin_rests env (by rw [begun]; exact quiet)
    have kept := (middle.sendTokenLogin_generation env).2
    rw [begun] at made kept
    rw [same]
    refine ⟨?_, made.2.trans denied⟩
    simp only [restsAfterLogout, waiting, unflagged, method, decide_true, Bool.true_and]
    exact ⟨fun rests => made.1.mp rests.1, fun unsigned => ⟨made.1.mpr unsigned, kept⟩⟩
  · have fresh : middle.view.generation = middle.view.machine.generation := by
      rw [begun]
      exact synced
    have made := middle.sendRefresh_rests env (by rw [begun]; exact quiet) fresh
      (by rw [begun]; exact denied)
    have kept := (middle.sendRefresh_generation env fresh).2
    rw [begun] at made kept
    rw [same]
    refine ⟨?_, made.2⟩
    simp only [restsAfterLogout, waiting, unflagged]
    exact ⟨fun rests => made.1.mp rests.1, fun unsent => ⟨made.1.mpr unsent, kept⟩⟩

theorem onRefreshResult_rests (quiet : session.view.requests = [])
    (synced : session.generation = session.machine.generation)
    (denied : session.machine.autoReconnectAllowed = false) (protoResult : Int32)
    (result : AuthResult) (requestGeneration : UInt32) :
    (session.RestsView (session.onRefreshResult env protoResult result requestGeneration).view ↔
      restsAfterLogout session (env, .onRefreshResult protoResult result requestGeneration) =
        true) ∧
      (session.onRefreshResult env protoResult result
        requestGeneration).view.machine.autoReconnectAllowed = false := by
  simp only [restsAfterLogout]
  have failed := session.machine.onRefreshFailed_denied denied session.machine.generation
  have numbered := session.machine.onRefreshFailed_generation session.machine.generation
  rcases session.onRefreshResult_cases env synced protoResult result requestGeneration with
    ⟨stale, same⟩ | ⟨known, ⟨refused, same⟩ | ⟨success, kept, same⟩ |
      ⟨success, taken, middle, begun, same⟩⟩
  · rw [same]
    exact ⟨iff_of_true ⟨quiet, rfl⟩ (by simp [stale]), denied⟩
  · rw [same]
    exact ⟨iff_of_true ⟨quiet, numbered _⟩ (by simp [refused]), failed _⟩
  · rw [same]
    exact ⟨iff_of_true ⟨quiet, numbered _⟩ (by simp [kept]), failed _⟩
  · have machine : middle.view.machine =
        if session.machine.state = .refreshing then
          { session.machine with state := .authenticated } else session.machine := by
      rw [begun]
      simp [rotated, view, AuthStateMachine.onRefreshSucceeded_cases]
    have generation : middle.view.machine.generation = session.machine.generation := by
      rw [machine]
      split <;> rfl
    have still : middle.view.machine.autoReconnectAllowed = false := by
      rw [machine]
      split <;> exact denied
    have unsent : middle.view.requests = [] := by
      rw [begun]
      exact quiet
    have fresh : middle.view.generation = middle.view.machine.generation := by
      rw [generation, begun]
      exact synced
    have state : middle.view.machine.state ≠ .authenticated ↔
        session.machine.state ≠ .refreshing ∧ session.machine.state ≠ .authenticated := by
      rw [machine]
      by_cases waiting : session.machine.state = .refreshing
      · simp [waiting]
      · simp [waiting]
    rw [same]
    cases continues : session.tokenLoginAfterRefresh with
    | false => exact ⟨iff_of_true ⟨unsent, generation⟩ (by simp), still⟩
    | true =>
        have login := middle.loginOnConnected_rests env unsent fresh still
        simp only [if_true]
        refine ⟨?_, login.2⟩
        have same : middle.machine.generation = session.machine.generation := generation
        rw [RestsView, same] at login
        refine login.1.trans (state.trans ?_)
        simp [known, success, taken]

theorem call_rests (quiet : session.view.requests = [])
    (synced : session.generation = session.machine.generation)
    (denied : session.machine.autoReconnectAllowed = false) (call : AccountCall)
    (follows : call.mayFollowLogout = true) :
    (session.RestsView (session.call env call).view ↔
      restsAfterLogout session (env, call) = true) ∧
      (session.call env call).view.machine.autoReconnectAllowed = false := by
  have settled (tokens : TokenManager) (accepted : Bool) :
      session.RestsView (session.loginSettled tokens accepted) ∧
        (session.loginSettled tokens accepted).machine.autoReconnectAllowed = false := by
    unfold loginSettled
    split <;> exact ⟨⟨quiet, rfl⟩, denied⟩
  cases call with
  | tick => exact session.tick_rests env quiet denied
  | onConnectResult succeeded =>
      exact session.onConnectResult_rests env quiet synced denied succeeded
  | onDisconnected intentional =>
      obtain ⟨requests, unscheduled, same⟩ := session.onDisconnected_cases env intentional
      obtain rfl : requests = [] := by simpa [denied] using unscheduled
      simp only [AccountSession.call, same, session.machine_onDisconnected_rests denied]
      exact ⟨iff_of_true ⟨by simpa using quiet, rfl⟩ rfl, denied⟩
  | onLoginResult protoResult result requestGeneration =>
      simp only [AccountSession.call, session.onLoginResult_view env synced]
      split
      · split <;> exact ⟨iff_of_true (settled _ _).1 rfl, (settled _ _).2⟩
      · exact ⟨iff_of_true ⟨quiet, rfl⟩ rfl, denied⟩
  | onTokenLoginResult protoResult userId accessExpireAt requestGeneration =>
      simp only [AccountSession.call, session.onTokenLoginResult_view env synced]
      split
      · exact ⟨iff_of_true (settled _ _).1 rfl, (settled _ _).2⟩
      · exact ⟨iff_of_true ⟨quiet, rfl⟩ rfl, denied⟩
  | onRefreshResult protoResult result requestGeneration =>
      exact session.onRefreshResult_rests env quiet synced denied protoResult result
        requestGeneration
  | onReconnectFired =>
      simp only [AccountSession.call, restsAfterLogout, Bool.not_eq_true']
      unfold onReconnectFired
      cases enabled : session.reconnect.enabled with
      | false => exact ⟨iff_of_true ⟨quiet, rfl⟩ rfl, denied⟩
      | true =>
          refine ⟨iff_of_false ?_ (by simp), denied⟩
          rintro ⟨unsent, _⟩
          simp [view, hand, List.filter_append, Sent.isRequest] at unsent
  | _ => simp [AccountCall.mayFollowLogout] at follows

def LogoutAsked (session : AccountSession) : Prop :=
  session.generation = session.machine.generation ∧ session.machine.autoReconnectAllowed = false

theorem logout_asked (allDevices : Bool) : (session.logout env allDevices).LogoutAsked := by
  change (session.logout env allDevices).view.generation =
    (session.logout env allDevices).view.machine.generation ∧
      (session.logout env allDevices).view.machine.autoReconnectAllowed = false
  rcases session.logout_cases env allDevices with ⟨packet, _, same⟩ | ⟨_, same⟩
  · rw [same]
    exact ⟨rfl, rfl⟩
  · rw [same, (AuthStateMachine.onLogoutCompleted_cases _).2]
    exact ⟨rfl, rfl⟩

theorem step_asked (asked : session.LogoutAsked) (input : Surroundings × AccountCall)
    (follows : input.2.mayFollowLogout = true) : (session.step input).LogoutAsked :=
  ⟨session.step_synced asked.1 input,
    (call_rests input.1 { session with sent := [] } rfl asked.1 asked.2 input.2 follows).2⟩

theorem step_rests_iff (asked : session.LogoutAsked) (input : Surroundings × AccountCall)
    (follows : input.2.mayFollowLogout = true) :
    session.Rests input ↔ restsAfterLogout session input = true :=
  (call_rests input.1 { session with sent := [] } rfl asked.1 asked.2 input.2 follows).1

end AccountSession

namespace TokenManager

variable (env : Surroundings) (manager : TokenManager)

theorem revokeFamily_noTokens (account : Bytes) :
    (manager.revokeFamily env).2.store.NoTokens account ↔
      manager.store.NoTokens account ∨ account = manager.session.account ∧
        env.accepts [] (familyKeys manager.session.account) = true := by
  have left (suffix : Bytes) (member : suffix ∈ tokenSuffixes) :
      (manager.revokeFamily env).2.store.values (keyOf account suffix) =
        if account = manager.session.account ∧
            env.accepts [] (familyKeys manager.session.account) = true then none
        else manager.store.values (keyOf account suffix) :=
    manager.revokeFamily_values env (List.mem_append_left [kRefreshReqId] member)
  by_cases taken : account = manager.session.account ∧
      env.accepts [] (familyKeys manager.session.account) = true
  · refine iff_of_true ?_ (.inr taken)
    intro suffix member
    rw [left suffix member, if_pos taken]
  · simp only [taken, or_false]
    constructor
    · intro none suffix member
      rw [← none suffix member, left suffix member, if_neg taken]
    · intro none suffix member
      rw [left suffix member, if_neg taken]
      exact none suffix member

end TokenManager

/-- From a logout on, every step hands no request on and leaves the logout's answer current
exactly when each call rests, and then the answer leaves no token in memory, and those in the
store that the session does not hold or that the store keeps. -/
theorem logout_completes_iff (deviceId : Bytes) (store : KeyStore)
    (before : List (Surroundings × AccountCall)) (env : Surroundings) (allDevices : Bool)
    (between : List (Surroundings × AccountCall))
    (follows : ∀ input ∈ between, input.2.mayFollowLogout = true) :
    let asked := (before.foldl AccountSession.step (.initial deviceId store)).step
      (env, .logout allDevices)
    ((∀ front input back, front ++ input :: back = between →
        let reached := front.foldl AccountSession.step asked
        (reached.step input).sent.filter Sent.isRequest = [] ∧
          (reached.step input).machine.generation = reached.machine.generation) ↔
      guarded AccountSession.step restsAfterLogout asked between = true) ∧
    (guarded AccountSession.step restsAfterLogout asked between = true →
      ∀ (last : Surroundings) (protoResult : Int32) (account : Bytes),
        let waiting := between.foldl AccountSession.step asked
        let answered := waiting.step
          (last, .onLogoutResult protoResult asked.machine.generation)
        answered.machine.state = .loggedOut ∧
          answered.tokens.session = { account := waiting.tokens.session.account } ∧
          (answered.tokens.store.NoTokens account ↔
            waiting.tokens.store.NoTokens account ∨
              account = waiting.tokens.session.account ∧
                last.accepts [] (TokenManager.familyKeys account) = true)) := by
  intro asked
  have start : asked.LogoutAsked := AccountSession.logout_asked env _ allDevices
  have exact : (∀ front input back, front ++ input :: back = between →
      (front.foldl AccountSession.step asked).Rests input) ↔
        guarded AccountSession.step restsAfterLogout asked between = true :=
    permitted_iff_guarded AccountSession.LogoutAsked
      (fun input : Surroundings × AccountCall => input.2.mayFollowLogout = true)
      AccountSession.Rests
      (fun state input follows asked => state.step_asked asked input follows)
      (fun state input follows asked => state.step_rests_iff asked input follows)
      asked start between follows
  refine ⟨exact, ?_⟩
  intro rests last protoResult account waiting answered
  have kept : waiting.machine.generation = asked.machine.generation :=
    foldl_kept (fun state : AccountSession => state.machine.generation)
      fun front input back split =>
      (exact.mpr rests front input back split).2
  have view : answered.view = { waiting.view with
      tokens := (waiting.tokens.revokeFamily last).2
      machine := waiting.machine.onLogoutCompleted.2
      requests := [] } := by
    have left := AccountSession.onLogoutResult_view last { waiting with sent := [] }
      asked.machine.generation
    rw [if_pos (by simp [AccountSession.current, kept])] at left
    exact left
  have machine : answered.machine = waiting.machine.onLogoutCompleted.2 :=
    congrArg SessionView.machine view
  have tokens : answered.tokens = (waiting.tokens.revokeFamily last).2 :=
    congrArg SessionView.tokens view
  refine ⟨?_, ?_, ?_⟩
  · rw [machine, (AuthStateMachine.onLogoutCompleted_cases _).2]
  · rw [tokens, TokenManager.revokeFamily_eq]
  · rw [tokens, waiting.tokens.revokeFamily_noTokens last account]
    refine or_congr_right (and_congr_right fun owner => ?_)
    rw [owner]

/-- The next tick, once the access token is about to expire, supersedes the logout. -/
theorem logout_superseded :
    let env := surroundingsAt 1000000
    let later := surroundingsAt 1000900
    let result : AuthResult := {
      userId := 1001
      accessToken := ascii "acc-tok"
      refreshToken := ascii "ref-tok"
      accessExpireAt := 1000900
      refreshExpireAt := 1086400
      sessionId := ascii "sess-abc" }
    let asked := [.startWithPassword (ascii "alice") (ascii "pw"), .onConnectResult true,
        .onLoginResult resultSuccess result 1, .logout false].foldl
      (fun state call => state.step (env, call)) (AccountSession.initial (ascii "dev-1") {})
    let ticked := asked.step (later, .tick)
    let answered := ticked.step
      (later, .onLogoutResult resultSuccess asked.machine.generation)
    asked.sent.any Sent.isRequest = true ∧ ticked.sent.any Sent.isRequest = true ∧
      answered.machine.state = .refreshing ∧ answered.tokens.session.valid = true ∧
      answered.tokens.store.values (keyOf (ascii "alice") kAccess) = some (ascii "acc-tok") := by
  decide +kernel

/-- A logout that rests through a lost connection and a late login result. -/
theorem logout_completes_resting :
    let env := surroundingsAt 1000000
    let before : List (Surroundings × AccountCall) := [
      (env, .startWithPassword (ascii "alice") (ascii "pw")), (env, .onConnectResult true)]
    let between : List (Surroundings × AccountCall) := [
      (env, .onDisconnected false), (env, .tick), (env, .onReconnectFired),
      (env, .onLoginResult resultSuccess { accessToken := [1], refreshToken := [2] } 0)]
    let asked := (before.foldl AccountSession.step (.initial (ascii "dev-1") {})).step
      (env, .logout false)
    let waiting := between.foldl AccountSession.step asked
    waiting.tokens.session.valid = true ∧
      (waiting.step
        (env, .onLogoutResult resultSuccess asked.machine.generation)).machine.state =
          .loggedOut := by
  intro env before between asked waiting
  refine ⟨by decide +kernel, ?_⟩
  have rests : guarded AccountSession.step restsAfterLogout asked between = true := by
    decide +kernel
  have follows : ∀ input ∈ between, input.2.mayFollowLogout = true := by
    simp [between, AccountCall.mayFollowLogout]
  have completed := logout_completes_iff (ascii "dev-1") {} before env false between follows
  have answered := completed.2 rests env resultSuccess (ascii "alice")
  simp only [waiting, asked]
  exact answered.1

end Jitong
