import Jitong.AccountView
import Jitong.Lib.Run

/-!
Whether a session that says it is authenticated has had a login accepted since it was last
logged out. The one other way into that state is back from a refresh.
-/

namespace Jitong

open Lib

namespace AccountSession

def isLoggedOut (session : AccountSession) : Bool :=
  session.machine.state = .loggedOut ∨ session.machine.state = .loggedOutKicked

end AccountSession

def AccountCall.isLoginSuccess : AccountCall → Bool
  | onLoginResult protoResult _ _ => protoResult = resultSuccess
  | onTokenLoginResult protoResult _ _ _ => protoResult = resultSuccess
  | _ => false

structure Accounted where
  session : AccountSession
  accepted : Bool := false

def Accounted.step (state : Accounted) (input : Surroundings × AccountCall) : Accounted :=
  let after := state.session.step input
  { session := after
    accepted := !after.isLoggedOut && (state.accepted || (input.2.isLoginSuccess &&
      state.session.machine.state = .authenticating && after.machine.state = .authenticated)) }

namespace AccountSession

variable (env : Surroundings) (session : AccountSession)

/-- The calls that end a refresh in `authenticated`: its request id cannot be stored, its new
tokens cannot be stored, or no token login is to follow it. -/
def fallsBack : AccountCall → Bool
  | .onConnectResult succeeded =>
      succeeded && !session.reauthenticateAfterReconnect && !session.tokens.canBegin env
  | .onRefreshResult protoResult result requestGeneration =>
      let rotated := session.tokens.rotatedSession result.accessToken result.refreshToken
        result.accessExpireAt result.refreshExpireAt result.sessionId
      protoResult = resultSuccess && session.current requestGeneration &&
        (!env.accepts (TokenManager.sessionPuts rotated) [keyOf rotated.account kRefreshReqId] ||
          !session.tokenLoginAfterRefresh)
  | _ => false

theorem sendTokenLogin_state (elsewhere : session.view.machine.state ≠ .authenticated) :
    (session.sendTokenLogin env).view.machine.state ≠ .authenticated := by
  rcases session.sendTokenLogin_cases env with ⟨_, _, _, same⟩ | ⟨_, same⟩
  · rw [same]
    exact elsewhere
  · rw [same, (session.view.machine.onAuthFailed_cases _ _).2]
    split
    · simp
    · exact elsewhere

theorem sendRefresh_state (synced : session.view.generation = session.view.machine.generation)
    (waiting : session.view.machine.state = .refreshing) :
    (session.sendRefresh env).view.machine.state = .authenticated ↔
      session.view.tokens.canBegin env = false := by
  have refused := session.view.tokens.beginRefresh_eq_nil_iff env
  rcases session.sendRefresh_cases env synced with ⟨none, same⟩ | ⟨some, ⟨_, same⟩ | ⟨_, _, same⟩⟩
  · rw [same, (session.view.machine.onRefreshFailed_cases _ _).2]
    simp [waiting, AuthError.revokes, refused.mp none]
  · rw [same, (session.view.machine.onRefreshFailed_cases _ _).2]
    simp [waiting, AuthError.revokes, refused.not.mp some]
  · rw [same]
    simp [waiting, refused.not.mp some]

theorem loginOnConnected_state (synced : session.generation = session.machine.generation) :
    (session.loginOnConnected env).view.machine.state ≠ .authenticated := by
  rcases session.loginOnConnected_cases env synced with ⟨elsewhere, same⟩ | ⟨_, middle, begun, same⟩
  · rw [same]
    exact elsewhere
  · rw [same]
    refine middle.sendTokenLogin_state env ?_
    rw [begun]
    simp [reauthenticating, view, AuthStateMachine.beginOperation]

theorem onRefreshResult_state (synced : session.generation = session.machine.generation)
    (waiting : session.machine.state = .refreshing) (protoResult : Int32) (result : AuthResult)
    (requestGeneration : UInt32) :
    (session.onRefreshResult env protoResult result requestGeneration).machine.state =
        .authenticated ↔
      session.fallsBack env (.onRefreshResult protoResult result requestGeneration) = true := by
  change (session.onRefreshResult env protoResult result requestGeneration).view.machine.state =
    .authenticated ↔ _
  have unrevoked : session.machine.state ≠ .authenticated := by simp [waiting]
  have kept := session.tokens.replaceSession_cases env (session.tokens.rotatedSession
    result.accessToken result.refreshToken result.accessExpireAt result.refreshExpireAt
    result.sessionId)
  simp only [fallsBack]
  rcases session.onRefreshResult_cases env synced protoResult result requestGeneration with
    ⟨stale, same⟩ | ⟨known, ⟨refused, same⟩ | ⟨success, failed, same⟩ |
      ⟨success, taken, middle, begun, same⟩⟩
  · rw [same]
    simpa [stale, view] using unrevoked
  · rw [same, (session.machine.onRefreshFailed_cases _ _).2]
    simp [waiting, refused, AuthError.revokes]
  · rcases kept with ⟨unstored, _⟩ | ⟨_, answered⟩
    · rw [same, (session.machine.onRefreshFailed_cases _ _).2]
      simp [waiting, success, known, unstored, AuthError.revokes]
    · simp [rotation, TokenManager.rotate, answered] at failed
  · rcases kept with ⟨_, answered⟩ | ⟨stored, _⟩
    · simp [rotation, TokenManager.rotate, answered] at taken
    · have fresh : middle.view.generation = middle.view.machine.generation := by
        rw [begun]
        simp only [rotated, view, AuthStateMachine.onRefreshSucceeded_cases]
        split <;> exact synced
      rw [same]
      cases follow : session.tokenLoginAfterRefresh with
      | true =>
          have left := middle.loginOnConnected_state env fresh
          simp only [if_true]
          exact iff_of_false left (by simp [stored])
      | false =>
          have ready : middle.view.machine.state = .authenticated := by
            rw [begun]
            simp [rotated, view, AuthStateMachine.onRefreshSucceeded_cases, waiting]
          simp only [Bool.false_eq_true, if_false]
          exact iff_of_true ready (by simp [success, known])

theorem loginSettled_state (tokens : TokenManager) (accepted : Bool) :
    (session.loginSettled tokens accepted).machine.state =
      if session.machine.state = .authenticating then
        if accepted then .authenticated else .loggedOut
      else session.machine.state := by
  unfold loginSettled
  split <;> rfl

theorem refreshing_authenticated_iff (synced : session.generation = session.machine.generation)
    (waiting : session.machine.state = .refreshing) (call : AccountCall) :
    (session.call env call).machine.state = .authenticated ↔ session.fallsBack env call = true := by
  change (session.call env call).view.machine.state = .authenticated ↔ _
  have elsewhere : session.view.machine.state ≠ .authenticated := by simp [view, waiting]
  have busy : session.machine.authenticationInFlight = true := by
    simp [AuthStateMachine.authenticationInFlight, waiting]
  cases call with
  | startWithPassword account password =>
      rcases session.startWithPassword_cases env account password with ⟨_, same⟩ | ⟨free, _⟩
      · simp [AccountSession.call, same, fallsBack, elsewhere]
      · simp [busy] at free
  | startWithSavedToken account =>
      rcases session.startWithSavedToken_cases env account with
        ⟨_, same⟩ | ⟨_, _, _, ⟨same, _⟩ | ⟨free, _⟩⟩
      · simp [AccountSession.call, same, fallsBack, elsewhere]
      · simp [AccountSession.call, same, fallsBack, elsewhere]
      · simp [busy] at free
  | logout allDevices =>
      rcases session.logout_cases env allDevices with ⟨_, _, same⟩ | ⟨_, same⟩
      · simp [AccountSession.call, same, fallsBack, AuthStateMachine.beginOperation, waiting]
      · simp [AccountSession.call, same, fallsBack, AuthStateMachine.onLogoutCompleted_cases]
  | cancel =>
      simp [AccountSession.call, cancel_view, fallsBack, AuthStateMachine.cancelAuthentication_cases]
  | tick =>
      rcases session.tick_cases env with ⟨same, _⟩ | ⟨ready, _⟩
      · simp [AccountSession.call, same, fallsBack, elsewhere]
      · simp [waiting] at ready
  | onConnectResult succeeded =>
      simp only [AccountSession.call]
      rcases session.onConnectResult_cases env synced succeeded with
        ⟨failed, _, _, same⟩ | ⟨_, flagged, ⟨_, same⟩ | ⟨ready, _⟩⟩ |
          ⟨opened, unflagged, ⟨free, _⟩ | ⟨other, _⟩ | ⟨other, _⟩ | ⟨_, middle, begun, same⟩⟩
      · rw [same]
        simp [failed, fallsBack, AuthStateMachine.onDisconnected_cases, AuthStateMachine.dropsLogin,
          waiting]
      · rw [same]
        simp [flagged, fallsBack, elsewhere]
      · simp [waiting] at ready
      · simp [busy] at free
      · simp [waiting] at other
      · simp [waiting] at other
      · rw [same, middle.sendRefresh_state env (by rw [begun]; exact synced)
          (by rw [begun]; exact waiting), begun]
        simp [fallsBack, opened, unflagged, view]
  | onDisconnected intentional =>
      obtain ⟨_, _, same⟩ := session.onDisconnected_cases env intentional
      simp [AccountSession.call, same, fallsBack, AuthStateMachine.onDisconnected_cases,
        AuthStateMachine.dropsLogin, waiting]
  | onLoginResult protoResult result requestGeneration =>
      simp only [AccountSession.call, session.onLoginResult_view env synced, fallsBack,
        Bool.false_eq_true, iff_false]
      split
      · split <;> simp [loginSettled_state, waiting]
      · exact elsewhere
  | onTokenLoginResult protoResult userId _ requestGeneration =>
      simp only [AccountSession.call, session.onTokenLoginResult_view env synced, fallsBack,
        Bool.false_eq_true, iff_false]
      split
      · simp [loginSettled_state, waiting]
      · exact elsewhere
  | onRefreshResult protoResult result requestGeneration =>
      exact session.onRefreshResult_state env synced waiting protoResult result requestGeneration
  | onLogoutResult _ requestGeneration =>
      simp only [AccountSession.call, onLogoutResult_view, fallsBack, Bool.false_eq_true, iff_false]
      split
      · simp [AuthStateMachine.onLogoutCompleted_cases]
      · exact elsewhere
  | onKicked _ => simp [AccountSession.call, onKicked_view, fallsBack, AuthStateMachine.onKicked_cases]
  | onReconnectFired =>
      rcases session.onReconnectFired_view with same | ⟨_, same⟩
      · simp [AccountSession.call, same, fallsBack, elsewhere]
      · simp [AccountSession.call, same, fallsBack, elsewhere]

theorem enters_authenticated (synced : session.generation = session.machine.generation)
    (settled : session.machine.state ≠ .refreshing) (call : AccountCall)
    (entered : (session.call env call).machine.state = .authenticated) :
    session.machine.state = .authenticated ∨
      session.machine.state = .authenticating ∧ call.isLoginSuccess = true := by
  change (session.call env call).view.machine.state = .authenticated at entered
  by_contra never
  simp only [not_or, not_and, Bool.not_eq_true] at never
  obtain ⟨elsewhere, unaccepted⟩ := never
  have unsent : session.view.machine.state ≠ .authenticated := elsewhere
  revert entered
  cases call with
  | startWithPassword account password =>
      rcases session.startWithPassword_cases env account password with ⟨_, same⟩ | ⟨free, same⟩
      · simp [AccountSession.call, same, unsent]
      · simp [AccountSession.call, same, AuthStateMachine.startedFor,
          AuthStateMachine.beginOperation]
  | startWithSavedToken account =>
      rcases session.startWithSavedToken_cases env account with
        ⟨_, same⟩ | ⟨tokens, _, _, ⟨same, _⟩ | ⟨free, _, same⟩⟩
      · simp [AccountSession.call, same, unsent]
      · simp [AccountSession.call, same, unsent]
      · simp only [AccountSession.call, same, AuthStateMachine.startedFor,
          AuthStateMachine.beginOperation]
        split <;> simp
  | logout allDevices =>
      rcases session.logout_cases env allDevices with ⟨_, _, same⟩ | ⟨_, same⟩
      · simp [AccountSession.call, same, AuthStateMachine.beginOperation, elsewhere]
      · simp [AccountSession.call, same, AuthStateMachine.onLogoutCompleted_cases]
  | cancel =>
      simp [AccountSession.call, cancel_view, AuthStateMachine.cancelAuthentication_cases]
  | tick =>
      rcases session.tick_cases env with ⟨same, _⟩ | ⟨ready, _⟩
      · simp [AccountSession.call, same, unsent]
      · exact absurd ready elsewhere
  | onConnectResult succeeded =>
      simp only [AccountSession.call]
      rcases session.onConnectResult_cases env synced succeeded with
        ⟨_, _, _, same⟩ | ⟨_, _, ⟨_, same⟩ | ⟨ready, _⟩⟩ |
          ⟨_, _, ⟨_, same⟩ | ⟨_, _, _, same⟩ | ⟨_, _, middle, begun, same⟩ | ⟨waiting, _⟩⟩
      · rw [same]
        simp only [AuthStateMachine.onDisconnected_cases]
        split
        · simp
        · exact elsewhere
      · rw [same]
        exact unsent
      · exact absurd ready elsewhere
      · rw [same]
        exact unsent
      · rw [same]
        exact unsent
      · rw [same]
        exact middle.sendTokenLogin_state env (by rw [begun]; exact unsent)
      · exact absurd waiting settled
  | onDisconnected intentional =>
      obtain ⟨_, _, same⟩ := session.onDisconnected_cases env intentional
      simp only [AccountSession.call, same, AuthStateMachine.onDisconnected_cases]
      split
      · simp
      · exact elsewhere
  | onLoginResult protoResult result requestGeneration =>
      simp only [AccountSession.call, session.onLoginResult_view env synced]
      split
      · split
        · rename_i success
          have other : session.machine.state ≠ .authenticating := fun waiting => by
            simpa [AccountCall.isLoginSuccess, success] using unaccepted waiting
          simp [loginSettled_state, other, elsewhere]
        · rw [loginSettled_state]
          split
          · simp
          · exact elsewhere
      · exact unsent
  | onTokenLoginResult protoResult userId _ requestGeneration =>
      simp only [AccountSession.call, session.onTokenLoginResult_view env synced]
      split
      · rw [loginSettled_state]
        split
        · rename_i waiting
          have failed := unaccepted waiting
          simp only [AccountCall.isLoginSuccess] at failed
          simp [failed]
        · exact elsewhere
      · exact unsent
  | onRefreshResult protoResult result requestGeneration =>
      simp only [AccountSession.call]
      rcases session.onRefreshResult_cases env synced protoResult result requestGeneration with
        ⟨_, same⟩ | ⟨_, ⟨_, same⟩ | ⟨_, _, same⟩ | ⟨_, _, middle, begun, same⟩⟩
      · rw [same]
        exact unsent
      · rw [same, (session.machine.onRefreshFailed_cases _ _).2, if_neg (by simp [settled])]
        exact elsewhere
      · rw [same, (session.machine.onRefreshFailed_cases _ _).2, if_neg (by simp [settled])]
        exact elsewhere
      · have untouched : middle.view.machine = session.machine := by
          rw [begun]
          simp [rotated, view, AuthStateMachine.onRefreshSucceeded_cases, settled]
        rw [same]
        split
        · refine middle.loginOnConnected_state env ?_
          change middle.view.generation = middle.view.machine.generation
          rw [untouched, begun]
          exact synced
        · rw [untouched]
          exact elsewhere
  | onLogoutResult _ requestGeneration =>
      simp only [AccountSession.call, onLogoutResult_view]
      split
      · simp [AuthStateMachine.onLogoutCompleted_cases]
      · exact unsent
  | onKicked _ => simp [AccountSession.call, onKicked_view, AuthStateMachine.onKicked_cases]
  | onReconnectFired =>
      rcases session.onReconnectFired_view with same | ⟨_, same⟩
      · simp [AccountSession.call, same, unsent]
      · simp [AccountSession.call, same, unsent]

def completesLogin : AccountCall → Bool
  | .onLoginResult protoResult result requestGeneration =>
      protoResult = resultSuccess && session.current requestGeneration &&
        env.accepts (TokenManager.sessionPuts (session.resultSession result))
          [keyOf session.account kRefreshReqId]
  | .onTokenLoginResult protoResult _ _ requestGeneration =>
      protoResult = resultSuccess && session.current requestGeneration
  | _ => false

theorem authenticating_authenticated_iff (synced : session.generation = session.machine.generation)
    (waiting : session.machine.state = .authenticating) (call : AccountCall) :
    (session.call env call).machine.state = .authenticated ↔
      session.completesLogin env call = true := by
  constructor
  · intro entered
    rcases session.enters_authenticated env synced (by simp [waiting]) call entered with
      ready | ⟨_, success⟩
    · simp [waiting] at ready
    · change (session.call env call).view.machine.state = .authenticated at entered
      cases call with
      | onLoginResult protoResult result requestGeneration =>
          simp only [AccountCall.isLoginSuccess, decide_eq_true_eq] at success
          have kept := session.tokens.replaceSession_cases env (session.resultSession result)
          simp only [AccountSession.call, session.onLoginResult_view env synced, success,
            if_true] at entered
          split at entered
          · rename_i known
            rw [loginSettled_state, if_pos waiting] at entered
            rcases kept with ⟨_, answered⟩ | ⟨stored, _⟩
            · simp [TokenManager.adopt, answered] at entered
            · have stored : env.accepts (TokenManager.sessionPuts (session.resultSession result))
                  [keyOf session.account kRefreshReqId] = true := stored
              simp [completesLogin, success, known, stored]
          · simp [view, waiting] at entered
      | onTokenLoginResult protoResult userId accessExpireAt requestGeneration =>
          simp only [AccountCall.isLoginSuccess, decide_eq_true_eq] at success
          simp only [AccountSession.call, session.onTokenLoginResult_view env synced] at entered
          split at entered
          · rename_i known
            simp [completesLogin, success, known]
          · simp [view, waiting] at entered
      | _ => simp [AccountCall.isLoginSuccess] at success
  · intro completes
    change (session.call env call).view.machine.state = .authenticated
    cases call with
    | onLoginResult protoResult result requestGeneration =>
        simp only [completesLogin, Bool.and_eq_true, decide_eq_true_eq] at completes
        obtain ⟨⟨success, known⟩, stored⟩ := completes
        have kept := session.tokens.replaceSession_cases env (session.resultSession result)
        rcases kept with ⟨refused, _⟩ | ⟨_, answered⟩
        · exact absurd (refused.symm.trans stored) (by simp)
        · simp only [AccountSession.call, session.onLoginResult_view env synced, known, success,
            if_true, loginSettled_state, if_pos waiting, TokenManager.adopt, answered]
    | onTokenLoginResult protoResult userId accessExpireAt requestGeneration =>
        simp only [completesLogin, Bool.and_eq_true, decide_eq_true_eq] at completes
        simp [AccountSession.call, session.onTokenLoginResult_view env synced, completes,
          loginSettled_state, waiting]
    | _ => simp [completesLogin] at completes

end AccountSession

/-- Whether a call keeps a session without an accepted login out of `authenticated`. -/
def keepsOut (state : Accounted) (input : Surroundings × AccountCall) : Bool :=
  state.accepted || state.session.machine.state ≠ .refreshing ||
    !state.session.fallsBack input.1 input.2

def Accounted.Synced (state : Accounted) : Prop :=
  state.session.generation = state.session.machine.generation

def Accounted.Sound (state : Accounted) : Prop :=
  state.session.machine.state = .authenticated → state.accepted = true

theorem step_sound_iff (state : Accounted) (input : Surroundings × AccountCall)
    (synced : state.Synced) (sound : state.Sound) :
    (state.step input).Sound ↔ keepsOut state input = true := by
  obtain ⟨env, call⟩ := input
  let quiet : AccountSession := { state.session with sent := [] }
  have after : (state.step (env, call)).session = quiet.call env call := rfl
  unfold Accounted.Sound keepsOut
  cases accepted : state.accepted with
  | true =>
      simp only [Bool.true_or, iff_true]
      intro entered
      have stays : (state.step (env, call)).session.isLoggedOut = false := by
        simp [AccountSession.isLoggedOut, entered]
      simp only [Accounted.step] at stays ⊢
      simp [stays, accepted]
  | false =>
      by_cases waiting : state.session.machine.state = .refreshing
      · have exact := quiet.refreshing_authenticated_iff env synced waiting call
        have fallsBack : quiet.fallsBack env call = state.session.fallsBack env call := by
          cases call <;> rfl
        have unaccepted : (state.step (env, call)).accepted = false := by
          simp [Accounted.step, accepted, waiting]
        rw [after, exact, fallsBack, unaccepted]
        simp [waiting]
      · refine iff_of_true (fun entered => ?_) (by simp [waiting])
        rw [after] at entered
        rcases quiet.enters_authenticated env synced waiting call entered with ready | ⟨busy, success⟩
        · exact absurd (sound ready) (by simp [accepted])
        · have stays : (quiet.call env call).isLoggedOut = false := by
            simp [AccountSession.isLoggedOut, entered]
          change (!(quiet.call env call).isLoggedOut && (state.accepted || (call.isLoginSuccess &&
            decide (state.session.machine.state = .authenticating) &&
              decide ((quiet.call env call).machine.state = .authenticated)))) = true
          have busy : state.session.machine.state = .authenticating := busy
          simp [stays, success, busy, entered]

/-- In a run, a session that is authenticated has always had its login accepted exactly when no
refresh of a session without one falls back. -/
theorem authenticated_accepted_iff (deviceId : Bytes) (store : KeyStore)
    (inputs : List (Surroundings × AccountCall)) :
    (∀ front back, front ++ back = inputs →
      let reached := front.foldl Accounted.step ⟨.initial deviceId store, false⟩
      reached.session.machine.state = .authenticated → reached.accepted = true) ↔
      guarded Accounted.step keepsOut ⟨.initial deviceId store, false⟩ inputs = true :=
  prefixes_iff_guarded Accounted.Synced Accounted.Sound
    (fun state input synced => by exact state.session.step_synced synced input)
    step_sound_iff ⟨.initial deviceId store, false⟩ rfl
    (by simp [Accounted.Sound, AccountSession.initial]) inputs

/-- A cold start whose refresh cannot store its request id. -/
theorem coldRefresh_unaccepted :
    let inputs := [
      (surroundingsAt 1000, AccountCall.startWithSavedToken (ascii "alice")),
      (surroundingsAt 1000 false, AccountCall.onConnectResult true)]
    let reached := inputs.foldl Accounted.step
      ⟨.initial (ascii "dev-1") (savedStore (ascii "alice") 999 90000), false⟩
    reached.session.machine.state = .authenticated ∧ reached.accepted = false := by
  decide +kernel

end Jitong
