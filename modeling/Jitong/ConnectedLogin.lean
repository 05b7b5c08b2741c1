import Jitong.AccountView
import Jitong.Lib.Run

/-!
Whether a session that is connected while it authenticates has handed a login of its current
operation to the transport.
-/

namespace Jitong

open Lib

def Sent.isLoginFor (account : Bytes) (generation : UInt32) : Sent → Bool
  | passwordLogin named _ numbered => named = account && numbered = generation
  | tokenLogin named _ _ numbered => named = account && numbered = generation
  | _ => false

structure Operating where
  session : AccountSession
  since : List Sent := []

def Operating.step (state : Operating) (input : Surroundings × AccountCall) : Operating :=
  let after := state.session.step input
  let requests := after.sent.filter Sent.isRequest
  { session := after
    since :=
      if after.machine.generation = state.session.machine.generation then state.since ++ requests
      else requests }

def Operating.hasLogin (state : Operating) : Bool :=
  state.since.any (Sent.isLoginFor state.session.machine.account state.session.machine.generation)

def AuthRequestBuilder.cannotSign (env : Surroundings) (deviceId : Bytes)
    (tokens : TokenSession) : Bool :=
  (buildTokenLogin env deviceId tokens.accessToken tokens.sessionId).isNone

def sendsConnectedLogin (state : Operating) (input : Surroundings × AccountCall) : Bool :=
  let session := state.session
  let tokensMatch := session.tokens.session.account = session.machine.account ||
    AuthRequestBuilder.cannotSign input.1 session.deviceId session.tokens.session
  if input.2 ≠ .onConnectResult true then true
  else
    match session.machine.state, session.reauthenticateAfterReconnect with
    | .authenticating, true => state.hasLogin
    | .authenticating, false => state.hasLogin ||
        if session.machine.authMethod = .accessToken then tokensMatch
        else session.account = session.machine.account
    | .authenticated, true => tokensMatch
    | _, _ => true

def Operating.Sends (state : Operating) (input : Surroundings × AccountCall) : Prop :=
  input.2 = .onConnectResult true → (state.step input).session.machine.state = .authenticating →
    (state.step input).hasLogin = true

theorem Operating.sends_view {state : Operating} {env : Surroundings} {after : SessionView}
    (left : (state.session.step (env, .onConnectResult true)).view = after) :
    state.Sends (env, .onConnectResult true) ↔ (after.machine.state = .authenticating →
      ((if after.machine.generation = state.session.machine.generation then
          state.since ++ after.requests else after.requests).any
        (Sent.isLoginFor after.machine.account after.machine.generation)) = true) := by
  subst left
  exact ⟨fun sends => sends rfl, fun sends _ => sends⟩

theorem Operating.sends_kept {state : Operating} {env : Surroundings} {requests : List Sent}
    (waiting : state.session.machine.state = .authenticating)
    (machine : (state.session.step (env, .onConnectResult true)).view.machine =
      state.session.machine)
    (made : (state.session.step (env, .onConnectResult true)).view.requests = requests) :
    state.Sends (env, .onConnectResult true) ↔ (state.hasLogin || requests.any
      (Sent.isLoginFor state.session.machine.account state.session.machine.generation)) = true := by
  rw [sends_view rfl]
  simp only [machine, made, waiting, if_true, List.any_append, forall_const]
  rfl

namespace AccountSession

variable (env : Surroundings) (session : AccountSession)

theorem sendTokenLogin_login (waiting : session.view.machine.state = .authenticating)
    (synced : session.view.generation = session.view.machine.generation)
    (unsent : session.view.requests = []) (account : Bytes) :
    (AuthRequestBuilder.cannotSign env session.view.deviceId session.view.tokens.session = true ∧
        (session.sendTokenLogin env).view.machine.state = .loggedOut) ∨
      AuthRequestBuilder.cannotSign env session.view.deviceId session.view.tokens.session = false ∧
        (session.sendTokenLogin env).view.machine = session.view.machine ∧
        (session.sendTokenLogin env).view.requests.any
          (Sent.isLoginFor account session.view.machine.generation) =
            decide (session.view.tokens.session.account = account) := by
  unfold AuthRequestBuilder.cannotSign
  rcases session.sendTokenLogin_cases env with ⟨packet, requestId, built, same⟩ | ⟨unbuilt, same⟩
  · rw [same, built]
    exact .inr ⟨rfl, rfl, by simp [unsent, Sent.isLoginFor]⟩
  · rw [same, unbuilt, (session.view.machine.onAuthFailed_cases _ _).2, if_pos ⟨synced, waiting⟩]
    exact .inl ⟨rfl, rfl⟩

theorem sendRefresh_elsewhere (waiting : session.view.machine.state = .refreshing)
    (synced : session.view.generation = session.view.machine.generation) :
    (session.sendRefresh env).view.machine.state ≠ .authenticating := by
  rcases session.sendRefresh_cases env synced with ⟨_, same⟩ | ⟨_, ⟨_, same⟩ | ⟨_, _, same⟩⟩
  · rw [same, (session.view.machine.onRefreshFailed_cases _ _).2]
    simp [waiting, AuthError.revokes]
  · rw [same, (session.view.machine.onRefreshFailed_cases _ _).2]
    simp [waiting, AuthError.revokes]
  · rw [same]
    simp [waiting]

end AccountSession

theorem sends_iff (state : Operating) (input : Surroundings × AccountCall)
    (synced : state.session.generation = state.session.machine.generation) :
    state.Sends input ↔ sendsConnectedLogin state input = true := by
  obtain ⟨env, call⟩ := input
  by_cases connects : call = .onConnectResult true
  · subst connects
    let quiet : AccountSession := { state.session with sent := [] }
    have after : state.session.step (env, .onConnectResult true) =
      quiet.onConnectResult env true := rfl
    have vacuous (left : (quiet.onConnectResult env true).view.machine.state ≠ .authenticating) :
        state.Sends (env, .onConnectResult true) := fun _ entered => absurd entered left
    unfold sendsConnectedLogin
    simp only [ne_eq, not_true_eq_false, if_false]
    rcases quiet.onConnectResult_cases env synced true with
      ⟨failed, _⟩ | ⟨_, flagged, ⟨elsewhere, same⟩ | ⟨ready, middle, begun, same⟩⟩ |
        ⟨_, unflagged, ⟨free, same⟩ | ⟨waiting, method, password, same⟩ |
          ⟨waiting, method, middle, begun, same⟩ | ⟨waiting, middle, begun, same⟩⟩
    · simp at failed
    · have machine : (quiet.onConnectResult env true).view.machine = state.session.machine := by
        rw [same]
        rfl
      have flag : state.session.reauthenticateAfterReconnect = true := flagged
      cases waiting : state.session.machine.state with
      | authenticating =>
          rw [Operating.sends_kept waiting machine (congrArg SessionView.requests same)]
          simp [flag, quiet, AccountSession.view]
      | authenticated => exact absurd waiting elsewhere
      | _ => exact iff_of_true (vacuous (by simp [machine, waiting])) rfl
    · have ready : state.session.machine.state = .authenticated := ready
      have flag : state.session.reauthenticateAfterReconnect = true := flagged
      have answered := middle.sendTokenLogin_login env (by rw [begun]; rfl) (by rw [begun]; rfl)
        (by rw [begun]; rfl) state.session.machine.account
      rw [← same, begun] at answered
      rcases answered with ⟨unsigned, out⟩ | ⟨signed, machine, made⟩
      · have unsigned : AuthRequestBuilder.cannotSign env state.session.deviceId
          state.session.tokens.session = true := unsigned
        exact iff_of_true (vacuous (by simp [out])) (by simp [ready, flag, unsigned])
      · have signed : AuthRequestBuilder.cannotSign env state.session.deviceId
          state.session.tokens.session = false := signed
        have fresh : (quiet.onConnectResult env true).view.machine.generation ≠
            state.session.machine.generation := by
          rw [machine]
          simp [AccountSession.reauthenticating, AccountSession.view,
            AuthStateMachine.beginOperation, quiet]
        rw [Operating.sends_view (congrArg AccountSession.view after), if_neg fresh, machine]
        simp only [ready, flag, signed, Bool.or_false]
        exact ⟨fun sends => made.symm.trans (sends rfl), fun bound _ => made.trans bound⟩
    · have machine : (quiet.onConnectResult env true).view.machine = state.session.machine := by
        rw [same]
        rfl
      have flag : state.session.reauthenticateAfterReconnect = false := unflagged
      have calm : state.session.machine.authenticationInFlight = false := free
      cases waiting : state.session.machine.state with
      | authenticating => simp [AuthStateMachine.authenticationInFlight, waiting] at calm
      | _ => exact iff_of_true (vacuous (by simp [machine, waiting])) (by simp [flag])
    · have flag : state.session.reauthenticateAfterReconnect = false := unflagged
      have waiting : state.session.machine.state = .authenticating := waiting
      have method : state.session.machine.authMethod ≠ .accessToken := method
      rw [Operating.sends_kept waiting (congrArg SessionView.machine same)
        (congrArg SessionView.requests same)]
      simp [waiting, flag, method, quiet, AccountSession.view, Sent.isLoginFor]
    · have waiting : state.session.machine.state = .authenticating := waiting
      have flag : state.session.reauthenticateAfterReconnect = false := unflagged
      have method : state.session.machine.authMethod = .accessToken := method
      have answered := middle.sendTokenLogin_login env (by rw [begun]; exact waiting)
        (by rw [begun]; exact synced) (by rw [begun]; rfl) state.session.machine.account
      rw [← same, begun] at answered
      rcases answered with ⟨unsigned, out⟩ | ⟨signed, machine, made⟩
      · have unsigned : AuthRequestBuilder.cannotSign env state.session.deviceId
          state.session.tokens.session = true := unsigned
        exact iff_of_true (vacuous (by simp [out])) (by simp [waiting, flag, method, unsigned])
      · have signed : AuthRequestBuilder.cannotSign env state.session.deviceId
          state.session.tokens.session = false := signed
        have made : (quiet.onConnectResult env true).view.requests.any (Sent.isLoginFor
            state.session.machine.account state.session.machine.generation) =
              decide (state.session.tokens.session.account = state.session.machine.account) := made
        rw [Operating.sends_kept waiting machine rfl]
        simp only [waiting, flag, method, if_true, signed, Bool.or_false]
        rw [← made]
        rfl
    · have left : (quiet.onConnectResult env true).view.machine.state ≠ .authenticating := by
        rw [same]
        exact middle.sendRefresh_elsewhere env (by rw [begun]; exact waiting)
          (by rw [begun]; exact synced)
      have waiting : state.session.machine.state = .refreshing := waiting
      have flag : state.session.reauthenticateAfterReconnect = false := unflagged
      exact iff_of_true (vacuous left) (by simp [waiting, flag])
  · simp [Operating.Sends, sendsConnectedLogin, connects]

/-- In a run, every connection of a session that then authenticates has its login handed over
exactly when every connection finds the flag and the accounts right. -/
theorem connectedLogin_iff (deviceId : Bytes) (store : KeyStore)
    (inputs : List (Surroundings × AccountCall)) :
    (∀ front input back, front ++ input :: back = inputs →
      let reached := (front ++ [input]).foldl Operating.step
        { session := .initial deviceId store }
      input.2 = .onConnectResult true → reached.session.machine.state = .authenticating →
        ∃ login ∈ reached.since, login.isLoginFor reached.session.machine.account
          reached.session.machine.generation = true) ↔
      guarded Operating.step sendsConnectedLogin { session := .initial deviceId store } inputs =
        true := by
  have exact : (∀ front input back, front ++ input :: back = inputs →
      (front.foldl Operating.step { session := .initial deviceId store }).Sends input) ↔
        guarded Operating.step sendsConnectedLogin { session := .initial deviceId store } inputs =
          true := steps_iff_guarded
    (fun state : Operating => state.session.generation = state.session.machine.generation)
    Operating.Sends
    (fun state input synced => by exact state.session.step_synced synced input)
    sends_iff { session := .initial deviceId store } rfl inputs
  rw [← exact]
  simp only [Operating.Sends, Operating.hasLogin, List.any_eq_true, List.foldl_append,
    List.foldl_cons, List.foldl_nil]

/-- A password login after a lost connection and a cancel: the flag is still up. -/
theorem cancelledReconnect_unsent :
    let env := surroundingsAt 1000000
    let result : AuthResult := {
      userId := 1001
      accessToken := ascii "acc-tok"
      refreshToken := ascii "ref-tok"
      accessExpireAt := 1000900
      refreshExpireAt := 1086400
      sessionId := ascii "sess-abc" }
    let reached := [
      .startWithPassword (ascii "alice") (ascii "pw"), .onConnectResult true,
      .onLoginResult resultSuccess result 1, .onDisconnected false, .cancel,
      .startWithPassword (ascii "alice") (ascii "pw"), .onConnectResult true].foldl
        (fun state call => state.step (env, call))
        ({ session := .initial (ascii "dev-1") {} } : Operating)
    reached.session.machine.state = .authenticating ∧ reached.since = [.connect] := by
  decide +kernel

end Jitong
