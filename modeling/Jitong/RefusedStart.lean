import Jitong.AccountView

/-!
What a start that is refused leaves of the session that was in use.
-/

namespace Jitong

/-- The tokens, the pending refresh, the machine and the account of a session are what they
were, and so are the stored keys of all accounts but one. -/
structure AccountSession.Untouched (before after : AccountSession) (named : Bytes) : Prop where
  session : after.tokens.session = before.tokens.session
  refreshRequestId : after.tokens.refreshRequestId = before.tokens.refreshRequestId
  machine : after.machine = before.machine
  bound : after.account = before.account
  stored : ∀ other ≠ named, ∀ suffix ∈ tokenSuffixes ++ [kRefreshReqId],
    after.tokens.store.values (keyOf other suffix) = before.tokens.store.values (keyOf other suffix)

def refusesUntouched (env : Surroundings) (session : AccountSession) (account : Bytes) : Bool :=
  let tokens := session.tokens
  let blank := tokens.session = { account } ∧ tokens.refreshRequestId = []
  match storedSession tokens.store account with
  | none => blank
  | some saved =>
      let loaded := { tokens with session := saved }
      if loaded.refreshExpired env then blank
      else
        let requestId := storedRequestId tokens.store account
        tokens.session = saved ∧ (requestId = [] ∨ requestId = tokens.refreshRequestId) ∧
          session.account = account ∧
          (session.machine.authenticationInFlight ∨ session.machine.state = .authenticated ∧
            account = session.machine.account ∧ loaded.accessUsable env)

namespace AccountSession

variable (env : Surroundings) (session : AccountSession)

theorem startWithPassword_untouched_iff (account password : Bytes) :
    session.Untouched (session.startWithPassword env account password).2 account ↔
      session.machine.authenticationInFlight = true := by
  rcases session.startWithPassword_cases env account password with ⟨busy, same⟩ | ⟨free, same⟩
  · have tokens := congrArg SessionView.tokens same
    refine iff_of_true ⟨?_, ?_, ?_, ?_, ?_⟩ busy
    · exact congrArg TokenManager.session tokens
    · exact congrArg TokenManager.refreshRequestId tokens
    · exact congrArg SessionView.machine same
    · exact congrArg SessionView.account same
    · intro other _ suffix _
      exact congrArg (fun manager => manager.store.values (keyOf other suffix)) tokens
  · refine iff_of_false ?_ (by simp [free])
    intro kept
    have machine := (congrArg SessionView.machine same).symm.trans kept.machine
    have generation := congrArg AuthStateMachine.generation machine
    simp [AuthStateMachine.startedFor, AuthStateMachine.beginOperation] at generation

theorem startWithSavedToken_untouched_iff (account : Bytes) :
    session.Untouched (session.startWithSavedToken env account).2 account ↔
      refusesUntouched env session account = true := by
  rcases session.startWithSavedToken_cases env account with
    ⟨refused, same⟩ | ⟨tokens, loaded, _, outcome⟩
  · have left := session.tokens.loadFromStore_refused env refused
    have changed : (session.startWithSavedToken env account).2.tokens =
      (session.tokens.loadFromStore env account).2 := congrArg SessionView.tokens same
    have blank : refusesUntouched env session account = true ↔
        session.tokens.session = { account } ∧ session.tokens.refreshRequestId = [] := by
      unfold refusesUntouched
      rcases session.tokens.loadFromStore_cases env account with
        ⟨missing, _⟩ | ⟨saved, stored, ⟨expired, _⟩ | ⟨_, answered⟩⟩
      · simp [missing]
      · simp [stored, expired]
      · simp [answered] at refused
    rw [blank]
    constructor
    · rintro ⟨session, requestId, _, _, _⟩
      rw [changed, left.1] at session
      rw [changed, left.2.1] at requestId
      exact ⟨session.symm, requestId.symm⟩
    · rintro ⟨session, requestId⟩
      refine ⟨?_, ?_, congrArg SessionView.machine same, congrArg SessionView.account same, ?_⟩
      · rw [changed, left.1, session]
      · rw [changed, left.2.1, requestId]
      · rw [changed]
        exact left.2.2
  · rcases session.tokens.loadFromStore_cases env account with
      ⟨_, answered⟩ | ⟨saved, stored, ⟨_, answered⟩ | ⟨fresh, answered⟩⟩
    · simp [answered] at loaded
    · simp [answered] at loaded
    · obtain rfl : { session.tokens with session := saved }.recoverRequest = tokens := by
        simpa [answered] using loaded
      have owner := (TokenManager.storedSession_sound stored).1
      have usable : { session.tokens with session := saved }.recoverRequest.accessUsable env =
          { session.tokens with session := saved }.accessUsable env := by
        simp only [TokenManager.accessUsable, TokenManager.recoverRequest_session]
      have condition : refusesUntouched env session account = true ↔
          session.tokens.session = saved ∧
            (storedRequestId session.tokens.store account = [] ∨
              storedRequestId session.tokens.store account = session.tokens.refreshRequestId) ∧
            session.account = account ∧
            (session.machine.authenticationInFlight = true ∨
              session.machine.state = .authenticated ∧ account = session.machine.account ∧
                { session.tokens with session := saved }.accessUsable env = true) := by
        simp [refusesUntouched, stored, fresh]
      rw [condition]
      simp only [usable] at outcome
      rcases outcome with ⟨same, busy⟩ | ⟨free, unknown, same⟩
      · have changed : (session.startWithSavedToken env account).2.tokens =
          { session.tokens with session := saved }.recoverRequest := congrArg SessionView.tokens same
        have bound : (session.startWithSavedToken env account).2.account = account :=
          congrArg SessionView.account same
        have pending := { session.tokens with session := saved }.recoverRequest_requestId
        simp only [owner] at pending
        constructor
        · rintro ⟨tokens, requestId, _, account, _⟩
          rw [changed, TokenManager.recoverRequest_session] at tokens
          rw [changed, pending] at requestId
          refine ⟨tokens.symm, ?_, account.symm.trans bound, busy⟩
          split at requestId
          · rename_i empty
            exact .inl empty
          · exact .inr requestId
        · rintro ⟨tokens, requestId, account, _⟩
          refine ⟨?_, ?_, congrArg SessionView.machine same, bound.trans account.symm, ?_⟩
          · rw [changed, TokenManager.recoverRequest_session, tokens]
          · rw [changed, pending]
            rcases requestId with empty | known
            · rw [if_pos empty]
            · split
              · rfl
              · exact known
          · intro other _ suffix _
            rw [changed, TokenManager.recoverRequest_store]
      · refine iff_of_false ?_ ?_
        · intro kept
          have machine := (congrArg SessionView.machine same).symm.trans kept.machine
          have generation := congrArg AuthStateMachine.generation machine
          simp [AuthStateMachine.startedFor, AuthStateMachine.beginOperation] at generation
        · rintro ⟨_, _, _, busy | known⟩
          · simp [free] at busy
          · exact unknown known

end AccountSession

/-- A start that is refused leaves the session untouched exactly when, for a password, another
operation is under way, and for saved tokens, what is loaded is there already. -/
theorem refusedStart_untouched_iff (env : Surroundings) (session : AccountSession)
    (account password : Bytes) :
    ((session.startWithPassword env account password).1 = 0 →
      (session.Untouched (session.startWithPassword env account password).2 account ↔
        session.machine.authenticationInFlight = true)) ∧
    ((session.startWithSavedToken env account).1 = 0 →
      (session.Untouched (session.startWithSavedToken env account).2 account ↔
        refusesUntouched env session account = true)) :=
  ⟨fun _ => session.startWithPassword_untouched_iff env account password,
    fun _ => session.startWithSavedToken_untouched_iff env account⟩

/-- While one account logs in, a second one is refused twice with nothing saved for it. -/
theorem refusedStart_untouched_twice :
    let env := surroundingsAt 1000000
    let session := [.startWithPassword (ascii "alice") (ascii "alice-pw"),
        .startWithSavedToken (ascii "bob")].foldl
      (fun state call => state.step (env, call)) (AccountSession.initial (ascii "dev-1") {})
    session.Untouched (session.startWithPassword env (ascii "bob") (ascii "bob-pw")).2
        (ascii "bob") ∧
      session.Untouched (session.startWithSavedToken env (ascii "bob")).2 (ascii "bob") := by
  intro env session
  have refused := refusedStart_untouched_iff env session (ascii "bob") (ascii "bob-pw")
  have password : (session.startWithPassword env (ascii "bob") (ascii "bob-pw")).1 = 0 := by
    decide +kernel
  have saved : (session.startWithSavedToken env (ascii "bob")).1 = 0 := by decide +kernel
  exact ⟨(refused.1 password).mpr (by decide +kernel), (refused.2 saved).mpr (by decide +kernel)⟩

/-- A second account without saved tokens, tried while the first is logged in. -/
theorem refusedStart_wipes :
    let env := surroundingsAt 1000000
    let result : AuthResult := {
      userId := 1001
      accessToken := ascii "acc-tok"
      refreshToken := ascii "ref-tok"
      accessExpireAt := 1000900
      refreshExpireAt := 1086400
      sessionId := ascii "sess-abc" }
    let session := [.startWithPassword (ascii "alice") (ascii "pw"), .onConnectResult true,
        .onLoginResult resultSuccess result 1].foldl
      (fun state call => state.step (env, call)) (AccountSession.initial (ascii "dev-1") {})
    let started := session.startWithSavedToken env (ascii "bob")
    session.machine.state = .authenticated ∧ session.tokens.session.valid = true ∧
      started.1 = 0 ∧ started.2.machine = session.machine ∧
      started.2.tokens.session = { account := ascii "bob" } := by
  decide +kernel

end Jitong
