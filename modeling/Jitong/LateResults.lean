import Jitong.AccountView
import Jitong.Lib.Run

/-!
What the result of a login or of a refresh does to the credentials of a session that was
kicked, logged out, cancelled or disconnected and has not been started again.
-/

namespace Jitong

open Lib

def writesTokens (change : List (Bytes × Bytes) × List Bytes) : Bool :=
  change.1.any fun put => tokenSuffixes.any fun suffix => (0x3A :: suffix).isSuffixOf put.1

def TokenManager.credentials (manager : TokenManager) :
    TokenSession × List (List (Bytes × Bytes) × List Bytes) :=
  (manager.session, manager.store.applied.filter writesTokens)

def AccountCall.isStart : AccountCall → Bool
  | startWithPassword .. | startWithSavedToken _ => true
  | _ => false

def AccountCall.isResult : AccountCall → Bool
  | onLoginResult .. | onTokenLoginResult .. | onRefreshResult .. => true
  | _ => false

namespace AccountSession

variable (env : Surroundings) (session : AccountSession)

def abandons : AccountCall → Bool
  | .onKicked _ | .cancel => true
  | .onLogoutResult _ requestGeneration => session.current requestGeneration
  | .logout allDevices => (AuthRequestBuilder.buildLogout env session.deviceId
      session.tokens.session.refreshToken allDevices).isNone
  | .onDisconnected intentional => session.machine.dropsLogin intentional
  | .onConnectResult succeeded => !succeeded && session.machine.dropsLogin false
  | _ => false

def sparesCredentials : AccountCall → Bool
  | .onLoginResult protoResult result requestGeneration =>
      !session.current requestGeneration || protoResult ≠ resultSuccess ||
        !env.accepts (TokenManager.sessionPuts (session.resultSession result))
          [keyOf session.account kRefreshReqId]
  | .onRefreshResult protoResult result requestGeneration =>
      let rotated := session.tokens.rotatedSession result.accessToken result.refreshToken
        result.accessExpireAt result.refreshExpireAt result.sessionId
      !session.current requestGeneration ||
        if protoResult = resultSuccess then
          !env.accepts (TokenManager.sessionPuts rotated) [keyOf rotated.account kRefreshReqId]
        else session.tokens.session = { account := session.tokens.session.account }
  | _ => true

end AccountSession

structure Abandonable where
  session : AccountSession
  abandoned : Bool := false

def Abandonable.step (state : Abandonable) (input : Surroundings × AccountCall) : Abandonable where
  session := state.session.step input
  abandoned := !input.2.isStart &&
    (state.abandoned || state.session.abandons input.1 input.2)

def sparesAbandoned (state : Abandonable) (input : Surroundings × AccountCall) : Bool :=
  !state.abandoned || !input.2.isResult || state.session.sparesCredentials input.1 input.2

namespace TokenManager

variable (env : Surroundings) (manager : TokenManager)

theorem sessionPuts_writesTokens (session : TokenSession) (removes : List Bytes) :
    writesTokens (sessionPuts session, removes) = true := by
  have ends : (0x3A :: kAccess).isSuffixOf (keyOf session.account kAccess) = true :=
    List.isSuffixOf_iff_suffix.mpr ⟨ascii "tok:" ++ session.account, rfl⟩
  simp [writesTokens, sessionPuts, tokenSuffixes, ends]

theorem replaceSession_credentials (session : TokenSession) :
    (manager.replaceSession env session).2.credentials = manager.credentials ↔
      env.accepts (sessionPuts session) [keyOf session.account kRefreshReqId] = false := by
  rcases manager.replaceSession_cases env session with ⟨refused, answered⟩ | ⟨taken, answered⟩
  · simp [answered, refused]
  · have written := sessionPuts_writesTokens session [keyOf session.account kRefreshReqId]
    simp [answered, taken, credentials, KeyStore.apply, List.filter_append, written]

theorem revokeFamily_credentials :
    (manager.revokeFamily env).2.credentials = manager.credentials ↔
      manager.session = { account := manager.session.account } := by
  have unwritten (removes : List Bytes) : writesTokens ([], removes) = false := rfl
  rw [revokeFamily_eq]
  simp only [credentials, changedStore, Prod.mk.injEq]
  split
  · simp [KeyStore.apply, List.filter_append, unwritten, eq_comm]
  · simp [eq_comm]

end TokenManager

namespace AccountSession

variable (env : Surroundings) (session : AccountSession)

theorem loginOnConnected_tokens (synced : session.generation = session.machine.generation) :
    (session.loginOnConnected env).view.tokens = session.tokens := by
  rcases session.loginOnConnected_cases env synced with ⟨_, same⟩ | ⟨_, middle, begun, same⟩
  · rw [same]
    rfl
  · have kept : middle.view.tokens = session.tokens := by
      rw [begun]
      rfl
    rcases middle.sendTokenLogin_cases env with ⟨_, _, _, sent⟩ | ⟨_, failed⟩
    · rw [same, sent]
      exact kept
    · rw [same, failed]
      exact kept

theorem call_credentials_iff (synced : session.generation = session.machine.generation)
    (call : AccountCall) (answers : call.isResult = true) :
    (session.call env call).tokens.credentials = session.tokens.credentials ↔
      session.sparesCredentials env call = true := by
  change (session.call env call).view.tokens.credentials = _ ↔ _
  cases call with
  | onLoginResult protoResult result requestGeneration =>
      simp only [AccountSession.call, session.onLoginResult_view env synced, sparesCredentials]
      cases session.current requestGeneration with
      | false => simp [view]
      | true =>
          by_cases success : protoResult = resultSuccess
          · have exact := session.tokens.replaceSession_credentials env (session.resultSession result)
            simpa [success, loginSettled_tokens, TokenManager.adopt, resultSession] using exact
          · simp [success, loginSettled_tokens]
  | onTokenLoginResult protoResult userId _ requestGeneration =>
      simp only [AccountSession.call, session.onTokenLoginResult_view env synced, sparesCredentials,
        iff_true]
      split
      · rw [loginSettled_tokens]
      · rfl
  | onRefreshResult protoResult result requestGeneration =>
      simp only [AccountSession.call, sparesCredentials]
      have exact := session.tokens.replaceSession_credentials env
        (session.tokens.rotatedSession result.accessToken result.refreshToken
          result.accessExpireAt result.refreshExpireAt result.sessionId)
      rcases session.onRefreshResult_cases env synced protoResult result requestGeneration with
        ⟨stale, same⟩ | ⟨known, ⟨refused, same⟩ | ⟨success, failed, same⟩ |
          ⟨success, taken, middle, begun, same⟩⟩
      · rw [same]
        simp [stale, view]
      · rw [same]
        simpa [known, refused] using session.tokens.revokeFamily_credentials env
      · rw [same]
        simpa [known, success, rotation, TokenManager.rotate] using exact
      · have rotated : (session.onRefreshResult env protoResult result requestGeneration).view.tokens =
            (session.rotation env result).2 := by
          have fresh := session.rotated_synced synced begun
          have kept : middle.view.tokens = (session.rotation env result).2 := by
            rw [begun]
            rfl
          rw [same]
          split
          · rw [middle.loginOnConnected_tokens env fresh]
            exact kept
          · exact kept
        rw [rotated]
        simpa [known, success, rotation, TokenManager.rotate] using exact
  | _ => simp [AccountCall.isResult] at answers

end AccountSession

/-- In a run, no result that comes after a session was abandoned and before it is started again
changes its credentials exactly when every such result is one that spares them. -/
theorem abandoned_credentials_iff (deviceId : Bytes) (store : KeyStore)
    (inputs : List (Surroundings × AccountCall)) :
    (∀ front input back, front ++ input :: back = inputs →
      let reached := front.foldl Abandonable.step { session := .initial deviceId store }
      reached.abandoned = true → input.2.isResult = true →
        (reached.step input).session.tokens.credentials =
          reached.session.tokens.credentials) ↔
      guarded Abandonable.step sparesAbandoned { session := .initial deviceId store } inputs =
        true := by
  refine steps_iff_guarded
    (fun state : Abandonable => state.session.generation = state.session.machine.generation)
    (fun state input => state.abandoned = true → input.2.isResult = true →
      (state.step input).session.tokens.credentials = state.session.tokens.credentials)
    ?_ ?_ { session := .initial deviceId store } rfl inputs
  · intro state input synced
    exact state.session.step_synced synced input
  · intro state input synced
    have exact := AccountSession.call_credentials_iff input.1 { state.session with sent := [] }
      synced input.2
    unfold sparesAbandoned
    cases abandoned : state.abandoned with
    | false => simp
    | true =>
        cases result : input.2.isResult with
        | false => simp
        | true =>
            have spares : AccountSession.sparesCredentials input.1 { state.session with sent := [] }
                input.2 = state.session.sparesCredentials input.1 input.2 := by
              cases input.2 <;> rfl
            rw [spares] at exact
            simp only [forall_const, Bool.not_true, Bool.false_or]
            exact exact result

/-- A login whose answer comes after a kick, a logout, a cancel or a lost connection, with the
generation of the login or with none. -/
theorem lateLogin_resurrects :
    let env := surroundingsAt 1000000
    let result : AuthResult := {
      userId := 1001
      accessToken := ascii "acc-tok"
      refreshToken := ascii "ref-tok"
      accessExpireAt := 1000900
      refreshExpireAt := 1086400
      sessionId := ascii "sess-abc" }
    let login : List AccountCall := [
      .startWithPassword (ascii "alice") (ascii "pw"), .onConnectResult true]
    ∀ late ∈ [([AccountCall.onKicked 0], (1 : UInt32)), ([.onDisconnected false], 1),
        ([.cancel], 0), ([.logout false, .onLogoutResult 0 2], 0)],
      let reached := (login ++ late.1).foldl (fun state call => state.step (env, call))
        ({ session := .initial (ascii "dev-1") {} } : Abandonable)
      let after := reached.step (env, .onLoginResult resultSuccess result late.2)
      reached.abandoned = true ∧ reached.session.tokens.session.valid = false ∧
        after.session.tokens.session.valid = true ∧
        after.session.tokens.store.values (keyOf (ascii "alice") kAccess) =
          some (ascii "acc-tok") := by
  decide +kernel

end Jitong
