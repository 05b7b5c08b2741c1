import Jitong.AcceptedLogins
import Jitong.TokenService

/-!
The bearer token and the device id of the client's HTTP requests. `ClientCore.cpp` keeps a copy of
the access token for them, beside the one of the token manager.
-/

namespace Jitong

open Lib

/-- An `AccountSession` and the two fields of its `ClientCore` that `mediaHttpRequest`, `uploadMedia`
and `downloadMedia` send. -/
structure MediaClient where
  session : AccountSession
  deviceId : Bytes
  accessToken : Bytes := []

namespace MediaClient

/-- What `onLoginRs` and `onRefreshTokenRs` make of the copy; `onTokenLoginRs` leaves it. -/
def copied (client : MediaClient) : AccountCall → Bytes
  | .onLoginResult protoResult result _ =>
      if protoResult = resultSuccess then result.accessToken else client.accessToken
  | .onRefreshResult protoResult result _ =>
      if protoResult = resultSuccess ∧ result.accessToken ≠ [] then result.accessToken
      else client.accessToken
  | _ => client.accessToken

def step (client : MediaClient) (input : Surroundings × AccountCall) : MediaClient :=
  { client with
    session := client.session.step input
    accessToken := client.copied input.2 }

/-- The `Authorization` and `X-Device-Id` of a request; without a token none is made. -/
def credentials (client : MediaClient) : Option (Bytes × Bytes) :=
  if client.accessToken = [] then none
  else some (ascii "Bearer " ++ client.accessToken, client.deviceId)

end MediaClient

def authenticate (crypto : Crypto) (now : Int) (service : TokenService)
    (authHeader deviceId : Bytes) : Option (Int32 × Bytes) :=
  let kPrefix := ascii "Bearer "
  if authHeader.length ≤ kPrefix.length ∨ authHeader.take kPrefix.length ≠ kPrefix then none
  else if deviceId = [] ∨ 128 < deviceId.length then none
  else
    (service.validateAccess crypto now (authHeader.drop kPrefix.length) [] deviceId).map fun accepted =>
      (accepted.1, deviceId)

def AccountCall.bringsTokens : AccountCall → Bool
  | .onLoginResult .. | .onRefreshResult .. | .startWithSavedToken _ => true
  | _ => false

namespace MediaClient

-- `issuedTo` is the device id that the server issued an access token to.
variable (issuedTo : Bytes → Bytes)

def Carries (client : MediaClient) : Prop :=
  client.accessToken = client.session.tokens.session.accessToken ∧
    client.deviceId = issuedTo client.session.tokens.session.accessToken

instance (client : MediaClient) : Decidable (client.Carries issuedTo) :=
  inferInstanceAs (Decidable (_ ∧ _))

def Sound (client : MediaClient) : Prop :=
  client.session.machine.state = .authenticated → client.Carries issuedTo

def AcceptedWhileLive (client : MediaClient) : Prop :=
  ∀ (crypto : Crypto) (now : Int) (service : TokenService) (record : AuthSessionRecord),
    client.session.tokens.session.accessToken ≠ [] →
    client.deviceId ≠ [] ∧ client.deviceId.length ≤ 128 →
    service.db.findByAccessHash
      (crypto.tokenHash client.session.tokens.session.accessToken) = some record →
    record.deviceId.bytes = issuedTo client.session.tokens.session.accessToken →
    record.revoked = false ∧ now < record.accessExpiresAt →
    ∃ header, client.credentials = some header ∧
      authenticate crypto now service header.1 header.2 = some (record.userId, client.deviceId)

/-- Whether a call keeps the requests of an authenticated account on its credentials. A token login
is accepted, or a refresh falls back, only where they were right before; a login or a refresh that is
taken was stored and its token issued to the device of the core; and in `authenticated` no late or
unstored answer changes the copy alone, and no refused refresh or refused start the session alone. -/
def keepsCredentials (client : MediaClient) (input : Surroundings × AccountCall) : Bool :=
  let (env, call) := input
  let session := client.session
  let token := session.tokens.session.accessToken
  match call with
  | .onLoginResult protoResult result requestGeneration =>
      let stored := env.accepts (TokenManager.sessionPuts (session.resultSession result))
        [keyOf session.account kRefreshReqId]
      let taken := session.current requestGeneration && stored
      protoResult ≠ resultSuccess ||
        match session.machine.state with
        | .authenticating => !taken || client.deviceId = issuedTo result.accessToken
        | .authenticated =>
            if taken then client.deviceId = issuedTo result.accessToken
            else result.accessToken = token
        | _ => true
  | .onRefreshResult protoResult result requestGeneration =>
      let rotated := session.tokens.rotatedSession result.accessToken result.refreshToken
        result.accessExpireAt result.refreshExpireAt result.sessionId
      let stored := env.accepts (TokenManager.sessionPuts rotated) [keyOf rotated.account kRefreshReqId]
      let fits := (result.accessToken ≠ [] || client.accessToken = []) &&
        client.deviceId = issuedTo result.accessToken
      match session.machine.state with
      | .refreshing =>
          protoResult ≠ resultSuccess || !session.current requestGeneration ||
            if stored then session.tokenLoginAfterRefresh || fits
            else client.copied call = token && client.deviceId = issuedTo token
      | .authenticated =>
          if protoResult ≠ resultSuccess then !session.current requestGeneration || token = []
          else if session.current requestGeneration && stored then
            session.tokenLoginAfterRefresh || fits
          else client.copied call = token
      | _ => true
  | .startWithSavedToken account =>
      session.machine.state ≠ .authenticated ||
        match storedSession session.tokens.store account with
        | none => token = []
        | some saved =>
            let loaded := { session.tokens with session := saved }
            if loaded.refreshExpired env then token = []
            else account ≠ session.machine.account || !loaded.accessUsable env ||
              saved.accessToken = token
  | .onTokenLoginResult .. =>
      session.machine.state ≠ .authenticating || !session.completesLogin env call ||
        client.Carries issuedTo
  | .onConnectResult _ =>
      session.machine.state ≠ .refreshing || !session.fallsBack env call || client.Carries issuedTo
  | _ => true

end MediaClient

namespace AccountSession

variable (env : Surroundings) (session : AccountSession)

theorem sendRefresh_session (synced : session.view.generation = session.view.machine.generation)
    (waiting : session.view.machine.state = .refreshing)
    (ready : (session.sendRefresh env).view.machine.state = .authenticated) :
    (session.sendRefresh env).view.tokens.session = session.view.tokens.session := by
  have kept := session.view.tokens.beginRefresh_session env
  rcases session.sendRefresh_cases env synced with ⟨_, same⟩ | ⟨_, ⟨_, same⟩ | ⟨_, _, same⟩⟩
  · rw [same]
    exact kept
  · rw [same, (session.view.machine.onRefreshFailed_cases _ _).2] at ready
    simp [waiting, AuthError.revokes] at ready
  · rw [same]
    exact kept

theorem keeps_session (synced : session.generation = session.machine.generation)
    (call : AccountCall)
    (other : call.bringsTokens = false)
    (ready : (session.call env call).view.machine.state = .authenticated) :
    (session.call env call).view.tokens.session = session.view.tokens.session := by
  cases call with
  | startWithPassword account password =>
      rcases session.startWithPassword_cases env account password with ⟨_, same⟩ | ⟨_, same⟩
      · rw [AccountSession.call, same]
      · rw [AccountSession.call, same]
  | startWithSavedToken account => simp [AccountCall.bringsTokens] at other
  | logout allDevices =>
      rcases session.logout_cases env allDevices with ⟨_, _, same⟩ | ⟨_, same⟩
      · rw [AccountSession.call, same]
      · simp [AccountSession.call, same, AuthStateMachine.onLogoutCompleted_cases] at ready
  | cancel =>
      simp [AccountSession.call, cancel_view, AuthStateMachine.cancelAuthentication_cases] at ready
  | tick =>
      rcases session.tick_cases env with ⟨same, _⟩ | ⟨_, _, _, middle, begun, same⟩
      · rw [AccountSession.call, same]
      · rw [AccountSession.call, same] at ready ⊢
        rw [middle.sendRefresh_session env (by rw [begun]; rfl) (by rw [begun]; rfl) ready, begun]
        rfl
  | onConnectResult succeeded =>
      simp only [AccountSession.call] at ready ⊢
      rcases session.onConnectResult_cases env synced succeeded with
        ⟨_, _, _, same⟩ | ⟨_, _, ⟨_, same⟩ | ⟨_, middle, begun, same⟩⟩ |
          ⟨_, _, ⟨_, same⟩ | ⟨_, _, _, same⟩ | ⟨_, _, middle, begun, same⟩ |
            ⟨waiting, middle, begun, same⟩⟩
      · rw [same]
      · rw [same]
      · rw [same, sendTokenLogin_tokens, begun]
        rfl
      · rw [same]
      · rw [same]
      · rw [same, sendTokenLogin_tokens, begun]
      · rw [same] at ready ⊢
        rw [middle.sendRefresh_session env (by rw [begun]; exact synced)
          (by rw [begun]; exact waiting) ready, begun]
  | onDisconnected intentional =>
      obtain ⟨_, _, same⟩ := session.onDisconnected_cases env intentional
      rw [AccountSession.call, same]
  | onLoginResult protoResult result requestGeneration => simp [AccountCall.bringsTokens] at other
  | onTokenLoginResult protoResult userId accessExpireAt requestGeneration =>
      rw [AccountSession.call, session.onTokenLoginResult_view env synced]
      split
      · rw [loginSettled_tokens]
        rfl
      · rfl
  | onRefreshResult protoResult result requestGeneration => simp [AccountCall.bringsTokens] at other
  | onLogoutResult protoResult requestGeneration =>
      rw [AccountSession.call, onLogoutResult_view] at ready ⊢
      split at ready
      · simp [AuthStateMachine.onLogoutCompleted_cases] at ready
      · rename_i stale
        rw [if_neg stale]
  | onKicked reason =>
      simp [AccountSession.call, onKicked_view, AuthStateMachine.onKicked_cases] at ready
  | onReconnectFired =>
      rcases session.onReconnectFired_view with same | ⟨_, same⟩
      · rw [AccountSession.call, same]
      · rw [AccountSession.call, same]

theorem authenticated_from (synced : session.generation = session.machine.generation)
    (call : AccountCall) (ready : (session.call env call).machine.state = .authenticated) :
    session.machine.state = .authenticated ∨
      session.machine.state = .authenticating ∧ session.completesLogin env call = true ∨
      session.machine.state = .refreshing ∧ session.fallsBack env call = true := by
  by_cases waiting : session.machine.state = .refreshing
  · exact .inr (.inr ⟨waiting,
      (session.refreshing_authenticated_iff env synced waiting call).mp ready⟩)
  · rcases session.enters_authenticated env synced waiting call ready with already | ⟨busy, _⟩
    · exact .inl already
    · exact .inr (.inl ⟨busy,
        (session.authenticating_authenticated_iff env synced busy call).mp ready⟩)

end AccountSession

namespace MediaClient

variable (issuedTo : Bytes → Bytes)

theorem otherGuard_iff (client : MediaClient) (env : Surroundings) (call : AccountCall)
    (other : call.bringsTokens = false) :
    client.keepsCredentials issuedTo (env, call) = true ↔
      (client.session.machine.state = .authenticating ∧
          client.session.completesLogin env call = true ∨
        client.session.machine.state = .refreshing ∧ client.session.fallsBack env call = true →
          client.Carries issuedTo) := by
  cases call with
  | startWithSavedToken account => simp [AccountCall.bringsTokens] at other
  | onLoginResult protoResult result requestGeneration => simp [AccountCall.bringsTokens] at other
  | onRefreshResult protoResult result requestGeneration => simp [AccountCall.bringsTokens] at other
  | onTokenLoginResult protoResult userId accessExpireAt requestGeneration =>
      have never : client.session.fallsBack env (.onTokenLoginResult protoResult userId accessExpireAt
        requestGeneration) = false := rfl
      simp only [keepsCredentials, never, Bool.or_eq_true, Bool.not_eq_true', decide_eq_true_eq]
      cases client.session.completesLogin env (.onTokenLoginResult protoResult userId accessExpireAt
        requestGeneration) <;> (simp; try tauto)
  | onConnectResult succeeded =>
      have never : client.session.completesLogin env (.onConnectResult succeeded) = false := rfl
      simp only [keepsCredentials, never, Bool.or_eq_true, Bool.not_eq_true', decide_eq_true_eq]
      cases client.session.fallsBack env (.onConnectResult succeeded) <;> (simp; try tauto)
  | _ => simp [keepsCredentials, AccountSession.completesLogin, AccountSession.fallsBack]

theorem otherStep_sound_iff (client : MediaClient) (env : Surroundings) (call : AccountCall)
    (synced : client.session.generation = client.session.machine.generation)
    (sound : client.Sound issuedTo) (other : call.bringsTokens = false) :
    (client.step (env, call)).Sound issuedTo ↔
      client.keepsCredentials issuedTo (env, call) = true := by
  let quiet : AccountSession := { client.session with sent := [] }
  have kept := quiet.keeps_session env synced call other
  have source := quiet.authenticated_from env synced call
  have copy : client.copied call = client.accessToken := by
    cases call <;> simp [AccountCall.bringsTokens] at other <;> rfl
  have completes : quiet.completesLogin env call = client.session.completesLogin env call := by
    cases call <;> rfl
  have falls : quiet.fallsBack env call = client.session.fallsBack env call := by
    cases call <;> rfl
  have carries (ready : (quiet.call env call).machine.state = .authenticated) :
      (client.step (env, call)).Carries issuedTo ↔ client.Carries issuedTo := by
    have same : (client.step (env, call)).session.tokens.session = client.session.tokens.session :=
      kept ready
    have copied : (client.step (env, call)).accessToken = client.accessToken := copy
    have device : (client.step (env, call)).deviceId = client.deviceId := rfl
    simp only [Carries, same, copied, device]
  rw [otherGuard_iff issuedTo client env call other]
  constructor
  · intro after enters
    have ready : (quiet.call env call).machine.state = .authenticated := by
      rcases enters with ⟨waiting, success⟩ | ⟨waiting, back⟩
      · exact (quiet.authenticating_authenticated_iff env synced waiting call).mpr
          (completes.trans success)
      · exact (quiet.refreshing_authenticated_iff env synced waiting call).mpr (falls.trans back)
    exact (carries ready).mp (after ready)
  · intro allowed ready
    refine (carries ready).mpr ?_
    rcases source ready with already | ⟨waiting, success⟩ | ⟨waiting, back⟩
    · exact sound already
    · exact allowed (.inl ⟨waiting, completes.symm.trans success⟩)
    · exact allowed (.inr ⟨waiting, falls.symm.trans back⟩)

theorem step_sound_iff_view (client : MediaClient) (env : Surroundings) (call : AccountCall) :
    (client.step (env, call)).Sound issuedTo ↔
      let after := (AccountSession.call env { client.session with sent := [] } call).view
      after.machine.state = .authenticated →
        client.copied call = after.tokens.session.accessToken ∧
          client.deviceId = issuedTo after.tokens.session.accessToken := Iff.rfl

theorem loginStep_sound_iff (client : MediaClient) (env : Surroundings) (protoResult : Int32)
    (result : AuthResult) (requestGeneration : UInt32)
    (synced : client.session.generation = client.session.machine.generation)
    (sound : client.Sound issuedTo) :
    (client.step (env, .onLoginResult protoResult result requestGeneration)).Sound issuedTo ↔
      client.keepsCredentials issuedTo
        (env, .onLoginResult protoResult result requestGeneration) = true := by
  let quiet : AccountSession := { client.session with sent := [] }
  have after := quiet.onLoginResult_view env synced protoResult result requestGeneration
  have kept := quiet.tokens.replaceSession_cases env (quiet.resultSession result)
  rw [step_sound_iff_view]
  simp only [AccountSession.call, keepsCredentials, copied]
  rw [after]
  have known : quiet.current requestGeneration = client.session.current requestGeneration := rfl
  have state : quiet.machine.state = client.session.machine.state := rfl
  by_cases success : protoResult = resultSuccess
  · cases current : client.session.current requestGeneration with
    | false =>
        rw [current] at known
        simp only [known, Bool.false_eq_true, if_false, success, if_true, Bool.false_and]
        have same : quiet.view.machine = client.session.machine := rfl
        have tokens : quiet.view.tokens = client.session.tokens := rfl
        rw [same, tokens]
        cases reached : client.session.machine.state with
        | authenticated => simp [(sound reached).2]
        | _ => simp
    | true =>
        rw [current] at known
        simp only [known, if_true, success, AccountSession.loginSettled_state,
          AccountSession.loginSettled_tokens, TokenManager.adopt, state]
        rcases kept with ⟨refused, answered⟩ | ⟨stored, answered⟩
        · have refused : env.accepts (TokenManager.sessionPuts (client.session.resultSession result))
              [keyOf client.session.account kRefreshReqId] = false := refused
          rw [answered, refused]
          cases reached : client.session.machine.state with
          | authenticated =>
              have tokens : quiet.tokens = client.session.tokens := rfl
              simp [tokens, (sound reached).2]
          | _ => simp
        · have stored : env.accepts (TokenManager.sessionPuts (client.session.resultSession result))
              [keyOf client.session.account kRefreshReqId] = true := stored
          rw [answered, stored]
          cases client.session.machine.state <;> simp [AccountSession.resultSession]
  · refine iff_of_true ?_ (by simp [success])
    simp only [success, if_false]
    intro ready
    have before : client.session.machine.state = .authenticated := by
      split at ready
      · rw [AccountSession.loginSettled_state, state] at ready
        split at ready
        · simp at ready
        · exact ready
      · exact ready
    have tokens : (if quiet.current requestGeneration = true then
        quiet.loginSettled quiet.tokens false else quiet.view).tokens = client.session.tokens := by
      split
      · exact AccountSession.loginSettled_tokens _ _ _
      · rfl
    rw [tokens]
    exact sound before

theorem refreshStep_sound_iff (client : MediaClient) (env : Surroundings) (protoResult : Int32)
    (result : AuthResult) (requestGeneration : UInt32)
    (synced : client.session.generation = client.session.machine.generation)
    (sound : client.Sound issuedTo) :
    (client.step (env, .onRefreshResult protoResult result requestGeneration)).Sound issuedTo ↔
      client.keepsCredentials issuedTo
        (env, .onRefreshResult protoResult result requestGeneration) = true := by
  let quiet : AccountSession := { client.session with sent := [] }
  have cases := quiet.onRefreshResult_cases env synced protoResult result requestGeneration
  have kept := quiet.tokens.replaceSession_cases env (quiet.tokens.rotatedSession result.accessToken
    result.refreshToken result.accessExpireAt result.refreshExpireAt result.sessionId)
  have known : quiet.current requestGeneration = client.session.current requestGeneration := rfl
  have state : quiet.machine.state = client.session.machine.state := rfl
  rw [step_sound_iff_view]
  simp only [AccountSession.call, keepsCredentials]
  rcases cases with
    ⟨stale, same⟩ | ⟨current, ⟨refused, same⟩ | ⟨success, failed, same⟩ |
      ⟨success, taken, middle, begun, same⟩⟩
  · rw [same, ← known, stale]
    change (client.session.machine.state = .authenticated → _ = client.session.tokens.session.accessToken
      ∧ client.deviceId = issuedTo client.session.tokens.session.accessToken) ↔ _
    cases reached : client.session.machine.state with
    | authenticated =>
        obtain ⟨copy, fits⟩ := sound reached
        by_cases success : protoResult = resultSuccess
        · simp [success, fits]
        · simp [success, copied, copy, fits]
    | _ => simp
  · rw [same, ← known, current]
    simp only [refused, ne_eq, not_false_eq_true, decide_true, Bool.true_or, if_true, copied,
      false_and, if_false, TokenManager.revokeFamily_eq, state,
      (quiet.machine.onRefreshFailed_cases _ _).2, true_and]
    cases reached : client.session.machine.state with
    | authenticated =>
        obtain ⟨copy, fits⟩ := sound reached
        have ready : quiet.machine.state = .authenticated := state.trans reached
        simp only [ready, reduceCtorEq, if_false, forall_const, copy, fits, Bool.not_true,
          Bool.false_or, decide_eq_true_eq]
        constructor
        · rintro ⟨empty, _⟩
          exact empty
        · intro empty
          exact ⟨empty, by rw [empty]⟩
    | _ => simp [state, reached, AuthError.revokes]
  · have failed : env.accepts (TokenManager.sessionPuts (client.session.tokens.rotatedSession
        result.accessToken result.refreshToken result.accessExpireAt result.refreshExpireAt
        result.sessionId)) [keyOf (client.session.tokens.rotatedSession result.accessToken
        result.refreshToken result.accessExpireAt result.refreshExpireAt result.sessionId).account
        kRefreshReqId] = false ∧ (quiet.rotation env result).2 = client.session.tokens := by
      rcases kept with ⟨unstored, answered⟩ | ⟨_, answered⟩
      · exact ⟨unstored, congrArg Prod.snd answered⟩
      · simp [AccountSession.rotation, TokenManager.rotate, answered] at failed
    rw [same, ← known, current, failed.1, failed.2, (quiet.machine.onRefreshFailed_cases _ _).2]
    cases reached : client.session.machine.state with
    | authenticated =>
        obtain ⟨copy, fits⟩ := sound reached
        simp [state, reached, success, fits]
    | refreshing => simp [success, AuthError.revokes]
    | _ => simp [state, reached]
  · have taken : env.accepts (TokenManager.sessionPuts (client.session.tokens.rotatedSession
        result.accessToken result.refreshToken result.accessExpireAt result.refreshExpireAt
        result.sessionId)) [keyOf (client.session.tokens.rotatedSession result.accessToken
        result.refreshToken result.accessExpireAt result.refreshExpireAt result.sessionId).account
        kRefreshReqId] = true ∧
          (quiet.rotation env result).2.session.accessToken = result.accessToken := by
      rcases kept with ⟨_, answered⟩ | ⟨stored, answered⟩
      · simp [AccountSession.rotation, TokenManager.rotate, answered] at taken
      · refine ⟨stored, ?_⟩
        simp only [AccountSession.rotation, TokenManager.rotate, answered]
        rfl
    have follows : quiet.tokenLoginAfterRefresh = client.session.tokenLoginAfterRefresh := rfl
    rw [same, ← known, current, taken.1, ← follows]
    cases follow : quiet.tokenLoginAfterRefresh with
    | true =>
        have left := middle.loginOnConnected_state env (quiet.rotated_synced synced begun)
        simp only [if_true, left, false_implies, true_iff, Bool.true_or]
        cases client.session.machine.state <;> simp [success]
    | false =>
        have token : middle.view.tokens.session.accessToken = result.accessToken := by
          rw [begun]
          exact taken.2
        have machine : middle.view.machine.state =
            if client.session.machine.state = .refreshing then .authenticated
            else client.session.machine.state := by
          rw [begun]
          simp only [AccountSession.rotated, AccountSession.view,
            AuthStateMachine.onRefreshSucceeded_cases, state, true_and]
          split
          · rfl
          · exact state
        simp only [Bool.false_eq_true, if_false, token, machine, copied, success, true_and]
        by_cases empty : result.accessToken = []
        · cases client.session.machine.state <;> simp [empty]
        · cases client.session.machine.state <;> simp [empty]

theorem startStep_sound_iff (client : MediaClient) (env : Surroundings) (account : Bytes)
    (sound : client.Sound issuedTo) :
    (client.step (env, .startWithSavedToken account)).Sound issuedTo ↔
      client.keepsCredentials issuedTo (env, .startWithSavedToken account) = true := by
  let quiet : AccountSession := { client.session with sent := [] }
  have state : quiet.machine.state = client.session.machine.state := rfl
  have loads := quiet.tokens.loadFromStore_cases env account
  rw [step_sound_iff_view]
  simp only [AccountSession.call, keepsCredentials, copied]
  by_cases ready : client.session.machine.state = .authenticated
  · obtain ⟨copy, fits⟩ := sound ready
    have emptied {tokens : TokenManager} (empty : tokens.session.accessToken = []) :
        (client.accessToken = tokens.session.accessToken ∧
          client.deviceId = issuedTo tokens.session.accessToken) ↔
        client.session.tokens.session.accessToken = [] := by
      rw [empty, copy, fits]
      constructor
      · rintro ⟨none, _⟩
        exact none
      · intro none
        exact ⟨none, by rw [none]⟩
    have unloaded {tokens : TokenManager} (refused : quiet.tokens.loadFromStore env account =
        (false, tokens)) :
        (quiet.startWithSavedToken env account).2.view = { quiet.view with tokens } := by
      rcases quiet.startWithSavedToken_cases env account with ⟨_, same⟩ | ⟨_, loaded, _⟩
      · rw [same, refused]
      · simp [refused] at loaded
    rcases loads with ⟨missing, refused⟩ | ⟨saved, found, ⟨expired, refused⟩ | ⟨unexpired, loaded⟩⟩
    · have empty : (({ quiet.tokens with session := { account } } : TokenManager).revokeFamily
          env).2.session.accessToken = [] := by rw [TokenManager.revokeFamily_eq]
      have missing : storedSession client.session.tokens.store account = none := missing
      rw [unloaded refused, missing]
      simp only [AccountSession.view, state, ready, forall_const, ne_eq, not_true_eq_false,
        decide_false, Bool.false_or, decide_eq_true_eq]
      exact emptied empty
    · have empty : (({ quiet.tokens with session := saved } : TokenManager).recoverRequest.revokeFamily
          env).2.session.accessToken = [] := by rw [TokenManager.revokeFamily_eq]
      have expired : ({ client.session.tokens with session := saved } : TokenManager).refreshExpired
        env = true := expired
      have found : storedSession client.session.tokens.store account = some saved := found
      rw [unloaded refused, found]
      simp only [AccountSession.view, state, ready, forall_const, ne_eq, not_true_eq_false,
        decide_false, Bool.false_or, expired, if_true, decide_eq_true_eq]
      exact emptied empty
    · have session := ({ quiet.tokens with session := saved } : TokenManager).recoverRequest_session
      have unexpired : ({ client.session.tokens with session := saved } : TokenManager).refreshExpired
        env = false := unexpired
      have usable : ({ quiet.tokens with session := saved } : TokenManager).recoverRequest.accessUsable
          env = ({ client.session.tokens with session := saved } : TokenManager).accessUsable env := by
        simp only [TokenManager.accessUsable, session]
      have free : quiet.machine.authenticationInFlight = false := by
        simp [AuthStateMachine.authenticationInFlight, state, ready]
      have found : storedSession client.session.tokens.store account = some saved := found
      rw [found]
      simp only [ready, ne_eq, not_true_eq_false, decide_false, Bool.false_or, unexpired,
        Bool.false_eq_true, if_false, ← usable]
      rcases quiet.startWithSavedToken_cases env account with
        ⟨refused, _⟩ | ⟨tokens, taken, _, ⟨same, busy | ⟨_, known, valid⟩⟩ | ⟨_, unknown, same⟩⟩
      · simp [loaded] at refused
      · simp [free] at busy
      · rw [loaded] at taken
        obtain rfl := (Prod.mk.inj taken).2
        have known : account = client.session.machine.account := known
        rw [same, valid]
        simp only [AccountSession.view, state, ready, forall_const, session, copy, fits, known,
          not_true_eq_false, decide_false, Bool.not_true, Bool.false_or, decide_eq_true_eq]
        constructor
        · rintro ⟨token, _⟩
          exact token.symm
        · intro token
          rw [token]
          exact ⟨rfl, rfl⟩
      · rw [loaded] at taken
        obtain rfl := (Prod.mk.inj taken).2
        rw [same]
        refine iff_of_true (fun after => ?_) ?_
        · simp only [AuthStateMachine.startedFor, AuthStateMachine.beginOperation] at after
          split at after <;> simp at after
        · simp only [state, ready, true_and, not_and] at unknown
          simp only [Bool.or_eq_true, decide_eq_true_eq, Bool.not_eq_true']
          by_cases known : account = client.session.machine.account
          · exact .inl (.inr (by simpa using unknown known))
          · exact .inl (.inl known)
  · refine iff_of_true ?_ (by simp [ready])
    intro after
    rcases quiet.startWithSavedToken_cases env account with
      ⟨_, same⟩ | ⟨tokens, _, _, ⟨same, _⟩ | ⟨_, _, same⟩⟩
    · rw [same] at after
      exact absurd after ready
    · rw [same] at after
      exact absurd after ready
    · rw [same] at after
      simp only [AuthStateMachine.startedFor, AuthStateMachine.beginOperation] at after
      split at after <;> simp at after

theorem step_sound_iff (client : MediaClient) (input : Surroundings × AccountCall)
    (synced : client.session.generation = client.session.machine.generation)
    (sound : client.Sound issuedTo) :
    (client.step input).Sound issuedTo ↔ client.keepsCredentials issuedTo input = true := by
  obtain ⟨env, call⟩ := input
  cases brings : call.bringsTokens with
  | false => exact otherStep_sound_iff issuedTo client env call synced sound brings
  | true =>
      cases call with
      | onLoginResult protoResult result requestGeneration =>
          exact loginStep_sound_iff issuedTo client env protoResult result requestGeneration synced sound
      | onRefreshResult protoResult result requestGeneration =>
          exact refreshStep_sound_iff issuedTo client env protoResult result requestGeneration synced
            sound
      | startWithSavedToken account => exact startStep_sound_iff issuedTo client env account sound
      | _ => simp [AccountCall.bringsTokens] at brings

theorem Carries.acceptedWhileLive {client : MediaClient} (carries : client.Carries issuedTo) :
    client.AcceptedWhileLive issuedTo := by
  intro crypto now service record token named found issued live
  obtain ⟨copy, device⟩ := carries
  refine ⟨(ascii "Bearer " ++ client.accessToken, client.deviceId), ?_, ?_⟩
  · simp [credentials, copy, token]
  · have length : 0 < client.accessToken.length := by
      rw [copy]
      exact List.length_pos_of_ne_nil token
    have accepted : service.validateAccess crypto now client.accessToken [] client.deviceId =
        some (record.userId, record.sessionId.bytes, record.accessExpiresAt) := by
      simp only [TokenService.validateAccess, copy, token, named.1, or_self, if_false, found]
      rw [if_neg]
      simp [live.1, live.2, issued, device]
    simp only [authenticate, List.length_append, List.take_left, List.drop_left, ne_eq,
      not_true_eq_false, or_false, named.1, false_or, accepted, Option.map_some]
    rw [if_neg (by omega), if_neg (by omega)]

/-- In a run, the requests of an authenticated account carry its credentials exactly when every call
keeps them so, and what they carry then the file server takes. -/
theorem credentials_carried_iff (coreDeviceId deviceId : Bytes) (store : KeyStore)
    (inputs : List (Surroundings × AccountCall)) :
    ((∀ front back, front ++ back = inputs →
        let reached := front.foldl step ⟨.initial deviceId store, coreDeviceId, []⟩
        reached.session.machine.state = .authenticated → reached.Carries issuedTo) ↔
      guarded step (keepsCredentials issuedTo) ⟨.initial deviceId store, coreDeviceId, []⟩ inputs =
        true) ∧
    ∀ client : MediaClient, client.Carries issuedTo → client.AcceptedWhileLive issuedTo := by
  refine ⟨?_, fun client carries => carries.acceptedWhileLive⟩
  exact prefixes_iff_guarded
    (fun client => client.session.generation = client.session.machine.generation) (Sound issuedTo)
    (fun client input synced => client.session.step_synced synced input)
    (step_sound_iff issuedTo) ⟨.initial deviceId store, coreDeviceId, []⟩ rfl
    (by simp [Sound, AccountSession.initial]) inputs

/-- A login from a saved token brings no token for the requests. -/
theorem savedLogin_uncarried :
    let env := surroundingsAt 1000
    let calls : List AccountCall := [
      .startWithSavedToken (ascii "alice"), .onConnectResult true,
      .onTokenLoginResult resultSuccess 1001 9000 1]
    let reached := calls.foldl (fun client call => client.step (env, call))
      (⟨.initial (ascii "dev-1") (savedStore (ascii "alice") 9000 90000), ascii "dev-1", []⟩ :
        MediaClient)
    reached.session.machine.state = .authenticated ∧ reached.credentials = none ∧
      reached.session.tokens.session.valid = true ∧
      ∀ issuedTo, ¬reached.Carries issuedTo := by
  intro env calls reached
  have copy : reached.accessToken = [] ∧ reached.session.tokens.session.accessToken ≠ [] := by
    decide +kernel
  refine ⟨by decide +kernel, by decide +kernel, by decide +kernel, fun issuedTo carries => ?_⟩
  exact copy.2 (carries.1.symm.trans copy.1)

end MediaClient

end Jitong
