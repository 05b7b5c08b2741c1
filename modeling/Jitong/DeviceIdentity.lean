import Jitong.AccountView
import Jitong.ConnectionIdentity
import Jitong.DeviceKeys

/-!
The devices that a session is known by. `ClientCore::sendLogin` names the id that its core drew
and signs with the key that its core made; `AuthRequestBuilder` names the id and signs with the
signer that `nativeAccountSetup` took from the platform. The server issues a session to the
first and asks the other three requests for the same.
-/

namespace Jitong

open Lib

def userTelLen : Nat := 15

namespace ClientCore

/-- The loop of `utf8Truncate`, back to the start of a character. -/
def characterStart (text : Bytes) : Nat → Nat
  | 0 => 0
  | index + 1 =>
      if (text.getD (index + 1) 0) &&& 0xC0 = 0x80 then characterStart text index else index + 1

def utf8Truncate (text : Bytes) (maxBytes : Nat) : Bytes :=
  if text.length ≤ maxBytes then text else text.take (characterStart text maxBytes)

def makeDefaultDeviceId (rand64 seq : UInt64) : Bytes :=
  ascii "client-core-" ++ toHex (bigEndian 8 rand64.toNat) ++
    toHex (bigEndian 2 (seq &&& 0xFFFF).toNat)

end ClientCore

/-- `transport::DeviceProofKey`, and what `IP256Signer` stands for. An empty public key is that
of a key that was not made. -/
structure DeviceProofKey where
  publicKeyDer : Bytes
  sign : Bytes → Bytes

structure CoreDevice where
  rand64 : UInt64
  seq : UInt64
  deviceKey : DeviceProofKey

def CoreDevice.deviceId (core : CoreDevice) : Bytes :=
  ClientCore.makeDefaultDeviceId core.rand64 core.seq

def CoreDevice.sendLogin (crypto : Crypto) (core : CoreDevice) (appSessionId tel pass : Bytes) :
    Option LoginRq :=
  let telField := ClientCore.utf8Truncate tel (userTelLen - 1)
  let passProof := crypto.tokenHash pass
  let publicKeyDer := core.deviceKey.publicKeyDer
  let message := DeviceProofService.buildMessage (ascii "password-login") appSessionId core.deviceId
    (telField ++ 0 :: passProof) publicKeyDer
  let signature := core.deviceKey.sign message
  if publicKeyDer = [] ∨ signature = [] then none
  else some {
    tel := telField
    pass := passProof
    deviceId := core.deviceId
    devicePublicKey := publicKeyDer
    deviceSignature := signature }

def Surroundings.signedBy (env : Surroundings) (signer : DeviceProofKey) : Surroundings :=
  { env with publicKeyDer := signer.publicKeyDer, sign := signer.sign }

def Sent.request : Sent → Option ClientPacket
  | tokenLogin _ packet _ _ => some (.tokenLogin packet)
  | refresh packet _ => some (.tokenRefresh packet)
  | logout packet _ => some (.logout packet)
  | _ => none

/-- A server, a core on it, and the account session that runs over the core. In `outbox` is what
the session has handed on, with the application session that it was made in, and in `issued`
which auth sessions the logins of the core were accepted for. -/
structure DeviceWorld where
  core : CoreDevice
  account : AccountSession
  outbox : List (Bytes × Sent) := []
  issued : List Bytes := []
  server : Server := .empty

/-- A call of the session, a password login of it that reaches the server, and anything else
that happens to the server. -/
inductive DeviceEvent
  | account (env : Surroundings) (call : AccountCall)
  | login (env : Env) (conn : ConnId) (handed : Bytes × Sent)
  | server (event : ServerEvent)

namespace Server

def loginIssued (crypto : Crypto) (env : Env) (server : Server) (conn : ConnId) (rq : LoginRq) :
    Option Bytes := do
  let session ← server.sessions conn
  if session.accessExpired (ClientPacket.login rq).type env.now then none
  else
    let binding ←
      (server.touchSession env.now session).newBinding crypto env conn session (.login rq)
    some binding.authSessionId

/-- The checks of the handlers on a request of a connection: the one of `onTokenLogin`,
`deviceProofOk`, and the one of `onLogout`. -/
def passesDeviceChecks (crypto : Crypto) (now : Int) (server : Server) (session : Session) :
    ClientPacket → Bool
  | .tokenLogin rq => (server.checkTokenLogin crypto now session rq).isSome
  | .tokenRefresh rq => server.refreshProof crypto session rq
  | .logout rq => (server.logoutRecord crypto session rq).isSome
  | _ => true

end Server

namespace DeviceWorld

def start (core : CoreDevice) (deviceId : Bytes) (store : KeyStore) : DeviceWorld where
  core
  account := .initial deviceId store

def loggedIn (crypto : Crypto) (world : DeviceWorld) (env : Env) (conn : ConnId) (rq : LoginRq) :
    DeviceWorld :=
  { world with
    issued := (world.server.loginIssued crypto env conn rq).toList ++ world.issued
    server := world.server.dispatchPacket crypto env conn (.login rq) }

def step (crypto : Crypto) (signer : DeviceProofKey) (world : DeviceWorld) :
    DeviceEvent → DeviceWorld
  | .account env call =>
      let account := world.account.step (env.signedBy signer, call)
      { world with
        account
        outbox := world.outbox ++ account.sent.map fun sent => (env.appSessionId, sent) }
  | .login env conn (appSessionId, .passwordLogin account password generation) =>
      if (appSessionId, .passwordLogin account password generation) ∈ world.outbox then
        match world.core.sendLogin crypto appSessionId account password with
        | some rq => world.loggedIn crypto env conn rq
        | none => world
      else world
  | .login .. => world
  | .server event => { world with server := event.apply crypto world.server }

def after (crypto : Crypto) (signer : DeviceProofKey) (core : CoreDevice) (deviceId : Bytes)
    (store : KeyStore) (events : List DeviceEvent) : DeviceWorld :=
  events.foldl (step crypto signer) (start core deviceId store)

def Issued (world : DeviceWorld) (record : AuthSessionRecord) : Prop :=
  record.sessionId.bytes ∈ world.issued ∧ record.revoked = false

instance (world : DeviceWorld) (record : AuthSessionRecord) : Decidable (world.Issued record) :=
  inferInstanceAs (Decidable (_ ∧ _))

def Live (crypto : Crypto) (now : Int) (world : DeviceWorld) (session : Session) :
    ClientPacket → Prop
  | .tokenLogin rq =>
      rq.accessToken ≠ [] ∧
      ∃ record, world.server.tokens.db.findByAccessHash (crypto.tokenHash rq.accessToken) =
        some record ∧ world.Issued record ∧ now < record.accessExpiresAt
  | .tokenRefresh rq =>
      rq.refreshToken ≠ [] ∧
      ∃ record, world.server.tokens.db.findByRefreshHash (crypto.tokenHash rq.refreshToken) =
        some record ∧ world.Issued record ∧ now < record.refreshExpiresAt
  | .logout rq =>
      rq.refreshToken ≠ [] ∧
      ∃ record, world.server.tokens.db.findByRefreshHash (crypto.tokenHash rq.refreshToken) =
        some record ∧ world.Issued record ∧ now < record.refreshExpiresAt ∧
        session.authenticated = true ∧ session.userId = record.userId ∧
        session.deviceId = record.deviceId.bytes ∧ session.authSessionId = record.sessionId.bytes
  | _ => False

end DeviceWorld

def ClientPacket.requestIdFits : ClientPacket → Prop
  | .tokenRefresh rq => rq.requestId.length ≤ 128
  | _ => True

/-! Every request of the session is signed for its own device. -/

/-- The signature of `DeviceProofService::make` in an application session. -/
def DeviceProofKey.prove (signer : DeviceProofKey)
    (appSessionId deviceId operation credential : Bytes) : Bytes :=
  if signer.publicKeyDer = [] then []
  else signer.sign (DeviceProofService.buildMessage operation appSessionId deviceId credential [])

def Sent.Signed (signer : DeviceProofKey) (appSessionId deviceId : Bytes) (sent : Sent) : Prop :=
  let proven (named signature operation credential : Bytes) :=
    named = deviceId ∧ signature ≠ [] ∧
      signature = signer.prove appSessionId deviceId operation credential
  match sent with
  | tokenLogin _ packet _ _ =>
      proven packet.deviceId packet.deviceSignature (ascii "token-login") packet.accessToken
  | refresh packet _ =>
      proven packet.deviceId packet.deviceSignature (ascii "token-refresh")
        (packet.refreshToken ++ 0 :: packet.requestId)
  | logout packet _ =>
      proven packet.deviceId packet.deviceSignature (ascii "logout")
        (packet.refreshToken ++ 0 :: ascii (if packet.logoutAllDevices then "1" else "0"))
  | _ => True

namespace AccountSession

section Signing

variable (signer : DeviceProofKey) (env : Surroundings) (session : AccountSession)

structure Signs (before after : AccountSession) : Prop where
  device : after.deviceId = before.deviceId
  handed : ∀ sent ∈ after.sent, sent ∈ before.sent ∨
    sent.Signed signer env.appSessionId before.deviceId

variable {signer env session}

theorem Signs.refl : Signs signer env session session := ⟨rfl, fun _ => .inl⟩

theorem Signs.trans {first second third : AccountSession} (before : Signs signer env first second)
    (after : Signs signer env second third) : Signs signer env first third := by
  refine ⟨after.device.trans before.device, fun sent handed => ?_⟩
  rcases after.handed sent handed with earlier | signed
  · exact before.handed sent earlier
  · exact .inr (before.device ▸ signed)

theorem Signs.of {before middle after : AccountSession} (signs : Signs signer env middle after)
    (device : middle.deviceId = before.deviceId)
    (sent : middle.sent = before.sent) : Signs signer env before after := by
  refine ⟨signs.device.trans device, fun call handed => ?_⟩
  rw [← sent, ← device]
  exact signs.handed call handed

theorem hand_signs {before after : AccountSession} {call : Sent}
    (device : after.deviceId = before.deviceId) (sent : after.sent = before.sent ++ [call])
    (signed : call.Signed signer env.appSessionId before.deviceId) :
    Signs signer env before after := by
  refine ⟨device, fun other handed => ?_⟩
  rw [sent, List.mem_append, List.mem_singleton] at handed
  rcases handed with earlier | rfl
  · exact .inl earlier
  · exact .inr signed

theorem runPlainAction_signs (signed : Surroundings) (action : Action) :
    Signs signer env session (session.runPlainAction signed action) := by
  unfold runPlainAction
  split <;> first | exact .refl | exact hand_signs rfl rfl trivial

theorem foldl_signs {run : AccountSession → Action → AccountSession}
    (each : ∀ session action, Signs signer env session (run session action))
    (actions : List Action) : Signs signer env session (actions.foldl run session) := by
  induction actions generalizing session with
  | nil => exact .refl
  | cons action rest ih => exact (each session action).trans ih

theorem runPlainActions_signs (signed : Surroundings) (actions : List Action) :
    Signs signer env session (session.runPlainActions signed actions) :=
  foldl_signs (fun _ => runPlainAction_signs signed) actions

theorem onRefreshRefused_signs (signed : Surroundings) (requestGeneration : UInt32) :
    Signs signer env session (session.onRefreshRefused signed requestGeneration) := by
  unfold onRefreshRefused
  dsimp only
  split
  · exact .refl
  · exact (runPlainActions_signs signed _).of rfl rfl

theorem onLogoutResult_signs (signed : Surroundings) (requestGeneration : UInt32) :
    Signs signer env session (session.onLogoutResult signed requestGeneration) := by
  unfold onLogoutResult
  split
  · exact .refl
  · exact (runPlainActions_signs signed _).of rfl rfl

theorem sendTokenLogin_signs :
    Signs signer env session (session.sendTokenLogin (env.signedBy signer)) := by
  unfold sendTokenLogin
  split
  · rename_i packet requestId built
    simp only [AuthRequestBuilder.buildTokenLogin, Option.ite_none_left_eq_some, Option.some.injEq,
      Prod.mk.injEq] at built
    obtain ⟨nonempty, rfl, _⟩ := built
    exact hand_signs rfl rfl ⟨rfl, nonempty, rfl⟩
  · exact (runPlainActions_signs _ _).of rfl rfl

theorem sendRefresh_signs :
    Signs signer env session (session.sendRefresh (env.signedBy signer)) := by
  unfold sendRefresh
  rcases session.tokens.beginRefresh (env.signedBy signer) with ⟨_ | ⟨letter, rest⟩, tokens⟩
  · exact (runPlainActions_signs _ _).of rfl rfl
  · dsimp only
    split
    · rename_i packet built
      simp only [AuthRequestBuilder.buildRefresh, Option.ite_none_left_eq_some,
        Option.some.injEq] at built
      obtain ⟨nonempty, rfl⟩ := built
      exact hand_signs rfl rfl ⟨rfl, nonempty, rfl⟩
    · exact (onRefreshRefused_signs _ _).of rfl rfl

theorem sendLogout_signs :
    Signs signer env session (session.sendLogout (env.signedBy signer)) := by
  unfold sendLogout
  split
  · rename_i packet built
    simp only [AuthRequestBuilder.buildLogout, Option.ite_none_left_eq_some,
      Option.some.injEq] at built
    obtain ⟨nonempty, rfl⟩ := built
    exact hand_signs rfl rfl ⟨rfl, nonempty, rfl⟩
  · exact onLogoutResult_signs _ _

theorem runActions_signs (actions : List Action) :
    Signs signer env session (session.runActions (env.signedBy signer) actions) := by
  refine foldl_signs (fun session action => ?_) actions
  unfold runAction
  split
  · exact sendTokenLogin_signs
  · exact sendRefresh_signs
  · exact sendLogout_signs
  · exact runPlainAction_signs _ action

theorem loginOnConnected_signs :
    Signs signer env session (session.loginOnConnected (env.signedBy signer)) :=
  (runActions_signs _).of rfl rfl

theorem call_signs (call : AccountCall) :
    Signs signer env session (session.call (env.signedBy signer) call) := by
  have runs (middle : AccountSession) (actions : List Action)
      (device : middle.deviceId = session.deviceId) (sent : middle.sent = session.sent) :
      Signs signer env session (middle.runActions (env.signedBy signer) actions) :=
    (runActions_signs actions).of device sent
  cases call with
  | startWithPassword account password =>
      simp only [AccountSession.call, startWithPassword]
      split <;> exact runs _ _ rfl rfl
  | startWithSavedToken account =>
      simp only [AccountSession.call, startWithSavedToken]
      split
      · exact ⟨rfl, fun _ => .inl⟩
      · split
        · exact ⟨rfl, fun _ => .inl⟩
        · split <;> exact runs _ _ rfl rfl
  | logout allDevices => exact runs _ _ rfl rfl
  | cancel => exact runs _ _ rfl rfl
  | tick =>
      simp only [AccountSession.call, tick]
      split
      · exact .refl
      · split
        · exact runs _ _ rfl rfl
        · exact .refl
  | onConnectResult succeeded =>
      simp only [AccountSession.call, onConnectResult]
      split
      · split
        · exact loginOnConnected_signs.of rfl rfl
        · exact runs _ _ rfl rfl
      · exact runs _ _ rfl rfl
  | onDisconnected intentional =>
      simp only [AccountSession.call, onDisconnected]
      split
      · exact runs _ _ rfl rfl
      · split <;> exact runs _ _ rfl rfl
  | onLoginResult protoResult result requestGeneration =>
      simp only [AccountSession.call, onLoginResult]
      split
      · exact .refl
      · split
        · split <;> exact runs _ _ rfl rfl
        · exact runs _ _ rfl rfl
  | onTokenLoginResult protoResult userId accessExpireAt requestGeneration =>
      simp only [AccountSession.call, onTokenLoginResult]
      split
      · exact .refl
      · split <;> exact runs _ _ rfl rfl
  | onRefreshResult protoResult result requestGeneration =>
      simp only [AccountSession.call, onRefreshResult]
      split
      · exact onRefreshRefused_signs _ _
      · split
        · exact .refl
        · split
          · exact runs _ _ rfl rfl
          · split
            · refine .trans ?_ loginOnConnected_signs
              exact runs _ _ rfl rfl
            · exact runs _ _ rfl rfl
  | onLogoutResult protoResult requestGeneration => exact onLogoutResult_signs _ _
  | onKicked reason => exact runs _ _ rfl rfl
  | onReconnectFired =>
      simp only [AccountSession.call, onReconnectFired]
      split
      · exact .refl
      · exact hand_signs rfl rfl trivial

end Signing

end AccountSession

/-! What the server holds of an accepted login. -/

theorem makeDefaultDeviceId_plain (rand64 seq : UInt64) :
    (0 : UInt8) ∉ ClientCore.makeDefaultDeviceId rand64 seq := by
  unfold ClientCore.makeDefaultDeviceId
  have name : (0 : UInt8) ∉ ascii "client-core-" := by decide
  simp [name, toHex_noNul]

theorem sendLogin_fields {crypto : Crypto} {core : CoreDevice} {appSessionId tel pass : Bytes}
    {rq : LoginRq} (made : core.sendLogin crypto appSessionId tel pass = some rq) :
    rq.deviceId = core.deviceId ∧ rq.devicePublicKey = core.deviceKey.publicKeyDer := by
  simp only [CoreDevice.sendLogin, Option.ite_none_left_eq_some, Option.some.injEq] at made
  obtain ⟨_, rfl⟩ := made
  exact ⟨rfl, rfl⟩

structure IssuedTo (core : CoreDevice) (server : Server) (sessionId : Bytes) (userId : Int32) :
    Prop where
  stored : Binding.Stored server.tokens.db ⟨userId, sessionId, core.deviceId, 0⟩
  bound : server.getDevicePublicKey userId core.deviceId = some core.deviceKey.publicKeyDer
  keySize : core.deviceKey.publicKeyDer.length ≤ 512
  deviceSize : core.deviceId.length ≤ 128

namespace IssuedTo

variable {crypto : Crypto} {core : CoreDevice} {server : Server} {sessionId : Bytes}
  {userId : Int32}

theorem apply (issued : IssuedTo core server sessionId userId) (event : ServerEvent) :
    IssuedTo core (event.apply crypto server) sessionId userId where
  stored := by
    rw [event.apply_tokens crypto server]
    cases event.tokenOp crypto server with
    | none => exact issued.stored
    | some op => exact issued.stored.kept (op.change crypto server.tokens)
  bound := event.apply_key issued.bound
  keySize := issued.keySize
  deviceSize := issued.deviceSize

theorem of_login {env : Env} {conn : ConnId} {rq : LoginRq} (device : rq.deviceId = core.deviceId)
    (key : rq.devicePublicKey = core.deviceKey.publicKeyDer)
    (accepted : server.loginIssued crypto env conn rq = some sessionId) :
    ∃ userId,
      IssuedTo core (server.dispatchPacket crypto env conn (.login rq)) sessionId userId := by
  simp only [Server.loginIssued, bind, Option.bind_eq_some_iff, Option.ite_none_left_eq_some]
    at accepted
  obtain ⟨session, live, fresh, binding, new, made⟩ := accepted
  simp only [Option.some.injEq] at made
  have applied := congrArg Prod.fst (Server.dispatchPacket_core crypto env live (.login rq))
  have known : (server.touchSession env.now session).sessions conn = some session := by
    rw [Server.touchSession_sessions, live]
  have keys := @Server.onLogin_deviceKeys _ conn crypto env session rq known
  have dispatched : server.dispatchPacket crypto env conn (.login rq) =
      (server.touchSession env.now session).onLogin crypto env conn rq := by
    simp only [Server.dispatchPacket, live, if_neg fresh, Server.handle]
  rw [if_neg fresh] at applied
  simp only [Server.newBinding] at new
  cases checked : (server.touchSession env.now session).checkLogin crypto env conn session rq with
  | mk outcome middle =>
      rw [checked] at new keys
      cases outcome with
      | none => simp at new
      | some userId =>
          obtain ⟨⟨pair, tokens⟩, issued, bound⟩ := Option.map_eq_some_iff.mp new
          have passed := Server.checkLogin_accepted checked
          have proof := passed.proof
          simp only [verifyDevice, DeviceProof.verifyP256] at proof
          refine ⟨userId, ?_, ?_, ?_, device ▸ passed.deviceSize⟩
          · have stored := Server.issued_stored issued (device ▸ makeDefaultDeviceId_plain _ _)
            have after : (server.dispatchPacket crypto env conn (.login rq)).tokens = tokens := by
              refine applied.trans ?_
              simp only [Server.coreAfter, Server.tokenOp, checked, TokenOp.apply, issued]
              rfl
            rw [after, ← made, ← bound, ← device]
            exact stored
          · rw [dispatched, Server.getDevicePublicKey_of_same keys, ← device, ← key]
            exact passed.bound
          · rw [← key]
            by_contra long
            rw [if_pos (.inr (.inl (by omega)))] at proof
            simp at proof

theorem row (issued : IssuedTo core server sessionId userId) {record : AuthSessionRecord}
    (member : record ∈ server.tokens.db.sessions.rows)
    (same : record.sessionId.bytes = sessionId) :
    record.userId = userId ∧ record.deviceId.bytes = core.deviceId := by
  obtain ⟨stored, storedMember, user, session, device⟩ := issued.stored
  have clash : authSessionClash record stored = true := by
    have shared : record.sessionId = stored.sessionId := Text.ext (same.trans session.symm)
    simp [authSessionClash, shared]
  rw [server.tokens.db.sessions.eq_of_clash authSessionClash_comm member storedMember clash]
  exact ⟨user, device⟩

end IssuedTo

/-- What the signatures of a signer are to the server: they verify under its own key and are
of a size that is taken, and they verify under the core's key only where it is the same. -/
structure DeviceProofKey.SignsAs (signer : DeviceProofKey) (crypto : Crypto) (core : CoreDevice) :
    Prop where
  correct : ∀ message,
    crypto.ecdsaVerify signer.publicKeyDer message (signer.sign message) = true
  sized : ∀ message, (signer.sign message).length ≤ 144
  own : ∀ message,
    crypto.ecdsaVerify core.deviceKey.publicKeyDer message (signer.sign message) = true →
      core.deviceKey.publicKeyDer = signer.publicKeyDer

def SameDevice (core : CoreDevice) (deviceId : Bytes) (signer : DeviceProofKey) : Prop :=
  core.deviceId = deviceId ∧ core.deviceKey.publicKeyDer = signer.publicKeyDer

section Checks

variable {crypto : Crypto} {core : CoreDevice} {signer : DeviceProofKey} {server : Server}
  {session : Session} {sessionId deviceId : Bytes} {userId : Int32} {now : Int}
  (signs : signer.SignsAs crypto core) (issued : IssuedTo core server sessionId userId)

include signs issued

theorem verifyDevice_signed_iff {operation credential signature : Bytes} (nonempty : signature ≠ [])
    (made : signature = signer.prove session.appSessionId deviceId operation credential) :
    verifyDevice crypto session operation deviceId credential core.deviceKey.publicKeyDer signature
      false = true ↔ core.deviceKey.publicKeyDer = signer.publicKeyDer := by
  have key := (Server.getDevicePublicKey_eq_some_iff.mp issued.bound).1
  have keySize := issued.keySize
  unfold DeviceProofKey.prove at made
  split at made
  · exact absurd made nonempty
  · rw [DeviceProofService.buildMessage_eq_message] at made
    have size := signs.sized
      (DeviceProof.message operation session.appSessionId deviceId credential [])
    rw [← made] at size
    have taken : ¬(core.deviceKey.publicKeyDer = [] ∨ 512 < core.deviceKey.publicKeyDer.length ∨
        signature = [] ∨ 144 < signature.length) := by
      simp only [key, nonempty, false_or, not_or]
      omega
    simp only [verifyDevice, DeviceProof.verifyP256, Bool.false_eq_true, if_false, if_neg taken]
    rw [made]
    constructor
    · exact signs.own _
    · intro same
      rw [same]
      exact signs.correct _

theorem tokenLogin_passes_iff {rq : TokenLoginRq} {record : AuthSessionRecord}
    (token : rq.accessToken ≠ [])
    (found : server.tokens.db.findByAccessHash (crypto.tokenHash rq.accessToken) = some record)
    (user : record.userId = userId) (device : record.deviceId.bytes = core.deviceId)
    (unrevoked : record.revoked = false) (unexpired : now < record.accessExpiresAt)
    (named : rq.deviceId = deviceId) (nonempty : rq.deviceSignature ≠ [])
    (made : rq.deviceSignature =
      signer.prove session.appSessionId deviceId (ascii "token-login") rq.accessToken) :
    (server.checkTokenLogin crypto now session rq).isSome ↔ SameDevice core deviceId signer := by
  have verified := verifyDevice_signed_iff signs issued nonempty made
  have size := issued.deviceSize
  have filled : core.deviceId ≠ [] := by
    simp [CoreDevice.deviceId, ClientCore.makeDefaultDeviceId, ascii]
  unfold Server.checkTokenLogin TokenService.validateAccess SameDevice
  rw [found, named]
  by_cases same : core.deviceId = deviceId
  · have bound := issued.bound
    rw [same] at bound size device filled
    simp only [same, true_and, size, nonempty, ne_eq, not_false_eq_true, if_true, token, filled,
      false_or, if_false, unrevoked, Bool.false_eq_true, device, not_true_eq_false, false_and,
      or_false, if_neg (show ¬record.accessExpiresAt ≤ now by omega), user, bound, bind,
      Option.bind_some]
    rw [← verified]
    split
    · rename_i passed
      exact iff_of_true rfl passed
    · rename_i refused
      exact iff_of_false (by simp) refused
  · have foreign : ¬record.deviceId.bytes = deviceId := by rwa [device]
    simp [same, foreign]

theorem refreshProof_passes_iff {rq : RefreshTokenRq} {record : AuthSessionRecord}
    (found : server.tokens.db.findByRefreshHash (crypto.tokenHash rq.refreshToken) = some record)
    (user : record.userId = userId) (device : record.deviceId.bytes = core.deviceId)
    (unrevoked : record.revoked = false) (named : rq.deviceId = deviceId)
    (nonempty : rq.deviceSignature ≠ [])
    (made : rq.deviceSignature = signer.prove session.appSessionId deviceId (ascii "token-refresh")
      (rq.refreshToken ++ 0 :: rq.requestId)) :
    server.refreshProof crypto session rq = true ↔
      SameDevice core deviceId signer ∧ rq.requestId.length ≤ 128 := by
  have verified := verifyDevice_signed_iff signs issued nonempty made
  have size := issued.deviceSize
  unfold Server.refreshProof SameDevice
  rw [found, named]
  by_cases same : core.deviceId = deviceId
  · have bound := issued.bound
    rw [same] at bound size device
    simp only [same, size, nonempty, unrevoked, device, user, bound, ← verified, ne_eq,
      decide_true, Bool.true_and, Bool.and_true, Bool.and_eq_true, decide_eq_true_eq, true_and,
      not_false_eq_true, Bool.not_false]
    exact And.comm
  · have foreign : ¬record.deviceId.bytes = deviceId := by rwa [device]
    simp [same, foreign]

theorem logout_passes_iff {rq : LogoutRq} {record : AuthSessionRecord}
    (token : rq.refreshToken ≠ [])
    (found : server.tokens.db.findByRefreshHash (crypto.tokenHash rq.refreshToken) = some record)
    (user : record.userId = userId) (device : record.deviceId.bytes = core.deviceId)
    (unrevoked : record.revoked = false) (authenticated : session.authenticated = true)
    (own : session.userId = record.userId ∧ session.deviceId = record.deviceId.bytes ∧
      session.authSessionId = record.sessionId.bytes)
    (named : rq.deviceId = deviceId) (nonempty : rq.deviceSignature ≠ [])
    (made : rq.deviceSignature = signer.prove session.appSessionId deviceId (ascii "logout")
      (rq.refreshToken ++ 0 :: ascii (if rq.logoutAllDevices then "1" else "0"))) :
    (server.logoutRecord crypto session rq).isSome ↔ SameDevice core deviceId signer := by
  have verified := verifyDevice_signed_iff signs issued nonempty made
  unfold Server.logoutRecord SameDevice
  generalize rq.refreshToken ++ 0 :: ascii (if rq.logoutAllDevices then "1" else "0") = credential
    at verified ⊢
  simp only [token, ne_eq, not_false_eq_true, if_true, found, bind, Option.bind_some, named]
  by_cases same : core.deviceId = deviceId
  · have bound := issued.bound
    rw [same] at bound device
    simp only [same, unrevoked, device, user, bound, ← verified, true_and, Bool.not_false,
      if_true, Option.bind_some, authenticated, own.1, own.2.1, own.2.2, and_true]
    split
    · rename_i passed
      exact iff_of_true rfl passed
    · rename_i refused
      exact iff_of_false (by simp) refused
  · have foreign : ¬record.deviceId.bytes = deviceId := by rwa [device]
    simp [same, foreign]

end Checks

namespace DeviceWorld

variable {crypto : Crypto} {signer : DeviceProofKey} {core : CoreDevice} {deviceId : Bytes}

/-- What every run keeps: the session speaks for one device and signs for it, and what the
logins of the core were issued is of the core's device. -/
structure Sound (signer : DeviceProofKey) (core : CoreDevice) (deviceId : Bytes)
    (world : DeviceWorld) : Prop where
  drawn : world.core = core
  device : world.account.deviceId = deviceId
  signed : ∀ handed ∈ world.outbox, handed.2.Signed signer handed.1 deviceId
  issued : ∀ sessionId ∈ world.issued, ∃ userId, IssuedTo core world.server sessionId userId

theorem start_sound (core : CoreDevice) (deviceId : Bytes) (store : KeyStore) :
    (start core deviceId store).Sound signer core deviceId where
  drawn := rfl
  device := rfl
  signed := by simp [start]
  issued := by simp [start]

theorem loggedIn_sound {world : DeviceWorld} (sound : world.Sound signer core deviceId) {env : Env}
    {conn : ConnId} {appSessionId tel pass : Bytes} {rq : LoginRq}
    (made : core.sendLogin crypto appSessionId tel pass = some rq) :
    (world.loggedIn crypto env conn rq).Sound signer core deviceId where
  drawn := sound.drawn
  device := sound.device
  signed := sound.signed
  issued := by
    intro sessionId known
    rw [loggedIn, List.mem_append] at known
    rcases known with new | old
    · obtain ⟨device, key⟩ := sendLogin_fields made
      exact IssuedTo.of_login device key (Option.mem_toList.mp new)
    · obtain ⟨userId, issued⟩ := sound.issued sessionId old
      exact ⟨userId, @IssuedTo.apply crypto _ _ _ _ issued (.packet env conn (.login rq))⟩

theorem step_sound {world : DeviceWorld} (sound : world.Sound signer core deviceId)
    (event : DeviceEvent) : (world.step crypto signer event).Sound signer core deviceId := by
  cases event with
  | account env call =>
      have signs := @AccountSession.call_signs signer env { world.account with sent := [] } call
      refine ⟨sound.drawn, signs.device.trans sound.device, ?_, sound.issued⟩
      intro handed member
      simp only [step, List.mem_append, List.mem_map] at member
      rcases member with earlier | ⟨sent, new, rfl⟩
      · exact sound.signed handed earlier
      · have signed := (signs.handed sent new).resolve_left (by simp)
        rwa [show ({ world.account with sent := [] } : AccountSession).deviceId = deviceId from
          sound.device] at signed
  | login env conn handed =>
      obtain ⟨appSessionId, sent⟩ := handed
      cases sent with
      | passwordLogin account password generation =>
          simp only [step]
          split
          · split
            · rename_i rq made
              rw [sound.drawn] at made
              exact loggedIn_sound sound made
            · exact sound
          · exact sound
      | _ => exact sound
  | server event =>
      refine ⟨sound.drawn, sound.device, sound.signed, fun sessionId known => ?_⟩
      obtain ⟨userId, issued⟩ := sound.issued sessionId known
      exact ⟨userId, issued.apply event⟩

theorem run_sound (core : CoreDevice) (deviceId : Bytes) (store : KeyStore)
    (events : List DeviceEvent) :
    (after crypto signer core deviceId store events).Sound signer core deviceId :=
  List.foldlRecOn events _ (start_sound core deviceId store) fun _ sound event _ =>
    step_sound sound event

theorem Sound.issuedTo {world : DeviceWorld} (sound : world.Sound signer core deviceId)
    {record : AuthSessionRecord} (issued : world.Issued record)
    (stored : ∃ row ∈ world.server.tokens.db.sessions.rows,
      record = AuthTables.readAuthSession row) :
    ∃ userId, IssuedTo core world.server record.sessionId.bytes userId ∧
      record.userId = userId ∧ record.deviceId.bytes = core.deviceId := by
  obtain ⟨userId, held⟩ := sound.issued _ issued.1
  obtain ⟨row, member, rfl⟩ := stored
  have columns : row.userId = userId ∧ row.deviceId.bytes = core.deviceId := held.row member rfl
  exact ⟨userId, held, columns⟩

/-- A request of the session that presents a live token of an auth session that a login of the
core was issued passes the device checks of the server exactly where the session speaks for the
device that the core logged in with. -/
theorem device_checks_iff (signs : signer.SignsAs crypto core) (store : KeyStore)
    (events : List DeviceEvent) {now : Int} {session : Session} {sent : Sent}
    (handed : (session.appSessionId, sent) ∈ (after crypto signer core deviceId store events).outbox)
    {request : ClientPacket} (made : sent.request = some request)
    (live : (after crypto signer core deviceId store events).Live crypto now session request) :
    (after crypto signer core deviceId store events).server.passesDeviceChecks crypto now session
        request = true ↔
      SameDevice core deviceId signer ∧ request.requestIdFits := by
  have sound := @run_sound crypto signer core deviceId store events
  have signed := sound.signed _ handed
  generalize after crypto signer core deviceId store events = world at *
  cases sent with
  | tokenLogin account packet requestId generation =>
      simp only [Sent.request, Option.some.injEq] at made
      subst request
      obtain ⟨named, nonempty, proven⟩ := signed
      obtain ⟨token, record, found, issued, unexpired⟩ := live
      obtain ⟨row, located, same⟩ := Option.map_eq_some_iff.mp found
      obtain ⟨userId, held, user, device⟩ :=
        sound.issuedTo issued ⟨row, List.mem_of_find?_eq_some located, same.symm⟩
      simp only [Server.passesDeviceChecks, ClientPacket.requestIdFits, and_true]
      exact tokenLogin_passes_iff signs held token found user device issued.2 unexpired named
        nonempty proven
  | refresh packet generation =>
      simp only [Sent.request, Option.some.injEq] at made
      subst request
      obtain ⟨named, nonempty, proven⟩ := signed
      obtain ⟨token, record, found, issued, unexpired⟩ := live
      obtain ⟨row, member, _, same⟩ := AuthTables.findByRefreshHash_eq_some found
      obtain ⟨userId, held, user, device⟩ := sound.issuedTo issued ⟨row, member, same⟩
      exact refreshProof_passes_iff signs held found user device issued.2 named nonempty proven
  | logout packet generation =>
      simp only [Sent.request, Option.some.injEq] at made
      subst request
      obtain ⟨named, nonempty, proven⟩ := signed
      obtain ⟨token, record, found, issued, unexpired, authenticated, own⟩ := live
      obtain ⟨row, member, _, same⟩ := AuthTables.findByRefreshHash_eq_some found
      obtain ⟨userId, held, user, device⟩ := sound.issuedTo issued ⟨row, member, same⟩
      simp only [Server.passesDeviceChecks, ClientPacket.requestIdFits, and_true]
      exact logout_passes_iff signs held token found user device issued.2 authenticated own named
        nonempty proven
  | _ => simp [Sent.request] at made

/-! A user, a core whose key signed two requests, and a platform whose key signed one. -/

def recordedKey (publicKeyDer : Bytes) (signatures : List (Bytes × Bytes)) : DeviceProofKey where
  publicKeyDer
  sign message := (signatures.lookup message).getD publicKeyDer

def carolPassword : Bytes := ascii "spring-rain"

def carol : UserRecord :=
  { alice with
    passwd := cstr (toHex (bigEndian 32
      0x979002a2eff42b6431b29f5cf8c20ec5f39ed855398923db1b7edcee09f5e76d)) }

def carolDigests : List (Bytes × Bytes) :=
  [(carolPassword, bigEndian 32
      0xba1f6beff9f3ea39271594311353013d60cd7b1eb6c52df9a3b865a18b890339),
    (ascii "salt-a" ++ toHex (bigEndian 32
        0xba1f6beff9f3ea39271594311353013d60cd7b1eb6c52df9a3b865a18b890339), bigEndian 32
      0x979002a2eff42b6431b29f5cf8c20ec5f39ed855398923db1b7edcee09f5e76d)] ++ tokenDigests

def carolRand : UInt64 := 0x1f2e3d4c5b6a7988

def carolPublicKey : Bytes := DeviceProof.publicKeyDer
  0xb5651e38dc5641e010536ee8bc7f0d9a826d2be44f7648059b1dababfbfe2691
  0xeb7e12798f5a9eb484643e27707c3c5c489dbb6f9c1c6f9f0d9d36c0e9015ce8

def carolDeviceId : Bytes := ClientCore.makeDefaultDeviceId carolRand 0

def tokenLoginMessage (deviceId : Bytes) : Bytes :=
  DeviceProofService.buildMessage (ascii "token-login") bobAppSession deviceId (numberedToken 3) []

def carolKey : DeviceProofKey := recordedKey carolPublicKey
  [(DeviceProofService.buildMessage (ascii "password-login") aliceAppSession carolDeviceId
      (ascii "13800000001" ++ 0 :: toHex (bigEndian 32
        0xba1f6beff9f3ea39271594311353013d60cd7b1eb6c52df9a3b865a18b890339)) carolPublicKey,
    DeviceProof.signatureDer
      0x2a0342544590dfcda7245f5941a727e805166383c127ab278af2014f1d7bc112
      0x53f3e174ab36b9867943d3dac4f65ef1cba0a0d2549ceb204cff1a03f5a4763),
    (tokenLoginMessage carolDeviceId,
    DeviceProof.signatureDer
      0xfe668f1c63c9bfcccb096f206c70365db3335cfe57c632f9b8af0ce0142e247
      0x9f3cdeb358e0ff98a76782ca5ff6575402a1bd9b76d0650f0858e952555f45c)]

def carolCore : CoreDevice := ⟨carolRand, 0, carolKey⟩

def platformKey : DeviceProofKey := recordedKey
  (DeviceProof.publicKeyDer
    0x8597786bf0d1815e55719804a4a0f3fda598050c8620811e6aaaa299e573db11
    0xdb997a804c2d5c29d5dc2bc2d562464f6a44cc0eb0ec31ee7bd5f8adf5848751)
  [(tokenLoginMessage (ascii "phone-a"), DeviceProof.signatureDer
    0x36269e994f328ec3c536d7e005bde084e615963b376431527a744927c5d92e01
    0x1bc834bcd14b7f4afc756cd5998323d93dcab708b9005c8081fea62d0c5f5d36)]

def carolCrypto : Crypto where
  sha256 := recordedDigest carolDigests
  ecdsaVerify := fun publicKey message signature =>
    [carolKey, platformKey].any fun key =>
      publicKey = key.publicKeyDer ∧ signature = key.sign message
  argon2idVerify := fun _ _ => false

def carolSurroundings (appSessionId : Bytes) : Surroundings :=
  { surroundingsAt 1700000000 with appSessionId }

def carolTokens : AuthResult where
  userId := 1
  accessToken := numberedToken 3
  refreshToken := numberedToken 4
  accessExpireAt := 1700000300
  refreshExpireAt := 1700172800
  sessionId := numberedToken 1

def carolReturns : List DeviceEvent :=
  [.server (.directory [carol] []),
   .server (.connect 0 aliceAppSession (ascii "192.0.2.1")),
   .account (carolSurroundings aliceAppSession)
     (.startWithPassword (ascii "13800000001") carolPassword),
   .account (carolSurroundings aliceAppSession) (.onConnectResult true),
   .login (countingEnv 1700000000 1) 0
     (aliceAppSession, .passwordLogin (ascii "13800000001") carolPassword 1),
   .account (carolSurroundings aliceAppSession) (.onLoginResult 0 carolTokens 1),
   .account (carolSurroundings aliceAppSession) (.onDisconnected false),
   .server (.closed 0),
   .server (.connect 1 bobAppSession (ascii "192.0.2.1")),
   .account (carolSurroundings bobAppSession) (.onConnectResult true)]

def carolTokenLogin (deviceId : Bytes) (signer : DeviceProofKey) : TokenLoginRq where
  accessToken := numberedToken 3
  deviceId
  deviceSignature := signer.prove bobAppSession deviceId (ascii "token-login") (numberedToken 3)

def carolSecond : Session where
  appSessionId := bobAppSession
  peerAddress := ascii "192.0.2.1"

theorem carolKey_signs : carolKey.SignsAs carolCrypto carolCore where
  correct := by simp [carolCrypto]
  sized := by
    intro message
    simp only [carolKey, recordedKey]
    generalize entries : [_, _] = signatures
    have sizes : ∀ entry ∈ signatures, entry.2.length ≤ 144 := by
      rw [← entries]
      decide +kernel
    cases found : signatures.lookup message with
    | none =>
        rw [Option.getD_none]
        decide +kernel
    | some signature =>
        rw [Option.getD_some]
        exact sizes _ (mem_of_lookup found)
  own := fun _ _ => rfl

theorem live_of_tokenLogin {crypto : Crypto} {now : Int} {world : DeviceWorld} {session : Session}
    {rq : TokenLoginRq} (token : rq.accessToken ≠ [])
    (held : (world.server.tokens.db.findByAccessHash (crypto.tokenHash rq.accessToken)).any
      (fun record => world.Issued record ∧ now < record.accessExpiresAt) = true) :
    world.Live crypto now session (.tokenLogin rq) := by
  obtain ⟨record, found, issued⟩ := Option.any_eq_true .. |>.mp held
  obtain ⟨known, unexpired⟩ := of_decide_eq_true issued
  exact ⟨token, record, found, known, unexpired⟩

theorem device_checks_iff_carol :
    (after carolCrypto carolKey carolCore carolDeviceId {} carolReturns).server.passesDeviceChecks
        carolCrypto 1700000060 carolSecond (.tokenLogin (carolTokenLogin carolDeviceId carolKey)) =
        true ↔
      SameDevice carolCore carolDeviceId carolKey ∧ True :=
  device_checks_iff carolKey_signs {} carolReturns
    (show (bobAppSession, .tokenLogin (ascii "13800000001") (carolTokenLogin carolDeviceId carolKey)
      (numberedToken 1) 2) ∈ _ by decide +kernel)
    rfl (live_of_tokenLogin (by decide +kernel) (by decide +kernel))

/-- A session on a platform that names and signs for itself comes back after a login, and its
token login is refused although its token is a live one. -/
theorem platformTokenLogin_refused :
    (bobAppSession, .tokenLogin (ascii "13800000001")
        (carolTokenLogin (ascii "phone-a") platformKey) (numberedToken 1) 2) ∈
      (after carolCrypto platformKey carolCore (ascii "phone-a") {} carolReturns).outbox ∧
    (after carolCrypto platformKey carolCore (ascii "phone-a") {} carolReturns).Live carolCrypto
      1700000060 carolSecond (.tokenLogin (carolTokenLogin (ascii "phone-a") platformKey)) ∧
    (after carolCrypto platformKey carolCore (ascii "phone-a") {}
        carolReturns).server.passesDeviceChecks carolCrypto 1700000060 carolSecond
      (.tokenLogin (carolTokenLogin (ascii "phone-a") platformKey)) = false := by
  refine ⟨?_, live_of_tokenLogin ?_ ?_, ?_⟩ <;> decide +kernel

end DeviceWorld

end Jitong
