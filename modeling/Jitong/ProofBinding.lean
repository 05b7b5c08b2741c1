import Jitong.DeviceIdentity
import Jitong.Lib.Fields

/-!
What a device proof binds: the message of its fields, as `ClientCore`, the account session and the
server build it, and the credentials of the four operations.
-/

namespace Jitong

open Lib

namespace DeviceProof

theorem toNat_byte (number : UInt32) (shift : UInt32) (small : shift.toNat < 32) :
    (number >>> shift).toUInt8.toNat = number.toNat / 2 ^ shift.toNat % 256 := by
  rw [UInt32.toNat_toUInt8, UInt32.toNat_shiftRight, Nat.mod_eq_of_lt small, Nat.shiftRight_eq_div_pow]

theorem bigEndian32_told {size other : Nat} (small : size < 2 ^ 32) (otherSmall : other < 2 ^ 32)
    (same : bigEndian32 size = bigEndian32 other) : size = other := by
  simp only [bigEndian32, List.cons.injEq, and_true] at same
  obtain ⟨first, second, third, fourth⟩ := same
  have one := congrArg UInt8.toNat first
  have two := congrArg UInt8.toNat second
  have three := congrArg UInt8.toNat third
  have four := congrArg UInt8.toNat fourth
  rw [toNat_byte _ _ (by decide), toNat_byte _ _ (by decide)] at one two three
  rw [UInt32.toNat_toUInt8, UInt32.toNat_toUInt8] at four
  simp only [UInt32.toNat_ofNat', UInt32.reduceToNat, Nat.reducePow] at one two three four
  omega

def lengths : LengthCode UInt8 where
  write := bigEndian32
  width := 4
  limit := 2 ^ 32
  fixed _ := rfl
  told _ _ := bigEndian32_told

theorem message_eq_fields (operation appSessionId deviceId credentialBinding publicKey : Bytes) :
    message operation appSessionId deviceId credentialBinding publicKey =
      ascii "jitong-device-proof-v1" ++
        [operation, appSessionId, deviceId, credentialBinding, publicKey].flatMap lengths.delimit := by
  simp only [message, List.append_assoc, List.flatMap_cons, List.flatMap_nil, List.append_nil]
  rfl

end DeviceProof

namespace ClientCore

def appendField (value : Bytes) : Bytes :=
  let n := UInt32.ofNat value.length
  [((n >>> 24) &&& 0xFF).toUInt8, ((n >>> 16) &&& 0xFF).toUInt8, ((n >>> 8) &&& 0xFF).toUInt8,
    (n &&& 0xFF).toUInt8] ++ value

def buildDeviceProofMessage (operation appSessionId deviceId credentialBinding publicKeyDer : Bytes) :
    Bytes :=
  ascii "jitong-device-proof-v1" ++ appendField operation ++ appendField appSessionId ++
    appendField deviceId ++ appendField credentialBinding ++ appendField publicKeyDer

theorem low_byte (number : UInt32) : (number &&& 0xFF).toUInt8 = number.toUInt8 := by
  apply UInt8.toNat_inj.mp
  rw [UInt32.toNat_toUInt8, UInt32.toNat_toUInt8, UInt32.toNat_and]
  have mask : (0xFF : UInt32).toNat = 2 ^ 8 - 1 := rfl
  rw [mask, Nat.and_two_pow_sub_one_eq_mod, Nat.mod_mod]

theorem appendField_eq (value : Bytes) : appendField value = DeviceProof.field value := by
  simp only [appendField, low_byte]
  rfl

theorem buildDeviceProofMessage_eq (operation appSessionId deviceId binding publicKey : Bytes) :
    buildDeviceProofMessage operation appSessionId deviceId binding publicKey =
      DeviceProof.message operation appSessionId deviceId binding publicKey := by
  simp only [buildDeviceProofMessage, appendField_eq]
  rfl

end ClientCore

inductive DeviceRequest
  | passwordLogin (tel pass : Bytes)
  | tokenLogin (accessToken : Bytes)
  | tokenRefresh (refreshToken requestId : Bytes)
  | logout (refreshToken : Bytes) (allDevices : Bool)
  deriving DecidableEq

namespace DeviceRequest

def operation : DeviceRequest → Bytes
  | passwordLogin .. => ascii "password-login"
  | tokenLogin .. => ascii "token-login"
  | tokenRefresh .. => ascii "token-refresh"
  | logout .. => ascii "logout"

def credentialBinding : DeviceRequest → Bytes
  | passwordLogin tel pass => tel ++ 0 :: pass
  | tokenLogin accessToken => accessToken
  | tokenRefresh refreshToken requestId => refreshToken ++ 0 :: requestId
  | logout refreshToken allDevices => refreshToken ++ 0 :: ascii (if allDevices then "1" else "0")

def bindPublicKey : DeviceRequest → Bool
  | passwordLogin .. => true
  | _ => false

def Plain : DeviceRequest → Prop
  | tokenRefresh refreshToken _ => 0 ∉ refreshToken
  | _ => True

def Proper : DeviceRequest → Prop
  | passwordLogin tel pass => 0 ∉ tel ∧ 0 ∉ pass
  | tokenRefresh refreshToken _ => 0 ∉ refreshToken
  | _ => True

def message (request : DeviceRequest) (appSessionId deviceId publicKey : Bytes) : Bytes :=
  DeviceProof.message request.operation appSessionId deviceId request.credentialBinding
    (if request.bindPublicKey then publicKey else [])

def Short (request : DeviceRequest) (appSessionId deviceId publicKey : Bytes) : Prop :=
  appSessionId.length < 2 ^ 32 ∧ deviceId.length < 2 ^ 32 ∧
    request.credentialBinding.length < 2 ^ 32 ∧ publicKey.length < 2 ^ 32

end DeviceRequest

def DeviceProofKey.signs (signer : DeviceProofKey) (appSessionId deviceId : Bytes)
    (request : DeviceRequest) : Bytes :=
  if signer.publicKeyDer = [] then []
  else signer.sign (request.message appSessionId deviceId signer.publicKeyDer)

def DeviceProofKey.CollisionFree (signer : DeviceProofKey) (crypto : Crypto) : Prop :=
  ∀ publicKey message other, crypto.ecdsaVerify publicKey other (signer.sign message) = true →
    other = message

def ClientPacket.deviceRequest : ClientPacket → Option (Bytes × Bytes × DeviceRequest)
  | .login rq => some (rq.deviceId, rq.deviceSignature, .passwordLogin rq.tel rq.pass)
  | .tokenLogin rq => some (rq.deviceId, rq.deviceSignature, .tokenLogin rq.accessToken)
  | .tokenRefresh rq => some (rq.deviceId, rq.deviceSignature,
      .tokenRefresh rq.refreshToken rq.requestId)
  | .logout rq => some (rq.deviceId, rq.deviceSignature,
      .logout rq.refreshToken rq.logoutAllDevices)
  | _ => none

/-- The handlers accept the request: the checks of a login, `ok` of a token login, `deviceProofOk`
of a refresh, `ownsSession` of a logout. -/
def Server.acceptsProof (crypto : Crypto) (env : Env) (server : Server) (conn : ConnId)
    (session : Session) : ClientPacket → Bool
  | .login rq => (server.checkLogin crypto env conn session rq).1.isSome
  | .tokenLogin rq => (server.checkTokenLogin crypto env.now session rq).isSome
  | .tokenRefresh rq => server.refreshProof crypto session rq
  | .logout rq => (server.logoutRecord crypto session rq).isSome
  | _ => false

/-! What the client signs is such a request. -/

theorem prove_eq_signs (signer : DeviceProofKey) (appSessionId deviceId : Bytes)
    {request : DeviceRequest} (unbound : request.bindPublicKey = false) :
    signer.prove appSessionId deviceId request.operation request.credentialBinding =
      signer.signs appSessionId deviceId request := by
  rw [DeviceProofKey.prove, DeviceProofKey.signs, DeviceRequest.message, unbound,
    DeviceProofService.buildMessage_eq_message]
  rfl

theorem sendLogin_signs {crypto : Crypto} {core : CoreDevice} {appSessionId tel pass : Bytes}
    {rq : LoginRq} (sent : core.sendLogin crypto appSessionId tel pass = some rq) :
    rq.deviceSignature = core.deviceKey.signs appSessionId rq.deviceId
      (.passwordLogin rq.tel rq.pass) := by
  unfold CoreDevice.sendLogin at sent
  dsimp only at sent
  split at sent
  · simp at sent
  · rename_i known
    obtain rfl := Option.some.inj sent
    rw [DeviceProofKey.signs, if_neg fun empty => known (.inl empty)]
    rfl

/-! What the messages and the credentials tell. -/

theorem DeviceProof.message_injective {operation appSessionId deviceId binding publicKey : Bytes}
    {otherOperation otherSession otherDevice otherBinding otherKey : Bytes}
    (short : ∀ field ∈ [operation, appSessionId, deviceId, binding, publicKey], field.length < 2 ^ 32)
    (otherShort : ∀ field ∈ [otherOperation, otherSession, otherDevice, otherBinding, otherKey],
      field.length < 2 ^ 32)
    (same : message operation appSessionId deviceId binding publicKey =
      message otherOperation otherSession otherDevice otherBinding otherKey) :
    operation = otherOperation ∧ appSessionId = otherSession ∧ deviceId = otherDevice ∧
      binding = otherBinding ∧ publicKey = otherKey := by
  rw [message_eq_fields, message_eq_fields] at same
  have fields : [operation, appSessionId, deviceId, binding, publicKey] =
      [otherOperation, otherSession, otherDevice, otherBinding, otherKey] :=
    LengthCode.flatMap_delimit_inj rfl short otherShort (List.append_cancel_left same)
  simpa using fields

theorem DeviceRequest.operation_short (request : DeviceRequest) :
    request.operation.length < 2 ^ 32 := by
  cases request with
  | passwordLogin _ _ => exact (by decide +kernel : (ascii "password-login").length < 2 ^ 32)
  | tokenLogin _ => exact (by decide +kernel : (ascii "token-login").length < 2 ^ 32)
  | tokenRefresh _ _ => exact (by decide +kernel : (ascii "token-refresh").length < 2 ^ 32)
  | logout _ _ => exact (by decide +kernel : (ascii "logout").length < 2 ^ 32)

theorem DeviceRequest.operations_apart :
    ascii "password-login" ≠ ascii "token-login" ∧ ascii "password-login" ≠ ascii "token-refresh" ∧
      ascii "password-login" ≠ ascii "logout" ∧ ascii "token-login" ≠ ascii "token-refresh" ∧
      ascii "token-login" ≠ ascii "logout" ∧ ascii "token-refresh" ≠ ascii "logout" := by
  decide +kernel

theorem DeviceRequest.flag_length (allDevices : Bool) :
    (0 :: ascii (if allDevices then "1" else "0")).length = 2 := by
  revert allDevices
  decide +kernel

theorem DeviceRequest.flag_injective {allDevices otherFlag : Bool}
    (same : ascii (if allDevices then "1" else "0") = ascii (if otherFlag then "1" else "0")) :
    allDevices = otherFlag := by
  have apart : ascii "1" ≠ ascii "0" := by decide +kernel
  cases allDevices <;> cases otherFlag
  · rfl
  · exact absurd same.symm apart
  · exact absurd same apart
  · rfl

theorem DeviceRequest.eq_of_binding {made taken : DeviceRequest} (plain : made.Plain)
    (proper : taken.Proper) (operation : made.operation = taken.operation)
    (binding : made.credentialBinding = taken.credentialBinding) : made = taken := by
  obtain ⟨loginToken, loginRefresh, loginLogout, tokenRefreshes, tokenLogout, refreshLogout⟩ :=
    operations_apart
  cases made with
  | passwordLogin tel pass =>
      cases taken with
      | passwordLogin otherTel otherPass =>
          obtain ⟨rfl, rfl⟩ := separated_inj_of_plain proper.1 proper.2 binding
          rfl
      | tokenLogin _ => exact absurd operation loginToken
      | tokenRefresh _ _ => exact absurd operation loginRefresh
      | logout _ _ => exact absurd operation loginLogout
  | tokenLogin accessToken =>
      cases taken with
      | passwordLogin _ _ => exact absurd operation loginToken.symm
      | tokenLogin other => exact congrArg DeviceRequest.tokenLogin binding
      | tokenRefresh _ _ => exact absurd operation tokenRefreshes
      | logout _ _ => exact absurd operation tokenLogout
  | tokenRefresh refreshToken requestId =>
      cases taken with
      | passwordLogin _ _ => exact absurd operation loginRefresh.symm
      | tokenLogin _ => exact absurd operation tokenRefreshes.symm
      | tokenRefresh other otherId =>
          obtain ⟨rfl, rfl⟩ := separated_inj plain proper binding
          rfl
      | logout _ _ => exact absurd operation refreshLogout
  | logout refreshToken allDevices =>
      cases taken with
      | passwordLogin _ _ => exact absurd operation loginLogout.symm
      | tokenLogin _ => exact absurd operation tokenLogout.symm
      | tokenRefresh _ _ => exact absurd operation refreshLogout.symm
      | logout other otherFlag =>
          obtain ⟨rfl, flags⟩ := List.append_inj' binding
            ((flag_length allDevices).trans (flag_length otherFlag).symm)
          rw [flag_injective (List.cons.inj flags).2]

/-! Every refresh token that the server has is one that it made. -/

namespace TokenService

variable {crypto : Crypto} {env : Env} {service : TokenService}

theorem randomToken_plain {call : Nat} {token : Bytes} (made : randomToken env call = some token) :
    0 ∉ token := by
  obtain ⟨random, _, rfl⟩ := Option.map_eq_some_iff.mp made
  exact toHex_noNul random

theorem issue_plain {userId : Int32} {deviceId : Bytes} {result : TokenPair × TokenService}
    (issued : service.issue crypto env userId deviceId = some result) :
    0 ∉ result.1.refreshToken := by
  unfold issue at issued
  simp only [bind, Option.bind_eq_some_iff, pure, Option.some.injEq] at issued
  obtain ⟨_, _, _, _, _, _, refreshToken, made, _, _, rfl⟩ := issued
  exact randomToken_plain made

theorem punishReplay_refuses (oldHash : Bytes) (pair : TokenPair) :
    (service.punishReplay env oldHash).1 ≠ .granted pair := by
  unfold punishReplay
  split
  · simp
  · split <;> simp

theorem rotateUncached_plain {refreshToken deviceId requestId : Bytes} {pair : TokenPair}
    (granted : (service.rotateUncached crypto env refreshToken deviceId requestId).1 =
      .granted pair) : 0 ∉ pair.refreshToken := by
  unfold rotateUncached at granted
  dsimp only at granted
  split at granted
  · exact absurd granted (punishReplay_refuses _ _)
  · split at granted
    · simp at granted
    · split at granted
      · rename_i made
        split at granted
        · obtain rfl := RotateOutcome.granted.inj granted
          exact randomToken_plain made
        · exact absurd granted (punishReplay_refuses _ _)
      · simp at granted

end TokenService

theorem TokenOp.minted_plain {crypto : Crypto} {service : TokenService} {op : TokenOp} {mint : Mint}
    (minted : op.minted crypto service = some mint) : 0 ∉ mint.pair.refreshToken := by
  cases op with
  | issue env userId deviceId =>
      obtain ⟨result, issued, rfl⟩ := Option.map_eq_some_iff.mp minted
      exact TokenService.issue_plain issued
  | rotateRefresh env refreshToken deviceId requestId =>
      simp only [TokenOp.minted] at minted
      split at minted
      · simp at minted
      · rename_i uncached
        unfold TokenService.rotateRefresh at minted
        split at minted
        · simp [RotateOutcome.mint] at minted
        · dsimp only at minted
          split at minted
          · rename_i found
            simp [found] at uncached
          · cases outcome : ((service.dropExpired env.now).rotateUncached crypto env refreshToken
              deviceId requestId).1 with
            | granted pair =>
                rw [outcome] at minted
                obtain rfl := Option.some.inj minted
                exact TokenService.rotateUncached_plain outcome
            | refused userId => simp [outcome, RotateOutcome.mint] at minted
            | thrown => simp [outcome, RotateOutcome.mint] at minted
  | validateAccess _ _ _ _ => simp [TokenOp.minted] at minted
  | revokeSession _ _ => simp [TokenOp.minted] at minted
  | revokeAllForUser _ _ => simp [TokenOp.minted] at minted
  | revokeTokenFamily _ _ => simp [TokenOp.minted] at minted

theorem TokenRun.ledger_plain {crypto : Crypto} {ops : List TokenOp} {state : TokenState}
    (run : TokenRun crypto ops state) : ∀ mint ∈ state.ledger, 0 ∉ mint.pair.refreshToken := by
  induction run with
  | nil => exact fun _ member => absurd member List.not_mem_nil
  | snoc _ taken plain =>
      obtain ⟨_, _, ledger⟩ := taken
      intro mint member
      rw [ledger] at member
      rcases List.mem_append.mp member with new | old
      · exact TokenOp.minted_plain (Option.mem_toList.mp new)
      · exact plain mint old

theorem ServerRun.refreshToken_plain {crypto : Crypto} {events : List ServerEvent}
    {state : ServerState} (run : ServerRun crypto events state)
    (collisionFree : Function.Injective crypto.sha256) {refreshToken : Bytes}
    {record : AuthSessionRecord}
    (found : state.server.tokens.db.findByRefreshHash (crypto.tokenHash refreshToken) =
      some record) : 0 ∉ refreshToken := by
  obtain ⟨ops, tokenRun⟩ := run.tokenRun
  obtain ⟨row, stored, hash, _⟩ := AuthTables.findByRefreshHash_eq_some found
  obtain ⟨pair, latest, _, _, current⟩ := ((run.storeInvariant collisionFree).rows row stored).latest
  obtain ⟨mint, minted, rfl, _⟩ := Ledger.latest_mem latest
  rw [Crypto.hashText_injective collisionFree (hash.symm.trans current)]
  exact TokenRun.ledger_plain tokenRun mint minted

/-! What an accepted request has gone through. -/

theorem noNul_of_validMainlandMobile {tel : Bytes} (valid : validMainlandMobile tel = true) :
    0 ∉ tel := by
  intro member
  unfold validMainlandMobile at valid
  split at valid
  · simp only [Bool.and_eq_true, List.all_eq_true] at valid
    exact absurd (valid.2 0 member) (by decide)
  · simp at valid

theorem noNul_of_validSha256Proof {proof : Bytes} (valid : validSha256Proof proof = true) :
    0 ∉ proof := by
  intro member
  simp only [validSha256Proof, Bool.and_eq_true, List.all_eq_true] at valid
  exact absurd (valid.2 0 member) (by decide)

namespace Server

variable {crypto : Crypto} {env : Env} {server : Server} {conn : ConnId} {session : Session}

theorem checkLogin_formed {rq : LoginRq} {userId : Int32} {after : Server}
    (accepted : server.checkLogin crypto env conn session rq = (some userId, after)) :
    validMainlandMobile rq.tel = true ∧ validSha256Proof rq.pass = true := by
  unfold checkLogin at accepted
  dsimp only at accepted
  split at accepted
  · simp at accepted
  · split at accepted
    · simp at accepted
    · rename_i formed
      simp only [not_or, Bool.not_eq_true', Bool.not_eq_false] at formed
      exact ⟨formed.1, formed.2.1⟩

theorem checkTokenLogin_proof {now : Int} {rq : TokenLoginRq}
    (accepted : (server.checkTokenLogin crypto now session rq).isSome = true) :
    ∃ publicKey, verifyDevice crypto session (ascii "token-login") rq.deviceId rq.accessToken
      publicKey rq.deviceSignature false = true := by
  unfold checkTokenLogin at accepted
  split at accepted
  · obtain ⟨result, some⟩ := Option.isSome_iff_exists.mp accepted
    simp only [bind, Option.bind_eq_some_iff] at some
    obtain ⟨_, _, publicKey, _, proven⟩ := some
    split at proven
    · rename_i verified
      exact ⟨publicKey, verified⟩
    · simp at proven
  · simp at accepted

theorem refreshProof_proof {rq : RefreshTokenRq}
    (accepted : server.refreshProof crypto session rq = true) :
    ∃ publicKey, verifyDevice crypto session (ascii "token-refresh") rq.deviceId
      (rq.refreshToken ++ 0 :: rq.requestId) publicKey rq.deviceSignature false = true := by
  unfold refreshProof at accepted
  rw [Bool.and_eq_true] at accepted
  obtain ⟨_, proven⟩ := accepted
  split at proven
  · simp at proven
  · rw [Bool.and_eq_true] at proven
    obtain ⟨_, proven⟩ := proven
    split at proven
    · simp at proven
    · rename_i publicKey _
      exact ⟨publicKey, proven⟩

theorem logoutRecord_proof {rq : LogoutRq}
    (accepted : (server.logoutRecord crypto session rq).isSome = true) :
    ∃ publicKey, verifyDevice crypto session (ascii "logout") rq.deviceId
      (rq.refreshToken ++ 0 :: ascii (if rq.logoutAllDevices then "1" else "0")) publicKey
      rq.deviceSignature false = true := by
  unfold logoutRecord at accepted
  generalize rq.refreshToken ++ 0 :: ascii (if rq.logoutAllDevices then "1" else "0") = credential
    at accepted ⊢
  obtain ⟨result, some⟩ := Option.isSome_iff_exists.mp accepted
  by_cases missing : rq.refreshToken = []
  · simp [missing] at some
  · simp only [ne_eq, missing, not_false_eq_true, if_true, bind, Option.bind_eq_some_iff] at some
    obtain ⟨record, _, some⟩ := some
    split at some
    · obtain ⟨publicKey, _, proven⟩ := Option.bind_eq_some_iff.mp some
      split at proven
      · rename_i verified
        exact ⟨publicKey, verified.1⟩
      · simp at proven
    · simp at some

end Server

theorem ServerRun.acceptsProof_verified {crypto : Crypto} {events : List ServerEvent}
    {state : ServerState} (run : ServerRun crypto events state)
    (collisionFree : Function.Injective crypto.sha256) {env : Env} {conn : ConnId}
    {session : Session} {packet : ClientPacket} {deviceId signature : Bytes}
    {taken : DeviceRequest}
    (accepted : state.server.acceptsProof crypto env conn session packet = true)
    (asks : packet.deviceRequest = some (deviceId, signature, taken)) :
    taken.Proper ∧ ∃ publicKey, verifyDevice crypto session taken.operation deviceId
      taken.credentialBinding publicKey signature taken.bindPublicKey = true := by
  cases packet with
  | login rq =>
      simp only [ClientPacket.deviceRequest, Option.some.injEq, Prod.mk.injEq] at asks
      obtain ⟨rfl, rfl, rfl⟩ := asks
      obtain ⟨userId, some⟩ := Option.isSome_iff_exists.mp accepted
      have formed := Server.checkLogin_formed (Prod.ext some rfl)
      exact ⟨⟨noNul_of_validMainlandMobile formed.1, noNul_of_validSha256Proof formed.2⟩, _,
        (Server.checkLogin_accepted (Prod.ext some rfl)).proof⟩
  | tokenLogin rq =>
      simp only [ClientPacket.deviceRequest, Option.some.injEq, Prod.mk.injEq] at asks
      obtain ⟨rfl, rfl, rfl⟩ := asks
      exact ⟨trivial, Server.checkTokenLogin_proof accepted⟩
  | tokenRefresh rq =>
      simp only [ClientPacket.deviceRequest, Option.some.injEq, Prod.mk.injEq] at asks
      obtain ⟨rfl, rfl, rfl⟩ := asks
      obtain ⟨record, found, _⟩ := Server.refreshProof_record accepted
      exact ⟨run.refreshToken_plain collisionFree found, Server.refreshProof_proof accepted⟩
  | logout rq =>
      simp only [ClientPacket.deviceRequest, Option.some.injEq, Prod.mk.injEq] at asks
      obtain ⟨rfl, rfl, rfl⟩ := asks
      exact ⟨trivial, Server.logoutRecord_proof accepted⟩
  | chatInfo _ => simp [ClientPacket.deviceRequest] at asks
  | friendOffline => simp [ClientPacket.deviceRequest] at asks
  | heartbeat => simp [ClientPacket.deviceRequest] at asks
  | other _ => simp [ClientPacket.deviceRequest] at asks

/-- The proof of a device binds the fields of its message, and what is signed for one request is
accepted for no other. -/
structure ProofBinds (crypto : Crypto) (signer : DeviceProofKey) : Prop where
  same : ∀ operation appSessionId deviceId credentialBinding publicKey,
    ClientCore.buildDeviceProofMessage operation appSessionId deviceId credentialBinding publicKey =
        DeviceProof.message operation appSessionId deviceId credentialBinding publicKey ∧
      DeviceProofService.buildMessage operation appSessionId deviceId credentialBinding publicKey =
        DeviceProof.message operation appSessionId deviceId credentialBinding publicKey
  signed : (∀ appSessionId deviceId request, request.bindPublicKey = false →
      signer.prove appSessionId deviceId request.operation request.credentialBinding =
        signer.signs appSessionId deviceId request) ∧
    ∀ rand64 seq appSessionId tel pass rq,
      (CoreDevice.mk rand64 seq signer).sendLogin crypto appSessionId tel pass = some rq →
        rq.deviceSignature = signer.signs appSessionId rq.deviceId (.passwordLogin rq.tel rq.pass)
  injective : ∀ operation appSessionId deviceId credentialBinding publicKey otherOperation
      otherSession otherDevice otherBinding otherKey,
    (∀ field ∈ [operation, appSessionId, deviceId, credentialBinding, publicKey, otherOperation,
      otherSession, otherDevice, otherBinding, otherKey], field.length < 2 ^ 32) →
    DeviceProof.message operation appSessionId deviceId credentialBinding publicKey =
      DeviceProof.message otherOperation otherSession otherDevice otherBinding otherKey →
    operation = otherOperation ∧ appSessionId = otherSession ∧ deviceId = otherDevice ∧
      credentialBinding = otherBinding ∧ publicKey = otherKey
  /-- In every state of the server, a request that is accepted with a signature of the device is
  the one that the device made it for, in that application session and for that device id. -/
  bound : ∀ (events : List ServerEvent) (state : ServerState), ServerRun crypto events state →
    ∀ (made taken : DeviceRequest) (appSessionId deviceId otherDevice : Bytes) (env : Env)
      (conn : ConnId) (session : Session) (packet : ClientPacket), made.Plain →
    made.Short appSessionId deviceId signer.publicKeyDer →
    taken.Short session.appSessionId otherDevice [] →
    packet.deviceRequest = some (otherDevice, signer.signs appSessionId deviceId made, taken) →
    state.server.acceptsProof crypto env conn session packet = true →
      taken = made ∧ session.appSessionId = appSessionId ∧ otherDevice = deviceId

theorem deviceProof_binds (crypto : Crypto) (collisionFree : Function.Injective crypto.sha256)
    (signer : DeviceProofKey) (alone : signer.CollisionFree crypto) : ProofBinds crypto signer where
  same _ _ _ _ _ := ⟨ClientCore.buildDeviceProofMessage_eq _ _ _ _ _, rfl⟩
  signed := ⟨fun _ _ _ unbound => prove_eq_signs _ _ _ unbound,
    fun _ _ _ _ _ _ sent => sendLogin_signs sent⟩
  injective _ _ _ _ _ _ _ _ _ _ short equal := by
    refine DeviceProof.message_injective ?_ ?_ equal
    · exact fun field member => short field (by simp only [List.mem_cons] at member ⊢; tauto)
    · exact fun field member => short field (by simp only [List.mem_cons] at member ⊢; tauto)
  bound events state run made taken appSessionId deviceId otherDevice env conn session packet plain
      short otherShort asks accepted := by
    obtain ⟨proper, publicKey, verified⟩ := run.acceptsProof_verified collisionFree accepted asks
    simp only [verifyDevice, DeviceProof.verifyP256] at verified
    split at verified
    · simp at verified
    · rename_i sized
      simp only [not_or, not_lt] at sized
      have signed : signer.signs appSessionId deviceId made =
          signer.sign (made.message appSessionId deviceId signer.publicKeyDer) := by
        unfold DeviceProofKey.signs at sized ⊢
        split
        · rename_i empty
          simp [empty] at sized
        · rfl
      rw [signed] at verified
      have equal := alone _ _ _ verified
      have ownKey : (if made.bindPublicKey = true then signer.publicKeyDer else []).length < 2 ^ 32 := by
        split
        · exact short.2.2.2
        · decide
      have otherKey : (if taken.bindPublicKey = true then publicKey else []).length < 2 ^ 32 := by
        split
        · omega
        · decide
      obtain ⟨operation, sessions, devices, binding, _⟩ := DeviceProof.message_injective
        (by simpa using ⟨taken.operation_short, otherShort.1, otherShort.2.1, otherShort.2.2.1,
          by simpa using otherKey⟩)
        (by simpa using ⟨made.operation_short, short.1, short.2.1, short.2.2.1,
          by simpa using ownKey⟩) equal
      exact ⟨(DeviceRequest.eq_of_binding plain proper operation.symm binding.symm).symm, sessions,
        devices⟩

def recordedSigner (signatures : List (Bytes × Bytes × Bytes)) (publicKeyDer : Bytes) :
    DeviceProofKey where
  publicKeyDer
  sign message := ((signatures.find? fun entry => entry.1 = publicKeyDer && entry.2.1 = message).map
    (·.2.2)).getD []

theorem recordedSigner_collisionFree {digests : List (Bytes × Bytes)}
    {signatures : List (Bytes × Bytes × Bytes)} (publicKeyDer : Bytes)
    (distinct : (signatures.map (·.2.2)).Nodup) (filled : [] ∉ signatures.map (·.2.2)) :
    (recordedSigner signatures publicKeyDer).CollisionFree (.recorded digests signatures) := by
  intro publicKey message other verified
  have member := of_decide_eq_true verified
  simp only [recordedSigner] at member
  cases found : signatures.find? fun entry =>
      entry.1 = publicKeyDer && entry.2.1 = message with
  | none =>
      rw [found, Option.map_none, Option.getD_none] at member
      exact absurd (List.mem_map.mpr ⟨_, member, rfl⟩) filled
  | some entry =>
      rw [found, Option.map_some, Option.getD_some] at member
      have own := List.find?_some found
      have same := List.inj_on_of_nodup_map distinct member (List.mem_of_find?_eq_some found) rfl
      rw [← same] at own
      simpa using (Bool.and_eq_true_iff.mp own).2

def aliceSignatures : List (Bytes × Bytes × Bytes) :=
  [signedLogin aliceAppSession aliceLogin,
    signedRefresh aliceLogin.devicePublicKey aliceAppSession aliceRefresh]

def aliceKey : DeviceProofKey := recordedSigner aliceSignatures aliceLogin.devicePublicKey

def aliceCrypto : Crypto := .recorded (passwordDigests ++ tokenDigests) aliceSignatures

/-- Alice's key, with a refresh of hers that is accepted after her login. -/
theorem deviceProof_binds_alice :
    ProofBinds aliceCrypto aliceKey ∧
      aliceRefresh.deviceSignature = aliceKey.signs aliceAppSession (ascii "phone-a")
        (.tokenRefresh aliceRefresh.refreshToken aliceRefresh.requestId) ∧
      ((ServerState.after aliceCrypto aliceLogsIn).server.sessions 0).any (fun session =>
        (ServerState.after aliceCrypto aliceLogsIn).server.acceptsProof aliceCrypto
          (countingEnv 1700000060 5) 0 session (.tokenRefresh aliceRefresh)) = true :=
  ⟨deviceProof_binds aliceCrypto
      (recordedDigest_injective (by decide +kernel) (by decide +kernel)) aliceKey
      (recordedSigner_collisionFree _ (by decide +kernel) (by decide +kernel)),
    by decide +kernel, by decide +kernel⟩

end Jitong
