import Jitong.Lib.Hkdf
import Jitong.Protocol

/-!
What the two ends of the application channel share: the primitives of OpenSSL, the
four messages of `im.proto` with the code that protoc makes for them, and numbers
as bytes. Each end has its own code for the rest.
-/

namespace Jitong

open Lib

def appClientHelloType : UInt32 := defBase + 36
def appServerHelloType : UInt32 := defBase + 37
def appClientFinishedType : UInt32 := defBase + 38
def appServerFinishedType : UInt32 := defBase + 39
def appEncryptedFrameType : UInt32 := defBase + 40

def appSecurityVersion : UInt32 := 1
def appCipherSuiteV1 : UInt32 := 1
def appMaxHandshakePayload : Nat := 1024

def appCipher : Int32 := 1

def maxSequence : UInt64 := 0xFFFFFFFFFFFFFFFF

/-- `gcmEncrypt` and `gcmDecrypt` take key, nonce and AAD first; the derivation of a
shared secret and the decryption may fail. Both owners of two keys derive one secret. -/
structure OpenSsl where
  x25519Public : Bytes → Bytes
  x25519Derive : Bytes → Bytes → Option Bytes
  ed25519Sign : Bytes → Bytes → Bytes
  ed25519Verify : Bytes → Bytes → Bytes → Bool
  sha256 : Bytes → Bytes
  hmacSha256 : Bytes → Bytes → Bytes
  gcmEncrypt : Bytes → Bytes → Bytes → Bytes → Bytes × Bytes
  gcmDecrypt : Bytes → Bytes → Bytes → Bytes → Bytes → Option Bytes
  x25519Public_length : ∀ privateKey, (x25519Public privateKey).length = 32
  x25519Derive_comm : ∀ left right,
    x25519Derive left (x25519Public right) = x25519Derive right (x25519Public left)
  sha256_length : ∀ input, (sha256 input).length = 32
  hmacSha256_length : ∀ key message, (hmacSha256 key message).length = 32

structure AppClientHello where
  version : UInt32 := 0
  clientEphemeralPublicKey : Bytes := []
  clientNonce : Bytes := []
  clientRandomId : Bytes := []
  cipherSuite : Int32 := 0
  deriving DecidableEq

structure AppServerHello where
  version : UInt32 := 0
  serverEphemeralPublicKey : Bytes := []
  serverNonce : Bytes := []
  sessionId : Bytes := []
  keyId : UInt32 := 0
  signature : Bytes := []
  cipherSuite : Int32 := 0
  deriving DecidableEq

structure AppFinished where
  verifyData : Bytes := []
  deriving DecidableEq

structure AppEncryptedFrame where
  version : UInt32 := 0
  sessionId : Bytes := []
  sequence : UInt64 := 0
  ciphertext : Bytes := []
  tag : Bytes := []
  deriving DecidableEq

/-- `SerializeAsString` and `ParseFromString` of a message. -/
structure ProtoCodec (Message : Type) where
  serialize : Message → Bytes
  parse : Bytes → Option Message

structure AppProto where
  clientHello : ProtoCodec AppClientHello
  serverHello : ProtoCodec AppServerHello
  finished : ProtoCodec AppFinished
  frame : ProtoCodec AppEncryptedFrame

structure ChannelKeys where
  clientToServerKey : Bytes := []
  serverToClientKey : Bytes := []
  clientNoncePrefix : Bytes := []
  serverNoncePrefix : Bytes := []
  clientFinishedKey : Bytes := []
  serverFinishedKey : Bytes := []
  deriving DecidableEq

def u32Be (value : UInt32) : Bytes :=
  [(value >>> 24).toUInt8, (value >>> 16).toUInt8, (value >>> 8).toUInt8, value.toUInt8]

theorem u32Be_length (value : UInt32) : (u32Be value).length = 4 := rfl

def u64Be (value : UInt64) : Bytes :=
  [(value >>> 56).toUInt8, (value >>> 48).toUInt8, (value >>> 40).toUInt8, (value >>> 32).toUInt8,
    (value >>> 24).toUInt8, (value >>> 16).toUInt8, (value >>> 8).toUInt8, value.toUInt8]

def encodeType32 (type : UInt32) : Bytes :=
  [type.toUInt8, (type >>> 8).toUInt8, (type >>> 16).toUInt8, (type >>> 24).toUInt8]

def decodeType32 (data : Bytes) : UInt32 :=
  (data.getD 0 0).toUInt32 ||| ((data.getD 1 0).toUInt32 <<< 8) |||
    ((data.getD 2 0).toUInt32 <<< 16) ||| ((data.getD 3 0).toUInt32 <<< 24)

def isChannelType (type : UInt32) : Bool := appClientHelloType ≤ type ∧ type ≤ appEncryptedFrameType

theorem u32Be_injective {left right : UInt32} (same : u32Be left = u32Be right) : left = right := by
  simp only [u32Be, List.cons.injEq, ← UInt8.toNat_inj, ← UInt32.toNat_inj, UInt32.toNat_toUInt8,
    UInt32.toNat_shiftRight, Nat.shiftRight_eq_div_pow, and_true] at same ⊢
  have leftBound := left.toNat_lt
  have rightBound := right.toNat_lt
  simp at same
  omega

theorem u64Be_injective {left right : UInt64} (same : u64Be left = u64Be right) : left = right := by
  simp only [u64Be, List.cons.injEq, ← UInt8.toNat_inj, ← UInt64.toNat_inj, UInt64.toNat_toUInt8,
    UInt64.toNat_shiftRight, Nat.shiftRight_eq_div_pow, and_true] at same ⊢
  have leftBound := left.toNat_lt
  have rightBound := right.toNat_lt
  simp at same
  omega

theorem decodeType32_encodeType32 (type : UInt32) (payload : Bytes) :
    decodeType32 (encodeType32 type ++ payload) = type := by
  have first : decodeType32 (encodeType32 type ++ payload) = type.toUInt8.toUInt32 |||
      ((type >>> 8).toUInt8.toUInt32 <<< 8) ||| ((type >>> 16).toUInt8.toUInt32 <<< 16) |||
      ((type >>> 24).toUInt8.toUInt32 <<< 24) := rfl
  rw [first]
  apply UInt32.eq_of_toBitVec_eq
  simp only [UInt32.toBitVec_or, UInt32.toBitVec_shiftLeft, UInt8.toBitVec_toUInt32,
    UInt32.toBitVec_toUInt8, UInt32.toBitVec_shiftRight]
  ext index bound
  simp only [UInt32.toBitVec_ofNat, BitVec.ofNat_eq_ofNat, BitVec.reduceMod, BitVec.ushiftRight_eq',
    BitVec.toNat_ofNat, Nat.reducePow, Nat.reduceMod, BitVec.shiftLeft_eq', BitVec.getElem_or,
    BitVec.getElem_setWidth, BitVec.getLsbD_setWidth, BitVec.getElem_shiftLeft,
    BitVec.getLsbD_ushiftRight]
  rw [← BitVec.getLsbD_eq_getElem bound]
  by_cases low : index < 8
  · simp [low, show index < 16 by omega, show index < 24 by omega]
  · by_cases second : index < 16
    · simp [low, second, show index < 24 by omega, show index - 8 < 8 by omega,
        show 8 + (index - 8) = index by omega]
    · by_cases third : index < 24
      · simp [low, second, third, show ¬index - 8 < 8 by omega, show index - 16 < 8 by omega,
          show 16 + (index - 16) = index by omega]
      · simp [low, second, third, show ¬index - 8 < 8 by omega, show ¬index - 16 < 8 by omega,
          show index - 24 < 8 by omega, show 24 + (index - 24) = index by omega]

/-! The vector of `tests/golden/app-security-v1.json`, with the values between its fields. -/

namespace Golden

def clientPrivate : Bytes := List.replicate 32 0x11
def clientNonce : Bytes := List.replicate 32 0x22
def clientRandomId : Bytes := List.replicate 16 0x33
def identityPrivate : Bytes := List.replicate 32 0x44
def serverPrivate : Bytes := List.replicate 32 0x55
def serverNonce : Bytes := List.replicate 32 0x66
def sessionId : Bytes := List.replicate 16 0x77

def clientPublic : Bytes :=
  bigEndian 32 0x7b4e909bbe7ffe44c465a220037d608ee35897d31ef972f07f74892cb0f73f13

def identityPublic : Bytes :=
  bigEndian 32 0xd759793bbc13a2819a827c76adb6fba8a49aee007f49f2d0992d99b825ad2c48

def serverPublic : Bytes :=
  bigEndian 32 0x38ab664bd86f77d7e66bdd9ae0792913a94fd8b33a1260027e4b46c1f4884c67

def signature : Bytes :=
  bigEndian 32 0xcdb974c466be5200d4209830f9c4b6b39e7532fda4a9f9432c59c5ccd9d483a7 ++
    bigEndian 32 0x1a7cecf01e7885953902e234c70f9058d45d169c553e1f7d3c2a3c62fc512508

def sharedSecret : Bytes :=
  bigEndian 32 0xdb00c848d90eb8638a66a7e8e41561be9b264e2c91dfe2c6a073780af383c052

def salt : Bytes :=
  bigEndian 32 0x2a0d04f2631212c8f0df7a183c24da4a0b3729c3d977f41d9c21e312b5c419d5

def transcriptHash : Bytes :=
  bigEndian 32 0xaba53afe3eebb62067e2d54ed521873ac2790eae0568d394f46447da42be4887

def pseudoRandomKey : Bytes :=
  bigEndian 32 0xff33dc42f3379da6f8c828bf3f9aff79670e1dc4a6fa7ca433f994b63dcf723e

def keyBlocks : List Bytes :=
  [0x779b21a1de3dfce327691d0e9e8e9111213b6491111e24376e5505a2c5c84d82,
    0x377a76f1ac5fcbc81528a8f4a062951fadb7740fe179a2f6801142195a799513,
    0x9acbcf5f623cf3c5d061d725bec5bcd630bc1a9307cbeddd1267db512b8c69e0,
    0x44450acb8d88e05ecd531ea6c40eb6578f787d7c8a504f58abc24b35c726e65a,
    0x5041101fbb8113e38564e9ce31c13add9c0872e226166364bd85e2ca8fd72814].map (bigEndian 32)

def keys : ChannelKeys :=
  let material := keyBlocks.flatten
  ⟨material.take 32, (material.drop 32).take 32, (material.drop 64).take 4,
    (material.drop 68).take 4, (material.drop 72).take 32, (material.drop 104).take 32⟩

def clientVerify : Bytes :=
  bigEndian 32 0x1f8d8a3465c9fd0a035e48da2fb155727674bbf63483b257f6c7fea90f2b5f37

def serverVerify : Bytes :=
  bigEndian 32 0x95be1443e1127b4f4fb7c44233b8f83ca2dff6a0aab4e040afbc4dd41d27fa45

def clientHello : AppClientHello := ⟨1, clientPublic, clientNonce, clientRandomId, 1⟩

def clientPayload : Bytes :=
  [0x08, 0x01, 0x12, 0x20] ++ clientPublic ++ [0x1a, 0x20] ++ clientNonce ++ [0x22, 0x10] ++
    clientRandomId ++ [0x28, 0x01]

def serverHello : AppServerHello := ⟨1, serverPublic, serverNonce, sessionId, 1, signature, 1⟩

def serverPayload : Bytes :=
  [0x08, 0x01, 0x12, 0x20] ++ serverPublic ++ [0x1a, 0x20] ++ serverNonce ++ [0x22, 0x10] ++
    sessionId ++ [0x28, 0x01, 0x32, 0x40] ++ signature ++ [0x38, 0x01]

def clientFinished : Bytes := [0x0a, 0x20] ++ clientVerify
def serverFinished : Bytes := [0x0a, 0x20] ++ serverVerify

def signed : Bytes :=
  ascii "jitong-app-handshake-v1" ++ u32Be 90 ++ clientPayload ++ u32Be 1 ++ serverPublic ++
    serverNonce ++ sessionId ++ u32Be 1 ++ u32Be 1

def frameNonce : Bytes := keys.clientNoncePrefix ++ u64Be 1

def frameAad : Bytes := ascii "jitong-app-frame-v1" ++ u32Be 1 ++ sessionId ++ u64Be 1

def framePlaintext : Bytes := encodeType32 heartbeatRqType ++ ascii "jitong-golden-payload"

def frameCiphertext : Bytes := bigEndian 25 0xb98be06c69ac101bccd9f1e63894be6715376a07101fa646e2

def frameTag : Bytes := bigEndian 16 0xb96c47b0d4b35356ca231dfff5cad945

def frame : AppEncryptedFrame := ⟨1, sessionId, 1, frameCiphertext, frameTag⟩

def framePayload : Bytes :=
  [0x08, 0x01, 0x12, 0x10] ++ sessionId ++ [0x18, 0x01, 0x22, 0x19] ++ frameCiphertext ++
    [0x2a, 0x10] ++ frameTag

def codes : List ((Bytes × Bytes) × Bytes) :=
  let info := ascii "jitong-app-channel-v1" ++ sessionId ++ transcriptHash
  ((salt, sharedSecret), pseudoRandomKey) ::
    ((keys.clientFinishedKey, transcriptHash), clientVerify) ::
    ((keys.serverFinishedKey, transcriptHash ++ clientVerify), serverVerify) ::
    (List.range 5).map fun index =>
      ((pseudoRandomKey, (if index = 0 then [] else keyBlocks.getD (index - 1) []) ++ info ++
        [UInt8.ofNat (index + 1)]), keyBlocks.getD index [])

def hmacSha256 (key message : Bytes) : Bytes :=
  match codes.find? fun entry => entry.1 = (key, message) with
  | some entry => entry.2
  | none => List.replicate 32 0

theorem hmacSha256_length (key message : Bytes) : (hmacSha256 key message).length = 32 := by
  have sizes : ∀ entry ∈ codes, entry.2.length = 32 := by decide
  unfold hmacSha256
  split
  · rename_i entry found
    exact sizes entry (List.mem_of_find?_eq_some found)
  · rfl

def x25519Public (privateKey : Bytes) : Bytes :=
  if privateKey = clientPrivate then clientPublic
  else if privateKey = serverPrivate then serverPublic
  else List.replicate 32 0

theorem x25519Public_length (privateKey : Bytes) : (x25519Public privateKey).length = 32 := by
  unfold x25519Public
  split
  · rfl
  · split <;> rfl

def x25519Derive (privateKey peer : Bytes) : Option Bytes :=
  if (privateKey, peer) = (clientPrivate, serverPublic) ∨
    (privateKey, peer) = (serverPrivate, clientPublic) then some sharedSecret else none

theorem x25519Public_eq (privateKey : Bytes) :
    (x25519Public privateKey = clientPublic ↔ privateKey = clientPrivate) ∧
      (x25519Public privateKey = serverPublic ↔ privateKey = serverPrivate) := by
  have apart : clientPrivate ≠ serverPrivate ∧ clientPublic ≠ serverPublic := by decide +kernel
  have unrecorded : List.replicate 32 0 ≠ clientPublic ∧ List.replicate 32 0 ≠ serverPublic := by
    decide +kernel
  unfold x25519Public
  split
  · rename_i isClient
    exact ⟨iff_of_true rfl isClient, iff_of_false apart.2 (isClient ▸ apart.1)⟩
  · rename_i notClient
    split
    · rename_i isServer
      exact ⟨iff_of_false apart.2.symm notClient, iff_of_true rfl isServer⟩
    · rename_i notServer
      exact ⟨iff_of_false unrecorded.1 notClient, iff_of_false unrecorded.2 notServer⟩

theorem x25519Derive_comm (left right : Bytes) :
    x25519Derive left (x25519Public right) = x25519Derive right (x25519Public left) := by
  simp only [x25519Derive, Prod.mk.injEq, x25519Public_eq]
  exact if_congr (by rw [and_comm, or_comm, and_comm]) rfl rfl

def sha256 (input : Bytes) : Bytes :=
  if input = clientNonce ++ serverNonce then salt
  else if input = u32Be 90 ++ clientPayload ++ u32Be 158 ++ serverPayload then transcriptHash
  else List.replicate 32 0

theorem sha256_length (input : Bytes) : (sha256 input).length = 32 := by
  unfold sha256
  split
  · rfl
  · split <;> rfl

def ssl : OpenSsl where
  x25519Public
  x25519Derive
  ed25519Sign key message :=
    if (key, message) = (identityPrivate, signed) then signature else List.replicate 64 0
  ed25519Verify key message tag := (key, message, tag) = (identityPublic, signed, signature)
  sha256
  hmacSha256
  gcmEncrypt key nonce aad plaintext :=
    if (key, nonce, aad, plaintext) = (keys.clientToServerKey, frameNonce, frameAad, framePlaintext)
    then (frameCiphertext, frameTag) else ([], [])
  gcmDecrypt key nonce aad ciphertext tag :=
    if (key, nonce, aad, ciphertext, tag) =
      (keys.clientToServerKey, frameNonce, frameAad, frameCiphertext, frameTag)
    then some framePlaintext else none
  x25519Public_length
  x25519Derive_comm
  sha256_length
  hmacSha256_length

def codec {Message : Type} [DecidableEq Message] (messages : List (Message × Bytes)) :
    ProtoCodec Message where
  serialize message := ((messages.find? fun entry => entry.1 = message).map Prod.snd).getD []
  parse data := (messages.find? fun entry => entry.2 = data).map Prod.fst

def proto : AppProto where
  clientHello := codec [(clientHello, clientPayload)]
  serverHello := codec [(serverHello, serverPayload)]
  finished := codec [(⟨clientVerify⟩, clientFinished), (⟨serverVerify⟩, serverFinished)]
  frame := codec [(frame, framePayload)]

end Golden

end Jitong
