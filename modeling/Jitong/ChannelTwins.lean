import Jitong.ChannelBytes
import Jitong.Lib.Lockstep
import Jitong.SecureChannel

/-!
The two channels of the client on one stream: `SecureChannel` in Kotlin beside `ClientSecureChannel`
in C++, frame by frame, up to the first that is rejected.
-/

namespace Jitong

open Lib

/-- What comes to a channel: a frame of the server, or a call of `encrypt`. -/
inductive TwinEvent
  | serverHello (payload : Bytes)
  | serverFinished (payload : Bytes)
  | encryptedFrame (payload : Bytes)
  | encrypt (works : Bool) (type : UInt32) (payload : Bytes)

inductive TwinAnswer
  | finished (transcriptHash : Bytes) (keys : ChannelKeys) (clientVerify serverVerify payload : Bytes)
  | established
  | decrypted (nonce aad : Bytes) (type : UInt32) (payload : Bytes)
  | encrypted (nonce aad payload : Bytes)
  deriving DecidableEq

namespace ClientSecureChannel

variable (ssl : OpenSsl) (proto : AppProto)

def answer (channel : ClientSecureChannel) : TwinEvent → Option (TwinAnswer × ClientSecureChannel)
  | .serverHello payload =>
      match channel.handleServerHello ssl proto payload with
      | (some finished, after) =>
          some (.finished after.transcriptHash after.keys (after.clientVerify ssl)
            (after.expectedVerify ssl) finished, after)
      | (none, _) => none
  | .serverFinished payload =>
      match channel.handleServerFinished ssl proto payload with
      | (true, after) => some (.established, after)
      | (false, _) => none
  | .encryptedFrame payload =>
      match channel.decrypt ssl proto payload with
      | (some (type, inner), after) =>
          some (.decrypted (frameNonce after.keys.serverNoncePrefix after.receiveSequence)
            (after.frameAad after.receiveSequence) type inner, after)
      | (none, _) => none
  | .encrypt works type payload =>
      match channel.encrypt ssl proto works type payload with
      | (some frame, after) =>
          some (.encrypted (frameNonce after.keys.clientNoncePrefix after.sendSequence)
            (after.frameAad after.sendSequence) frame, after)
      | (none, _) => none

def Numbered (channel : ClientSecureChannel) : TwinEvent → Prop
  | .encryptedFrame _ => channel.receiveSequence.toNat + 1 < 2 ^ 63
  | .encrypt _ _ _ => channel.sendSequence.toNat + 1 < 2 ^ 63
  | _ => True

def Oversized (channel : ClientSecureChannel) : TwinEvent → Prop
  | .serverHello payload =>
      appMaxHandshakePayload < payload.length ∧ channel.status = .helloSent ∧
        ∃ hello keys, proto.serverHello.parse payload = some hello ∧
          (channel.takeServerHello payload hello).Accepts ssl hello keys
  | .serverFinished payload =>
      appMaxHandshakePayload < payload.length ∧ channel.status = .finishedSent ∧
        ∃ finished, proto.finished.parse payload = some finished ∧
          finished.verifyData = channel.expectedVerify ssl
  | _ => False

end ClientSecureChannel

inductive AndroidEnd
  | awaitingHello (awaiting : AwaitingHello)
  | awaitingFinished (awaiting : AwaitingFinished)
  | established (channel : SecureChannel)
  deriving DecidableEq

namespace AndroidEnd

variable (ssl : OpenSsl) (proto : AppProto) (pins : AndroidPins)

def read (state : AndroidEnd) (frame : AndroidFrame) : Option (TwinAnswer × AndroidEnd) :=
  match state with
  | awaitingHello awaiting =>
      match awaiting.readServerHello ssl proto pins frame with
      | some (payload, after) =>
          some (.finished after.transcriptHash after.material after.clientVerify
            (after.expectedServerVerify ssl) payload, awaitingFinished after)
      | none => none
  | awaitingFinished awaiting =>
      match awaiting.readServerFinished ssl proto frame with
      | some channel => some (.established, established channel)
      | none => none
  | established channel =>
      match channel.decrypt ssl proto frame with
      | (some inner, after) =>
          some (.decrypted (SecureChannel.nonce after.serverNoncePrefix after.receiveSequence)
            (SecureChannel.frameAad after.sessionId after.receiveSequence) inner.type.toUInt32
            inner.payload, established after)
      | (none, _) => none

def answer (state : AndroidEnd) : TwinEvent → Option (TwinAnswer × AndroidEnd)
  | .serverHello payload => state.read ssl proto pins ⟨appServerHelloType.toInt32, payload⟩
  | .serverFinished payload => state.read ssl proto pins ⟨appServerFinishedType.toInt32, payload⟩
  | .encryptedFrame payload => state.read ssl proto pins ⟨appEncryptedFrameType.toInt32, payload⟩
  | .encrypt works type payload =>
      match state with
      | established channel =>
          match channel.encrypt ssl proto works type.toInt32 payload with
          | (some frame, after) =>
              some (.encrypted (SecureChannel.nonce after.clientNoncePrefix after.sendSequence)
                (SecureChannel.frameAad after.sessionId after.sendSequence) frame.payload,
                established after)
          | (none, _) => none
      | _ => none

variable {ssl proto pins} {state : AndroidEnd} {payload : Bytes}

theorem answer_serverHello : state.answer ssl proto pins (.serverHello payload) =
    state.read ssl proto pins ⟨appServerHelloType.toInt32, payload⟩ := rfl

theorem answer_serverFinished : state.answer ssl proto pins (.serverFinished payload) =
    state.read ssl proto pins ⟨appServerFinishedType.toInt32, payload⟩ := rfl

theorem answer_encryptedFrame : state.answer ssl proto pins (.encryptedFrame payload) =
    state.read ssl proto pins ⟨appEncryptedFrameType.toInt32, payload⟩ := rfl

variable {frame : AndroidFrame}

theorem read_awaitingHello (awaiting : AwaitingHello) :
    (awaitingHello awaiting).read ssl proto pins frame =
      match awaiting.readServerHello ssl proto pins frame with
      | some (payload, after) =>
          some (.finished after.transcriptHash after.material after.clientVerify
            (after.expectedServerVerify ssl) payload, awaitingFinished after)
      | none => none := rfl

theorem read_awaitingFinished (awaiting : AwaitingFinished) :
    (awaitingFinished awaiting).read ssl proto pins frame =
      match awaiting.readServerFinished ssl proto frame with
      | some channel => some (.established, established channel)
      | none => none := rfl

theorem read_established (channel : SecureChannel) :
    (established channel).read ssl proto pins frame =
      match channel.decrypt ssl proto frame with
      | (some inner, after) =>
          some (.decrypted (SecureChannel.nonce after.serverNoncePrefix after.receiveSequence)
            (SecureChannel.frameAad after.sessionId after.receiveSequence) inner.type.toUInt32
            inner.payload, established after)
      | (none, _) => none := rfl

end AndroidEnd

/-- `AppIdentityPins` with the keys of the other side. -/
def androidPins (identityKeys : List (UInt32 × Bytes)) : AndroidPins :=
  identityKeys.map fun entry => (entry.1.toInt32, entry.2)

def OpenSsl.KeepsLength (ssl : OpenSsl) : Prop :=
  ∀ key nonce aad ciphertext tag plaintext,
    ssl.gcmDecrypt key nonce aad ciphertext tag = some plaintext →
      plaintext.length = ciphertext.length

/-! ### Signed and unsigned -/

namespace SecureChannel

theorem u32_toInt32 (value : UInt32) : u32 value.toInt32 = u32Be value := by
  rw [u32, UInt32.toUInt32_toInt32]

theorem u64_toInt64 (value : UInt64) : u64 value.toInt64 = u64Be value := by
  rw [u64, UInt64.toUInt64_toInt64]

theorem le32_toInt32 (value : UInt32) : le32 value.toInt32 = encodeType32 value := by
  rw [le32, UInt32.toUInt32_toInt32]

theorem readLe32_eq (value : Bytes) : readLe32 value = (decodeType32 value).toInt32 := by
  simp only [readLe32, decodeType32, byteAt]
  rfl

theorem toInt_toInt32 (value : UInt32) : value.toInt32.toInt =
    if value.toNat < 2 ^ 31 then (value.toNat : Int) else value.toNat - 2 ^ 32 := by
  change value.toBitVec.toInt = _
  rw [BitVec.toInt_eq_toNat_cond]
  change (if 2 * value.toNat < 2 ^ 32 then (value.toNat : Int) else value.toNat - 2 ^ 32) = _
  split
  · split
    · rfl
    · omega
  · split
    · omega
    · rfl

theorem isControl_toInt32 (type : UInt32) : isControl type.toInt32 = isChannelType type := by
  have first : appClientHelloType.toInt32.toInt = 1036 ∧ appClientHelloType.toNat = 1036 := by decide
  have last : appEncryptedFrameType.toInt32.toInt = 1040 ∧ appEncryptedFrameType.toNat = 1040 := by
    decide
  have bound := type.toNat_lt
  rw [isControl, isChannelType, decide_eq_decide, Int32.le_iff_toInt_le, Int32.le_iff_toInt_le,
    UInt32.le_iff_toNat_le, UInt32.le_iff_toNat_le, first.1, first.2, last.1, last.2,
    toInt_toInt32]
  split
  · omega
  · omega

theorem toInt32_inj {left right : UInt32} : left.toInt32 = right.toInt32 ↔ left = right := by
  constructor
  · intro same
    simpa using congrArg Int32.toUInt32 same
  · rintro rfl
    rfl

theorem toInt64_inj {left right : UInt64} : left.toInt64 = right.toInt64 ↔ left = right := by
  constructor
  · intro same
    simpa using congrArg Int64.toUInt64 same
  · rintro rfl
    rfl

theorem toInt64_positive {value : UInt64} (above : 0 < value.toNat) (below : value.toNat < 2 ^ 63) :
    ¬ value.toInt64 ≤ 0 := by
  have cond := BitVec.toInt_eq_toNat_cond value.toBitVec
  change value.toInt64.toInt = if 2 * value.toNat < 2 ^ 64 then (value.toNat : Int) else _ at cond
  rw [if_pos (by omega)] at cond
  rw [Int64.le_iff_toInt_le, cond, Int64.toInt_zero]
  omega

theorem lookup_androidPins (identityKeys : List (UInt32 × Bytes)) (keyId : UInt32) :
    (androidPins identityKeys).lookup keyId.toInt32 = identityKeys.lookup keyId := by
  induction identityKeys with
  | nil => rfl
  | cons entry rest ih =>
      obtain ⟨first, key⟩ := entry
      have same : (keyId.toInt32 == first.toInt32) = (keyId == first) := by
        rw [Bool.eq_iff_iff, beq_iff_eq, beq_iff_eq]
        exact toInt32_inj
      simp only [androidPins, List.map_cons, List.lookup_cons, same]
      split
      · rfl
      · exact ih

end SecureChannel

/-! ### Side by side -/

namespace ClientSecureChannel

variable {ssl : OpenSsl} {proto : AppProto} {channel : ClientSecureChannel}

def asAwaitingHello (channel : ClientSecureChannel) : AwaitingHello where
  privateKey := channel.clientPriv
  clientNonce := channel.clientNonce
  clientPayload := channel.clientPayload

def asAwaitingFinished (ssl : OpenSsl) (channel : ClientSecureChannel) : AwaitingFinished where
  sessionId := channel.sessionId
  transcriptHash := channel.transcriptHash
  material := channel.keys
  clientVerify := channel.clientVerify ssl

def asSecureChannel (channel : ClientSecureChannel) : SecureChannel where
  sessionId := channel.sessionId
  clientToServerKey := channel.keys.clientToServerKey
  serverToClientKey := channel.keys.serverToClientKey
  clientNoncePrefix := channel.keys.clientNoncePrefix
  serverNoncePrefix := channel.keys.serverNoncePrefix
  sendSequence := channel.sendSequence.toInt64
  receiveSequence := channel.receiveSequence.toInt64

structure Sized (channel : ClientSecureChannel) : Prop where
  sessionId : channel.sessionId.length = 16
  clientToServerKey : channel.keys.clientToServerKey.length = 32
  serverToClientKey : channel.keys.serverToClientKey.length = 32
  clientNoncePrefix : channel.keys.clientNoncePrefix.length = 4
  serverNoncePrefix : channel.keys.serverNoncePrefix.length = 4

theorem checkServerHello_iff {hello : AppServerHello} : checkServerHello hello = none ↔
    hello.version = appSecurityVersion ∧ hello.cipherSuite = appCipher ∧
      hello.serverEphemeralPublicKey.length = 32 ∧ hello.serverNonce.length = 32 ∧
      hello.sessionId.length = 16 ∧ hello.signature.length = 64 := by
  unfold checkServerHello
  constructor
  · intro sound
    split at sound
    · simp at sound
    · split at sound
      · simp at sound
      · split at sound
        · simp at sound
        · rename_i version suite sizes
          simp only [not_or, not_not] at version suite sizes
          exact ⟨version, suite, sizes⟩
  · rintro ⟨version, suite, sizes⟩
    simp [version, suite, sizes]

theorem validateServerHello_iff {hello : AppServerHello} :
    SecureChannel.validateServerHello hello = true ↔
      checkServerHello hello = none ∧ hello.keyId ≠ 0 := by
  have zero : hello.keyId.toInt32 = 0 ↔ hello.keyId = 0 := SecureChannel.toInt32_inj
  rw [checkServerHello_iff, SecureChannel.validateServerHello, decide_eq_true_eq]
  simp only [not_or, not_not, ne_eq, SecureChannel.toInt32_inj, zero]
  tauto

def afterHello (ssl : OpenSsl) (channel : ClientSecureChannel) (payload : Bytes)
    (hello : AppServerHello) (keys : ChannelKeys) : ClientSecureChannel :=
  let taken := channel.takeServerHello payload hello
  { taken with transcriptHash := ssl.sha256 taken.transcriptInput, keys, status := .finishedSent }

theorem handleServerHello_accepts {payload : Bytes} {hello : AppServerHello} {keys : ChannelKeys}
    (waiting : channel.status = .helloSent) (parsed : proto.serverHello.parse payload = some hello)
    (accepts : (channel.takeServerHello payload hello).Accepts ssl hello keys) :
    channel.handleServerHello ssl proto payload =
      (some (proto.finished.serialize ⟨(channel.afterHello ssl payload hello keys).clientVerify ssl⟩),
        channel.afterHello ssl payload hello keys) := by
  obtain ⟨identity, trusted, verified⟩ := accepts.verified
  have derived := accepts.derived
  have lookup : (channel.takeServerHello payload hello).identityKeys.lookup
      (channel.takeServerHello payload hello).keyId = some identity := trusted
  simp only [handleServerHello, waiting, parsed, accepts.sized, lookup, verified, derived]
  rfl

theorem verifies_iff {payload : Bytes} {hello : AppServerHello}
    (sized : checkServerHello hello = none) :
    channel.asAwaitingHello.verifies ssl (androidPins channel.identityKeys) hello = true ↔
      ∃ identity, channel.identityKeys.lookup hello.keyId = some identity ∧
        ed25519Verify ssl identity (channel.takeServerHello payload hello).signingTranscript
          hello.signature = true := by
  obtain ⟨version, suite, _, _, _, signature⟩ := checkServerHello_iff.mp sized
  have transcript : SecureChannel.signingTranscript channel.clientPayload hello.version.toInt32
      hello.serverEphemeralPublicKey hello.serverNonce hello.sessionId hello.keyId.toInt32
      hello.cipherSuite = (channel.takeServerHello payload hello).signingTranscript := by
    rw [version, suite]
    rfl
  simp only [AwaitingHello.verifies, SecureChannel.lookup_androidPins, asAwaitingHello, transcript,
    SecureChannel.ed25519Verify, ed25519Verify, signature]
  cases channel.identityKeys.lookup hello.keyId with
  | none => simp
  | some identity =>
      by_cases size : identity.length = 32
      · simp [size]
      · simp [size]

theorem readServerHello_cases (ssl : OpenSsl) (proto : AppProto)
    (private32 : channel.clientPriv.length = 32)
    (positive : ∀ entry ∈ channel.identityKeys, entry.1 ≠ 0) (payload : Bytes) :
    (channel.asAwaitingHello.readServerHello ssl proto (androidPins channel.identityKeys)
        ⟨appServerHelloType.toInt32, payload⟩ = none ∧
      (appMaxHandshakePayload < payload.length ∨ ¬ ∃ hello keys,
        proto.serverHello.parse payload = some hello ∧
          (channel.takeServerHello payload hello).Accepts ssl hello keys)) ∨
    ∃ hello keys, ¬ appMaxHandshakePayload < payload.length ∧
      proto.serverHello.parse payload = some hello ∧
      (channel.takeServerHello payload hello).Accepts ssl hello keys ∧
      channel.asAwaitingHello.readServerHello ssl proto (androidPins channel.identityKeys)
        ⟨appServerHelloType.toInt32, payload⟩ =
        some (proto.finished.serialize ⟨(channel.afterHello ssl payload hello keys).clientVerify ssl⟩,
          (channel.afterHello ssl payload hello keys).asAwaitingFinished ssl) := by
  unfold AwaitingHello.readServerHello
  by_cases large : appMaxHandshakePayload < payload.length
  · left
    refine ⟨?_, .inl large⟩
    rw [if_pos (.inr large)]
  rw [if_neg (by simpa using large)]
  cases parsed : proto.serverHello.parse payload with
  | none =>
      left
      refine ⟨rfl, .inr ?_⟩
      rintro ⟨hello, keys, absurd, _⟩
      exact nomatch absurd
  | some hello =>
      simp only
      have refused (wrong : ∀ keys, ¬ (channel.takeServerHello payload hello).Accepts ssl hello keys) :
          ¬ ∃ other keys, some hello = some other ∧
            (channel.takeServerHello payload other).Accepts ssl other keys := by
        rintro ⟨_, keys, ⟨⟩, accepts⟩
        exact wrong keys accepts
      by_cases valid : SecureChannel.validateServerHello hello = true
      · obtain ⟨sized, known⟩ := validateServerHello_iff.mp valid
        obtain ⟨_, _, public32, _, _, _⟩ := checkServerHello_iff.mp sized
        rw [if_neg (by simp [valid])]
        by_cases verified : channel.asAwaitingHello.verifies ssl
            (androidPins channel.identityKeys) hello = true
        · rw [if_neg (by simp [verified])]
          have agreed : SecureChannel.x25519SharedSecret ssl channel.asAwaitingHello.privateKey
              hello.serverEphemeralPublicKey =
              Jitong.x25519SharedSecret ssl channel.clientPriv hello.serverEphemeralPublicKey := by
            rw [SecureChannel.x25519SharedSecret,
              if_neg (by simp [asAwaitingHello, private32, public32])]
            rfl
          have derives := deriveKeys_eq ssl { channel.takeServerHello payload hello with
            transcriptHash := ssl.sha256 (channel.takeServerHello payload hello).transcriptInput }
          rw [agreed]
          simp only [takeServerHello] at derives
          cases secret : Jitong.x25519SharedSecret ssl channel.clientPriv
              hello.serverEphemeralPublicKey with
          | none =>
              left
              refine ⟨rfl, .inr (refused fun keys accepts => ?_)⟩
              have some := accepts.derived
              rw [secret] at derives
              simp only [takeServerHello] at some
              rw [derives] at some
              exact nomatch some
          | some sharedSecret =>
              rw [secret] at derives
              right
              refine ⟨hello, _, large, rfl, ⟨sized, (verifies_iff sized).mp verified, derives⟩, ?_⟩
              rfl
        · left
          rw [if_pos (by simpa using verified)]
          refine ⟨rfl, .inr (refused fun keys accepts => verified ?_)⟩
          exact (verifies_iff sized).mpr accepts.verified
      · left
        rw [if_pos (by simpa using valid)]
        refine ⟨rfl, .inr (refused fun keys accepts => valid ?_)⟩
        refine validateServerHello_iff.mpr ⟨accepts.sized, ?_⟩
        intro zero
        obtain ⟨identity, trusted, _⟩ := accepts.verified
        obtain ⟨before, after, parts, _⟩ := List.lookup_eq_some_iff.mp trusted
        have known : channel.identityKeys = before ++ (hello.keyId, identity) :: after := parts
        exact positive (hello.keyId, identity) (by simp [known]) zero

theorem sliceKeys_lengths {material : Bytes} (size : material.length = 136) :
    (SessionChannel.sliceKeys material).clientToServerKey.length = 32 ∧
      (SessionChannel.sliceKeys material).serverToClientKey.length = 32 := by
  simp [SessionChannel.sliceKeys, SessionChannel.slice, size]

theorem afterHello_sized {payload : Bytes} {hello : AppServerHello} {keys : ChannelKeys}
    (accepts : (channel.takeServerHello payload hello).Accepts ssl hello keys) :
    (channel.afterHello ssl payload hello keys).Sized := by
  obtain ⟨_, _, _, _, session16, _⟩ := checkServerHello_iff.mp accepts.sized
  have derived := accepts.derived
  rw [deriveKeys_eq, Option.map_eq_some_iff] at derived
  obtain ⟨secret, _, made⟩ := derived
  have size := SessionChannel.hkdfSha256_length ssl secret (channel.clientNonce ++ hello.serverNonce)
    (ascii "jitong-app-channel-v1" ++ hello.sessionId ++
      ssl.sha256 (channel.takeServerHello payload hello).transcriptInput)
  obtain ⟨client32, server32⟩ := sliceKeys_lengths size
  obtain ⟨client4, server4⟩ := SessionChannel.sliceKeys_sizes size
  have same : SessionChannel.sliceKeys (Jitong.hkdfSha256 ssl secret
      (ssl.sha256 (channel.clientNonce ++ hello.serverNonce))
      (ascii "jitong-app-channel-v1" ++ hello.sessionId ++
        ssl.sha256 (channel.takeServerHello payload hello).transcriptInput) 136) = keys := made
  rw [same] at client32 server32 client4 server4
  exact ⟨session16, client32, server32, client4, server4⟩

theorem handleServerFinished_accepts {payload : Bytes} {finished : AppFinished}
    (waiting : channel.status = .finishedSent) (parsed : proto.finished.parse payload = some finished)
    (verified : finished.verifyData = channel.expectedVerify ssl) :
    channel.handleServerFinished ssl proto payload =
      (true, { channel with status := .established }) := by
  have size : (channel.expectedVerify ssl).length = 32 := ssl.hmacSha256_length _ _
  simp [handleServerFinished, waiting, parsed, verified, size]

theorem readServerFinished_cases (ssl : OpenSsl) (proto : AppProto)
    (channel : ClientSecureChannel) (payload : Bytes) :
    ((channel.asAwaitingFinished ssl).readServerFinished ssl proto
        ⟨appServerFinishedType.toInt32, payload⟩ = none ∧
      (appMaxHandshakePayload < payload.length ∨ ¬ ∃ finished,
        proto.finished.parse payload = some finished ∧
          finished.verifyData = channel.expectedVerify ssl)) ∨
    ∃ finished, ¬ appMaxHandshakePayload < payload.length ∧
      proto.finished.parse payload = some finished ∧
      finished.verifyData = channel.expectedVerify ssl ∧
      (channel.asAwaitingFinished ssl).readServerFinished ssl proto
        ⟨appServerFinishedType.toInt32, payload⟩ = some {
          channel.asSecureChannel with sendSequence := 0, receiveSequence := 0 } := by
  have expected : (channel.asAwaitingFinished ssl).expectedServerVerify ssl =
      channel.expectedVerify ssl := rfl
  have size : (channel.expectedVerify ssl).length = 32 := ssl.hmacSha256_length _ _
  unfold AwaitingFinished.readServerFinished
  by_cases large : appMaxHandshakePayload < payload.length
  · left
    refine ⟨?_, .inl large⟩
    rw [if_pos (.inr large)]
  rw [if_neg (by simpa using large)]
  cases parsed : proto.finished.parse payload with
  | none =>
      left
      refine ⟨rfl, .inr ?_⟩
      rintro ⟨finished, absurd, _⟩
      exact nomatch absurd
  | some finished =>
      simp only [expected]
      by_cases verified : finished.verifyData = channel.expectedVerify ssl
      · right
        refine ⟨finished, large, rfl, verified, ?_⟩
        rw [if_neg (by rw [verified]; exact not_not.mpr size), if_neg (by simp [verified])]
        rfl
      · left
        constructor
        · split
          · rfl
          · rw [if_pos (Ne.symm verified)]
        · right
          rintro ⟨_, ⟨⟩, same⟩
          exact verified same

/-! ### Frames -/

theorem nonce_eq {noncePrefix : Bytes} (sized : noncePrefix.length = 4) (sequence : UInt64) :
    SecureChannel.nonce noncePrefix sequence.toInt64 = frameNonce noncePrefix sequence := by
  rw [frameNonce_eq sized, SecureChannel.nonce, SecureChannel.u64_toInt64]

theorem androidAad_eq (channel : ClientSecureChannel) (sequence : UInt64) :
    SecureChannel.frameAad channel.sessionId sequence.toInt64 = channel.frameAad sequence := by
  rw [SecureChannel.frameAad, SecureChannel.u64_toInt64, SecureChannel.u32_toInt32]
  rfl

theorem frameNonce_length (noncePrefix : Bytes) (sequence : UInt64) :
    (frameNonce noncePrefix sequence).length = 12 := by
  simp [frameNonce, u64Be]
  omega

theorem toInt64_ne_maxValue {sequence : UInt64} (below : sequence.toNat + 1 < 2 ^ 63) :
    sequence.toInt64 ≠ Int64.maxValue := by
  intro same
  have whole := congrArg (fun number => number.toUInt64.toNat) same
  simp only [UInt64.toUInt64_toInt64] at whole
  have last : Int64.maxValue.toUInt64.toNat = 2 ^ 63 - 1 := by decide
  omega

theorem ne_maxSequence {sequence : UInt64} (below : sequence.toNat + 1 < 2 ^ 63) :
    sequence ≠ maxSequence := by
  rintro rfl
  exact absurd below (by decide)

theorem encrypt_sides (ssl : OpenSsl) (proto : AppProto)
    (established : channel.status = .established) (sized : channel.Sized)
    (below : channel.sendSequence.toNat + 1 < 2 ^ 63) (works : Bool) (type : UInt32)
    (payload : Bytes) :
    (∃ left right, channel.encrypt ssl proto works type payload = (none, left) ∧
      channel.asSecureChannel.encrypt ssl proto works type.toInt32 payload = (none, right)) ∨
    ∃ frame, channel.encrypt ssl proto works type payload =
        (some frame, { channel with sendSequence := channel.sendSequence + 1 }) ∧
      channel.asSecureChannel.encrypt ssl proto works type.toInt32 payload =
        (some ⟨appEncryptedFrameType.toInt32, frame⟩,
          { channel with sendSequence := channel.sendSequence + 1 }.asSecureChannel) := by
  have unspent : channel.asSecureChannel.sendSequence ≠ Int64.maxValue := toInt64_ne_maxValue below
  unfold encrypt SecureChannel.encrypt
  rw [if_neg (by simpa using established), SecureChannel.isControl_toInt32]
  by_cases control : isChannelType type = true
  · rw [if_pos control, if_pos control]
    exact .inl ⟨_, _, rfl, rfl⟩
  rw [if_neg control, if_neg control, if_neg (ne_maxSequence below), if_neg unspent]
  cases works with
  | false => exact .inl ⟨_, _, rfl, rfl⟩
  | true =>
      have nonce12 : (frameNonce channel.keys.clientNoncePrefix
          (channel.sendSequence + 1)).length = 12 := frameNonce_length _ _
      have encrypts : aes256GcmEncrypt ssl channel.asSecureChannel.clientToServerKey
          (SecureChannel.nonce channel.asSecureChannel.clientNoncePrefix
            (channel.asSecureChannel.sendSequence + 1))
          (SecureChannel.le32 type.toInt32 ++ payload)
          (SecureChannel.frameAad channel.asSecureChannel.sessionId
            (channel.asSecureChannel.sendSequence + 1)) =
          some (ssl.gcmEncrypt channel.keys.clientToServerKey
            (frameNonce channel.keys.clientNoncePrefix (channel.sendSequence + 1))
            (channel.frameAad (channel.sendSequence + 1)) (encodeType32 type ++ payload)) := by
        have nonce := nonce_eq sized.clientNoncePrefix (channel.sendSequence + 1)
        have aad := androidAad_eq channel (channel.sendSequence + 1)
        change aes256GcmEncrypt ssl channel.keys.clientToServerKey
          (SecureChannel.nonce channel.keys.clientNoncePrefix (channel.sendSequence + 1).toInt64) _
          (SecureChannel.frameAad channel.sessionId (channel.sendSequence + 1).toInt64) = _
        rw [nonce, aad, SecureChannel.le32_toInt32, aes256GcmEncrypt,
          if_neg (by simp [sized.clientToServerKey, nonce12])]
      simp only [Bool.not_true, Bool.false_eq_true, if_false, encrypts]
      exact .inr ⟨_, rfl, rfl⟩

theorem isNext_iff (sized : channel.Sized) (below : channel.receiveSequence.toNat + 1 < 2 ^ 63)
    (frame : AppEncryptedFrame) :
    channel.asSecureChannel.isNext frame = true ↔ channel.checkFrame frame = none := by
  have after : channel.asSecureChannel.receiveSequence + 1 =
      (channel.receiveSequence + 1).toInt64 := rfl
  have next : (channel.receiveSequence + 1).toNat = channel.receiveSequence.toNat + 1 := by
    rw [UInt64.toNat_add]
    exact Nat.mod_eq_of_lt (by simp; omega)
  have positive : ¬ (channel.receiveSequence + 1).toInt64 ≤ 0 :=
    SecureChannel.toInt64_positive (by omega) (by omega)
  have unsigned : channel.receiveSequence + 1 ≠ 0 := by
    intro zero
    rw [zero] at next
    exact absurd next (Nat.succ_ne_zero _).symm
  rw [SecureChannel.isNext, decide_eq_true_eq, after]
  simp only [not_or, not_not, ne_eq, SecureChannel.toInt32_inj, SecureChannel.toInt64_inj]
  unfold checkFrame
  constructor
  · rintro ⟨version, session, tag, ciphertext, _, sequence⟩
    have session : frame.sessionId = channel.sessionId := session
    simp [version, session, sized.sessionId, tag, Nat.not_lt.mp ciphertext, sequence, unsigned,
      ne_maxSequence below]
  · intro sound
    split at sound
    · exact nomatch sound
    · rename_i version
      split at sound
      · exact nomatch sound
      · rename_i session
        split at sound
        · exact nomatch sound
        · rename_i tag
          split at sound
          · exact nomatch sound
          · rename_i ciphertext
            split at sound
            · exact nomatch sound
            · rename_i sequence
              simp only [not_or, not_not] at version session tag sequence
              have same := sequence.2.2
              rw [same]
              exact ⟨version, session.2, tag, ciphertext, positive, rfl⟩

theorem decrypt_sides (proto : AppProto) (established : channel.status = .established)
    (sized : channel.Sized) (below : channel.receiveSequence.toNat + 1 < 2 ^ 63)
    (gcm : ssl.KeepsLength) (payload : Bytes) :
    (∃ left right, channel.decrypt ssl proto payload = (none, left) ∧
      channel.asSecureChannel.decrypt ssl proto ⟨appEncryptedFrameType.toInt32, payload⟩ =
        (none, right)) ∨
    ∃ type inner sequence, channel.decrypt ssl proto payload =
        (some (type, inner), { channel with receiveSequence := sequence }) ∧
      channel.asSecureChannel.decrypt ssl proto ⟨appEncryptedFrameType.toInt32, payload⟩ =
        (some ⟨type.toInt32, inner⟩,
          { channel with receiveSequence := sequence }.asSecureChannel) := by
  unfold decrypt SecureChannel.decrypt
  rw [if_neg (by simpa using established), if_neg (by simp)]
  cases proto.frame.parse payload with
  | none => exact .inl ⟨_, _, rfl, rfl⟩
  | some frame =>
      simp only
      by_cases fresh : channel.asSecureChannel.isNext frame = true
      · have sound := (isNext_iff sized below frame).mp fresh
        have nonce12 : (frameNonce channel.keys.serverNoncePrefix frame.sequence).length = 12 :=
          frameNonce_length _ _
        obtain ⟨tag, ciphertext⟩ : frame.tag.length = 16 ∧ ¬ frame.ciphertext.length < 4 := by
          rw [SecureChannel.isNext, decide_eq_true_eq] at fresh
          simp only [not_or, not_not] at fresh
          exact ⟨fresh.2.2.1, fresh.2.2.2.1⟩
        have decrypts : aes256GcmDecrypt ssl channel.asSecureChannel.serverToClientKey
            (SecureChannel.nonce channel.asSecureChannel.serverNoncePrefix frame.sequence.toInt64)
            frame.ciphertext
            (SecureChannel.frameAad channel.asSecureChannel.sessionId frame.sequence.toInt64)
            frame.tag =
            ssl.gcmDecrypt channel.keys.serverToClientKey
              (frameNonce channel.keys.serverNoncePrefix frame.sequence)
              (channel.frameAad frame.sequence) frame.ciphertext frame.tag := by
          have nonce := nonce_eq sized.serverNoncePrefix frame.sequence
          have aad := androidAad_eq channel frame.sequence
          change aes256GcmDecrypt ssl channel.keys.serverToClientKey
            (SecureChannel.nonce channel.keys.serverNoncePrefix frame.sequence.toInt64) _
            (SecureChannel.frameAad channel.sessionId frame.sequence.toInt64) _ = _
          rw [nonce, aad, aes256GcmDecrypt, if_neg (by simp [sized.serverToClientKey, nonce12, tag])]
        rw [if_neg (by simp [fresh]), decrypts, sound]
        simp only
        cases opened : ssl.gcmDecrypt channel.keys.serverToClientKey
            (frameNonce channel.keys.serverNoncePrefix frame.sequence)
            (channel.frameAad frame.sequence) frame.ciphertext frame.tag with
        | none => exact .inl ⟨_, _, rfl, rfl⟩
        | some plaintext =>
            have long : ¬ plaintext.length < 4 := by rwa [gcm _ _ _ _ _ _ opened]
            simp only
            rw [if_neg long, SecureChannel.readLe32_eq, SecureChannel.isControl_toInt32]
            by_cases control : isChannelType (decodeType32 plaintext) = true
            · rw [if_pos control, if_pos control]
              exact .inl ⟨_, _, rfl, rfl⟩
            · rw [if_neg control, if_neg control]
              exact .inr ⟨_, _, _, rfl, rfl⟩
      · rw [if_pos (by simpa using fresh)]
        cases wrong : channel.checkFrame frame with
        | none => exact absurd ((isNext_iff sized below frame).mpr wrong) fresh
        | some error => exact .inl ⟨_, _, rfl, rfl⟩

end ClientSecureChannel

open ClientSecureChannel

inductive Twin (ssl : OpenSsl) (identityKeys : List (UInt32 × Bytes)) :
    ClientSecureChannel → AndroidEnd → Prop
  | awaitingHello {channel : ClientSecureChannel} (waiting : channel.status = .helloSent)
      (private32 : channel.clientPriv.length = 32) (known : channel.identityKeys = identityKeys)
      (unsent : channel.sendSequence = 0) (unread : channel.receiveSequence = 0) :
      Twin ssl identityKeys channel (.awaitingHello channel.asAwaitingHello)
  | awaitingFinished {channel : ClientSecureChannel} (waiting : channel.status = .finishedSent)
      (sized : channel.Sized) (unsent : channel.sendSequence = 0)
      (unread : channel.receiveSequence = 0) :
      Twin ssl identityKeys channel (.awaitingFinished (channel.asAwaitingFinished ssl))
  | established {channel : ClientSecureChannel} (ready : channel.status = .established)
      (sized : channel.Sized) :
      Twin ssl identityKeys channel (.established channel.asSecureChannel)

section Twins

variable {ssl : OpenSsl} {proto : AppProto} {identityKeys : List (UInt32 × Bytes)}
  {channel : ClientSecureChannel} {state : AndroidEnd}

theorem Twin.serverHello_early (twin : Twin ssl identityKeys channel state)
    (other : channel.status ≠ .helloSent) (payload : Bytes) :
    channel.answer ssl proto (.serverHello payload) = none ∧
      state.answer ssl proto (androidPins identityKeys) (.serverHello payload) = none := by
  have cpp : channel.answer ssl proto (.serverHello payload) = none := by
    unfold ClientSecureChannel.answer
    simp only [handleServerHello]
    rw [if_pos other]
  refine ⟨cpp, ?_⟩
  have finished : appServerHelloType.toInt32 ≠ appServerFinishedType.toInt32 := by decide
  have encrypted : appServerHelloType.toInt32 ≠ appEncryptedFrameType.toInt32 := by decide
  cases twin with
  | awaitingHello waiting => exact absurd waiting other
  | awaitingFinished =>
      simp only [AndroidEnd.answer_serverHello, AndroidEnd.read_awaitingFinished,
        AwaitingFinished.readServerFinished]
      rw [if_pos (.inl finished)]
  | established =>
      simp only [AndroidEnd.answer_serverHello, AndroidEnd.read_established, SecureChannel.decrypt]
      rw [if_pos encrypted]

theorem Twin.serverFinished_early (twin : Twin ssl identityKeys channel state)
    (other : channel.status ≠ .finishedSent) (payload : Bytes) :
    channel.answer ssl proto (.serverFinished payload) = none ∧
      state.answer ssl proto (androidPins identityKeys) (.serverFinished payload) = none := by
  have cpp : channel.answer ssl proto (.serverFinished payload) = none := by
    unfold ClientSecureChannel.answer
    simp only [handleServerFinished]
    rw [if_pos other]
  refine ⟨cpp, ?_⟩
  have hello : appServerFinishedType.toInt32 ≠ appServerHelloType.toInt32 := by decide
  have encrypted : appServerFinishedType.toInt32 ≠ appEncryptedFrameType.toInt32 := by decide
  cases twin with
  | awaitingHello =>
      simp only [AndroidEnd.answer_serverFinished, AndroidEnd.read_awaitingHello,
        AwaitingHello.readServerHello]
      rw [if_pos (.inl hello)]
  | awaitingFinished waiting => exact absurd waiting other
  | established =>
      simp only [AndroidEnd.answer_serverFinished, AndroidEnd.read_established, SecureChannel.decrypt]
      rw [if_pos encrypted]

theorem Twin.frame_early (twin : Twin ssl identityKeys channel state)
    (other : channel.status ≠ .established) (payload : Bytes) :
    channel.answer ssl proto (.encryptedFrame payload) = none ∧
      state.answer ssl proto (androidPins identityKeys) (.encryptedFrame payload) = none := by
  have cpp : channel.answer ssl proto (.encryptedFrame payload) = none := by
    unfold ClientSecureChannel.answer
    simp only [decrypt]
    rw [if_pos other]
  refine ⟨cpp, ?_⟩
  have hello : appEncryptedFrameType.toInt32 ≠ appServerHelloType.toInt32 := by decide
  have finished : appEncryptedFrameType.toInt32 ≠ appServerFinishedType.toInt32 := by decide
  cases twin with
  | awaitingHello =>
      simp only [AndroidEnd.answer_encryptedFrame, AndroidEnd.read_awaitingHello,
        AwaitingHello.readServerHello]
      rw [if_pos (.inl hello)]
  | awaitingFinished =>
      simp only [AndroidEnd.answer_encryptedFrame, AndroidEnd.read_awaitingFinished,
        AwaitingFinished.readServerFinished]
      rw [if_pos (.inl finished)]
  | established ready => exact absurd ready other

theorem Twin.encrypt_early (twin : Twin ssl identityKeys channel state)
    (other : channel.status ≠ .established) (works : Bool) (type : UInt32) (payload : Bytes) :
    channel.answer ssl proto (.encrypt works type payload) = none ∧
      state.answer ssl proto (androidPins identityKeys) (.encrypt works type payload) = none := by
  have cpp : channel.answer ssl proto (.encrypt works type payload) = none := by
    unfold ClientSecureChannel.answer
    simp only [encrypt]
    rw [if_pos other]
  refine ⟨cpp, ?_⟩
  cases twin with
  | awaitingHello => rfl
  | awaitingFinished => rfl
  | established ready => exact absurd ready other

theorem inStep_of_none {related : ClientSecureChannel → AndroidEnd → Prop} {event : TwinEvent}
    {pins : AndroidPins} (both : channel.answer ssl proto event = none ∧
      state.answer ssl proto pins event = none) :
    InStep related (channel.answer ssl proto event) (state.answer ssl proto pins event) := by
  rw [both.1, both.2]
  exact .refused

theorem serverHello_inStep (positive : ∀ entry ∈ identityKeys, entry.1 ≠ 0)
    (waiting : channel.status = .helloSent) (private32 : channel.clientPriv.length = 32)
    (known : channel.identityKeys = identityKeys) (unsent : channel.sendSequence = 0)
    (unread : channel.receiveSequence = 0) (payload : Bytes)
    (small : ¬ channel.Oversized ssl proto (.serverHello payload)) :
    InStep (Twin ssl identityKeys) (channel.answer ssl proto (.serverHello payload))
      ((AndroidEnd.awaitingHello channel.asAwaitingHello).answer ssl proto (androidPins identityKeys)
        (.serverHello payload)) := by
  subst known
  unfold ClientSecureChannel.answer
  simp only [AndroidEnd.answer_serverHello, AndroidEnd.read_awaitingHello]
  obtain ⟨none, wrong⟩ | ⟨hello, keys, _, parsed, accepts, taken⟩ :=
    readServerHello_cases ssl proto private32 positive payload
  · rw [none]
    obtain ⟨after, _, _, refused⟩ | ⟨hello, keys, _, parsed, accepts, _⟩ :=
      handleServerHello_cases ssl proto channel payload
    · rw [refused]
      exact .refused
    · rcases wrong with large | absent
      · exact absurd ⟨large, waiting, hello, keys, parsed, accepts⟩ small
      · exact absurd ⟨hello, keys, parsed, accepts⟩ absent
  · rw [taken, handleServerHello_accepts waiting parsed accepts]
    exact .answered (.awaitingFinished rfl (afterHello_sized accepts) unsent unread)

theorem serverFinished_inStep (waiting : channel.status = .finishedSent) (sized : channel.Sized)
    (unsent : channel.sendSequence = 0) (unread : channel.receiveSequence = 0) (payload : Bytes)
    (small : ¬ channel.Oversized ssl proto (.serverFinished payload)) :
    InStep (Twin ssl identityKeys) (channel.answer ssl proto (.serverFinished payload))
      ((AndroidEnd.awaitingFinished (channel.asAwaitingFinished ssl)).answer ssl proto
        (androidPins identityKeys) (.serverFinished payload)) := by
  unfold ClientSecureChannel.answer
  simp only [AndroidEnd.answer_serverFinished, AndroidEnd.read_awaitingFinished]
  obtain ⟨none, wrong⟩ | ⟨finished, _, parsed, verified, taken⟩ :=
    readServerFinished_cases ssl proto channel payload
  · rw [none]
    obtain ⟨error, refused⟩ | ⟨finished, _, parsed, verified, _⟩ :=
      handleServerFinished_cases ssl proto channel payload
    · rw [refused]
      exact .refused
    · rcases wrong with large | absent
      · exact absurd ⟨large, waiting, finished, parsed, verified⟩ small
      · exact absurd ⟨finished, parsed, verified⟩ absent
  · have fresh : { channel.asSecureChannel with sendSequence := 0, receiveSequence := 0 } =
        { channel with status := .established }.asSecureChannel := by
      simp only [asSecureChannel, unsent, unread]
      rfl
    rw [taken, handleServerFinished_accepts waiting parsed verified, fresh]
    exact .answered (.established rfl ⟨sized.sessionId, sized.clientToServerKey,
      sized.serverToClientKey, sized.clientNoncePrefix, sized.serverNoncePrefix⟩)

theorem established_inStep (gcm : ssl.KeepsLength) (ready : channel.status = .established)
    (sized : channel.Sized) {event : TwinEvent} (below : channel.Numbered event) (payload : Bytes)
    (own : event = .encryptedFrame payload ∨ ∃ works type, event = .encrypt works type payload) :
    InStep (Twin ssl identityKeys) (channel.answer ssl proto event)
      ((AndroidEnd.established channel.asSecureChannel).answer ssl proto (androidPins identityKeys)
        event) := by
  rcases own with rfl | ⟨works, type, rfl⟩
  · unfold ClientSecureChannel.answer
    simp only [AndroidEnd.answer_encryptedFrame, AndroidEnd.read_established]
    obtain ⟨left, right, cpp, kotlin⟩ | ⟨type, inner, sequence, cpp, kotlin⟩ :=
      decrypt_sides proto ready sized below gcm payload
    · rw [cpp, kotlin]
      exact .refused
    · rw [cpp, kotlin]
      have nonce := nonce_eq sized.serverNoncePrefix sequence
      have aad := androidAad_eq channel sequence
      simp only [asSecureChannel] at nonce aad ⊢
      rw [nonce, aad, UInt32.toUInt32_toInt32]
      exact .answered (@Twin.established _ _ { channel with receiveSequence := sequence } ready
        ⟨sized.sessionId, sized.clientToServerKey, sized.serverToClientKey,
          sized.clientNoncePrefix, sized.serverNoncePrefix⟩)
  · unfold ClientSecureChannel.answer
    simp only [AndroidEnd.answer]
    obtain ⟨left, right, cpp, kotlin⟩ | ⟨frame, cpp, kotlin⟩ :=
      encrypt_sides ssl proto ready sized below works type payload
    · rw [cpp, kotlin]
      exact .refused
    · rw [cpp, kotlin]
      have nonce := nonce_eq sized.clientNoncePrefix (channel.sendSequence + 1)
      have aad := androidAad_eq channel (channel.sendSequence + 1)
      simp only [asSecureChannel] at nonce aad ⊢
      rw [nonce, aad]
      exact .answered (@Twin.established _ _
        { channel with sendSequence := channel.sendSequence + 1 } ready
        ⟨sized.sessionId, sized.clientToServerKey, sized.serverToClientKey,
          sized.clientNoncePrefix, sized.serverNoncePrefix⟩)

theorem Twin.inStep (gcm : ssl.KeepsLength) (positive : ∀ entry ∈ identityKeys, entry.1 ≠ 0)
    (twin : Twin ssl identityKeys channel state) (event : TwinEvent)
    (below : channel.Numbered event) (small : ¬ channel.Oversized ssl proto event) :
    InStep (Twin ssl identityKeys) (channel.answer ssl proto event)
      (state.answer ssl proto (androidPins identityKeys) event) := by
  cases event with
  | serverHello payload =>
      by_cases turn : channel.status = .helloSent
      · cases twin with
        | awaitingHello waiting private32 known unsent unread =>
            exact serverHello_inStep positive waiting private32 known unsent unread payload small
        | awaitingFinished waiting => exact absurd (turn.symm.trans waiting) (by decide)
        | established ready => exact absurd (turn.symm.trans ready) (by decide)
      · exact inStep_of_none (twin.serverHello_early turn payload)
  | serverFinished payload =>
      by_cases turn : channel.status = .finishedSent
      · cases twin with
        | awaitingHello waiting => exact absurd (turn.symm.trans waiting) (by decide)
        | awaitingFinished waiting sized unsent unread =>
            exact serverFinished_inStep waiting sized unsent unread payload small
        | established ready => exact absurd (turn.symm.trans ready) (by decide)
      · exact inStep_of_none (twin.serverFinished_early turn payload)
  | encryptedFrame payload =>
      by_cases turn : channel.status = .established
      · cases twin with
        | awaitingHello waiting => exact absurd (turn.symm.trans waiting) (by decide)
        | awaitingFinished waiting => exact absurd (turn.symm.trans waiting) (by decide)
        | established ready sized =>
            exact established_inStep gcm ready sized below payload (.inl rfl)
      · exact inStep_of_none (twin.frame_early turn payload)
  | encrypt works type payload =>
      by_cases turn : channel.status = .established
      · cases twin with
        | awaitingHello waiting => exact absurd (turn.symm.trans waiting) (by decide)
        | awaitingFinished waiting => exact absurd (turn.symm.trans waiting) (by decide)
        | established ready sized =>
            exact established_inStep gcm ready sized below payload (.inr ⟨works, type, rfl⟩)
      · exact inStep_of_none (twin.encrypt_early turn works type payload)

theorem Twin.apart (twin : Twin ssl identityKeys channel state) (event : TwinEvent)
    (large : channel.Oversized ssl proto event) :
    (channel.answer ssl proto event).isSome = true ∧
      state.answer ssl proto (androidPins identityKeys) event = none := by
  cases event with
  | serverHello payload =>
      obtain ⟨large, turn, hello, keys, parsed, accepts⟩ := large
      constructor
      · unfold ClientSecureChannel.answer
        simp only [handleServerHello_accepts turn parsed accepts]
        rfl
      · cases twin with
        | awaitingHello =>
            simp only [AndroidEnd.answer_serverHello, AndroidEnd.read_awaitingHello,
              AwaitingHello.readServerHello]
            rw [if_pos (.inr large)]
        | awaitingFinished waiting => exact absurd (turn.symm.trans waiting) (by decide)
        | established ready => exact absurd (turn.symm.trans ready) (by decide)
  | serverFinished payload =>
      obtain ⟨large, turn, finished, parsed, verified⟩ := large
      constructor
      · unfold ClientSecureChannel.answer
        simp only [handleServerFinished_accepts turn parsed verified]
        rfl
      · cases twin with
        | awaitingHello waiting => exact absurd (turn.symm.trans waiting) (by decide)
        | awaitingFinished =>
            simp only [AndroidEnd.answer_serverFinished, AndroidEnd.read_awaitingFinished,
              AwaitingFinished.readServerFinished]
            rw [if_pos (.inr large)]
        | established ready => exact absurd (turn.symm.trans ready) (by decide)
  | encryptedFrame payload => exact large.elim
  | encrypt works type payload => exact large.elim

end Twins

/-- Both sides from one set of random values on: one hello, and then the same answers to every
stream of frames and calls that is numbered below 2^63, just if no handshake frame comes that only
its size is against. -/
theorem channels_interchangeable_iff (ssl : OpenSsl) (proto : AppProto) (gcm : ssl.KeepsLength)
    (identityKeys : List (UInt32 × Bytes)) (positive : ∀ entry ∈ identityKeys, entry.1 ≠ 0)
    (before : ClientSecureChannel) (randoms : ClientRandoms) (events : List TwinEvent)
    (below : AlongAnswers (answer ssl proto) ClientSecureChannel.Numbered
      ((before.setTrustedIdentityKeys identityKeys).buildClientHello ssl proto
        (some randoms.privateKey) (some randoms.clientNonce) (some randoms.clientRandomId)).2
      events) :
    let built := (before.setTrustedIdentityKeys identityKeys).buildClientHello ssl proto
      (some randoms.privateKey) (some randoms.clientNonce) (some randoms.clientRandomId)
    let android := SecureChannel.establish ssl proto randoms
    built.1 = some android.clientPayload ∧
      (untilRefused (answer ssl proto) built.2 events =
          untilRefused (AndroidEnd.answer ssl proto (androidPins identityKeys))
            (.awaitingHello android) events ↔
        AlongAnswers (answer ssl proto) (fun channel event => ¬ channel.Oversized ssl proto event)
          built.2 events) := by
  intro built android
  refine ⟨rfl, ?_⟩
  have start : Twin ssl identityKeys built.2 (.awaitingHello built.2.asAwaitingHello) :=
    .awaitingHello rfl randoms.privateKey_length rfl rfl rfl
  exact untilRefused_eq_iff
    (fun channel state event twin below small => twin.inStep gcm positive event below small)
    (fun channel state event twin large => twin.apart event large) start events below

/-! ### The golden handshake, and a hello with a field that nobody reads -/

namespace Golden

def randoms : ClientRandoms := ⟨clientPrivate, clientNonce, clientRandomId, rfl, rfl, rfl⟩

theorem ssl_keepsLength : ssl.KeepsLength := by
  intro key nonce aad ciphertext tag plaintext opened
  simp only [ssl] at opened
  split at opened
  · rename_i recorded
    obtain rfl := Option.some.inj opened
    obtain ⟨_, _, _, rfl, _⟩ := recorded
    decide +kernel
  · exact nomatch opened

theorem channels_interchangeable_handshake :
    untilRefused (answer ssl proto) helloSent
        [.serverHello serverPayload, .serverFinished serverFinished] =
      untilRefused (AndroidEnd.answer ssl proto (androidPins [(1, identityPublic)]))
        (.awaitingHello (SecureChannel.establish ssl proto randoms))
        [.serverHello serverPayload, .serverFinished serverFinished] := by
  have short : serverPayload.length ≤ 1024 ∧ serverFinished.length ≤ 1024 := by decide +kernel
  have same : (({} : ClientSecureChannel).setTrustedIdentityKeys
      [(1, identityPublic)]).buildClientHello ssl proto (some randoms.privateKey)
      (some randoms.clientNonce) (some randoms.clientRandomId) = (some clientPayload, helloSent) := by
    decide +kernel
  have iff := channels_interchangeable_iff ssl proto ssl_keepsLength [(1, identityPublic)]
    (by simp) {} randoms [.serverHello serverPayload, .serverFinished serverFinished]
    ⟨trivial, fun _ _ _ => ⟨trivial, fun _ _ _ => trivial⟩⟩
  rw [same] at iff
  refine iff.2.mpr ⟨?_, fun _ _ _ => ⟨?_, fun _ _ _ => trivial⟩⟩
  · rintro ⟨large, _⟩
    exact Nat.not_lt.mpr short.1 large
  · rintro ⟨large, _⟩
    exact Nat.not_lt.mpr short.2 large

def paddedPayload : Bytes := serverPayload ++ [0x7a, 0xe8, 0x07] ++ List.replicate 1000 0

def tolerantProto : AppProto :=
  { proto with serverHello := codec [(serverHello, serverPayload), (serverHello, paddedPayload)] }

theorem channels_disagree :
    untilRefused (answer ssl tolerantProto) (trusting.buildClientHello ssl tolerantProto
        (some clientPrivate) (some clientNonce) (some clientRandomId)).2
        [.serverHello paddedPayload] ≠
      untilRefused (AndroidEnd.answer ssl tolerantProto (androidPins [(1, identityPublic)]))
        (.awaitingHello (SecureChannel.establish ssl tolerantProto randoms))
        [.serverHello paddedPayload] := by
  decide +kernel

end Golden

end Jitong
