import Jitong.FrameCodec
import Jitong.Lib.Wire

/-!
How long an encrypted frame gets. Both ends put the same fields around what they encrypt, and
both codecs have the same limit on a body.
-/

namespace Jitong

open Lib FrameCodec

def AppEncryptedFrame.wire (frame : AppEncryptedFrame) : Bytes :=
  varintField 1 frame.version.toNat ++ bytesField 2 frame.sessionId ++
    varintField 3 frame.sequence.toNat ++ bytesField 4 frame.ciphertext ++ bytesField 5 frame.tag

/-- `SerializeAsString` of a message of so many bytes: one of 2 GiB or more is refused, and the
string is empty. -/
def serializedLength (length : Nat) : Nat := if length < 2 ^ 31 then length else 0

def serialized (wire : Bytes) : Bytes := if wire.length < 2 ^ 31 then wire else []

theorem length_serialized (wire : Bytes) :
    (serialized wire).length = serializedLength wire.length := by
  unfold serialized serializedLength
  split <;> rfl

/-- The lengths that the libraries give: AES-GCM keeps that of the plaintext and has a tag of
16 bytes, and a message is as long as its wire format. -/
structure FrameLengths (ssl : OpenSsl) (proto : AppProto) : Prop where
  ciphertext : ∀ key nonce aad plaintext,
    (ssl.gcmEncrypt key nonce aad plaintext).1.length = plaintext.length
  tag : ∀ key nonce aad plaintext, (ssl.gcmEncrypt key nonce aad plaintext).2.length = 16
  frame : ∀ frame, (proto.frame.serialize frame).length = serializedLength frame.wire.length

def frameOverhead : Nat := 52

def framable (sequence : UInt64) (payload : Bytes) : Bool :=
  payload.length + frameOverhead + (varint sequence.toNat).length ≤ kMaxBodyLen.toNat

theorem framable_eq_false {sequence : UInt64} {payload : Bytes}
    (long : kMaxBodyLen.toNat < payload.length + frameOverhead + (varint sequence.toNat).length) :
    framable sequence payload = false := by
  simp only [framable, decide_eq_false_iff_not]
  omega

def sealedLength (sequence : UInt64) (length : Nat) : Nat :=
  44 + (varint sequence.toNat).length + (varint (4 + length)).length + length

def sealedFrame (sessionId : Bytes) (sequence : UInt64) (sealed : Bytes × Bytes) :
    AppEncryptedFrame where
  version := appSecurityVersion
  sessionId
  sequence
  ciphertext := sealed.1
  tag := sealed.2

theorem sealedFrame_wire_length {sessionId : Bytes} {sequence : UInt64} {sealed : Bytes × Bytes}
    (session : sessionId.length = 16) (numbered : sequence ≠ 0) (full : sealed.1 ≠ [])
    (tagged : sealed.2.length = 16) :
    (sealedFrame sessionId sequence sealed).wire.length =
      40 + (varint sequence.toNat).length + (varint sealed.1.length).length + sealed.1.length := by
  have named : sessionId ≠ [] := by
    rintro rfl
    simp at session
  have number : sequence.toNat ≠ 0 := fun zero => numbered (UInt64.toNat_inj.mp zero)
  have tag : sealed.2 ≠ [] := by
    intro none
    simp [none] at tagged
  have version : (varintField 1 appSecurityVersion.toNat).length = 2 := by decide
  have small : (varint 16).length = 1 := by decide
  have tags : (varint (8 * 2 + 2)).length = 1 ∧ (varint (8 * 3)).length = 1 ∧
      (varint (8 * 4 + 2)).length = 1 ∧ (varint (8 * 5 + 2)).length = 1 := by decide
  simp only [AppEncryptedFrame.wire, sealedFrame, List.length_append, version]
  simp only [varintField, bytesField, delimited, named, number, full, tag, if_false,
    List.length_append, session, tagged, small, tags]
  omega

theorem sealedFrame_length {ssl : OpenSsl} {proto : AppProto} (lengths : FrameLengths ssl proto)
    {sessionId : Bytes} {sequence : UInt64} (type : UInt32) (payload key nonce aad : Bytes)
    (session : sessionId.length = 16) (numbered : sequence ≠ 0) :
    (proto.frame.serialize (sealedFrame sessionId sequence
        (ssl.gcmEncrypt key nonce aad (encodeType32 type ++ payload)))).length =
      serializedLength (sealedLength sequence payload.length) := by
  have plain : (encodeType32 type ++ payload).length = 4 + payload.length := by
    simp [encodeType32]
    omega
  have inner := lengths.ciphertext key nonce aad (encodeType32 type ++ payload)
  have full : (ssl.gcmEncrypt key nonce aad (encodeType32 type ++ payload)).1 ≠ [] := by
    intro none
    rw [none, plain] at inner
    simp at inner
    omega
  rw [lengths.frame, sealedFrame_wire_length session numbered full (lengths.tag ..), inner, plain,
    sealedLength]
  congr 1
  omega

theorem sealedLength_fits (sequence : UInt64) (length : Nat) :
    kTypeFieldSize + sealedLength sequence length ≤ kMaxBodyLen.toNat ↔
      length + frameOverhead + (varint sequence.toNat).length ≤ kMaxBodyLen.toNat := by
  have limit : kMaxBodyLen.toNat = 10485760 := by decide
  have number := varint_length_le sequence.toNat
  have groups := varint_length_le (4 + length)
  have least := varint_length_pos (4 + length)
  simp only [sealedLength, frameOverhead, kTypeFieldSize, limit]
  by_cases small : 4 + length < 2097152
  · omega
  · by_cases large : 4 + length < 268435456
    · have four := varint_length 3 (by omega) (.inr (by omega)) (show 4 + length < _ by omega)
      omega
    · omega

theorem sealedFrame_fits {ssl : OpenSsl} {proto : AppProto} (lengths : FrameLengths ssl proto)
    {sessionId : Bytes} {sequence : UInt64} (type : UInt32) (payload key nonce aad : Bytes)
    (session : sessionId.length = 16) (numbered : sequence ≠ 0)
    (fits : framable sequence payload = true) :
    kTypeFieldSize + (proto.frame.serialize (sealedFrame sessionId sequence
      (ssl.gcmEncrypt key nonce aad (encodeType32 type ++ payload)))).length ≤ kMaxBodyLen.toNat := by
  rw [sealedFrame_length lengths type payload key nonce aad session numbered]
  have length := (sealedLength_fits sequence payload.length).mpr (by simpa [framable] using fits)
  have smaller : serializedLength (sealedLength sequence payload.length) ≤
      sealedLength sequence payload.length := by
    unfold serializedLength
    split <;> omega
  omega

theorem sealedFrame_long {ssl : OpenSsl} {proto : AppProto} (lengths : FrameLengths ssl proto)
    {sessionId : Bytes} {sequence : UInt64} (type : UInt32) (payload key nonce aad : Bytes)
    (session : sessionId.length = 16) (numbered : sequence ≠ 0)
    (large : framable sequence payload = false) (bounded : payload.length < 2 ^ 30) :
    kMaxBodyLen.toNat < kTypeFieldSize + (proto.frame.serialize (sealedFrame sessionId sequence
      (ssl.gcmEncrypt key nonce aad (encodeType32 type ++ payload)))).length := by
  rw [sealedFrame_length lengths type payload key nonce aad session numbered]
  have length := mt (sealedLength_fits sequence payload.length).mp (by
    simpa [framable] using large)
  have serialized : sealedLength sequence payload.length < 2 ^ 31 := by
    have number := varint_length_le sequence.toNat
    have groups := varint_length_le (4 + payload.length)
    unfold sealedLength
    omega
  rw [serializedLength, if_pos serialized]
  omega

namespace Golden

def sizedSsl : OpenSsl :=
  { ssl with
    gcmEncrypt key nonce aad plaintext :=
      if (key, nonce, aad, plaintext) =
        (keys.clientToServerKey, frameNonce, frameAad, framePlaintext) then (frameCiphertext, frameTag)
      else (plaintext, List.replicate 16 0) }

def sizedProto : AppProto :=
  { proto with frame := { proto.frame with serialize := fun frame => serialized frame.wire } }

theorem sizedLengths : FrameLengths sizedSsl sizedProto := by
  have golden : frameCiphertext.length = framePlaintext.length ∧ frameTag.length = 16 := by decide
  refine ⟨fun key nonce aad plaintext => ?_, fun key nonce aad plaintext => ?_,
    fun frame => length_serialized frame.wire⟩
  · simp only [sizedSsl]
    split
    · rename_i same
      rw [(Prod.mk.inj (Prod.mk.inj (Prod.mk.inj same).2).2).2]
      exact golden.1
    · rfl
  · simp only [sizedSsl]
    split
    · exact golden.2
    · simp

end Golden

end Jitong
