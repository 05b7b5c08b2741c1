import Jitong.AppCrypto
import Jitong.Lib.Chunked

/-!
`transport/FrameCodec.cpp`: frames with their length and their type in front, and the reader
that cuts them out of what arrives.
-/

namespace Jitong

open Lib

namespace FrameCodec

def kLengthFieldSize : Nat := 4
def kTypeFieldSize : Nat := 4

def kMaxBodyLen : UInt32 := 10 * 1024 * 1024

def kMinBodyLen : UInt32 := 4

def encodeLength (bodyLen : UInt32) : Bytes :=
  [(bodyLen >>> 24).toUInt8, (bodyLen >>> 16).toUInt8, (bodyLen >>> 8).toUInt8, bodyLen.toUInt8]

def decodeLength (data : Bytes) : UInt32 :=
  ((data.getD 0 0).toUInt32 <<< 24) ||| ((data.getD 1 0).toUInt32 <<< 16) |||
    ((data.getD 2 0).toUInt32 <<< 8) ||| (data.getD 3 0).toUInt32

def isValidBodyLen (bodyLen : UInt32) : Bool := kMinBodyLen ≤ bodyLen ∧ bodyLen ≤ kMaxBodyLen

def encodeFrame (type : UInt32) (payload : Bytes) : Option Bytes :=
  let bodyLen := kTypeFieldSize + payload.length
  if bodyLen > kMaxBodyLen.toNat then none
  else some (encodeLength (UInt32.ofNat bodyLen) ++ encodeType32 type ++ payload)

end FrameCodec

open FrameCodec

structure Frame where
  type : UInt32
  payload : Bytes
  deriving DecidableEq

namespace FrameReader

def nextFrame (pending : Bytes) : Front UInt8 Frame :=
  if pending.length < kLengthFieldSize then .incomplete
  else
    let bodyLen := decodeLength pending
    if !isValidBodyLen bodyLen then .invalid
    else
      let frameLen := kLengthFieldSize + bodyLen.toNat
      if pending.length < frameLen then .incomplete
      else
        let body := pending.drop kLengthFieldSize
        .item {
          type := decodeType32 body
          payload := (body.drop kTypeFieldSize).take (bodyLen.toNat - kTypeFieldSize) }
          (pending.drop frameLen)

end FrameReader

structure FrameReader where
  pending : Bytes := []
  deriving DecidableEq

namespace FrameReader

inductive Status
  | needMore
  | frameReady
  | invalidLength
  deriving DecidableEq

def feed (reader : FrameReader) (data : Bytes) : Status × List Frame × FrameReader :=
  match cut nextFrame (reader.pending ++ data) with
  | (frames, none) => (.invalidLength, frames, { pending := [] })
  | (frames, some pending) => (if frames = [] then .needMore else .frameReady, frames, { pending })

theorem decodeLength_append {input : Bytes} (more : Bytes)
    (whole : kLengthFieldSize ≤ input.length) :
    decodeLength (input ++ more) = decodeLength input := by
  have long : 4 ≤ input.length := whole
  unfold decodeLength
  rw [List.getD_append _ _ _ _ (by omega), List.getD_append _ _ _ _ (by omega),
    List.getD_append _ _ _ _ (by omega), List.getD_append _ _ _ _ (by omega)]

theorem decodeType32_append {input : Bytes} (more : Bytes) (whole : kTypeFieldSize ≤ input.length) :
    decodeType32 (input ++ more) = decodeType32 input := by
  have long : 4 ≤ input.length := whole
  unfold decodeType32
  rw [List.getD_append _ _ _ _ (by omega), List.getD_append _ _ _ _ (by omega),
    List.getD_append _ _ _ _ (by omega), List.getD_append _ _ _ _ (by omega)]

theorem isValidBodyLen_iff (bodyLen : UInt32) :
    isValidBodyLen bodyLen = true ↔ 4 ≤ bodyLen.toNat ∧ bodyLen.toNat ≤ 10485760 := by
  simp only [isValidBodyLen, decide_eq_true_eq, UInt32.le_iff_toNat_le]
  exact Iff.rfl

def frameAt (pending : Bytes) : Frame where
  type := decodeType32 (pending.drop kLengthFieldSize)
  payload := ((pending.drop kLengthFieldSize).drop kTypeFieldSize).take
    ((decodeLength pending).toNat - kTypeFieldSize)

def Holds (pending : Bytes) : Prop :=
  kLengthFieldSize ≤ pending.length ∧ isValidBodyLen (decodeLength pending) = true ∧
    kLengthFieldSize + (decodeLength pending).toNat ≤ pending.length

theorem nextFrame_cases (pending : Bytes) :
    (nextFrame pending = .incomplete ∧ (pending.length < kLengthFieldSize ∨
      isValidBodyLen (decodeLength pending) = true ∧
        pending.length < kLengthFieldSize + (decodeLength pending).toNat)) ∨
    (nextFrame pending = .invalid ∧ kLengthFieldSize ≤ pending.length ∧
      isValidBodyLen (decodeLength pending) = false) ∨
    Holds pending ∧ nextFrame pending = .item (frameAt pending)
      (pending.drop (kLengthFieldSize + (decodeLength pending).toNat)) := by
  unfold nextFrame
  split
  · rename_i short
    exact .inl ⟨rfl, .inl short⟩
  · rename_i whole
    simp only
    cases valid : isValidBodyLen (decodeLength pending) with
    | false => exact .inr (.inl ⟨by simp, by omega, rfl⟩)
    | true =>
        simp only [Bool.not_true, Bool.false_eq_true, if_false]
        split
        · rename_i partly
          exact .inl ⟨rfl, .inr ⟨trivial, partly⟩⟩
        · rename_i arrived
          exact .inr (.inr ⟨⟨by omega, valid, by omega⟩, rfl⟩)

theorem nextFrame_holds {pending : Bytes} (holds : Holds pending) :
    nextFrame pending = .item (frameAt pending)
      (pending.drop (kLengthFieldSize + (decodeLength pending).toNat)) := by
  obtain ⟨whole, valid, arrived⟩ := holds
  unfold nextFrame
  rw [if_neg (by omega)]
  simp only [valid, Bool.not_true, Bool.false_eq_true, if_false]
  rw [if_neg (by omega)]
  rfl

theorem frameAt_append {pending : Bytes} (more : Bytes) (holds : Holds pending) :
    frameAt (pending ++ more) = frameAt pending := by
  obtain ⟨whole, valid, arrived⟩ := holds
  have bounds := (isValidBodyLen_iff _).mp valid
  have typed : kTypeFieldSize ≤ (pending.drop kLengthFieldSize).length := by
    simp only [kTypeFieldSize, kLengthFieldSize, List.length_drop] at arrived ⊢
    omega
  have enough : (decodeLength pending).toNat - kTypeFieldSize ≤
      ((pending.drop kLengthFieldSize).drop kTypeFieldSize).length := by
    simp only [kTypeFieldSize, kLengthFieldSize, List.length_drop] at arrived ⊢
    omega
  unfold frameAt
  rw [decodeLength_append more whole, List.drop_append_of_le_length whole,
    decodeType32_append more typed, List.drop_append_of_le_length typed,
    List.take_append_of_le_length enough]

theorem Holds.append {pending : Bytes} (more : Bytes) (holds : Holds pending) :
    Holds (pending ++ more) := by
  obtain ⟨whole, valid, arrived⟩ := holds
  unfold Holds
  rw [decodeLength_append more whole, List.length_append]
  exact ⟨by omega, valid, by omega⟩

theorem nextFrame_decides : Decides nextFrame := by
  constructor
  · intro input item rest found
    rcases nextFrame_cases input with ⟨same, _⟩ | ⟨same, _⟩ | ⟨holds, same⟩
    · simp [same] at found
    · simp [same] at found
    · rw [same, Front.item.injEq] at found
      have arrived := holds.2.2
      simp only [kLengthFieldSize] at arrived
      rw [← found.2, List.length_drop]
      simp only [kLengthFieldSize]
      omega
  · intro input item rest more found
    rcases nextFrame_cases input with ⟨same, _⟩ | ⟨same, _⟩ | ⟨holds, same⟩
    · simp [same] at found
    · simp [same] at found
    · rw [same, Front.item.injEq] at found
      rw [nextFrame_holds (holds.append more), frameAt_append more holds,
        decodeLength_append more holds.1, List.drop_append_of_le_length holds.2.2, found.1, found.2]
  · intro input more found
    rcases nextFrame_cases input with ⟨same, _⟩ | ⟨_, whole, broken⟩ | ⟨_, same⟩
    · simp [same] at found
    · unfold nextFrame
      rw [decodeLength_append more whole, if_neg (by rw [List.length_append]; omega)]
      simp [broken]
    · simp [same] at found

theorem nextFrame_incomplete_length {pending : Bytes} (waits : nextFrame pending = .incomplete) :
    pending.length < kLengthFieldSize + kMaxBodyLen.toNat := by
  have largest : kMaxBodyLen.toNat = 10485760 := rfl
  rcases nextFrame_cases pending with ⟨_, short | ⟨valid, partly⟩⟩ | ⟨same, _⟩ | ⟨_, same⟩
  · omega
  · have bounds := (isValidBodyLen_iff _).mp valid
    omega
  · simp [same] at waits
  · simp [same] at waits

theorem decodeLength_encodeLength (bodyLen : UInt32) (rest : Bytes) :
    decodeLength (encodeLength bodyLen ++ rest) = bodyLen := by
  have reversed (first second third fourth : UInt32) :
      first ||| second ||| third ||| fourth = fourth ||| third ||| second ||| first := by ac_rfl
  have same : decodeLength (encodeLength bodyLen ++ rest) =
      decodeType32 (encodeType32 bodyLen ++ rest) := reversed _ _ _ _
  rw [same, decodeType32_encodeType32]

theorem encodeFrame_eq {frame : Frame} {written : Bytes}
    (encoded : encodeFrame frame.type frame.payload = some written) :
    kTypeFieldSize + frame.payload.length ≤ kMaxBodyLen.toNat ∧
      written = encodeLength (UInt32.ofNat (kTypeFieldSize + frame.payload.length)) ++
        encodeType32 frame.type ++ frame.payload := by
  unfold encodeFrame at encoded
  simp only at encoded
  split at encoded
  · simp at encoded
  · rename_i fits
    exact ⟨by omega, (Option.some.inj encoded).symm⟩

theorem nextFrame_encodeFrame {frame : Frame} {written : Bytes}
    (encoded : encodeFrame frame.type frame.payload = some written) (rest : Bytes) :
    nextFrame (written ++ rest) = .item frame rest := by
  obtain ⟨fits, rfl⟩ := encodeFrame_eq encoded
  have largest : kMaxBodyLen.toNat = 10485760 := rfl
  let bodyLen := UInt32.ofNat (kTypeFieldSize + frame.payload.length)
  have size : bodyLen.toNat = kTypeFieldSize + frame.payload.length := by
    refine UInt32.toNat_ofNat_of_lt' ?_
    exact Nat.lt_of_le_of_lt fits (by decide)
  have length : decodeLength (encodeLength bodyLen ++ encodeType32 frame.type ++ frame.payload ++
      rest) = bodyLen := by
    simp only [List.append_assoc]
    exact decodeLength_encodeLength bodyLen _
  have holds : Holds (encodeLength bodyLen ++ encodeType32 frame.type ++ frame.payload ++ rest) := by
    unfold Holds
    rw [length, isValidBodyLen_iff, size]
    simp only [kLengthFieldSize, kTypeFieldSize, encodeLength, encodeType32, List.length_append,
      List.length_cons, List.length_nil] at fits ⊢
    omega
  rw [nextFrame_holds holds, length]
  have body : (encodeLength bodyLen ++ encodeType32 frame.type ++ frame.payload ++ rest).drop
      kLengthFieldSize = encodeType32 frame.type ++ (frame.payload ++ rest) := by
    simp [encodeLength, kLengthFieldSize]
  have front : frameAt (encodeLength bodyLen ++ encodeType32 frame.type ++ frame.payload ++ rest) =
      frame := by
    unfold frameAt
    rw [body, length, size, decodeType32_encodeType32]
    simp [encodeType32, kTypeFieldSize]
  have typed : (encodeType32 frame.type ++ (frame.payload ++ rest)).drop kTypeFieldSize =
      frame.payload ++ rest := rfl
  rw [front, size, ← List.drop_drop, body, ← List.drop_drop, typed, List.drop_left]

end FrameReader

end Jitong
