import Mathlib

/-!
The wire format of protocol buffers, as far as it decides how long a message is: numbers in
groups of seven bits, fields behind their tags, and no field that has its default value.
-/

namespace Jitong.Lib

def varintGroups : Nat → Nat → List UInt8
  | 0, _ => []
  | groups + 1, value =>
      if value < 128 then [UInt8.ofNat value]
      else UInt8.ofNat (value % 128 + 128) :: varintGroups groups (value / 128)

def varint (value : Nat) : List UInt8 := varintGroups 10 value

def signedBits (value : Int) : Nat := (value % 2 ^ 64).toNat

def delimited (number : Nat) (value : List UInt8) : List UInt8 :=
  varint (8 * number + 2) ++ varint value.length ++ value

def varintField (number value : Nat) : List UInt8 :=
  if value = 0 then [] else varint (8 * number) ++ varint value

def signedField (number : Nat) (value : Int) : List UInt8 := varintField number (signedBits value)

def bytesField (number : Nat) (value : List UInt8) : List UInt8 :=
  if value = [] then [] else delimited number value

theorem varintGroups_length_le (groups value : Nat) :
    (varintGroups groups value).length ≤ groups := by
  induction groups generalizing value with
  | zero => simp [varintGroups]
  | succ groups ih =>
      rw [varintGroups]
      split
      · simp
      · have rest := ih (value / 128)
        rw [List.length_cons]
        omega

theorem varintGroups_length (groups value count : Nat) (enough : count < groups)
    (lower : count = 0 ∨ 128 ^ count ≤ value) (upper : value < 128 ^ (count + 1)) :
    (varintGroups groups value).length = count + 1 := by
  induction groups generalizing value count with
  | zero => omega
  | succ groups ih =>
      rw [varintGroups]
      cases count with
      | zero =>
          rw [if_pos (by simpa using upper)]
          simp
      | succ count =>
          have lower : 128 ^ (count + 1) ≤ value := by simpa using lower
          have power : 128 ^ count * 128 = 128 ^ (count + 1) := (Nat.pow_succ ..).symm
          have positive : 0 < 128 ^ count := Nat.pow_pos (by omega)
          have above : 128 ^ count ≤ value / 128 := by omega
          have below : value / 128 < 128 ^ (count + 1) := by
            rw [Nat.pow_succ] at upper
            omega
          rw [if_neg (by omega), List.length_cons, ih (value / 128) count (by omega) (.inr above) below]

theorem varint_length_pos (value : Nat) : 1 ≤ (varint value).length := by
  unfold varint varintGroups
  split <;> simp

theorem varint_length_le (value : Nat) : (varint value).length ≤ 10 := varintGroups_length_le 10 value

theorem varintField_length_le (number value : Nat) : (varintField number value).length ≤ 20 := by
  have tag := varint_length_le (8 * number)
  have groups := varint_length_le value
  unfold varintField
  split
  · simp
  · rw [List.length_append]
    omega

theorem delimited_length (number : Nat) (value : List UInt8) :
    (delimited number value).length =
      (varint (8 * number + 2)).length + (varint value.length).length + value.length := by
  simp only [delimited, List.length_append]

theorem bytesField_length_le (number : Nat) (value : List UInt8) :
    (bytesField number value).length ≤ 20 + value.length := by
  have tag := varint_length_le (8 * number + 2)
  have groups := varint_length_le value.length
  unfold bytesField
  split
  · simp
  · rw [delimited_length]
    omega

theorem length_le_bytesField (number : Nat) (value : List UInt8) :
    value.length ≤ (bytesField number value).length := by
  unfold bytesField
  split
  · rename_i empty
    simp [empty]
  · rw [delimited_length]
    omega

@[simp] theorem bytesField_nil (number : Nat) : bytesField number [] = [] := rfl

@[simp] theorem signedField_zero (number : Nat) : signedField number 0 = [] := rfl

theorem varint_length {value : Nat} (count : Nat) (enough : count < 10)
    (lower : count = 0 ∨ 128 ^ count ≤ value) (upper : value < 128 ^ (count + 1)) :
    (varint value).length = count + 1 := varintGroups_length 10 value count enough lower upper

end Jitong.Lib
