import Mathlib

/-!
Signed machine integers of some width: a sum or a product outside of the range has no value.
-/

namespace Jitong.Lib

def Fits (bits : Nat) (value : Int) : Prop := -2 ^ (bits - 1) ≤ value ∧ value < 2 ^ (bits - 1)

instance (bits : Nat) (value : Int) : Decidable (Fits bits value) :=
  inferInstanceAs (Decidable (_ ∧ _))

def checked (bits : Nat) (value : Int) : Option Int :=
  if Fits bits value then some value else none

variable {bits : Nat} {value result : Int}

theorem fits64 : Fits 64 value ↔ -9223372036854775808 ≤ value ∧ value ≤ 9223372036854775807 := by
  change -2 ^ 63 ≤ value ∧ value < 2 ^ 63 ↔ _
  omega

theorem fits32 : Fits 32 value ↔ -2147483648 ≤ value ∧ value ≤ 2147483647 := by
  change -2 ^ 31 ≤ value ∧ value < 2 ^ 31 ↔ _
  omega

theorem checked_fits (fits : Fits bits value) : checked bits value = some value := if_pos fits

end Jitong.Lib
