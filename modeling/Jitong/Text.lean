import Mathlib

/-!
Strings as the C++ code handles them: a `std::string` is its bytes, a `TEXT`
column is what is left of one after `c_str()`, and tokens are hex renderings.
-/

namespace Jitong

abbrev Bytes := List UInt8

instance lawfulBytes : LawfulBEq Bytes := inferInstance

def bigEndian (size number : Nat) : Bytes :=
  (List.range size).reverse.map fun index => UInt8.ofNat (number >>> (8 * index))

/-- A stored `TEXT` value. It was bound through `c_str()` with length -1, so it
ends before the first NUL byte. -/
structure Text where
  bytes : Bytes
  noNul : (0 : UInt8) ∉ bytes
  deriving DecidableEq

def cstr (value : Bytes) : Text where
  bytes := value.takeWhile (· ≠ 0)
  noNul := fun member => by simpa using List.mem_takeWhile_imp member

theorem Text.ext {left right : Text} (same : left.bytes = right.bytes) : left = right := by
  cases left
  cases right
  simpa using same

theorem cstr_bytes {value : Bytes} (noNul : (0 : UInt8) ∉ value) : (cstr value).bytes = value := by
  refine List.takeWhile_eq_self_iff.mpr ?_
  intro byte member
  have different : byte ≠ 0 := fun zero => noNul (zero ▸ member)
  simpa using different

@[simp] theorem cstr_text (text : Text) : cstr text.bytes = text :=
  Text.ext (cstr_bytes text.noNul)

theorem cstr_bytes_iff (value : Bytes) : (cstr value).bytes = value ↔ (0 : UInt8) ∉ value := by
  constructor
  · intro same
    rw [← same]
    exact (cstr value).noNul
  · exact cstr_bytes

def hexTable : Bytes :=
  [0x30, 0x31, 0x32, 0x33, 0x34, 0x35, 0x36, 0x37, 0x38, 0x39, 0x61, 0x62, 0x63, 0x64, 0x65, 0x66]

def hexDigit (nibble : UInt8) : UInt8 := hexTable.getD nibble.toNat 0

def toHex (data : Bytes) : Bytes :=
  data.flatMap fun byte : UInt8 => [hexDigit (byte >>> 4), hexDigit (byte &&& 0x0F)]

theorem hexDigit_split (byte : UInt8) :
    hexDigit (byte >>> 4) ≠ 0 ∧ hexDigit (byte &&& 0x0F) ≠ 0 := by
  revert byte
  decide +kernel

theorem toHex_noNul (data : Bytes) : (0 : UInt8) ∉ toHex data := by
  intro member
  obtain ⟨byte, _, found⟩ := List.mem_flatMap.mp member
  have digits := hexDigit_split byte
  simp only [List.mem_cons, List.not_mem_nil, or_false] at found
  rcases found with high | low
  · exact digits.1 high.symm
  · exact digits.2 low.symm

@[simp] theorem cstr_toHex (data : Bytes) : (cstr (toHex data)).bytes = toHex data :=
  cstr_bytes (toHex_noNul data)

def hexValue (digit : UInt8) : UInt8 := UInt8.ofNat (hexTable.idxOf digit)

theorem hexValue_hexDigit (byte : UInt8) :
    (hexValue (hexDigit (byte >>> 4)) <<< 4) ||| hexValue (hexDigit (byte &&& 0x0F)) = byte := by
  revert byte
  decide +kernel

theorem hexDigit_pair_injective {left right : UInt8}
    (high : hexDigit (left >>> 4) = hexDigit (right >>> 4))
    (low : hexDigit (left &&& 0x0F) = hexDigit (right &&& 0x0F)) : left = right := by
  rw [← hexValue_hexDigit left, high, low, hexValue_hexDigit right]

theorem toHex_injective : Function.Injective toHex := by
  intro left
  induction left with
  | nil =>
      intro right same
      cases right with
      | nil => rfl
      | cons byte rest => simp [toHex] at same
  | cons byte rest ih =>
      intro right same
      cases right with
      | nil => simp [toHex] at same
      | cons other others =>
          simp only [toHex, List.flatMap_cons, List.cons_append, List.nil_append,
            List.cons.injEq] at same
          obtain ⟨high, low, tail⟩ := same
          rw [hexDigit_pair_injective high low, ih tail]

theorem cstr_toHex_injective {left right : Bytes} (same : cstr (toHex left) = cstr (toHex right)) :
    left = right := by
  have bytes := congrArg Text.bytes same
  rw [cstr_toHex, cstr_toHex] at bytes
  exact toHex_injective bytes

def decimal (number : Int) : Bytes :=
  let digits := (Nat.toDigits 10 number.natAbs).map fun digit => UInt8.ofNat digit.toNat
  if number < 0 then 0x2D :: digits else digits

end Jitong
