import Jitong.SearchService

/-!
What is highlighted: the byte positions of a text, those of its initials and the UTF-16 units of the
characters, and when they say the same.
-/

namespace Jitong

open Lib Lib.Utf8

def utf16 (char : Char) : List UInt16 :=
  if char.toNat ≤ 0xFFFF then [.ofNat char.toNat]
  else [.ofNat (0xD800 + (char.toNat - 0x10000) / 0x400),
    .ofNat (0xDC00 + (char.toNat - 0x10000) % 0x400)]

def utf16Length (chars : List Char) : Nat := (chars.flatMap utf16).length

namespace SearchService

/-! Bytes and characters. -/

section Bytes

variable {char : Char} {chars rest : List Char}

theorem small_byte {holds : UInt8 → Prop} {bound : Nat}
    (all : ∀ number : Fin bound, holds (.ofNat number)) {byte : UInt8}
    (small : byte.toNat < bound) : holds byte := by
  simpa using all ⟨byte.toNat, small⟩

theorem masked_byte {holds : UInt8 → Prop} (byte : UInt8) (mask : Fin 256)
    (all : ∀ low : Fin (mask + 1), holds (.ofNat low)) : holds (byte &&& .ofNat mask) := by
  refine small_byte all ?_
  rw [UInt8.toNat_and, UInt8.toNat_ofNat_of_lt' mask.isLt]
  exact Nat.lt_succ_of_le Nat.and_le_right

theorem lead_bytes (byte : UInt8) :
    (byte &&& 0x1F ||| 0xC0) &&& 0xE0 = 0xC0 ∧ sequenceLength (byte &&& 0x1F ||| 0xC0) = 2 ∧
    ((byte &&& 0x0F ||| 0xE0) &&& 0xE0 ≠ 0xC0 ∧ (byte &&& 0x0F ||| 0xE0) &&& 0xF0 = 0xE0 ∧
      sequenceLength (byte &&& 0x0F ||| 0xE0) = 3) ∧
    ((byte &&& 0x07 ||| 0xF0) &&& 0xE0 ≠ 0xC0 ∧ (byte &&& 0x07 ||| 0xF0) &&& 0xF0 ≠ 0xE0 ∧
      (byte &&& 0x07 ||| 0xF0) &&& 0xF8 = 0xF0 ∧ sequenceLength (byte &&& 0x07 ||| 0xF0) = 4) := by
  have two := @masked_byte (fun low => (low ||| 0xC0) &&& 0xE0 = 0xC0 ∧
    sequenceLength (low ||| 0xC0) = 2) byte 0x1F (by decide +kernel)
  have three := @masked_byte (fun low => (low ||| 0xE0) &&& 0xE0 ≠ 0xC0 ∧
    (low ||| 0xE0) &&& 0xF0 = 0xE0 ∧ sequenceLength (low ||| 0xE0) = 3) byte 0x0F (by decide +kernel)
  have four := @masked_byte (fun low => (low ||| 0xF0) &&& 0xE0 ≠ 0xC0 ∧
    (low ||| 0xF0) &&& 0xF0 ≠ 0xE0 ∧ (low ||| 0xF0) &&& 0xF8 = 0xF0 ∧
    sequenceLength (low ||| 0xF0) = 4) byte 0x07 (by decide +kernel)
  exact ⟨two.1, two.2, three, four⟩

theorem payload (byte : UInt8) :
    ((byte &&& 0x1F ||| 0xC0) &&& 0x1F).toNat = byte.toNat % 32 ∧
    ((byte &&& 0x0F ||| 0xE0) &&& 0x0F).toNat = byte.toNat % 16 ∧
    ((byte &&& 0x07 ||| 0xF0) &&& 0x07).toNat = byte.toNat % 8 ∧
    ((byte &&& 0x3F ||| 0x80) &&& 0x3F).toNat = byte.toNat % 64 ∧
    (byte &&& 0x3F ||| 0x80) &&& 0xC0 = 0x80 := by
  have five := @masked_byte (fun low => ((low ||| 0xC0) &&& 0x1F).toNat = low.toNat) byte 0x1F
    (by decide +kernel)
  have four := @masked_byte (fun low => ((low ||| 0xE0) &&& 0x0F).toNat = low.toNat) byte 0x0F
    (by decide +kernel)
  have three := @masked_byte (fun low => ((low ||| 0xF0) &&& 0x07).toNat = low.toNat) byte 0x07
    (by decide +kernel)
  have six := @masked_byte (fun low => ((low ||| 0x80) &&& 0x3F).toNat = low.toNat ∧
    (low ||| 0x80) &&& 0xC0 = 0x80) byte 0x3F (by decide +kernel)
  have remainder (mask : UInt8) (bits : Nat) (ones : mask.toNat = 2 ^ bits - 1) :
      (byte &&& mask).toNat = byte.toNat % 2 ^ bits := by
    rw [UInt8.toNat_and, ones, Nat.and_two_pow_sub_one_eq_mod]
  exact ⟨five.trans (remainder 0x1F 5 rfl), four.trans (remainder 0x0F 4 rfl),
    three.trans (remainder 0x07 3 rfl), six.1.trans (remainder 0x3F 6 rfl), six.2⟩

theorem ascii_byte (byte : UInt8) (low : byte < 0x80) :
    byte &&& 0xE0 ≠ 0xC0 ∧ byte &&& 0xF0 ≠ 0xE0 ∧ byte &&& 0xF8 ≠ 0xF0 ∧
      sequenceLength byte = 1 := by
  exact @small_byte (fun byte => byte &&& 0xE0 ≠ 0xC0 ∧ byte &&& 0xF0 ≠ 0xE0 ∧
    byte &&& 0xF8 ≠ 0xF0 ∧ sequenceLength byte = 1) 128 (by decide +kernel) byte low

theorem append_bits (high low : Nat) (bound : low < 64) : high <<< 6 ||| low = high * 64 + low := by
  rw [← Nat.shiftLeft_add_eq_or_of_lt bound, Nat.shiftLeft_eq]

theorem toUInt8_toNat (number : UInt32) : number.toUInt8.toNat = number.toNat % 256 := by
  simp

theorem shifted (number : UInt32) (places : UInt32) (few : places.toNat < 32) :
    (number >>> places).toUInt8.toNat = number.toNat / 2 ^ places.toNat % 256 := by
  rw [toUInt8_toNat, UInt32.toNat_shiftRight, Nat.mod_eq_of_lt few, Nat.shiftRight_eq_div_pow]

theorem length_utf16 (char : Char) :
    (utf16 char).length = if 0xFFFF < char.toNat then 2 else 1 := by
  unfold utf16
  split
  · rw [if_neg (by omega)]
    rfl
  · rw [if_pos (by omega)]
    rfl

theorem next_sextet (number bits : Nat) :
    number / 2 ^ (bits + 6) * 64 + number / 2 ^ bits % 256 % 64 = number / 2 ^ bits := by
  rw [Nat.mod_mod_of_dvd _ (by decide : 64 ∣ 256), Nat.pow_add, ← Nat.div_div_eq_div_mul]
  exact Nat.div_add_mod' _ 64

theorem last_sextet (number : Nat) : number / 2 ^ 6 * 64 + number % 256 % 64 = number := by
  simpa using next_sextet number 0

theorem lead_bits {lead mask : Nat} (small : lead < mask) (byte : mask ≤ 256) :
    lead % 256 % mask = lead := by
  rw [Nat.mod_eq_of_lt (Nat.lt_of_lt_of_le small byte), Nat.mod_eq_of_lt small]

theorem nextCodePoint_two (two : char.utf8Size = 2) (rest : Bytes) :
    nextCodePoint (String.utf8EncodeChar char ++ rest) =
      some (char.toNat, if 0xFFFF < char.toNat then 2 else 1, rest) := by
  have value : char.val.toNat = char.toNat := rfl
  have bounds := Char.utf8Size_eq_two_iff.mp two
  have lead := (lead_bytes (char.val >>> 6).toUInt8).1
  have first := (payload (char.val >>> 6).toUInt8).1
  have second := (payload char.val.toUInt8).2.2.2
  have high := shifted char.val 6 (by decide)
  have low := toUInt8_toNat char.val
  simp only [UInt32.le_iff_toNat_le, UInt32.reduceToNat, value] at bounds high low
  rw [String.utf8EncodeChar_eq_cons_cons two]
  unfold nextCodePoint
  simp only [List.cons_append, List.nil_append, lead, if_true, List.take_succ_cons, List.take_zero,
    List.length_singleton, List.any_cons, List.any_nil, second.2, List.foldl_cons, List.foldl_nil,
    first, second.1, List.drop_succ_cons, List.drop_zero, high, low]
  rw [append_bits _ _ (Nat.mod_lt _ (by decide)), lead_bits (by omega) (by decide), last_sextet]
  simp

theorem nextCodePoint_three (three : char.utf8Size = 3) (rest : Bytes) :
    nextCodePoint (String.utf8EncodeChar char ++ rest) =
      some (char.toNat, if 0xFFFF < char.toNat then 2 else 1, rest) := by
  have value : char.val.toNat = char.toNat := rfl
  have bounds := Char.utf8Size_eq_three_iff.mp three
  have lead := (lead_bytes (char.val >>> 12).toUInt8).2.2.1
  have first := (payload (char.val >>> 12).toUInt8).2.1
  have second := (payload (char.val >>> 6).toUInt8).2.2.2
  have third := (payload char.val.toUInt8).2.2.2
  have high := shifted char.val 12 (by decide)
  have middle := shifted char.val 6 (by decide)
  have low := toUInt8_toNat char.val
  simp only [UInt32.le_iff_toNat_le, UInt32.reduceToNat, value] at bounds high middle low
  rw [String.utf8EncodeChar_eq_cons_cons_cons three]
  unfold nextCodePoint
  simp only [List.cons_append, List.nil_append, lead, if_true, if_false, List.take_succ_cons,
    List.take_zero, List.length_cons, List.length_nil, List.any_cons, List.any_nil, second.2,
    third.2, List.foldl_cons, List.foldl_nil, first, second.1, third.1, List.drop_succ_cons,
    List.drop_zero, high, middle, low]
  rw [append_bits _ _ (Nat.mod_lt _ (by decide)), append_bits _ _ (Nat.mod_lt _ (by decide)),
    lead_bits (by omega) (by decide), next_sextet char.toNat 6, last_sextet]
  simp

theorem nextCodePoint_four (four : char.utf8Size = 4) (rest : Bytes) :
    nextCodePoint (String.utf8EncodeChar char ++ rest) =
      some (char.toNat, if 0xFFFF < char.toNat then 2 else 1, rest) := by
  have value : char.val.toNat = char.toNat := rfl
  have bounds := Char.utf8Size_eq_four_iff.mp four
  have most : char.toNat < 0x110000 := by
    have valid := char.valid
    rcases valid with low | high
    · rw [value] at low
      omega
    · rw [value] at high
      omega
  have lead := (lead_bytes (char.val >>> 18).toUInt8).2.2.2
  have first := (payload (char.val >>> 18).toUInt8).2.2.1
  have second := (payload (char.val >>> 12).toUInt8).2.2.2
  have third := (payload (char.val >>> 6).toUInt8).2.2.2
  have fourth := (payload char.val.toUInt8).2.2.2
  have high := shifted char.val 18 (by decide)
  have middle := shifted char.val 12 (by decide)
  have next := shifted char.val 6 (by decide)
  have low := toUInt8_toNat char.val
  simp only [UInt32.lt_iff_toNat_lt, UInt32.reduceToNat, value] at bounds high middle next low
  rw [String.utf8EncodeChar_eq_cons_cons_cons_cons four]
  unfold nextCodePoint
  simp only [List.cons_append, List.nil_append, lead, if_true, if_false, List.take_succ_cons,
    List.take_zero, List.length_cons, List.length_nil, List.any_cons, List.any_nil, second.2,
    third.2, fourth.2, List.foldl_cons, List.foldl_nil, first, second.1, third.1, fourth.1,
    List.drop_succ_cons, List.drop_zero, high, middle, next, low]
  rw [append_bits _ _ (Nat.mod_lt _ (by decide)), append_bits _ _ (Nat.mod_lt _ (by decide)),
    append_bits _ _ (Nat.mod_lt _ (by decide)), lead_bits (by omega) (by decide),
    next_sextet char.toNat 12, next_sextet char.toNat 6, last_sextet]
  simp

theorem nextCodePoint_encode (char : Char) (rest : List Char) :
    nextCodePoint (encode (char :: rest)) =
      some (char.toNat, (utf16 char).length, encode rest) := by
  rw [encode_cons, length_utf16]
  rcases char.utf8Size_eq with one | two | three | four
  · have value : char.val.toNat = char.toNat := rfl
    have bounds := Char.utf8Size_eq_one_iff.mp one
    have low := toUInt8_toNat char.val
    simp only [UInt32.le_iff_toNat_le, UInt32.reduceToNat, value] at bounds low
    obtain ⟨first, second, third, _⟩ := ascii_byte char.val.toUInt8 (by
      simp only [UInt8.lt_iff_toNat_lt, low, UInt8.reduceToNat]
      omega)
    rw [String.utf8EncodeChar_eq_singleton one]
    unfold nextCodePoint
    simp only [List.cons_append, List.nil_append, first, second, third, if_false, List.take_zero,
      List.length_nil, List.any_nil, List.foldl_nil, List.drop_zero, low]
    rw [Nat.mod_eq_of_lt (by omega)]
    simp
  · exact nextCodePoint_two two _
  · exact nextCodePoint_three three _
  · exact nextCodePoint_four four _

theorem not_isspace_high (byte : UInt8) (high : 0x80 ≤ byte) : isspace byte = false := by
  simp only [UInt8.le_iff_toNat_le, UInt8.reduceToNat] at high
  simp only [isspace, UInt8.le_iff_toNat_le, UInt8.reduceToNat, Bool.or_eq_false_iff,
    Bool.and_eq_false_iff, decide_eq_false_iff_not]
  refine ⟨?_, .inr (by omega)⟩
  rintro rfl
  exact absurd high (by decide)

theorem lowerByte_high (byte : UInt8) (high : 0x80 ≤ byte) : lowerByte byte = byte := by
  simp only [UInt8.le_iff_toNat_le, UInt8.reduceToNat] at high
  simp only [lowerByte, UInt8.le_iff_toNat_le, UInt8.reduceToNat, Bool.and_eq_true,
    decide_eq_true_eq]
  exact if_neg (by omega)

theorem high_lead (byte : UInt8) :
    0x80 ≤ byte &&& 0x1F ||| 0xC0 ∧ 0x80 ≤ byte &&& 0x0F ||| 0xE0 ∧
      0x80 ≤ byte &&& 0x07 ||| 0xF0 ∧ 0x80 ≤ byte &&& 0x3F ||| 0x80 := by
  have above (low mark : UInt8) (high : 0x80 ≤ mark) : 0x80 ≤ low ||| mark := by
    rw [UInt8.le_iff_toNat_le, UInt8.toNat_or]
    exact Nat.le_trans high Nat.right_le_or
  exact ⟨above _ 0xC0 (by decide), above _ 0xE0 (by decide), above _ 0xF0 (by decide),
    above _ 0x80 (by decide)⟩

theorem char_cases (char : Char) :
    (char.toNat < 128 ∧ String.utf8EncodeChar char = [.ofNat char.toNat]) ∨
      (128 ≤ char.toNat ∧ ∀ byte ∈ String.utf8EncodeChar char, 0x80 ≤ byte) := by
  have value : char.val.toNat = char.toNat := rfl
  rcases char.utf8Size_eq with one | two | three | four
  · have bounds := Char.utf8Size_eq_one_iff.mp one
    simp only [UInt32.le_iff_toNat_le, UInt32.reduceToNat, value] at bounds
    refine .inl ⟨by omega, ?_⟩
    rw [String.utf8EncodeChar_eq_singleton one, List.cons.injEq, ← UInt8.toNat_inj, toUInt8_toNat,
      value, UInt8.toNat_ofNat']
    exact ⟨rfl, rfl⟩
  · have bounds := Char.utf8Size_eq_two_iff.mp two
    simp only [UInt32.le_iff_toNat_le, UInt32.lt_iff_toNat_lt, UInt32.reduceToNat, value] at bounds
    refine .inr ⟨by omega, ?_⟩
    rw [String.utf8EncodeChar_eq_cons_cons two]
    simp only [List.forall_mem_cons, high_lead, true_and]
    exact fun _ none => absurd none List.not_mem_nil
  · have bounds := Char.utf8Size_eq_three_iff.mp three
    simp only [UInt32.le_iff_toNat_le, UInt32.lt_iff_toNat_lt, UInt32.reduceToNat, value] at bounds
    refine .inr ⟨by omega, ?_⟩
    rw [String.utf8EncodeChar_eq_cons_cons_cons three]
    simp only [List.forall_mem_cons, high_lead, true_and]
    exact fun _ none => absurd none List.not_mem_nil
  · have bounds := Char.utf8Size_eq_four_iff.mp four
    simp only [UInt32.lt_iff_toNat_lt, UInt32.reduceToNat, value] at bounds
    refine .inr ⟨by omega, ?_⟩
    rw [String.utf8EncodeChar_eq_cons_cons_cons_cons four]
    simp only [List.forall_mem_cons, high_lead, true_and]
    exact fun _ none => absurd none List.not_mem_nil

theorem first_byte (char : Char) :
    ∃ first tail, String.utf8EncodeChar char = first :: tail ∧
      sequenceLength first = tail.length + 1 ∧
      (utf16 char).length = if sequenceLength first = 4 then 2 else 1 := by
  have value : char.val.toNat = char.toNat := rfl
  rw [length_utf16]
  rcases char.utf8Size_eq with one | two | three | four
  · have bounds := Char.utf8Size_eq_one_iff.mp one
    have low := toUInt8_toNat char.val
    simp only [UInt32.le_iff_toNat_le, UInt32.reduceToNat, value] at bounds low
    have short := (ascii_byte char.val.toUInt8 (by
      simp only [UInt8.lt_iff_toNat_lt, low, UInt8.reduceToNat]
      omega)).2.2.2
    refine ⟨_, _, String.utf8EncodeChar_eq_singleton one, short, ?_⟩
    rw [short, if_neg (by omega), if_neg (by decide)]
  · have bounds := Char.utf8Size_eq_two_iff.mp two
    simp only [UInt32.le_iff_toNat_le, UInt32.reduceToNat, value] at bounds
    have long := (lead_bytes (char.val >>> 6).toUInt8).2.1
    refine ⟨_, _, String.utf8EncodeChar_eq_cons_cons two, long, ?_⟩
    rw [long, if_neg (by omega), if_neg (by decide)]
  · have bounds := Char.utf8Size_eq_three_iff.mp three
    simp only [UInt32.le_iff_toNat_le, UInt32.reduceToNat, value] at bounds
    have long := (lead_bytes (char.val >>> 12).toUInt8).2.2.1.2.2
    refine ⟨_, _, String.utf8EncodeChar_eq_cons_cons_cons three, long, ?_⟩
    rw [long, if_neg (by omega), if_neg (by decide)]
  · have bounds := Char.utf8Size_eq_four_iff.mp four
    simp only [UInt32.lt_iff_toNat_lt, UInt32.reduceToNat, value] at bounds
    have long := (lead_bytes (char.val >>> 18).toUInt8).2.2.2.2.2.2
    refine ⟨_, _, String.utf8EncodeChar_eq_cons_cons_cons_cons four, long, ?_⟩
    rw [long, if_pos (by omega), if_pos rfl]

theorem utf16Length_cons (char : Char) (rest : List Char) :
    utf16Length (char :: rest) = (utf16 char).length + utf16Length rest := by
  simp [utf16Length]

theorem utf16Length_append (more : List Char) :
    utf16Length (chars ++ more) = utf16Length chars + utf16Length more := by
  simp [utf16Length]

theorem utf16Units_encode {fuel : Nat} (enough : (encode chars).length ≤ fuel) :
    utf16Units fuel (encode chars) = utf16Length chars := by
  induction chars generalizing fuel with
  | nil => cases fuel <;> rfl
  | cons char rest ih =>
      obtain ⟨first, tail, bytes, length, width⟩ := first_byte char
      rw [encode_cons, bytes, List.cons_append] at enough ⊢
      rw [List.length_cons, List.length_append] at enough
      obtain ⟨fuel, rfl⟩ : ∃ less, fuel = less + 1 := ⟨fuel - 1, by omega⟩
      unfold utf16Units
      dsimp only
      rw [if_neg (by simp [length]), utf16Length_cons, width, length, Nat.add_sub_cancel,
        List.drop_left, ih (by omega)]

theorem unitsBefore_encode (front back : List Char) :
    unitsBefore (encode (front ++ back)) (encode front).length = utf16Length front := by
  unfold unitsBefore
  rw [encode_append, List.take_left, utf16Units_encode le_rfl]

def lowerChar (char : Char) : Char :=
  if 0x41 ≤ char.toNat ∧ char.toNat ≤ 0x5A then .ofNat (char.toNat + 0x20) else char

theorem utf8EncodeChar_lowerChar (char : Char) :
    String.utf8EncodeChar (lowerChar char) = (String.utf8EncodeChar char).map lowerByte := by
  rcases char_cases char with ⟨low, bytes⟩ | ⟨high, bytes⟩
  · have all : ∀ number : Fin 128, String.utf8EncodeChar (lowerChar (.ofNat number)) =
        [lowerByte (.ofNat number)] := by decide +kernel
    have here := all ⟨char.toNat, low⟩
    rw [Char.ofNat_toNat] at here
    rw [bytes, here]
    rfl
  · have same : lowerChar char = char := if_neg (by omega)
    rw [same]
    conv_lhs => rw [← List.map_id (String.utf8EncodeChar char)]
    exact List.map_congr_left fun byte member => (lowerByte_high byte (bytes byte member)).symm

theorem lower_encode (chars : List Char) : lower (encode chars) = encode (chars.map lowerChar) := by
  induction chars with
  | nil => rfl
  | cons char rest ih =>
      rw [List.map_cons, encode_cons, encode_cons, utf8EncodeChar_lowerChar, ← ih]
      exact List.map_append

theorem length_lower (text : Bytes) : (lower text).length = text.length := List.length_map _

theorem dropWhile_encode (chars : List Char) :
    ∃ rest, (encode chars).dropWhile isspace = encode rest := by
  induction chars with
  | nil => exact ⟨[], rfl⟩
  | cons char rest ih =>
      rcases char_cases char with ⟨_, bytes⟩ | ⟨_, bytes⟩
      · cases space : isspace (.ofNat char.toNat) with
        | true =>
            rw [encode_cons, bytes, List.singleton_append, List.dropWhile_cons_of_pos space]
            exact ih
        | false =>
            refine ⟨char :: rest, ?_⟩
            rw [encode_cons, bytes, List.singleton_append, List.dropWhile_cons_of_neg (by simp [space])]
      · refine ⟨char :: rest, ?_⟩
        obtain ⟨first, tail, split, _⟩ := first_byte char
        have high : isspace first = false := not_isspace_high first (bytes first (by simp [split]))
        rw [encode_cons, split, List.cons_append, List.dropWhile_cons_of_neg (by simp [high])]

theorem rdropWhile_encode (chars : List Char) :
    ∃ front, (encode chars).rdropWhile isspace = encode front := by
  induction chars using List.reverseRecOn with
  | nil => exact ⟨[], rfl⟩
  | append_singleton front char ih =>
      have last : encode (front ++ [char]) = encode front ++ String.utf8EncodeChar char := by
        rw [encode_append, encode_cons, encode_nil, List.append_nil]
      rcases char_cases char with ⟨_, bytes⟩ | ⟨_, bytes⟩
      · cases space : isspace (.ofNat char.toNat) with
        | true =>
            rw [last, bytes, List.rdropWhile_concat_pos _ _ _ space]
            exact ih
        | false =>
            refine ⟨front ++ [char], ?_⟩
            rw [last, bytes, List.rdropWhile_concat_neg _ _ _ (by simp [space])]
      · refine ⟨front ++ [char], ?_⟩
        obtain ⟨first, tail, split, _⟩ := first_byte char
        have some : String.utf8EncodeChar char ≠ [] := by simp [split]
        obtain ⟨init, final, ends⟩ := (List.eq_nil_or_concat' _).resolve_left some
        have high : isspace final = false := not_isspace_high final (bytes final (by simp [ends]))
        rw [last, ends, ← List.append_assoc, List.rdropWhile_concat_neg _ _ _ (by simp [high])]

theorem trimLower_encode (chars : List Char) : ∃ key, trimLower (encode chars) = encode key := by
  obtain ⟨rest, front⟩ := dropWhile_encode chars
  obtain ⟨middle, trimmed⟩ := rdropWhile_encode rest
  unfold trimLower
  rw [front, trimmed, lower_encode]
  exact ⟨_, rfl⟩

end Bytes

def Covers (chars middle : List Char) (range : HighlightRange) : Prop :=
  ∃ front back, chars = front ++ middle ++ back ∧ middle ≠ [] ∧
    range = ⟨utf16Length front, utf16Length (front ++ middle)⟩

def indexables (chars : List Char) : Nat := chars.countP fun char => indexable char.toNat

def spans : List Char → Nat → List HighlightRange
  | [], _ => []
  | char :: rest, units =>
      let next := units + (utf16 char).length
      if indexable char.toNat then ⟨units, next⟩ :: spans rest next else spans rest next

structure Edged (middle : List Char) : Prop where
  first : ∃ char rest, middle = char :: rest ∧ indexable char.toNat = true
  last : ∃ rest char, middle = rest ++ [char] ∧ indexable char.toNat = true

/-- The part of a text that has `count` indexable characters behind `start` others. -/
structure Stretch (chars front middle back : List Char) (start count : Nat) : Prop where
  split : chars = front ++ middle ++ back
  starts : indexables front = start
  counts : indexables middle = count
  edged : Edged middle

/-! Characters and ranges. -/

section Ranges

variable {char : Char} {chars front middle back rest : List Char} {key : List Char}
  {initials : Bytes} {start count units : Nat} {range : HighlightRange}

theorem contentRanges_covers (some : key ≠ [])
    (found : range ∈ contentRanges (encode chars) (encode key)) :
    ∃ middle, Covers chars middle range ∧ lower (encode middle) = encode key := by
  obtain ⟨position, listed, rfl⟩ := List.mem_map.mp found
  have occurs := mem_findAll.mp listed
  rw [lower_encode] at occurs
  obtain ⟨before, after, split, length⟩ := occurs_encode some occurs
  obtain ⟨both, back, rfl, left, _⟩ := List.map_eq_append_iff.mp split
  obtain ⟨front, middle, rfl, rfl, rfl⟩ := List.map_eq_append_iff.mp left
  rw [← lower_encode, length_lower] at length
  refine ⟨middle, ⟨front, back, rfl, by simpa using some, ?_⟩, lower_encode middle⟩
  have stop : position + (encode (middle.map lowerChar)).length =
      (encode (front ++ middle)).length := by
    rw [← lower_encode, length_lower, encode_append, List.length_append, length]
  rw [stop, unitsBefore_encode, ← length, List.append_assoc, unitsBefore_encode]

@[simp] theorem indexables_nil : indexables [] = 0 := rfl

theorem indexables_append (front back : List Char) :
    indexables (front ++ back) = indexables front + indexables back := List.countP_append

theorem indexables_cons_pos (here : indexable char.toNat = true) (rest : List Char) :
    indexables (char :: rest) = indexables rest + 1 := List.countP_cons_of_pos here

theorem indexables_cons_neg (here : indexable char.toNat = false) (rest : List Char) :
    indexables (char :: rest) = indexables rest := List.countP_cons_of_neg (by simp [here])

theorem sourceRanges_encode {fuel : Nat} (enough : (encode chars).length ≤ fuel) :
    sourceRanges fuel (encode chars) units = some (spans chars units) := by
  induction chars generalizing fuel units with
  | nil => cases fuel <;> rfl
  | cons char rest ih =>
      have next := nextCodePoint_encode char rest
      obtain ⟨first, tail, bytes, _⟩ := first_byte char
      rw [encode_cons, bytes, List.cons_append] at enough next ⊢
      rw [List.length_cons, List.length_append] at enough
      obtain ⟨fuel, rfl⟩ : ∃ less, fuel = less + 1 := ⟨fuel - 1, by omega⟩
      unfold sourceRanges
      rw [next]
      dsimp only
      rw [ih (by omega)]
      rfl

theorem length_spans (chars : List Char) (units : Nat) :
    (spans chars units).length = indexables chars := by
  induction chars generalizing units with
  | nil => rfl
  | cons char rest ih =>
      unfold spans
      dsimp only
      cases here : indexable char.toNat with
      | true =>
          rw [if_pos rfl, List.length_cons, ih, indexables_cons_pos here]
      | false =>
          rw [if_neg (by decide), ih, indexables_cons_neg here]

theorem spans_append (front back : List Char) (units : Nat) :
    spans (front ++ back) units = spans front units ++ spans back (units + utf16Length front) := by
  induction front generalizing units with
  | nil => rfl
  | cons char rest ih =>
      rw [List.cons_append, spans, spans, ih, utf16Length_cons, Nat.add_assoc]
      split
      · rfl
      · rfl

theorem spans_getElem? (here : indexable char.toNat = true) (front back : List Char) :
    (spans (front ++ char :: back) 0)[indexables front]? =
      some ⟨utf16Length front, utf16Length (front ++ [char])⟩ := by
  rw [spans_append, List.getElem?_append_right (by rw [length_spans]), length_spans, Nat.sub_self,
    Nat.zero_add, utf16Length_append, utf16Length_cons, spans, if_pos here]
  rfl

theorem exists_indexable (within : start < indexables chars) :
    ∃ front char back, chars = front ++ char :: back ∧ indexable char.toNat = true ∧
      indexables front = start := by
  induction chars generalizing start with
  | nil => exact absurd within (Nat.not_lt_zero _)
  | cons char rest ih =>
      cases here : indexable char.toNat with
      | true =>
          rw [indexables_cons_pos here] at within
          cases start with
          | zero => exact ⟨[], char, rest, rfl, here, rfl⟩
          | succ start =>
              obtain ⟨front, other, back, rfl, found, counted⟩ := ih (Nat.lt_of_succ_lt_succ within)
              exact ⟨char :: front, other, back, rfl, found, by
                rw [indexables_cons_pos here, counted]⟩
      | false =>
          rw [indexables_cons_neg here] at within
          obtain ⟨front, other, back, rfl, found, counted⟩ := ih within
          exact ⟨char :: front, other, back, rfl, found, by
            rw [indexables_cons_neg here, counted]⟩

theorem exists_stretch (positive : 0 < count) (within : start + count ≤ indexables chars) :
    ∃ front middle back, Stretch chars front middle back start count := by
  obtain ⟨front, first, tail, rfl, isFirst, starts⟩ :=
    exists_indexable (show start < indexables chars by omega)
  rw [indexables_append, starts] at within
  obtain ⟨init, last, back, split, isLast, counts⟩ :=
    exists_indexable (show count - 1 < indexables (first :: tail) by omega)
  refine ⟨front, init ++ [last], back, ⟨?_, starts, ?_, ⟨?_, init, last, rfl, isLast⟩⟩⟩
  · rw [split]
    simp
  · rw [indexables_append, counts, indexables_cons_pos isLast, indexables_nil]
    omega
  · cases init with
    | nil => exact ⟨last, [], rfl, isLast⟩
    | cons other init =>
        obtain rfl : first = other := (List.cons.inj split).1
        exact ⟨first, init ++ [last], rfl, isFirst⟩

theorem front_unique {other : Char} {front' back' : List Char} (here : indexable char.toNat = true)
    (there : indexable other.toNat = true) (same : front ++ char :: back = front' ++ other :: back')
    (counts : indexables front = indexables front') : front = front' := by
  rcases List.append_eq_append_iff.mp same with ⟨more, rfl, split⟩ | ⟨more, rfl, split⟩
  · cases more with
    | nil => simp
    | cons head more =>
        obtain rfl := (List.cons.inj split).1
        rw [indexables_append, indexables_cons_pos here] at counts
        omega
  · cases more with
    | nil => simp
    | cons head more =>
        obtain rfl := (List.cons.inj split).1
        rw [indexables_append, indexables_cons_pos there] at counts
        omega

theorem Stretch.unique {front' middle' back' : List Char}
    (left : Stretch chars front middle back start count)
    (right : Stretch chars front' middle' back' start count) : front = front' ∧ middle = middle' := by
  obtain ⟨split, starts, counts, ⟨first, tail, begins, isFirst⟩, init, last, ends, isLast⟩ := left
  obtain ⟨split', starts', counts', ⟨first', tail', begins', isFirst'⟩, init', last', ends', isLast'⟩ :=
    right
  have whole : front ++ first :: (tail ++ back) = front' ++ first' :: (tail' ++ back') := by
    have both := split.symm.trans split'
    rw [begins, begins'] at both
    simpa using both
  obtain rfl := front_unique isFirst isFirst' whole (starts.trans starts'.symm)
  refine ⟨rfl, ?_⟩
  have both : middle ++ back = middle' ++ back' := by
    have both := split.symm.trans split'
    rwa [List.append_assoc, List.append_assoc, List.append_cancel_left_eq] at both
  rw [ends, ends', List.append_assoc, List.append_assoc] at both
  have same := counts.trans counts'.symm
  rw [ends, ends', indexables_append, indexables_append, indexables_cons_pos isLast,
    indexables_cons_pos isLast'] at same
  have inits : init = init' := front_unique isLast isLast' both (by simpa using same)
  subst inits
  rw [List.append_cancel_left_eq, List.singleton_append, List.singleton_append] at both
  rw [ends, ends', (List.cons.inj both).1]

theorem Stretch.first (stretch : Stretch chars front middle back start count) :
    ∃ stop, (spans chars 0)[start]? = some ⟨utf16Length front, stop⟩ := by
  obtain ⟨rfl, rfl, _, ⟨first, tail, rfl, isFirst⟩, _⟩ := stretch
  refine ⟨utf16Length (front ++ [first]), ?_⟩
  rw [List.append_assoc, List.cons_append]
  exact spans_getElem? isFirst front (tail ++ back)

theorem Stretch.last (stretch : Stretch chars front middle back start count) :
    ∃ begin', (spans chars 0)[start + count - 1]? =
      some ⟨begin', utf16Length (front ++ middle)⟩ := by
  obtain ⟨rfl, rfl, rfl, _, init, last, rfl, isLast⟩ := stretch
  have here := spans_getElem? isLast (front ++ init) back
  have position : indexables front + indexables (init ++ [last]) - 1 = indexables (front ++ init) := by
    rw [indexables_append, indexables_append, indexables_cons_pos isLast, indexables_nil]
    omega
  refine ⟨utf16Length (front ++ init), ?_⟩
  rw [position, show front ++ (init ++ [last]) ++ back = front ++ init ++ last :: back by simp, here,
    List.append_assoc]

theorem Stretch.covers (stretch : Stretch chars front middle back start count) :
    Covers chars middle ⟨utf16Length front, utf16Length (front ++ middle)⟩ := by
  obtain ⟨first, tail, begins, _⟩ := stretch.edged.first
  exact ⟨front, back, stretch.split, by simp [begins], rfl⟩

theorem initialRanges_of_ne (key : Bytes) (differ : initials.length ≠ indexables chars) :
    initialRanges (encode chars) initials key = [] := by
  unfold initialRanges
  rw [sourceRanges_encode le_rfl]
  dsimp only
  rw [length_lower, length_spans, if_pos differ]

theorem mem_initialRanges {key : Bytes} (same : initials.length = indexables chars) (some : key ≠ []) :
    range ∈ initialRanges (encode chars) initials key ↔
      ∃ start front middle back, Occurs (lower initials) key start ∧
        Stretch chars front middle back start key.length ∧
        range = ⟨utf16Length front, utf16Length (front ++ middle)⟩ := by
  have positive : 0 < key.length := List.length_pos_iff.mpr some
  have listed : initialRanges (encode chars) initials key =
      (findAll (lower initials) key).filterMap fun position => do
        let first ← (spans chars 0)[position]?
        let last ← (spans chars 0)[position + key.length - 1]?
        return ⟨first.start, last.stop⟩ := by
    unfold initialRanges
    rw [sourceRanges_encode le_rfl]
    dsimp only
    rw [length_lower, length_spans, if_neg (not_not.mpr same)]
  rw [listed, List.mem_filterMap]
  constructor
  · rintro ⟨position, found, made⟩
    have occurs := mem_findAll.mp found
    obtain ⟨before, after, split, length⟩ := occurs.split
    have lengths := congrArg List.length split
    rw [length_lower, same, List.length_append, List.length_append, length] at lengths
    obtain ⟨front, middle, back, stretch⟩ :=
      exists_stretch positive (show position + key.length ≤ indexables chars by omega)
    obtain ⟨_, first⟩ := stretch.first
    obtain ⟨_, last⟩ := stretch.last
    rw [first, last] at made
    exact ⟨position, front, middle, back, occurs, stretch, (Option.some.inj made).symm⟩
  · rintro ⟨start, front, middle, back, occurs, stretch, rfl⟩
    obtain ⟨_, first⟩ := stretch.first
    obtain ⟨_, last⟩ := stretch.last
    refine ⟨start, mem_findAll.mpr occurs, ?_⟩
    rw [first, last]
    rfl

end Ranges

end SearchService

end Jitong
