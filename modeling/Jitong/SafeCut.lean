import Jitong.DeviceIdentity
import Jitong.Lib.Utf8

/-!
`utf8Truncate` cuts between characters, as late as it can.
-/

namespace Jitong.ClientCore

open Lib

/-- `utf8Truncate` where a read outside of the text has no result. -/
def characterStartRead (text : Bytes) : Nat → Option Nat
  | 0 => some 0
  | index + 1 =>
      match text[index + 1]? with
      | none => none
      | some byte =>
          if byte &&& 0xC0 = 0x80 then characterStartRead text index else some (index + 1)

def utf8TruncateRead (text : Bytes) (maxBytes : Nat) : Option Bytes :=
  if text.length ≤ maxBytes then some text
  else (characterStartRead text maxBytes).map text.take

section Scan

variable {text : Bytes} {maxBytes : Nat}

theorem characterStart_le : characterStart text maxBytes ≤ maxBytes := by
  induction maxBytes with
  | zero => exact Nat.le_refl 0
  | succ index ih =>
      rw [characterStart]
      split
      · omega
      · exact Nat.le_refl _

theorem characterStart_stops (inside : maxBytes < text.length) :
    characterStart text maxBytes = 0 ∨
      ∃ within : characterStart text maxBytes < text.length,
        Utf8.isContinuation text[characterStart text maxBytes] = false := by
  induction maxBytes with
  | zero => exact .inl rfl
  | succ index ih =>
      rw [characterStart]
      split
      · exact ih (by omega)
      · rename_i start
        refine .inr ⟨inside, ?_⟩
        rw [List.getD_eq_getElem _ _ inside] at start
        simpa [Utf8.isContinuation] using start

theorem characterStart_passes (inside : maxBytes < text.length) {position : Nat}
    (within : position < text.length) (low : characterStart text maxBytes < position)
    (high : position ≤ maxBytes) : Utf8.isContinuation text[position] = true := by
  induction maxBytes with
  | zero => omega
  | succ index ih =>
      rw [characterStart] at low
      split at low
      · rename_i continues
        by_cases last : position = index + 1
        · subst last
          rw [List.getD_eq_getElem _ _ inside] at continues
          simpa [Utf8.isContinuation] using continues
        · exact ih (by omega) low (by omega)
      · omega

theorem characterStartRead_eq (inside : maxBytes < text.length) :
    characterStartRead text maxBytes = some (characterStart text maxBytes) := by
  induction maxBytes with
  | zero => rfl
  | succ index ih =>
      rw [characterStartRead, characterStart, List.getElem?_eq_getElem inside,
        List.getD_eq_getElem _ _ inside]
      simp only [ih (by omega)]
      split <;> rfl

theorem utf8TruncateRead_eq : utf8TruncateRead text maxBytes = some (utf8Truncate text maxBytes) := by
  rw [utf8TruncateRead, utf8Truncate]
  split
  · rfl
  · rename_i long
    rw [characterStartRead_eq (by omega), Option.map_some]

theorem utf8Truncate_prefix : utf8Truncate text maxBytes <+: text := by
  rw [utf8Truncate]
  split
  · exact List.prefix_rfl
  · exact List.take_prefix _ _

theorem utf8Truncate_length : (utf8Truncate text maxBytes).length ≤ maxBytes := by
  rw [utf8Truncate]
  split
  · assumption
  · rw [List.length_take]
    exact Nat.le_trans (Nat.min_le_left _ _) characterStart_le

theorem utf8Truncate_boundary (chars : List Char) :
    ∃ front rest, chars = front ++ rest ∧
      utf8Truncate (Utf8.encode chars) maxBytes = Utf8.encode front := by
  rw [utf8Truncate]
  split
  · exact ⟨chars, [], (List.append_nil chars).symm, rfl⟩
  · rename_i long
    have boundary : Utf8.Boundary chars (characterStart (Utf8.encode chars) maxBytes) := by
      have inside : maxBytes < (Utf8.encode chars).length := by omega
      rcases characterStart_stops inside with zero | ⟨within, start⟩
      · rw [zero]
        exact .zero
      · exact Utf8.boundary_of_start within start
    obtain ⟨front, rest, split, before, _⟩ := boundary.take
    exact ⟨front, rest, split, before⟩

theorem utf8Truncate_longest (valid : Utf8.Valid text) {other : Bytes} (leads : other <+: text)
    (fits : other.length ≤ maxBytes) (otherValid : Utf8.Valid other) :
    other.length ≤ (utf8Truncate text maxBytes).length := by
  rw [utf8Truncate]
  split
  · exact leads.length_le
  · rename_i long
    rw [List.length_take, Nat.le_min]
    refine ⟨?_, leads.length_le⟩
    by_contra later
    obtain ⟨chars, rfl⟩ := valid
    have inside : maxBytes < (Utf8.encode chars).length := by omega
    have within : other.length < (Utf8.encode chars).length := by omega
    have continues := characterStart_passes inside within (Nat.lt_of_not_le later) fits
    rw [List.prefix_iff_eq_take.mp leads] at otherValid
    have starts : Utf8.isContinuation (Utf8.encode chars)[other.length] = false :=
      Utf8.start_of_valid otherValid within
    rw [starts] at continues
    exact Bool.noConfusion continues

end Scan

/-- Of every byte string `utf8Truncate` returns a prefix that is not too long and reads nothing
outside of it; of valid UTF-8 it returns the longest such prefix that is valid. -/
theorem utf8Truncate_best (text : Bytes) (maxBytes : Nat) :
    utf8TruncateRead text maxBytes = some (utf8Truncate text maxBytes) ∧
    utf8Truncate text maxBytes <+: text ∧
    (utf8Truncate text maxBytes).length ≤ maxBytes ∧
    (Utf8.Valid text → Utf8.Valid (utf8Truncate text maxBytes) ∧
      ∀ other, other <+: text → other.length ≤ maxBytes → Utf8.Valid other →
        other <+: utf8Truncate text maxBytes) := by
  refine ⟨utf8TruncateRead_eq, utf8Truncate_prefix, utf8Truncate_length, fun valid => ⟨?_, ?_⟩⟩
  · obtain ⟨chars, rfl⟩ := valid
    obtain ⟨front, _, _, cut⟩ : ∃ front rest, chars = front ++ rest ∧
        utf8Truncate (Utf8.encode chars) maxBytes = Utf8.encode front := utf8Truncate_boundary chars
    exact ⟨front, cut.symm⟩
  · intro other leads fits otherValid
    exact List.prefix_of_prefix_length_le leads utf8Truncate_prefix
      (utf8Truncate_longest valid leads fits otherValid)

/-- Four bytes of a name of two characters. -/
theorem utf8Truncate_name :
    Utf8.Valid (utf8Truncate (Utf8.encode ['你', '好']) 4) ∧
      utf8Truncate (Utf8.encode ['你', '好']) 4 = Utf8.encode ['你'] :=
  ⟨((utf8Truncate_best (Utf8.encode ['你', '好']) 4).2.2.2 ⟨_, rfl⟩).1, by decide +kernel⟩

end Jitong.ClientCore
