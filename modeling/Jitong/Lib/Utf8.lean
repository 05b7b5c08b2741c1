import Jitong.Lib.Occurrences

/-!
Byte strings in UTF-8, as the encodings of lists of characters: the bytes at which a character
starts, and the prefixes that are whole characters.
-/

namespace Jitong.Lib.Utf8

def encode (chars : List Char) : List UInt8 := chars.flatMap String.utf8EncodeChar

def Valid (text : List UInt8) : Prop := ∃ chars, encode chars = text

def isContinuation (byte : UInt8) : Bool := byte &&& 0xC0 = 0x80

variable {chars front : List Char} {text : List UInt8} {position : Nat}

@[simp] theorem encode_nil : encode [] = [] := rfl

theorem encode_cons (char : Char) (rest : List Char) :
    encode (char :: rest) = String.utf8EncodeChar char ++ encode rest := rfl

theorem encode_append (more : List Char) : encode (chars ++ more) = encode chars ++ encode more :=
  List.flatMap_append

theorem utf8Encode_eq (chars : List Char) : chars.utf8Encode = (encode chars).toByteArray := rfl

theorem prefix_of_encode {left right : List Char} {more : List UInt8}
    (same : encode left ++ more = encode right) : left <+: right := by
  refine List.isPrefix_of_utf8Encode_append_eq_utf8Encode more.toByteArray ?_
  rw [utf8Encode_eq, utf8Encode_eq, ← same, List.toByteArray_append]

theorem encode_injective {left right : List Char} (same : encode left = encode right) :
    left = right := by
  have leads : encode left ++ [] = encode right := by rw [List.append_nil, same]
  have follows : encode right ++ [] = encode left := by rw [List.append_nil, same]
  exact (prefix_of_encode leads).eq_of_length_le (prefix_of_encode follows).length_le

theorem forall_byte {holds : UInt8 → Prop} (all : ∀ number : Fin 256, holds (.ofNat number))
    (byte : UInt8) : holds byte := by
  simpa using all ⟨byte.toNat, byte.toNat_lt⟩

theorem not_continuation_of_first (byte : UInt8) (first : byte.IsUTF8FirstByte) :
    isContinuation byte = false := by
  revert first byte
  exact forall_byte (by decide +kernel)

theorem isContinuation_low (byte : UInt8) : isContinuation (byte &&& 63 ||| 128) = true := by
  revert byte
  exact forall_byte (by decide +kernel)

theorem char_bytes (char : Char) :
    ∃ first rest, String.utf8EncodeChar char = first :: rest ∧ isContinuation first = false ∧
      ∀ byte ∈ rest, isContinuation byte = true := by
  have starts (first : UInt8) (rest : List UInt8)
      (bytes : String.utf8EncodeChar char = first :: rest) : isContinuation first = false := by
    refine not_continuation_of_first first ?_
    have within : 0 < (String.utf8EncodeChar char).length := by rw [bytes]; simp
    have atZero : (String.utf8EncodeChar char)[0].IsUTF8FirstByte :=
      UInt8.isUTF8FirstByte_getElem_utf8EncodeChar.mpr rfl
    simpa [bytes] using atZero
  rcases char.utf8Size_eq with one | two | three | four
  · have bytes := String.utf8EncodeChar_eq_singleton one
    exact ⟨_, _, bytes, starts _ _ bytes, by simp⟩
  · have bytes := String.utf8EncodeChar_eq_cons_cons two
    exact ⟨_, _, bytes, starts _ _ bytes, by simp [isContinuation_low]⟩
  · have bytes := String.utf8EncodeChar_eq_cons_cons_cons three
    exact ⟨_, _, bytes, starts _ _ bytes, by simp [isContinuation_low]⟩
  · have bytes := String.utf8EncodeChar_eq_cons_cons_cons_cons four
    exact ⟨_, _, bytes, starts _ _ bytes, by simp [isContinuation_low]⟩

def Boundary (chars : List Char) (position : Nat) : Prop :=
  ∃ front, front <+: chars ∧ (encode front).length = position

theorem Boundary.zero : Boundary chars 0 := ⟨[], List.nil_prefix, rfl⟩

theorem Boundary.cons {char : Char} {rest : List Char} (boundary : Boundary rest position) :
    Boundary (char :: rest) ((String.utf8EncodeChar char).length + position) := by
  obtain ⟨front, leads, length⟩ := boundary
  refine ⟨char :: front, (List.prefix_cons_inj char).mpr leads, ?_⟩
  rw [encode_cons, List.length_append, length]

theorem Boundary.take (boundary : Boundary chars position) :
    ∃ front rest, chars = front ++ rest ∧ (encode chars).take position = encode front ∧
      (encode chars).drop position = encode rest := by
  obtain ⟨front, ⟨rest, rfl⟩, rfl⟩ := boundary
  exact ⟨front, rest, rfl, by simp [encode_append], by simp [encode_append]⟩

theorem boundary_of_start (inside : position < (encode chars).length)
    (start : isContinuation (encode chars)[position] = false) : Boundary chars position := by
  induction chars generalizing position with
  | nil => simp at inside
  | cons char rest ih =>
      obtain ⟨first, tail, bytes, _, continues⟩ := char_bytes char
      by_cases within : position < (String.utf8EncodeChar char).length
      · cases position with
        | zero => exact .zero
        | succ position =>
            have inTail : position < tail.length := by
              simpa [bytes] using within
            have found : (encode (char :: rest))[position + 1] = tail[position] := by
              simp only [encode_cons, List.getElem_append_left within]
              simp only [bytes, List.getElem_cons_succ]
            rw [found, continues _ (List.getElem_mem _)] at start
            simp at start
      · obtain ⟨offset, rfl⟩ := Nat.exists_eq_add_of_le (Nat.le_of_not_lt within)
        have here : offset < (encode rest).length := by
          simpa [encode_cons] using inside
        refine (ih here ?_).cons
        simpa [encode_cons, List.getElem_append_right] using start

theorem start_of_valid (valid : Valid ((encode chars).take position))
    (inside : position < (encode chars).length) :
    isContinuation (encode chars)[position] = false := by
  obtain ⟨front, same⟩ := valid
  have length : (encode front).length = position := by
    rw [same, List.length_take]
    omega
  have whole : encode front ++ (encode chars).drop position = encode chars := by
    rw [same, List.take_append_drop]
  obtain ⟨rest, rfl⟩ := prefix_of_encode whole
  subst length
  cases rest with
  | nil => simp at inside
  | cons char rest =>
      obtain ⟨first, tail, bytes, starts, _⟩ := char_bytes char
      simpa [encode_append, encode_cons, bytes, List.getElem_append_right] using starts

theorem encode_ne_nil (some : chars ≠ []) : encode chars ≠ [] := by
  obtain ⟨char, rest, rfl⟩ := List.exists_cons_of_ne_nil some
  obtain ⟨first, tail, bytes, _⟩ := char_bytes char
  simp [encode_cons, bytes]

theorem occurs_encode {pattern : List Char} (some : pattern ≠ [])
    (occurs : Occurs (encode chars) (encode pattern) position) :
    ∃ front back, chars = front ++ pattern ++ back ∧ (encode front).length = position := by
  obtain ⟨char, rest, rfl⟩ := List.exists_cons_of_ne_nil some
  obtain ⟨first, tail, bytes, starts, _⟩ := char_bytes char
  obtain ⟨_, more, follows⟩ := occurs
  have here : (encode chars)[position]? = Option.some first := by
    rw [← List.head?_drop, ← follows, encode_cons, bytes]
    rfl
  obtain ⟨inside, found⟩ := List.getElem?_eq_some_iff.mp here
  obtain ⟨front, ⟨back, rfl⟩, rfl⟩ := boundary_of_start inside (by rw [found]; exact starts)
  have suffix : encode (char :: rest) ++ more = encode back := by
    rw [follows, encode_append, List.drop_left]
  obtain ⟨after, rfl⟩ := prefix_of_encode suffix
  exact ⟨front, after, by simp, rfl⟩

end Jitong.Lib.Utf8
