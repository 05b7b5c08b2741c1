import Mathlib

/-!
Byte strings that are made of parts: fields with their lengths in front, and two parts with a
separator between them.
-/

namespace Jitong.Lib

universe u

variable {Symbol : Type u}

structure LengthCode (Symbol : Type u) where
  write : Nat → List Symbol
  width : Nat
  limit : Nat
  fixed : ∀ length, (write length).length = width
  told : ∀ length other, length < limit → other < limit → write length = write other →
    length = other

namespace LengthCode

variable (code : LengthCode Symbol) {field other rest last : List Symbol}

def delimit (field : List Symbol) : List Symbol := code.write field.length ++ field

variable {code}

theorem delimit_append_inj (short : field.length < code.limit) (otherShort : other.length < code.limit)
    (same : code.delimit field ++ rest = code.delimit other ++ last) : field = other ∧ rest = last := by
  rw [delimit, delimit, List.append_assoc, List.append_assoc] at same
  obtain ⟨sizes, parts⟩ := List.append_inj same (by rw [code.fixed, code.fixed])
  exact List.append_inj parts (code.told _ _ short otherShort sizes)

theorem flatMap_delimit_inj {fields others : List (List Symbol)} (count : fields.length = others.length)
    (short : ∀ field ∈ fields, field.length < code.limit)
    (othersShort : ∀ field ∈ others, field.length < code.limit)
    (same : fields.flatMap code.delimit = others.flatMap code.delimit) : fields = others := by
  induction fields generalizing others with
  | nil => exact (List.length_eq_zero_iff.mp count.symm).symm
  | cons first fields ih =>
      cases others with
      | nil => simp at count
      | cons second others =>
          rw [List.flatMap_cons, List.flatMap_cons] at same
          obtain ⟨rfl, rest⟩ := delimit_append_inj (short _ List.mem_cons_self)
            (othersShort _ List.mem_cons_self) same
          rw [ih (by simpa using count) (fun field member => short field (List.mem_cons_of_mem _ member))
            (fun field member => othersShort field (List.mem_cons_of_mem _ member)) rest]

end LengthCode

theorem separated_inj {separator : Symbol} {front other back last : List Symbol}
    (plain : separator ∉ front) (otherPlain : separator ∉ other)
    (same : front ++ separator :: back = other ++ separator :: last) : front = other ∧ back = last := by
  induction front generalizing other with
  | nil =>
      cases other with
      | nil => exact ⟨rfl, by simpa using same⟩
      | cons first other =>
          have split : separator = first := by simpa using congrArg List.head? same
          exact absurd (split ▸ List.mem_cons_self) otherPlain
  | cons first front ih =>
      cases other with
      | nil =>
          have split : first = separator := by simpa using congrArg List.head? same
          exact absurd (split ▸ List.mem_cons_self) plain
      | cons second other =>
          rw [List.cons_append, List.cons_append, List.cons.injEq] at same
          obtain ⟨fronts, backs⟩ := ih (fun member => plain (List.mem_cons_of_mem _ member))
            (fun member => otherPlain (List.mem_cons_of_mem _ member)) same.2
          exact ⟨by rw [same.1, fronts], backs⟩

theorem separated_inj_of_plain [DecidableEq Symbol] {separator : Symbol}
    {front other back last : List Symbol} (plain : separator ∉ front) (backPlain : separator ∉ back)
    (same : other ++ separator :: last = front ++ separator :: back) : other = front ∧ last = back := by
  refine separated_inj (fun member => ?_) plain same
  have counts := congrArg (List.count separator) same
  rw [List.count_append, List.count_append, List.count_cons_self, List.count_cons_self,
    List.count_eq_zero.mpr plain, List.count_eq_zero.mpr backPlain] at counts
  have some := List.count_pos_iff.mpr member
  omega

end Jitong.Lib
