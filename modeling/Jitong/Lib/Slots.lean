import Jitong.Lib.Occurrences

/-!
Flags of slots and the list of those who hold one: a flag is up exactly while its slot is held, and
nobody holds the slot of another.
-/

namespace Jitong.Lib

structure Marks (flags : List Bool) (held : List Nat) : Prop where
  distinct : held.Nodup
  marked : ∀ slot, flags[slot]? = some true ↔ slot ∈ held

namespace Marks

variable {flags : List Bool} {held front back : List Nat} {slot : Nat}

theorem none (count : Nat) : Marks (List.replicate count false) [] where
  distinct := List.nodup_nil
  marked slot := by simp [List.getElem?_replicate]

theorem take (marks : Marks flags (front ++ back)) (free : flags[slot]? = some false) :
    Marks (flags.set slot true) (front ++ slot :: back) where
  distinct := by
    refine List.nodup_middle.mpr (List.nodup_cons.mpr ⟨fun taken => ?_, marks.distinct⟩)
    have up := (marks.marked slot).mpr taken
    rw [free] at up
    simp at up
  marked other := by
    have bound : slot < flags.length := (List.getElem?_eq_some_iff.mp free).1
    rw [List.getElem?_set]
    by_cases same : slot = other
    · subst other
      simp [bound]
    · have kept := marks.marked other
      have apart : other ≠ slot := fun equal => same equal.symm
      simp only [if_neg same, kept, List.mem_append, List.mem_cons, apart, false_or]

theorem give (marks : Marks flags (front ++ slot :: back)) :
    Marks (flags.set slot false) (front ++ back) where
  distinct := (List.nodup_cons.mp (List.nodup_middle.mp marks.distinct)).2
  marked other := by
    have free := (List.nodup_cons.mp (List.nodup_middle.mp marks.distinct)).1
    rw [List.getElem?_set]
    by_cases same : slot = other
    · subst other
      simp only [if_true]
      split <;> simpa using free
    · have kept := marks.marked other
      have apart : other ≠ slot := fun equal => same equal.symm
      simp only [if_neg same, kept, List.mem_append, List.mem_cons, apart, false_or]

theorem count_eq (marks : Marks flags held) : flags.count true = held.length :=
  count_positions marks.distinct marks.marked

end Marks

end Jitong.Lib
