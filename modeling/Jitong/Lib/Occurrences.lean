import Mathlib

/-!
The occurrences of a pattern in a list, as a loop finds them that looks for the first one and then
each time for the next from one position further on.
-/

namespace Jitong.Lib

universe u

variable {α : Type u} {source pattern : List α} {start position : Nat}

def Occurs (source pattern : List α) (position : Nat) : Prop :=
  position ≤ source.length ∧ pattern <+: source.drop position

theorem Occurs.split (occurs : Occurs source pattern position) :
    ∃ before after, source = before ++ pattern ++ after ∧ before.length = position := by
  obtain ⟨after, rest⟩ := occurs.2
  refine ⟨source.take position, after, ?_, by simpa using occurs.1⟩
  rw [List.append_assoc, rest, List.take_append_drop]

theorem occurs_append (before pattern after : List α) :
    Occurs (before ++ pattern ++ after) pattern before.length := by
  refine ⟨by simp, ?_⟩
  rw [List.append_assoc, List.drop_left]
  exact List.prefix_append _ _

theorem occurs_singleton {value : α} :
    Occurs source [value] position ↔ source[position]? = some value := by
  constructor
  · rintro ⟨_, after, rest⟩
    have head := List.head?_drop (l := source) (i := position)
    rw [← head, ← rest]
    rfl
  · intro here
    obtain ⟨inside, rfl⟩ := List.getElem?_eq_some_iff.mp here
    refine ⟨by omega, ?_⟩
    rw [List.drop_eq_getElem_cons inside]
    exact ⟨source.drop (position + 1), rfl⟩

variable [DecidableEq α]

def find (source pattern : List α) (start : Nat) : Option Nat :=
  (List.range' start (source.length + 1 - start)).find? fun position =>
    pattern.isPrefixOf (source.drop position)

def findAllFrom (source pattern : List α) : Nat → Nat → List Nat
  | 0, _ => []
  | fuel + 1, start =>
      match find source pattern start with
      | none => []
      | some position => position :: findAllFrom source pattern fuel (position + 1)

def findAll (source pattern : List α) : List Nat :=
  findAllFrom source pattern (source.length + 1) 0

theorem find_eq_some : find source pattern start = some position ↔
    start ≤ position ∧ Occurs source pattern position ∧
      ∀ earlier, start ≤ earlier → earlier < position → ¬Occurs source pattern earlier := by
  unfold find Occurs
  rw [List.find?_range'_eq_some, List.mem_range'_1, List.isPrefixOf_iff_prefix]
  constructor
  · rintro ⟨occurs, ⟨after, bound⟩, first⟩
    refine ⟨after, ⟨by omega, occurs⟩, fun earlier from' before both => ?_⟩
    have missed := first earlier from' before
    rw [List.isPrefixOf_iff_prefix.mpr both.2] at missed
    simp at missed
  · rintro ⟨after, ⟨bound, occurs⟩, first⟩
    refine ⟨occurs, ⟨after, by omega⟩, fun earlier from' before => ?_⟩
    rw [Bool.not_eq_true']
    by_contra found
    rw [Bool.not_eq_false, List.isPrefixOf_iff_prefix] at found
    exact first earlier from' before ⟨by omega, found⟩

theorem find_eq_none : find source pattern start = none ↔
    ∀ later, start ≤ later → ¬Occurs source pattern later := by
  constructor
  · intro missing later after occurs
    unfold find at missing
    rw [List.find?_range'_eq_none] at missing
    have missed := missing later after (by have := occurs.1; omega)
    rw [List.isPrefixOf_iff_prefix.mpr occurs.2] at missed
    simp at missed
  · intro none
    cases found : find source pattern start with
    | none => rfl
    | some position =>
        obtain ⟨after, occurs, _⟩ := find_eq_some.mp found
        exact absurd occurs (none position after)

theorem findAllFrom_spec {fuel : Nat} (enough : source.length + 1 ≤ start + fuel) :
    (findAllFrom source pattern fuel start).Pairwise (· < ·) ∧
      ∀ position, position ∈ findAllFrom source pattern fuel start ↔
        start ≤ position ∧ Occurs source pattern position := by
  induction fuel generalizing start with
  | zero =>
      refine ⟨.nil, fun position => ⟨fun member => absurd member List.not_mem_nil, ?_⟩⟩
      rintro ⟨after, inside, _⟩
      omega
  | succ fuel ih =>
      unfold findAllFrom
      cases found : find source pattern start with
      | none =>
          refine ⟨.nil, fun position => ⟨fun member => absurd member List.not_mem_nil, ?_⟩⟩
          rintro ⟨after, occurs⟩
          exact absurd occurs (find_eq_none.mp found position after)
      | some first =>
          obtain ⟨after, occurs, none⟩ := find_eq_some.mp found
          obtain ⟨ascending, members⟩ := ih (show source.length + 1 ≤ first + 1 + fuel by omega)
          refine ⟨List.pairwise_cons.mpr ⟨fun later member => ?_, ascending⟩, fun position => ?_⟩
          · have bound := ((members later).mp member).1
            omega
          · rw [List.mem_cons, members]
            constructor
            · rintro (rfl | ⟨bound, here⟩)
              · exact ⟨after, occurs⟩
              · exact ⟨by omega, here⟩
            · rintro ⟨bound, here⟩
              by_cases same : position = first
              · exact .inl same
              · refine .inr ⟨?_, here⟩
                by_contra before
                exact none position bound (by omega) here

theorem mem_findAll : position ∈ findAll source pattern ↔ Occurs source pattern position := by
  have members : position ∈ findAll source pattern ↔ 0 ≤ position ∧ Occurs source pattern position :=
    (findAllFrom_spec (by omega)).2 position
  simpa only [Nat.zero_le, true_and] using members

theorem findAll_pairwise : (findAll source pattern).Pairwise (· < ·) :=
  (findAllFrom_spec (Nat.le_add_left _ 0)).1

theorem count_positions {value : α} {positions : List Nat} (distinct : positions.Nodup)
    (listed : ∀ position, source[position]? = some value ↔ position ∈ positions) :
    source.count value = positions.length := by
  have flags : source.map (· == value) =
      (List.range source.length).map fun position => decide (position ∈ positions) := by
    refine List.ext_getElem (by simp) fun position bound _ => ?_
    have inside : position < source.length := by simpa using bound
    have here := listed position
    rw [List.getElem?_eq_getElem inside, Option.some.injEq] at here
    rw [List.getElem_map, List.getElem_map, List.getElem_range, Bool.eq_iff_iff, beq_iff_eq, here,
      decide_eq_true_eq]
  have same : ((List.range source.length).filter fun position =>
      decide (position ∈ positions)).Perm positions := by
    refine (List.perm_ext_iff_of_nodup (List.nodup_range.filter _) distinct).mpr fun position => ?_
    rw [List.mem_filter, List.mem_range, decide_eq_true_eq]
    refine ⟨fun both => both.2, fun member => ⟨?_, member⟩⟩
    exact (List.getElem?_eq_some_iff.mp ((listed position).mpr member)).1
  rw [← same.length_eq, ← List.countP_eq_length_filter, List.count,
    show source.countP (· == value) = (source.map (· == value)).countP id by
      rw [List.countP_map]
      rfl, flags, List.countP_map]
  rfl

theorem length_findAll_singleton (value : α) :
    (findAll source [value]).length = source.count value := by
  refine (count_positions (findAll_pairwise.imp fun less => Nat.ne_of_lt less) ?_).symm
  intro position
  rw [mem_findAll, occurs_singleton]

end Jitong.Lib
