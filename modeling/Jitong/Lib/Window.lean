import Mathlib.Algebra.Order.Group.Defs
import Mathlib.Data.List.Basic
import Mathlib.Order.Lattice

/-!
Times that were recorded one after another, seen through a window that moves on: what is left of
them, how many a window holds, and what is blocked for a while once a window is full.
-/

namespace Jitong.Lib

section Order

variable {Time : Type} [LinearOrder Time] {times : List Time} {cutoff other : Time}

def since (cutoff : Time) (times : List Time) : List Time := times.filter (cutoff ≤ ·)

theorem since_since : since cutoff (since other times) = since (max cutoff other) times := by
  simp only [since, List.filter_filter, max_le_iff, Bool.decide_and]

theorem since_append (more : List Time) :
    since cutoff (times ++ more) = since cutoff times ++ since cutoff more :=
  List.filter_append ..

theorem since_of_le (late : ∀ time ∈ times, cutoff ≤ time) : since cutoff times = times := by
  rw [since, List.filter_eq_self]
  simpa using late

theorem since_eq_nil (early : ∀ time ∈ times, time < cutoff) : since cutoff times = [] := by
  rw [since, List.filter_eq_nil_iff]
  simpa using early

theorem length_since : (since cutoff times).length = times.countP (cutoff ≤ ·) :=
  List.countP_eq_length_filter.symm

theorem dropWhile_eq_since (ordered : times.Pairwise (· ≤ ·)) :
    times.dropWhile (· < cutoff) = since cutoff times := by
  induction times with
  | nil => rfl
  | cons time rest ih =>
      obtain ⟨first, tail⟩ := List.pairwise_cons.mp ordered
      by_cases early : time < cutoff
      · rw [List.dropWhile_cons_of_pos (by simpa using early), ih tail, since, since,
          List.filter_cons_of_neg (by simpa using early)]
      · rw [List.dropWhile_cons_of_neg (by simpa using early), since_of_le]
        intro later member
        rcases List.mem_cons.mp member with rfl | behind
        · exact not_lt.mp early
        · exact le_trans (not_lt.mp early) (first later behind)

theorem since_ordered (ordered : times.Pairwise (· ≤ ·)) :
    (since cutoff times).Pairwise (· ≤ ·) := List.Pairwise.filter _ ordered

theorem ordered_concat {last : Time} (ordered : times.Pairwise (· ≤ ·))
    (latest : ∀ time ∈ times, time ≤ last) : (times ++ [last]).Pairwise (· ≤ ·) := by
  rw [List.pairwise_append]
  exact ⟨ordered, List.pairwise_singleton _ _, by simpa using latest⟩

end Order

section Group

variable {Time : Type} [AddCommGroup Time] [LinearOrder Time] [IsOrderedAddMonoid Time]
  {limit : Nat} {window block now last : Time} {times : List Time}

def inWindow (window stop : Time) (times : List Time) : Nat :=
  times.countP fun time => stop - window ≤ time ∧ time ≤ stop

def Blocks (limit : Nat) (window block : Time) (times : List Time) (now : Time) : Prop :=
  ∃ stop ∈ times, limit ≤ inWindow window stop times ∧ now < stop + block

instance : Decidable (Blocks limit window block times now) :=
  inferInstanceAs (Decidable (∃ stop ∈ times, _))

def Paced (limit : Nat) (window : Time) (times : List Time) : Prop :=
  ∀ start, (times.countP fun time => start ≤ time ∧ time ≤ start + window) ≤ limit

theorem inWindow_last (latest : ∀ time ∈ times, time ≤ last) :
    inWindow window last times = (since (last - window) times).length := by
  rw [length_since, inWindow]
  refine List.countP_congr fun time member => ?_
  simp [latest time member]

theorem inWindow_concat (nonnegative : 0 ≤ window) {stop : Time} :
    inWindow window stop (times ++ [stop]) = inWindow window stop times + 1 := by
  rw [inWindow, inWindow, List.countP_append, List.countP_singleton, if_pos]
  simpa using nonnegative

theorem inWindow_pos (nonnegative : 0 ≤ window) {stop : Time} (member : stop ∈ times) :
    0 < inWindow window stop times := by
  rw [inWindow, List.countP_pos_iff]
  exact ⟨stop, member, by simpa using nonnegative⟩

omit [IsOrderedAddMonoid Time] in
theorem blocks_nil : ¬ Blocks limit window block [] now := by
  rintro ⟨stop, member, _⟩
  simp at member

theorem blocks_max_one (nonnegative : 0 ≤ window) :
    Blocks (max limit 1) window block times now ↔ Blocks limit window block times now := by
  refine exists_congr fun stop => and_congr_right fun member => and_congr_left fun _ => ?_
  have alone := inWindow_pos nonnegative member
  omega

theorem blocks_concat (nonnegative : 0 ≤ window) (latest : ∀ time ∈ times, time ≤ last) :
    Blocks limit window block (times ++ [last]) now ↔
      Blocks limit window block times now ∨
        limit ≤ (since (last - window) times).length + 1 ∧ now < last + block := by
  have added : inWindow window last (times ++ [last]) = inWindow window last times + 1 :=
    inWindow_concat nonnegative
  rw [inWindow_last latest] at added
  constructor
  · rintro ⟨stop, member, full, blocked⟩
    rcases List.mem_append.mp member with earlier | newest
    · by_cases same : stop = last
      · subst same
        exact .inr ⟨added ▸ full, blocked⟩
      · refine .inl ⟨stop, earlier, ?_, blocked⟩
        have before : ¬ last ≤ stop := fun behind => same (le_antisymm (latest stop earlier) behind)
        rwa [inWindow, List.countP_append, List.countP_singleton, if_neg (by simp [before]),
          Nat.add_zero] at full
    · rw [List.mem_singleton.mp newest] at full blocked
      exact .inr ⟨added ▸ full, blocked⟩
  · rintro (⟨stop, member, full, blocked⟩ | ⟨full, blocked⟩)
    · refine ⟨stop, List.mem_append_left _ member, le_trans full ?_, blocked⟩
      rw [inWindow, inWindow, List.countP_append]
      exact Nat.le_add_right _ _
    · exact ⟨last, by simp, added ▸ full, blocked⟩

omit [IsOrderedAddMonoid Time] in
theorem paced_nil : Paced limit window ([] : List Time) := fun _ => Nat.zero_le _

theorem Paced.concat (paced : Paced limit window times)
    (room : (since (last - window) times).length < limit) : Paced limit window (times ++ [last]) := by
  intro start
  rw [List.countP_append, List.countP_singleton]
  split
  · rename_i inside
    simp only [decide_eq_true_eq] at inside
    have fewer : (times.countP fun time => start ≤ time ∧ time ≤ start + window) ≤
        (since (last - window) times).length := by
      rw [length_since]
      refine List.countP_mono_left fun time _ holds => ?_
      simp only [decide_eq_true_eq] at holds ⊢
      exact le_trans (sub_le_iff_le_add.mpr inside.2) holds.1
    omega
  · exact paced start

end Group

end Jitong.Lib
