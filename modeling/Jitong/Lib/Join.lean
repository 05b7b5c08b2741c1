import Mathlib

/-!
Lists of texts in one text, with a separator that is written before an item when something was
written already.
-/

universe u

namespace Jitong.Lib

variable {Symbol : Type u}

def joinItem (separator : Symbol) (out item : List Symbol) : List Symbol :=
  (if out = [] then out else out ++ [separator]) ++ item

def join (separator : Symbol) (items : List (List Symbol)) : List Symbol :=
  items.foldl (joinItem separator) []

variable {separator : Symbol} {items : List (List Symbol)}

theorem foldl_joinItem (items : List (List Symbol)) {out : List Symbol} (some : out ≠ []) :
    items.foldl (joinItem separator) out = [separator].intercalate (out :: items) := by
  induction items generalizing out with
  | nil => simp
  | cons item later ih =>
      have written : joinItem separator out item = out ++ separator :: item := by
        simp [joinItem, some]
      rw [List.foldl_cons, written, ih (by simp)]
      cases later with
      | nil => simp [List.intercalate_cons_cons]
      | cons next rest => simp [List.intercalate_cons_cons]

theorem join_eq (items : List (List Symbol)) :
    join separator items = [separator].intercalate (items.dropWhile (· = [])) := by
  unfold join
  induction items with
  | nil => simp
  | cons item later ih =>
      by_cases empty : item = []
      · subst empty
        simpa [joinItem] using ih
      · rw [List.foldl_cons, show joinItem separator [] item = item by simp [joinItem],
          foldl_joinItem later empty, List.dropWhile_cons_of_neg (by simpa using empty)]

theorem join_eq_nil : join separator items = [] ↔ ∀ item ∈ items, item = [] := by
  rw [join_eq]
  cases kept : items.dropWhile (· = []) with
  | nil => simpa using List.dropWhile_eq_nil_iff.mp kept
  | cons item later =>
      have some : item ≠ [] := by
        have first := List.head?_dropWhile_not (fun item : List Symbol => decide (item = [])) items
        simpa [kept] using first
      have listed : item ∈ items := (List.dropWhile_sublist _).subset (kept ▸ List.mem_cons_self)
      constructor
      · intro none
        cases later <;> simp_all [List.intercalate_cons_cons]
      · intro all
        exact absurd (all item listed) some

theorem splitOn_join [DecidableEq Symbol] (plain : ∀ item ∈ items, separator ∉ item)
    (some : ∃ item ∈ items, item ≠ []) :
    (join separator items).splitOn separator = items.dropWhile (· = []) := by
  rw [join_eq]
  refine List.splitOn_intercalate separator (fun item member => ?_) ?_
  · exact plain item ((List.dropWhile_sublist _).subset member)
  · intro none
    obtain ⟨item, member, nonempty⟩ := some
    exact nonempty (by simpa using List.dropWhile_eq_nil_iff.mp none item member)

end Jitong.Lib
