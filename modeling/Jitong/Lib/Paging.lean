import Mathlib

/-!
Reading a table page by page, newest rows first: a page goes on where a cursor stands, and the
pages of a reader that follows its cursors are the sorted table.
-/

namespace Jitong.Lib

universe u v

variable {Row : Type u} {Cursor : Type v} (newer : Row → Row → Prop) [DecidableRel newer]

structure WeakOrder (newer : Row → Row → Prop) : Prop where
  asymm : ∀ first second, newer first second → ¬newer second first
  trans_not : ∀ first second third, ¬newer first second → ¬newer second third →
    ¬newer first third

def newestFirst (rows : List Row) : List Row :=
  rows.insertionSort fun first second => ¬newer second first

def scroll (read : Option Cursor → Option (List Row × Option Cursor)) :
    Nat → Option Cursor → List Row
  | 0, _ => []
  | pages + 1, cursor =>
      match read cursor with
      | none => []
      | some (rows, none) => rows
      | some (rows, some next) => rows ++ scroll read pages (some next)

variable {newer} {rows front back : List Row}

theorem newestFirst_perm (rows : List Row) : (newestFirst newer rows).Perm rows :=
  List.perm_insertionSort _ rows

theorem newestFirst_pairwise (order : WeakOrder newer)
    (apart : rows.Pairwise fun first second => newer first second ∨ newer second first) :
    (newestFirst newer rows).Pairwise newer := by
  have total : Std.Total fun first second : Row => ¬newer second first :=
    ⟨fun first second => by
      by_cases second_newer : newer second first
      · exact .inr (order.asymm _ _ second_newer)
      · exact .inl second_newer⟩
  have transitive : IsTrans Row fun first second => ¬newer second first :=
    ⟨fun first second third left right => order.trans_not third second first right left⟩
  have sorted := List.pairwise_insertionSort (fun first second : Row => ¬newer second first) rows
  have distinct : (newestFirst newer rows).Pairwise fun first second =>
      newer first second ∨ newer second first :=
    (newestFirst_perm rows).symm.pairwise apart fun either => either.symm
  exact (sorted.and distinct).imp fun both => both.2.resolve_right both.1

theorem newestFirst_eq (order : WeakOrder newer) (same : back.Perm rows)
    (sorted : back.Pairwise newer) : newestFirst newer rows = back := by
  have apart : rows.Pairwise fun first second => newer first second ∨ newer second first :=
    same.pairwise (sorted.imp .inl) fun either => either.symm
  have antisymm : ∀ first second, first ∈ newestFirst newer rows → second ∈ back →
      newer first second → newer second first → first = second := by
    intro first second _ _ left right
    exact absurd right (order.asymm _ _ left)
  exact List.Perm.eq_of_pairwise antisymm (newestFirst_pairwise order apart) sorted
    ((newestFirst_perm rows).trans same.symm)

theorem filter_after (order : WeakOrder newer) {last : Row}
    (sorted : (front ++ [last] ++ back).Pairwise newer) :
    (front ++ [last] ++ back).filter (fun row => newer last row) = back := by
  obtain ⟨before, after, across⟩ := List.pairwise_append.mp sorted
  obtain ⟨_, _, ended⟩ := List.pairwise_append.mp before
  rw [List.filter_append, List.filter_append]
  have none_front : front.filter (fun row => newer last row) = [] := by
    refine List.filter_eq_nil_iff.mpr fun row member => ?_
    simpa using order.asymm _ _ (ended row member last (List.mem_singleton_self last))
  have none_last : [last].filter (fun row => newer last row) = [] := by
    have irrefl : ¬newer last last := fun self => order.asymm _ _ self self
    simp [irrefl]
  have all_back : back.filter (fun row => newer last row) = back := by
    refine List.filter_eq_self.mpr fun row member => ?_
    simpa using across last (by simp) row member
  rw [none_front, none_last, all_back]
  rfl

structure ReadsPages (newer : Row → Row → Prop) [DecidableRel newer] (rows : List Row) (limit : Nat)
    (after : Cursor → Row → Prop) [∀ cursor row, Decidable (after cursor row)] (cursorOf : Row → Cursor)
    (read : Option Cursor → Option (List Row × Option Cursor)) : Prop where
  place : ∀ last row, after (cursorOf last) row ↔ newer last row
  page : ∀ cursor, (∀ last, cursor = some last → ∃ row ∈ rows, last = cursorOf row) →
    let left := newestFirst newer (rows.filter fun row => cursor.all fun last => after last row)
    read cursor = some (left.take limit,
      if limit < left.length then (left.take limit).getLast?.map cursorOf else none)

theorem scroll_rest (order : WeakOrder newer) {limit : Nat} (positive : 0 < limit)
    {after : Cursor → Row → Prop} [∀ cursor row, Decidable (after cursor row)]
    {cursorOf : Row → Cursor} {read : Option Cursor → Option (List Row × Option Cursor)}
    (reads : ReadsPages newer rows limit after cursorOf read)
    (sorted : (newestFirst newer rows).Pairwise newer) (pages : Nat) :
    ∀ front back, newestFirst newer rows = front ++ back → back.length ≤ pages * limit →
      0 < pages → scroll read pages (front.getLast?.map cursorOf) = back := by
  induction pages with
  | zero =>
      intro front back _ _ some_page
      omega
  | succ pages ih =>
      intro front back split enough _
      have left : newestFirst newer (rows.filter fun row =>
          (front.getLast?.map cursorOf).all fun last => after last row) = back := by
        have kept : ((front ++ back).filter fun row =>
            (front.getLast?.map cursorOf).all fun last => after last row) = back := by
          rcases List.eq_nil_or_concat' front with rfl | ⟨before, last, rfl⟩
          · simp
          · simp only [List.getLast?_concat, Option.map_some, Option.all_some, reads.place]
            exact filter_after order (split ▸ sorted)
        refine newestFirst_eq order ?_ ?_
        · rw [← kept, ← split]
          exact (@newestFirst_perm _ newer _ rows).filter _
        · exact (List.pairwise_append.mp (split ▸ sorted)).2.1
      have here : ∀ last, front.getLast?.map cursorOf = some last →
          ∃ row ∈ rows, last = cursorOf row := by
        intro last found
        obtain ⟨row, ended, rfl⟩ := Option.map_eq_some_iff.mp found
        refine ⟨row, (@newestFirst_perm _ newer _ rows).mem_iff.mp ?_, rfl⟩
        rw [split]
        exact List.mem_append_left back (List.mem_of_getLast? ended)
      have page := reads.page (front.getLast?.map cursorOf) here
      simp only [left] at page
      rw [scroll, page]
      by_cases more : limit < back.length
      · have some_last : back.take limit ≠ [] := by
          intro empty
          have length := congrArg List.length empty
          rw [List.length_take_of_le (by omega), List.length_nil] at length
          omega
        have ended := List.getLast?_eq_some_getLast some_last
        have go := ih (front ++ back.take limit) (back.drop limit)
          (by rw [split, List.append_assoc, List.take_append_drop])
          (by rw [List.length_drop]; rw [Nat.succ_mul] at enough; omega)
          (by
            rcases pages with _ | pages
            · rw [Nat.one_mul] at enough
              omega
            · omega)
        rw [List.getLast?_append, ended, Option.some_or, Option.map_some] at go
        simp only [more, if_true, ended, Option.map_some, go]
        exact List.take_append_drop limit back
      · simp only [more, if_false]
        exact List.take_of_length_le (by omega)

theorem scroll_all (order : WeakOrder newer) {limit : Nat} (positive : 0 < limit)
    {after : Cursor → Row → Prop} [∀ cursor row, Decidable (after cursor row)]
    {cursorOf : Row → Cursor} {read : Option Cursor → Option (List Row × Option Cursor)}
    (reads : ReadsPages newer rows limit after cursorOf read)
    (apart : rows.Pairwise fun first second => newer first second ∨ newer second first) {pages : Nat}
    (enough : rows.length < pages) : scroll read pages none = newestFirst newer rows := by
  refine scroll_rest order positive reads (newestFirst_pairwise order apart) pages [] _ rfl ?_
    (by omega)
  rw [(newestFirst_perm rows).length_eq]
  exact (Nat.le_of_lt enough).trans (Nat.le_mul_of_pos_right pages positive)

omit [DecidableRel newer] in
theorem pair_sublist_iff (order : WeakOrder newer) {first second : Row}
    (sorted : rows.Pairwise newer) (one : first ∈ rows) (other : second ∈ rows) :
    [first, second].Sublist rows ↔ newer first second := by
  constructor
  · intro precedes
    have pair := sorted.sublist precedes
    simpa using pair
  · intro is_newer
    obtain ⟨front, back, rfl⟩ := List.append_of_mem one
    rcases List.mem_append.mp other with before | at_or_after
    · have reversed := (List.pairwise_append.mp sorted).2.2 second before first List.mem_cons_self
      exact absurd reversed (order.asymm _ _ is_newer)
    · rcases List.mem_cons.mp at_or_after with rfl | later
      · exact absurd is_newer (order.asymm _ _ is_newer)
      · refine List.Sublist.trans ?_ (List.sublist_append_right front (first :: back))
        exact (List.singleton_sublist.mpr later).cons_cons first

/-! Reading a table upwards by a number that no two rows share. -/

section Upwards

variable (key : Row → Int)

def remaining (cursor : Int) (rows : List Row) : List Row :=
  (rows.filter fun row => cursor < key row).insertionSort fun first second => key first ≤ key second

structure ReadsUp (rows read rest : List Row) (cursor : Int) : Prop where
  all : (read ++ rest).Perm rows
  sorted : (read ++ rest).Pairwise fun first second => key first < key second
  below : ∀ row ∈ read, key row ≤ cursor
  above : ∀ row ∈ rest, cursor < key row

variable {key}

theorem key_order : WeakOrder fun first second : Row => key first < key second where
  asymm first second less := by omega
  trans_not first second third left right := by omega

theorem remaining_eq (cursor : Int) (rows : List Row) :
    remaining key cursor rows =
      newestFirst (fun first second => key first < key second)
        (rows.filter fun row => cursor < key row) := by
  simp only [remaining, newestFirst, not_lt]

theorem reads_start (distinct : rows.Pairwise fun first second => key first ≠ key second)
    {cursor : Int} (positive : ∀ row ∈ rows, cursor < key row) :
    ReadsUp key rows [] (remaining key cursor rows) cursor := by
  have all : rows.filter (fun row => cursor < key row) = rows :=
    List.filter_eq_self.mpr fun row member => by simpa using positive row member
  rw [remaining_eq, all]
  refine ⟨newestFirst_perm rows, ?_, fun row member => absurd member List.not_mem_nil, ?_⟩
  · exact newestFirst_pairwise key_order (distinct.imp fun different => by omega)
  · intro row member
    exact positive row ((newestFirst_perm rows).mem_iff.mp member)

theorem ReadsUp.left {read rest : List Row} {cursor : Int} (reads : ReadsUp key rows read rest cursor) :
    remaining key cursor rows = rest := by
  have none_read : read.filter (fun row => cursor < key row) = [] :=
    List.filter_eq_nil_iff.mpr fun row member => by simpa using reads.below row member
  have all_rest : rest.filter (fun row => cursor < key row) = rest :=
    List.filter_eq_self.mpr fun row member => by simpa using reads.above row member
  have kept : (read ++ rest).filter (fun row => cursor < key row) = rest := by
    rw [List.filter_append, none_read, all_rest, List.nil_append]
  rw [remaining_eq]
  refine newestFirst_eq key_order ?_ (List.pairwise_append.mp reads.sorted).2.1
  have same := reads.all.filter fun row => cursor < key row
  rwa [kept] at same

theorem ReadsUp.next {read front back : List Row} {last : Row} {cursor : Int}
    (reads : ReadsUp key rows read (front ++ [last] ++ back) cursor) :
    ReadsUp key rows (read ++ (front ++ [last])) back (key last) := by
  obtain ⟨all, sorted, below, above⟩ := reads
  rw [← List.append_assoc] at all sorted
  obtain ⟨before, _, across⟩ := List.pairwise_append.mp sorted
  obtain ⟨_, page, _⟩ := List.pairwise_append.mp before
  obtain ⟨_, _, ends⟩ := List.pairwise_append.mp page
  refine ⟨all, sorted, fun row member => ?_, fun row member => ?_⟩
  · rcases List.mem_append.mp member with earlier | paged
    · have cursorAbove := above last (by simp)
      exact (below row earlier).trans (Int.le_of_lt cursorAbove)
    · rcases List.mem_append.mp paged with inFront | atEnd
      · exact Int.le_of_lt (ends row inFront last (List.mem_singleton_self last))
      · rw [List.mem_singleton.mp atEnd]
  · exact across last (by simp) row member

end Upwards

end Jitong.Lib
