import Mathlib

/-!
Tables with uniqueness constraints and the transactions that write them, over
any row type. A constraint is a Boolean `clash`: two rows that clash cannot be
stored together, and the proof that no two stored rows do is part of the table.
-/

namespace Jitong.Lib

universe u v

structure Table (Row : Type u) (clash : Row → Row → Bool) where
  rows : List Row
  unique : rows.Pairwise fun first second => clash first second = false

namespace Table

variable {Row : Type u} {clash : Row → Row → Bool}

def empty : Table Row clash := ⟨[], .nil⟩

/-- `INSERT`: refused when a stored row clashes with the new one. -/
def insert (table : Table Row clash) (row : Row) : Option (Table Row clash) :=
  if free : ∀ other ∈ table.rows, clash other row = false then
    some ⟨table.rows ++ [row], by
      refine List.pairwise_append.mpr ⟨table.unique, List.pairwise_singleton _ _, ?_⟩
      intro other stored added same
      rw [List.mem_singleton.mp same]
      exact free other stored⟩
  else none

def insertOrIgnore (table : Table Row clash) (row : Row) : Table Row clash :=
  (table.insert row).getD table

/-- `INSERT OR REPLACE`: the rows that clash make room. -/
def replace (table : Table Row clash) (row : Row) : Table Row clash :=
  ⟨table.rows.filter (fun other => !clash other row) ++ [row], by
    refine List.pairwise_append.mpr ⟨table.unique.filter _, List.pairwise_singleton _ _, ?_⟩
    intro other kept added same
    rw [List.mem_singleton.mp same]
    simpa using (List.mem_filter.mp kept).2⟩

def delete (table : Table Row clash) (matching : Row → Bool) : Table Row clash :=
  ⟨table.rows.filter fun row => !matching row, table.unique.filter _⟩

/-- `UPDATE`: refused when the changed rows would clash. -/
def update (table : Table Row clash) (change : Row → Row) : Option (Table Row clash) :=
  if unique : (table.rows.map change).Pairwise (fun first second => clash first second = false) then
    some ⟨table.rows.map change, unique⟩
  else none

/-- `UPDATE` of one row, which is checked against all the others. -/
def updateAt (table : Table Row clash) (change : Row → Row) (index : Nat) :
    Option (Table Row clash) :=
  let rows := table.rows.take index ++ (table.rows.drop index).modifyHead change
  if unique : rows.Pairwise (fun first second => clash first second = false) then
    some ⟨rows, unique⟩
  else none

def updateEach (table : Table Row clash) (change : Row → Row) : Option (Table Row clash) :=
  (List.range table.rows.length).foldlM (fun table index => table.updateAt change index) table

def rewrite (table : Table Row clash) (change : Row → Row)
    (keeps : ∀ first second, clash (change first) (change second) = clash first second) :
    Table Row clash :=
  ⟨table.rows.map change, by
    rw [List.pairwise_map]
    exact table.unique.imp fun apart => (keeps _ _).trans apart⟩

@[simp] theorem empty_rows : (empty : Table Row clash).rows = [] := rfl

@[simp] theorem rewrite_rows (table : Table Row clash) (change : Row → Row)
    (keeps : ∀ first second, clash (change first) (change second) = clash first second) :
    (table.rewrite change keeps).rows = table.rows.map change := rfl

theorem insert_eq_some {table next : Table Row clash} {row : Row}
    (inserted : table.insert row = some next) :
    next.rows = table.rows ++ [row] ∧ ∀ other ∈ table.rows, clash other row = false := by
  unfold insert at inserted
  split at inserted
  · rename_i free
    simp only [Option.some.injEq] at inserted
    subst next
    exact ⟨rfl, free⟩
  · simp at inserted

theorem insert_eq_none {table : Table Row clash} {row : Row} :
    table.insert row = none ↔ ∃ other ∈ table.rows, clash other row = true := by
  unfold insert
  split
  · rename_i free
    simp only [reduceCtorEq, false_iff, not_exists, not_and, Bool.not_eq_true]
    exact free
  · rename_i taken
    simpa using taken

theorem update_eq_some {table next : Table Row clash} {change : Row → Row}
    (updated : table.update change = some next) : next.rows = table.rows.map change := by
  unfold update at updated
  split at updated
  · simp only [Option.some.injEq] at updated
    subst next
    rfl
  · simp at updated

theorem of_mem_insertOrIgnore {table : Table Row clash} {row other : Row}
    (stored : other ∈ (table.insertOrIgnore row).rows) : other ∈ table.rows ∨ other = row := by
  unfold insertOrIgnore at stored
  cases inserted : table.insert row with
  | none =>
      rw [inserted] at stored
      exact .inl stored
  | some next =>
      rw [inserted, Option.getD_some, (insert_eq_some inserted).1] at stored
      rcases List.mem_append.mp stored with old | new
      · exact .inl old
      · exact .inr (List.mem_singleton.mp new)

theorem mem_insertOrIgnore {table : Table Row clash} {row other : Row}
    (identified : ∀ other ∈ table.rows, clash other row = true → other = row) :
    other ∈ (table.insertOrIgnore row).rows ↔ other ∈ table.rows ∨ other = row := by
  unfold insertOrIgnore
  cases inserted : table.insert row with
  | some next =>
      rw [Option.getD_some, (insert_eq_some inserted).1, List.mem_append, List.mem_singleton]
  | none =>
      obtain ⟨present, stored, clashing⟩ := insert_eq_none.mp inserted
      obtain rfl := identified present stored clashing
      rw [Option.getD_none]
      constructor
      · exact .inl
      · rintro (member | rfl)
        · exact member
        · exact stored

theorem ext {first second : Table Row clash} (same : first.rows = second.rows) :
    first = second := by
  cases first
  cases second
  simpa using same

theorem updateAt_eq_some {table next : Table Row clash} {change : Row → Row} {index : Nat} :
    table.updateAt change index = some next ↔
      next.rows = table.rows.take index ++ (table.rows.drop index).modifyHead change := by
  unfold updateAt
  dsimp only
  split
  · rename_i unique
    rw [Option.some.injEq]
    exact ⟨fun same => same ▸ rfl, fun same => ext same.symm⟩
  · rename_i clashing
    simp only [reduceCtorEq, false_iff]
    intro same
    exact clashing (same ▸ next.unique)

def changedTo (rows : List Row) (change : Row → Row) (count : Nat) : List Row :=
  (rows.take count).map change ++ rows.drop count

theorem changedTo_succ (rows : List Row) (change : Row → Row) {count : Nat}
    (inside : count < rows.length) :
    (changedTo rows change count).take count ++
      ((changedTo rows change count).drop count).modifyHead change =
        changedTo rows change (count + 1) := by
  have length : ((rows.take count).map change).length = count := by simp; omega
  unfold changedTo
  rw [List.take_left' length, List.drop_left' length, List.drop_eq_getElem_cons inside,
    List.modifyHead_cons, List.take_succ_eq_append_getElem inside, List.map_append,
    List.append_assoc]
  rfl

theorem updateRange_eq_some {table next : Table Row clash} {change : Row → Row} {count : Nat}
    (inside : count ≤ table.rows.length) :
    (List.range count).foldlM (fun table index => table.updateAt change index) table = some next ↔
      next.rows = changedTo table.rows change count ∧
        ∀ earlier < count, (changedTo table.rows change earlier).Pairwise
          fun first second => clash first second = false := by
  induction count generalizing next with
  | zero =>
      simp only [List.range_zero, List.foldlM_nil, Option.pure_def, Option.some.injEq, changedTo,
        List.take_zero, List.map_nil, List.drop_zero, List.nil_append]
      exact ⟨fun same => ⟨same ▸ rfl, by omega⟩, fun ⟨same, _⟩ => ext same.symm⟩
  | succ count ih =>
      rw [List.range_succ, List.foldlM_append]
      simp only [List.foldlM_cons, List.foldlM_nil, Option.bind_eq_bind, Option.bind_eq_some_iff,
        Option.pure_def, Option.some.injEq, exists_eq_right]
      constructor
      · rintro ⟨middle, reached, changed⟩
        obtain ⟨rows, unique⟩ := (ih (by omega)).mp reached
        rw [updateAt_eq_some, rows, changedTo_succ _ _ (by omega)] at changed
        refine ⟨changed, fun earlier bound => ?_⟩
        by_cases last : earlier = count
        · rw [last, ← rows]
          exact middle.unique
        · exact unique earlier (by omega)
      · rintro ⟨rows, unique⟩
        refine ⟨⟨changedTo table.rows change count, unique count (by omega)⟩,
          (ih (by omega)).mpr ⟨rfl, fun earlier bound => unique earlier (by omega)⟩, ?_⟩
        rw [updateAt_eq_some, changedTo_succ _ _ (by omega)]
        exact rows

theorem updateEach_eq_some {table next : Table Row clash} {change : Row → Row}
    (updated : table.updateEach change = some next) : next.rows = table.rows.map change := by
  have rows := ((updateRange_eq_some (Nat.le_refl _)).mp updated).1
  simpa [changedTo] using rows

theorem updateEach_isSome_iff {table : Table Row clash} {change : Row → Row}
    (distinct : (table.rows.map change).Pairwise fun first second => clash first second = false) :
    (table.updateEach change).isSome ↔
      table.rows.Pairwise fun first second => clash (change first) second = false := by
  have whole : changedTo table.rows change table.rows.length = table.rows.map change := by
    simp [changedTo]
  constructor
  · intro updated
    obtain ⟨next, found⟩ := Option.isSome_iff_exists.mp updated
    have unique := ((updateRange_eq_some (Nat.le_refl _)).mp found).2
    refine List.pairwise_iff_getElem.mpr fun first second firstBound secondBound order => ?_
    have middle := (List.pairwise_append.mp (unique (first + 1) (by omega))).2.2
    refine middle _ (List.mem_map_of_mem ?_) _ ?_
    · exact List.mem_take_iff_getElem.mpr ⟨first, by omega, rfl⟩
    · refine List.mem_drop_iff_getElem.mpr ⟨second - (first + 1), by omega, ?_⟩
      congr 1
      omega
  · intro ahead
    have unique (count : Nat) : (changedTo table.rows change count).Pairwise
        fun first second => clash first second = false := by
      have split := table.rows.take_append_drop count
      refine List.pairwise_append.mpr ⟨?_, ?_, ?_⟩
      · exact distinct.sublist ((List.take_sublist count _).map change)
      · exact table.unique.sublist (List.drop_sublist count _)
      · intro changed inFront other inBack
        obtain ⟨row, member, rfl⟩ := List.mem_map.mp inFront
        rw [← split] at ahead
        exact (List.pairwise_append.mp ahead).2.2 row member other inBack
    refine Option.isSome_iff_exists.mpr ⟨⟨table.rows.map change, distinct⟩, ?_⟩
    exact (updateRange_eq_some (Nat.le_refl _)).mpr ⟨whole.symm, fun earlier _ => unique earlier⟩

theorem eq_of_clash (table : Table Row clash)
    (symmetric : ∀ first second, clash first second = clash second first)
    {first second : Row} (firstStored : first ∈ table.rows) (secondStored : second ∈ table.rows)
    (clashing : clash first second = true) : first = second := by
  by_contra different
  have : Std.Symm fun first second : Row => clash first second = false :=
    ⟨fun left right apart => (symmetric right left).trans apart⟩
  have apart := table.unique.forall firstStored secondStored different
  rw [clashing] at apart
  exact Bool.noConfusion apart

theorem find?_eq_some_of_unique (table : Table Row clash)
    (symmetric : ∀ first second, clash first second = clash second first)
    {matching : Row → Bool} {row : Row} (stored : row ∈ table.rows) (found : matching row = true)
    (keyed : ∀ other, matching other = true → clash other row = true) :
    table.rows.find? matching = some row := by
  cases result : table.rows.find? matching with
  | none => exact absurd found (by simpa using List.find?_eq_none.mp result row stored)
  | some other =>
      have otherStored := List.mem_of_find?_eq_some result
      have otherFound := List.find?_some result
      rw [table.eq_of_clash symmetric otherStored stored (keyed other otherFound)]

theorem countP_eq_one (table : Table Row clash)
    (symmetric : ∀ first second, clash first second = clash second first)
    {matching : Row → Bool} {row : Row} (stored : row ∈ table.rows) (found : matching row = true)
    (keyed : ∀ other, matching other = true → clash other row = true) :
    table.rows.countP matching = 1 := by
  have apart := table.unique.filter matching
  rw [List.countP_eq_length_filter]
  rcases kept : table.rows.filter matching with _ | ⟨first, _ | ⟨second, rest⟩⟩
  · exact absurd (List.mem_filter.mpr ⟨stored, found⟩) (by simp [kept])
  · rfl
  · have only (other : Row) (member : other ∈ table.rows.filter matching) : other = row := by
      obtain ⟨otherStored, otherFound⟩ := List.mem_filter.mp member
      exact table.eq_of_clash symmetric otherStored stored (keyed other otherFound)
    have same := keyed row found
    rw [kept] at apart only
    rw [only first (by simp), only second (by simp)] at apart
    simp [same] at apart

end Table

/-- The write connection inside a transaction: what it sees, and what a
`ROLLBACK` goes back to. -/
structure Txn (Tables : Type u) where
  tables : Tables
  saved : Tables

namespace Txn

variable {Tables : Type u}

def begin (tables : Tables) : Txn Tables := ⟨tables, tables⟩

def write (txn : Txn Tables) (tables : Tables) : Txn Tables := { txn with tables }

def commit (txn : Txn Tables) : Tables := txn.tables

def rollback (txn : Txn Tables) : Tables := txn.saved

@[simp] theorem begin_tables (tables : Tables) : (begin tables).tables = tables := rfl

@[simp] theorem begin_rollback (tables : Tables) : (begin tables).rollback = tables := rfl

@[simp] theorem write_rollback (txn : Txn Tables) (tables : Tables) :
    (txn.write tables).rollback = txn.rollback := rfl

@[simp] theorem write_tables (txn : Txn Tables) (tables : Tables) :
    (txn.write tables).tables = tables := rfl

@[simp] theorem write_commit (txn : Txn Tables) (tables : Tables) :
    (txn.write tables).commit = tables := rfl

end Txn

end Jitong.Lib
