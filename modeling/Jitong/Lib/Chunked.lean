import Mathlib.Data.List.Basic

/-!
Incremental readers: a stream that arrives in chunks is cut into items from the front, as far
as they are complete, until its front is invalid.
-/

namespace Jitong.Lib

universe u v

inductive Front (Symbol : Type u) (Item : Type v)
  | incomplete
  | invalid
  | item (item : Item) (rest : List Symbol)
  deriving DecidableEq

variable {Symbol : Type u} {Item : Type v}

def drain (front : List Symbol → Front Symbol Item) :
    Nat → List Symbol → List Item × Option (List Symbol)
  | 0, input => ([], some input)
  | fuel + 1, input =>
      match front input with
      | .incomplete => ([], some input)
      | .invalid => ([], none)
      | .item item rest =>
          let (items, left) := drain front fuel rest
          (item :: items, left)

def cut (front : List Symbol → Front Symbol Item) (input : List Symbol) :
    List Item × Option (List Symbol) := drain front (input.length + 1) input

def cutAll (front : List Symbol → Front Symbol Item) :
    List Symbol → List (List Symbol) → List Item × Option (List Symbol)
  | pending, [] => ([], some pending)
  | pending, chunk :: chunks =>
      match cut front (pending ++ chunk) with
      | (items, none) => (items, none)
      | (items, some pending) =>
          let (later, left) := cutAll front pending chunks
          (items ++ later, left)

theorem cut_eq (front : List Symbol → Front Symbol Item) (input : List Symbol) :
    cut front input =
      match front input with
      | .incomplete => ([], some input)
      | .invalid => ([], none)
      | .item item rest =>
          let (items, left) := drain front input.length rest
          (item :: items, left) := rfl

structure Decides (front : List Symbol → Front Symbol Item) : Prop where
  shrinks : ∀ input item rest, front input = .item item rest → rest.length < input.length
  item : ∀ input item rest more, front input = .item item rest →
    front (input ++ more) = .item item (rest ++ more)
  invalid : ∀ input more, front input = .invalid → front (input ++ more) = .invalid

namespace Decides

variable {front : List Symbol → Front Symbol Item} (decides : Decides front)
include decides

theorem drain_enough {fuel : Nat} {input : List Symbol} (enough : input.length < fuel) :
    drain front fuel input = cut front input := by
  unfold cut
  generalize bound : input.length + 1 = other
  have otherEnough : input.length < other := by omega
  clear bound
  induction fuel generalizing input other with
  | zero => omega
  | succ fuel ih =>
      cases other with
      | zero => omega
      | succ other =>
          simp only [drain]
          cases found : front input with
          | incomplete => rfl
          | invalid => rfl
          | item item rest =>
              have shorter := decides.shrinks input item rest found
              have enoughRest : rest.length < fuel := by omega
              have otherRest : rest.length < other := by omega
              simp only [ih enoughRest other otherRest]

theorem cut_item {input rest : List Symbol} {item : Item}
    (found : front input = .item item rest) :
    cut front input = (item :: (cut front rest).1, (cut front rest).2) := by
  have shorter := decides.shrinks input item rest found
  rw [cut_eq, found]
  simp only [decides.drain_enough shorter]

omit decides in
theorem cut_incomplete {input : List Symbol} (found : front input = .incomplete) :
    cut front input = ([], some input) := by
  rw [cut_eq, found]

omit decides in
theorem cut_invalid {input : List Symbol} (found : front input = .invalid) :
    cut front input = ([], none) := by
  rw [cut_eq, found]

theorem cut_append (input more : List Symbol) :
    cut front (input ++ more) =
      match cut front input with
      | (items, none) => (items, none)
      | (items, some left) =>
          (items ++ (cut front (left ++ more)).1, (cut front (left ++ more)).2) := by
  induction size : input.length using Nat.strongRecOn generalizing input with
  | ind size ih =>
      cases found : front input with
      | incomplete => simp only [cut_incomplete found, List.nil_append]
      | invalid => rw [cut_invalid found, cut_invalid (decides.invalid input more found)]
      | item item rest =>
          have shorter := decides.shrinks input item rest found
          rw [decides.cut_item found, decides.cut_item (decides.item input item rest more found),
            ih rest.length (size ▸ shorter) rest rfl]
          rcases cut front rest with ⟨items, left⟩
          cases left with
          | none => rfl
          | some left => rfl

theorem cut_left {input left : List Symbol} {items : List Item}
    (done : cut front input = (items, some left)) : cut front left = ([], some left) := by
  have again := decides.cut_append input []
  simp only [List.append_nil, done, Prod.mk.injEq] at again
  exact Prod.ext (List.self_eq_append_right.mp again.1) again.2.symm

theorem front_left {input left : List Symbol} {items : List Item}
    (done : cut front input = (items, some left)) : front left = .incomplete := by
  have again := decides.cut_left done
  cases found : front left with
  | incomplete => rfl
  | invalid => simp [cut_invalid found] at again
  | item item rest => simp [decides.cut_item found] at again

theorem cutAll_eq (chunks : List (List Symbol)) {pending : List Symbol}
    (waits : cut front pending = ([], some pending)) :
    cutAll front pending chunks = cut front (pending ++ chunks.flatten) := by
  induction chunks generalizing pending with
  | nil => rw [cutAll, List.flatten_nil, List.append_nil, waits]
  | cons chunk chunks ih =>
      rw [cutAll, List.flatten_cons, ← List.append_assoc, decides.cut_append (pending ++ chunk)]
      rcases done : cut front (pending ++ chunk) with ⟨items, left⟩
      cases left with
      | none => rfl
      | some left => simp only [ih (decides.cut_left done)]

theorem cut_written {write : Item → List Symbol} {items : List Item} (more : List Symbol)
    (written : ∀ item ∈ items, ∀ rest, front (write item ++ rest) = .item item rest) :
    cut front (items.flatMap write ++ more) =
      (items ++ (cut front more).1, (cut front more).2) := by
  induction items with
  | nil => rfl
  | cons item rest ih =>
      rw [List.flatMap_cons, List.append_assoc,
        decides.cut_item (written item List.mem_cons_self _),
        ih fun other member => written other (List.mem_cons_of_mem item member)]
      rfl

end Decides

end Jitong.Lib
