import Mathlib.Data.List.Basic

/-!
Operations that are done in order, some of them again and again: where an operation that was done has
no effect the second time, the run is the run of each once.
-/

namespace Jitong.Lib

universe u v

inductive Repeats {Op : Type u} : List Op → List Op → List Op → Prop
  | finished (done : List Op) : Repeats done [] []
  | next (done todo schedule : List Op) (op : Op) (later : Repeats (done ++ [op]) todo schedule) :
      Repeats done (op :: todo) (op :: schedule)
  | again (done todo schedule : List Op) (op : Op) (old : op ∈ done)
      (later : Repeats done todo schedule) : Repeats done todo (op :: schedule)

namespace Repeats

variable {Op : Type u} {State : Type v} {done todo schedule : List Op}

theorem agains {old : List Op} (listed : ∀ op ∈ old, op ∈ done) (later : Repeats done todo schedule) :
    Repeats done todo (old ++ schedule) := by
  induction old with
  | nil => exact later
  | cons op old ih =>
      refine .again done todo (old ++ schedule) op (listed op List.mem_cons_self) (ih ?_)
      exact fun other member => listed other (List.mem_cons_of_mem _ member)

theorem nexts {first : List Op} (later : Repeats (done ++ first) todo schedule) :
    Repeats done (first ++ todo) (first ++ schedule) := by
  induction first generalizing done with
  | nil => rwa [List.append_nil] at later
  | cons op first ih =>
      refine .next done (first ++ todo) (first ++ schedule) op (ih ?_)
      rwa [List.append_assoc, List.singleton_append]

theorem flatMap {Page : Type u} {rows : Page → List Op} {done todo schedule : List Page}
    (repeats : Repeats done todo schedule) :
    Repeats (done.flatMap rows) (todo.flatMap rows) (schedule.flatMap rows) := by
  induction repeats with
  | finished done => exact .finished _
  | next done todo schedule page _ ih =>
      rw [List.flatMap_append, List.flatMap_singleton] at ih
      exact nexts ih
  | again done todo schedule page old _ ih =>
      exact agains (fun row member => List.mem_flatMap.mpr ⟨page, old, member⟩) ih

variable {next : State → Op → Option State} {settled : State → Op → Prop} {holds : State → Prop}

end Repeats

end Jitong.Lib
