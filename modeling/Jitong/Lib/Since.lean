import Jitong.Lib.Run

/-!
What holds at the end of a run because one of its events brought it about and every event since
then left it alone.
-/

namespace Jitong.Lib

universe u v

variable {State : Type u} {Event : Type v}

/-- Some event of the run `brings` it, and all later ones `keep` it. -/
def HappenedSince (next : State → Event → State) (start : State)
    (brings keeps : State → Event → Prop) (events : List Event) : Prop :=
  ∃ front event back, events = front ++ event :: back ∧ brings (front.foldl next start) event ∧
    ∀ early other late, back = early ++ other :: late →
      keeps ((front ++ event :: early).foldl next start) other

namespace HappenedSince

variable {next : State → Event → State} {start : State} {brings keeps : State → Event → Prop}

theorem last {event : Event} {front : List Event} (brought : brings (front.foldl next start) event) :
    HappenedSince next start brings keeps (front ++ [event]) := by
  refine ⟨front, event, [], rfl, brought, ?_⟩
  intro early other late same
  simp at same

theorem snoc {event : Event} {events : List Event}
    (since : HappenedSince next start brings keeps events)
    (kept : keeps (events.foldl next start) event) :
    HappenedSince next start brings keeps (events ++ [event]) := by
  obtain ⟨front, first, back, rfl, brought, all⟩ := since
  refine ⟨front, first, back ++ [event], by simp, brought, ?_⟩
  intro early other late same
  induction late using List.reverseRecOn with
  | nil =>
      obtain ⟨rfl, only⟩ := List.append_inj' same rfl
      obtain ⟨rfl, -⟩ := List.cons.inj only
      exact kept
  | append_singleton rest newest _ =>
      rw [← List.cons_append, ← List.append_assoc] at same
      exact all early other rest (List.append_inj' same rfl).1

theorem mono {other : State → Event → Prop} {events : List Event}
    (since : HappenedSince next start brings keeps events)
    (weaker : ∀ state event, keeps state event → other state event) :
    HappenedSince next start brings other events := by
  obtain ⟨front, first, back, split, brought, all⟩ := since
  exact ⟨front, first, back, split, brought, fun early event late same =>
    weaker _ event (all early event late same)⟩

theorem of_steps (holds : State → Prop) (absent : ¬ holds start)
    (explained : ∀ (earlier : List Event) event, holds (next (earlier.foldl next start) event) →
      brings (earlier.foldl next start) event ∨
        holds (earlier.foldl next start) ∧ keeps (earlier.foldl next start) event)
    (events : List Event) (now : holds (events.foldl next start)) :
    HappenedSince next start brings keeps events := by
  induction events using List.reverseRecOn with
  | nil => exact absurd now absent
  | append_singleton earlier event ih =>
      rw [List.foldl_append, List.foldl_cons, List.foldl_nil] at now
      rcases explained earlier event now with brought | ⟨before, kept⟩
      · exact last brought
      · exact (ih before).snoc kept

end HappenedSince

end Jitong.Lib
