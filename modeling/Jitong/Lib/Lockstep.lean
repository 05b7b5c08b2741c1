import Mathlib

/-!
Two machines on one stream of events, each up to the first event that it refuses: where their
answers are the same.
-/

namespace Jitong.Lib

universe u v w x

variable {State : Type u} {Other : Type v} {Event : Type w} {Answer : Type x}

def untilRefused (step : State → Event → Option (Answer × State)) (state : State) :
    List Event → List (Option Answer)
  | [] => []
  | event :: rest =>
      match step state event with
      | none => [none]
      | some (answer, after) => some answer :: untilRefused step after rest

def AlongAnswers (step : State → Event → Option (Answer × State)) (holds : State → Event → Prop)
    (state : State) : List Event → Prop
  | [] => True
  | event :: rest => holds state event ∧
      ∀ answer after, step state event = some (answer, after) → AlongAnswers step holds after rest

inductive InStep (related : State → Other → Prop) :
    Option (Answer × State) → Option (Answer × Other) → Prop
  | refused : InStep related none none
  | answered {answer state other} : related state other →
      InStep related (some (answer, state)) (some (answer, other))

section Lockstep

variable {step : State → Event → Option (Answer × State)}
  {otherStep : Other → Event → Option (Answer × Other)} {related : State → Other → Prop}
  {permitted faulty : State → Event → Prop}

theorem untilRefused_eq_iff
    (inStep : ∀ state other event, related state other → permitted state event →
      ¬ faulty state event → InStep related (step state event) (otherStep other event))
    (apart : ∀ state other event, related state other → faulty state event →
      (step state event).isSome = true ∧ otherStep other event = none)
    {state : State} {other : Other} (start : related state other) (events : List Event)
    (within : AlongAnswers step permitted state events) :
    untilRefused step state events = untilRefused otherStep other events ↔
      AlongAnswers step (fun state event => ¬ faulty state event) state events := by
  induction events generalizing state other with
  | nil => exact iff_of_true rfl trivial
  | cons event rest ih =>
      obtain ⟨allowed, within⟩ := within
      simp only [untilRefused, AlongAnswers]
      by_cases fault : faulty state event
      · obtain ⟨answers, refuses⟩ := apart state other event start fault
        obtain ⟨⟨answer, after⟩, taken⟩ := Option.isSome_iff_exists.mp answers
        rw [taken, refuses]
        exact iff_of_false nofun fun clean => clean.1 fault
      · have both := inStep state other event start allowed fault
        generalize firstStep : step state event = taken at both within ⊢
        generalize otherStep other event = otherTaken at both ⊢
        cases both with
        | refused => exact iff_of_true rfl ⟨fault, nofun⟩
        | answered kept =>
            simp only [List.cons.injEq, true_and]
            rw [ih kept (within _ _ rfl)]
            constructor
            · intro clean
              refine ⟨fault, ?_⟩
              rintro _ _ ⟨⟩
              exact clean
            · intro clean
              exact clean.2 _ _ rfl

end Lockstep

end Jitong.Lib
