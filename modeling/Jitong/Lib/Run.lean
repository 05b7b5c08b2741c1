import Mathlib

/-!
Finite runs of a labelled transition relation: invariants by induction over the
run, and simulations that carry a run of one relation to a run of another.
-/

namespace Jitong.Lib

universe u v w x

/-! A system of one party or of two has a first one. -/

instance oneParty : NeZero (1 : Nat) := ⟨by decide⟩

instance twoParties : NeZero (2 : Nat) := ⟨by decide⟩

inductive Run {State : Type u} {Event : Type v} (step : State → Event → State → Prop)
    (start : State) : List Event → State → Prop
  | nil : Run step start [] start
  | snoc {events event middle final} : Run step start events middle →
      step middle event final → Run step start (events ++ [event]) final

namespace Run

variable {State : Type u} {Event : Type v} {step : State → Event → State → Prop}

theorem single {start final : State} {event : Event} (taken : step start event final) :
    Run step start [event] final := by
  simpa using Run.snoc Run.nil taken

theorem mono {other : State → Event → State → Prop} {start final : State} {events : List Event}
    (run : Run step start events final)
    (weaker : ∀ before event after, step before event after → other before event after) :
    Run other start events final := by
  induction run with
  | nil => exact .nil
  | snoc _ taken ih => exact ih.snoc (weaker _ _ _ taken)

theorem append {start middle final : State} {first second : List Event}
    (left : Run step start first middle) (right : Run step middle second final) :
    Run step start (first ++ second) final := by
  induction right with
  | nil => simpa using left
  | snoc _ taken ih => rw [← List.append_assoc]; exact ih.snoc taken

theorem cons {start middle final : State} {event : Event} {events : List Event}
    (taken : step start event middle) (rest : Run step middle events final) :
    Run step start (event :: events) final := by
  simpa using (single taken).append rest

theorem invariant {start final : State} {events : List Event} {holds : State → Prop}
    (run : Run step start events final) (initial : holds start)
    (preserved : ∀ before event after, holds before → step before event after → holds after) :
    holds final := by
  induction run with
  | nil => exact initial
  | snoc _ taken ih => exact preserved _ _ _ ih taken

theorem traced {start final : State} {events : List Event} {holds : List Event → State → Prop}
    (run : Run step start events final) (initial : holds [] start)
    (preserved : ∀ earlier before event after, holds earlier before → step before event after →
      holds (earlier ++ [event]) after) : holds events final := by
  induction run with
  | nil => exact initial
  | snoc _ taken ih => exact preserved _ _ _ _ ih taken

theorem simulate {Abstract : Type w} {Label : Type x}
    {abstractStep : Abstract → Label → Abstract → Prop} {view : State → Abstract}
    {start final : State} {events : List Event} (run : Run step start events final)
    (answered : ∀ before event after, step before event after →
      ∃ labels, Run abstractStep (view before) labels (view after)) :
    ∃ labels, Run abstractStep (view start) labels (view final) := by
  induction run with
  | nil => exact ⟨[], .nil⟩
  | snoc _ taken ih =>
      obtain ⟨earlier, first⟩ := ih
      obtain ⟨later, second⟩ := answered _ _ _ taken
      exact ⟨earlier ++ later, first.append second⟩

end Run

def Precedes {Event : Type v} (first second : Event) (events : List Event) : Prop :=
  [first, second].Sublist events

instance {Event : Type v} [DecidableEq Event] (first second : Event) (events : List Event) :
    Decidable (Precedes first second events) :=
  inferInstanceAs (Decidable (List.Sublist _ _))

theorem precedes_snoc {Event : Type v} {first second event : Event} {events : List Event} :
    Precedes first second (events ++ [event]) ↔
      Precedes first second events ∨ first ∈ events ∧ second = event := by
  unfold Precedes
  constructor
  · intro sublist
    obtain ⟨front, back, split, inFront, inBack⟩ := List.sublist_append_iff.mp sublist
    rcases front with _ | ⟨one, _ | ⟨two, rest⟩⟩
    · rw [List.nil_append] at split
      have length := inBack.length_le
      simp [← split] at length
    · simp only [List.cons_append, List.nil_append, List.cons.injEq] at split
      rw [← split.2, List.singleton_sublist, List.mem_singleton] at inBack
      rw [← split.1, List.singleton_sublist] at inFront
      exact .inr ⟨inFront, inBack⟩
    · simp only [List.cons_append, List.cons.injEq, List.nil_eq_append_iff] at split
      rw [split.1, split.2.1]
      exact .inl ((List.Sublist.append_left (List.nil_sublist rest) [one, two]).trans inFront)
  · rintro (earlier | ⟨member, rfl⟩)
    · exact earlier.trans (List.sublist_append_left _ _)
    · exact (List.singleton_sublist.mpr member).append (List.Sublist.refl [second])

theorem Precedes.mem {Event : Type v} {first second : Event} {events : List Event}
    (precedes : Precedes first second events) : first ∈ events ∧ second ∈ events :=
  ⟨precedes.subset List.mem_cons_self, precedes.subset (by simp)⟩

def guarded {State : Type u} {Event : Type v} (next : State → Event → State)
    (guard : State → Event → Bool) : State → List Event → Bool
  | _, [] => true
  | state, event :: rest => guard state event && guarded next guard (next state event) rest

theorem guarded_nil {State : Type u} {Event : Type v} {next : State → Event → State}
    {guard : State → Event → Bool} (state : State) : guarded next guard state [] = true := rfl

theorem guarded_cons {State : Type u} {Event : Type v} {next : State → Event → State}
    {guard : State → Event → Bool} (state : State) (event : Event) (rest : List Event) :
    guarded next guard state (event :: rest) =
      (guard state event && guarded next guard (next state event) rest) := rfl

theorem guarded_split {State : Type u} {Event : Type v} {next : State → Event → State}
    {guard : State → Event → Bool} {state : State} {front back : List Event} :
    guarded next guard state (front ++ back) = true ↔
      guarded next guard state front = true ∧
        guarded next guard (front.foldl next state) back = true := by
  induction front generalizing state with
  | nil => simp [guarded_nil]
  | cons event rest ih => simp [guarded_cons, ih, and_assoc]

theorem guarded_append {State : Type u} {Event : Type v} {next : State → Event → State}
    {guard : State → Event → Bool} {state : State} {front back : List Event}
    (passed : guarded next guard state (front ++ back) = true) :
    guarded next guard (front.foldl next state) back = true :=
  (guarded_split.mp passed).2

theorem Run.of_guarded {State : Type u} {Event : Type v} {step : State → Event → State → Prop}
    {next : State → Event → State} {guard : State → Event → Bool}
    (sound : ∀ state event, guard state event = true → step state event (next state event))
    {events : List Event} {state : State} (passed : guarded next guard state events = true) :
    Run step state events (events.foldl next state) := by
  induction events generalizing state with
  | nil => exact .nil
  | cons event rest ih =>
      simp only [guarded_cons, Bool.and_eq_true] at passed
      exact (ih passed.2).cons (sound state event passed.1)

theorem foldl_iff_guarded {State : Type u} {Event : Type v} {next : State → Event → State}
    {guard : State → Event → Bool} {tight broken : State → Prop}
    (apart : ∀ state, tight state → ¬broken state)
    (kept : ∀ state event, tight state → guard state event = true → tight (next state event))
    (lapsed : ∀ state event, tight state → guard state event = false → broken (next state event))
    (stays : ∀ state event, broken state → broken (next state event))
    (events : List Event) {state : State} (initial : tight state) :
    tight (events.foldl next state) ↔ guarded next guard state events = true := by
  have forever (rest : List Event) {state : State} (now : broken state) :
      broken (rest.foldl next state) := by
    induction rest generalizing state with
    | nil => exact now
    | cons event rest ih => exact ih (stays state event now)
  induction events generalizing state with
  | nil => exact iff_of_true initial rfl
  | cons event rest ih =>
      rw [List.foldl_cons, guarded_cons]
      cases passed : guard state event with
      | true =>
          rw [Bool.true_and]
          exact ih (kept state event initial passed)
      | false =>
          have later := forever rest (lapsed state event initial passed)
          exact iff_of_false (fun holds => apart _ holds later) (by simp)

theorem permitted_prefixes_iff_guarded {State : Type u} {Event : Type v}
    {next : State → Event → State} {guard : State → Event → Bool} (tight good : State → Prop)
    (permitted : Event → Prop)
    (stays : ∀ state event, permitted event → tight state → tight (next state event))
    (exact : ∀ state event, permitted event → tight state → good state →
      (good (next state event) ↔ guard state event = true))
    (state : State) (initial : tight state) (first : good state) (events : List Event)
    (all : ∀ event ∈ events, permitted event) :
    (∀ front back, front ++ back = events → good (front.foldl next state)) ↔
      guarded next guard state events = true := by
  induction events generalizing state with
  | nil =>
      simp only [guarded_nil, iff_true]
      intro front back split
      obtain ⟨rfl, rfl⟩ := List.append_eq_nil_iff.mp split
      exact first
  | cons event rest ih =>
      have allowed := all event List.mem_cons_self
      have others : ∀ other ∈ rest, permitted other := fun other member =>
        all other (List.mem_cons_of_mem event member)
      rw [guarded_cons, Bool.and_eq_true, ← exact state event allowed initial first]
      constructor
      · intro always
        have second : good (next state event) := always [event] rest rfl
        refine ⟨second, (ih _ (stays state event allowed initial) second others).mp ?_⟩
        intro front back split
        exact always (event :: front) back (by rw [List.cons_append, split])
      · rintro ⟨second, later⟩ front back split
        cases front with
        | nil => exact first
        | cons head tail =>
            simp only [List.cons_append, List.cons.injEq] at split
            obtain ⟨rfl, split⟩ := split
            exact (ih _ (stays state head allowed initial) second others).mpr later tail back split

theorem prefixes_iff_guarded {State : Type u} {Event : Type v} {next : State → Event → State}
    {guard : State → Event → Bool} (tight good : State → Prop)
    (stays : ∀ state event, tight state → tight (next state event))
    (exact : ∀ state event, tight state → good state →
      (good (next state event) ↔ guard state event = true))
    (state : State) (initial : tight state) (first : good state) (events : List Event) :
    (∀ front back, front ++ back = events → good (front.foldl next state)) ↔
      guarded next guard state events = true :=
  permitted_prefixes_iff_guarded tight good (fun _ => True) (fun state event _ => stays state event)
    (fun state event _ => exact state event) state initial first events fun _ _ => trivial

theorem prefixes_of_guarded {State : Type u} {Event : Type v} {next : State → Event → State}
    {guard : State → Event → Bool} (good : State → Prop) (permitted : Event → Prop)
    (kept : ∀ state event, permitted event → good state → guard state event = true →
      good (next state event))
    (state : State) (initial : good state) (events : List Event)
    (all : ∀ event ∈ events, permitted event) (passed : guarded next guard state events = true)
    (front back : List Event) (split : front ++ back = events) : good (front.foldl next state) := by
  induction front generalizing state events with
  | nil => exact initial
  | cons event rest ih =>
      subst split
      rw [List.cons_append, guarded_cons, Bool.and_eq_true] at passed
      refine ih (next state event) (kept state event (all event (by simp)) initial passed.1)
        (rest ++ back) (fun other member => all other ?_) passed.2 rfl
      exact List.mem_cons_of_mem _ member

theorem permitted_iff_guarded {State : Type u} {Event : Type v} {next : State → Event → State}
    {guard : State → Event → Bool} (tight : State → Prop) (permitted : Event → Prop)
    (holds : State → Event → Prop)
    (stays : ∀ state event, permitted event → tight state → tight (next state event))
    (exact : ∀ state event, permitted event → tight state →
      (holds state event ↔ guard state event = true))
    (state : State) (initial : tight state) (events : List Event)
    (all : ∀ event ∈ events, permitted event) :
    (∀ front event back, front ++ event :: back = events → holds (front.foldl next state) event) ↔
      guarded next guard state events = true := by
  induction events generalizing state with
  | nil => simp [guarded_nil]
  | cons head rest ih =>
      have allowed := all head List.mem_cons_self
      rw [guarded_cons, Bool.and_eq_true, ← exact state head allowed initial,
        ← ih _ (stays state head allowed initial) fun event member =>
          all event (List.mem_cons_of_mem head member)]
      constructor
      · intro always
        refine ⟨always [] head rest rfl, fun front event back split => ?_⟩
        exact always (head :: front) event back (by rw [List.cons_append, split])
      · rintro ⟨first, later⟩ front event back split
        cases front with
        | nil =>
            simp only [List.nil_append, List.cons.injEq] at split
            exact split.1 ▸ first
        | cons other tail =>
            simp only [List.cons_append, List.cons.injEq] at split
            obtain ⟨rfl, split⟩ := split
            exact later tail event back split

theorem steps_iff_guarded {State : Type u} {Event : Type v} {next : State → Event → State}
    {guard : State → Event → Bool} (tight : State → Prop) (holds : State → Event → Prop)
    (stays : ∀ state event, tight state → tight (next state event))
    (exact : ∀ state event, tight state → (holds state event ↔ guard state event = true))
    (state : State) (initial : tight state) (events : List Event) :
    (∀ front event back, front ++ event :: back = events → holds (front.foldl next state) event) ↔
      guarded next guard state events = true :=
  permitted_iff_guarded tight (fun _ => True) holds (fun state event _ => stays state event)
    (fun state event _ => exact state event) state initial events fun _ _ => trivial

theorem Run.of_foldl {State : Type u} {Event : Type v} (next : State → Event → State)
    (events : List Event) (start : State) :
    Run (fun before event after => next before event = after) start events
      (events.foldl next start) := by
  induction events generalizing start with
  | nil => exact .nil
  | cons event rest ih => exact (ih (next start event)).cons rfl

theorem Run.of_foldlM {State : Type u} {Event : Type v} {next : State → Event → Option State}
    {events : List Event} {start final : State} (reached : events.foldlM next start = some final) :
    Run (fun before event after => next before event = some after) start events final := by
  induction events generalizing start with
  | nil =>
      obtain rfl := Option.some.inj reached
      exact .nil
  | cons event rest ih =>
      rw [List.foldlM_cons] at reached
      obtain ⟨middle, taken, later⟩ := Option.bind_eq_some_iff.mp reached
      exact (ih later).cons taken

theorem foldlM_kept {State : Type u} {Event : Type v} {next : State → Event → Option State}
    {holds : State → Prop} {events : List Event} {start final : State}
    (reached : events.foldlM next start = some final) (initial : holds start)
    (kept : ∀ before event after, event ∈ events → holds before → next before event = some after →
      holds after) : holds final := by
  induction events generalizing start with
  | nil =>
      obtain rfl := Option.some.inj reached
      exact initial
  | cons event rest ih =>
      rw [List.foldlM_cons] at reached
      obtain ⟨middle, taken, later⟩ := Option.bind_eq_some_iff.mp reached
      refine ih later (kept start event middle List.mem_cons_self initial taken) ?_
      intro before other after member
      exact kept before other after (List.mem_cons_of_mem event member)

def restricted {State : Type u} {Event : Type v} (next : State → Event → Option State)
    (allowed : State → Event → Prop) [∀ state event, Decidable (allowed state event)]
    (state : State) (event : Event) : Option State :=
  if allowed state event then next state event else none

theorem Run.of_restricted {State : Type u} {Event : Type v} {next : State → Event → Option State}
    {allowed : State → Event → Prop} [∀ state event, Decidable (allowed state event)]
    {events : List Event} {start final : State}
    (reached : events.foldlM (restricted next allowed) start = some final) :
    Run (fun before event after => next before event = some after ∧ allowed before event)
      start events final := by
  refine (Run.of_foldlM reached).mono fun before event after taken => ?_
  unfold restricted at taken
  split at taken
  · rename_i holds
    exact ⟨taken, holds⟩
  · simp at taken

theorem foldl_related {State : Type u} {Item : Type v} (related : State → State → Prop)
    (refl : ∀ state, related state state)
    (trans : ∀ first second third, related first second → related second third →
      related first third)
    (step : State → Item → State) (kept : ∀ state item, related state (step state item))
    (items : List Item) (state : State) : related state (items.foldl step state) := by
  induction items generalizing state with
  | nil => exact refl state
  | cons item rest ih => exact trans _ _ _ (kept state item) (ih (step state item))

theorem foldl_view {State : Type u} {Item : Type v} {View : Sort w} (view : State → View)
    (step : State → Item → State) (kept : ∀ state item, view (step state item) = view state)
    (items : List Item) (state : State) : view (items.foldl step state) = view state := by
  induction items generalizing state with
  | nil => rfl
  | cons item rest ih => rw [List.foldl_cons, ih, kept]

theorem foldl_kept {State : Type u} {Event : Type v} {View : Sort w} {next : State → Event → State}
    (view : State → View) {events : List Event} {state : State}
    (kept : ∀ front event back, front ++ event :: back = events →
      view (next (front.foldl next state) event) = view (front.foldl next state)) :
    view (events.foldl next state) = view state := by
  induction events using List.reverseRecOn with
  | nil => rfl
  | append_singleton front event ih =>
      rw [List.foldl_append, List.foldl_cons, List.foldl_nil, kept front event [] rfl]
      refine ih fun earlier other back split => ?_
      exact kept earlier other (back ++ [event]) (by rw [← split]; simp)

end Jitong.Lib
