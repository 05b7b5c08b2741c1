import Jitong.Lib.Run
import Jitong.Lib.Spans

/-!
The water mark of a conversation: the numbers that arrived are kept as ranges and
the gaps are what lies between these. The tracker refines the set of the numbers
given to it.
-/

namespace Jitong

open Jitong.Lib

namespace SyncTracker

structure Gap where
  fromSeq : Int
  toSeq : Int
  attempt : Int := 0
  nextRetryAtMs : Int := 0
  deriving DecidableEq

structure Config where
  ownerId : Int := 0
  conversationId : Int := 0
  maxGapsPerPass : Int := 3
  baseBackoffMs : Int := 1000
  maxBackoffMs : Int := 60 * 1000
  deriving DecidableEq

structure RetryInfo where
  attempt : Int := 0
  nextRetryAtMs : Int := 0
  deriving DecidableEq

end SyncTracker

structure SyncTracker where
  config : SyncTracker.Config
  maxSeen : Int := 0
  arrived : List Span := []
  retries : Int → Option SyncTracker.RetryInfo := fun _ => none

namespace SyncTracker

def absorb (range : Span) : List Span → List Span
  | [] => [range]
  | next :: later =>
      if next.first ≤ range.last + 1 then absorb { range with last := max range.last next.last } later
      else range :: next :: later

/-- `std::lower_bound` over ascending ranges: what is before the bound is what compares less. -/
def lowerBound (arrived : List Span) (value : Int) : List Span × List Span :=
  (arrived.takeWhile fun range => range.last < value,
    arrived.dropWhile fun range => range.last < value)

def addArrived (arrived : List Span) (first last : Int) : List Span :=
  if last < first then arrived
  else
    match lowerBound arrived (first - 1) with
    | (before, range :: next) =>
        if range.first ≤ last + 1 then
          before ++ absorb ⟨min range.first first, max range.last last⟩ next
        else before ++ ⟨first, last⟩ :: range :: next
    | (before, []) => before ++ [⟨first, last⟩]

def contiguousSeq (tracker : SyncTracker) : Int :=
  match tracker.arrived with
  | [] => 0
  | range :: _ => if range.first ≠ 1 then 0 else range.last

def gapsBetween : List Span → List Gap
  | left :: right :: later =>
      if left.last + 1 ≤ right.first - 1 then
        { fromSeq := left.last + 1, toSeq := right.first - 1 } :: gapsBetween (right :: later)
      else gapsBetween (right :: later)
  | _ => []

def computeGaps (tracker : SyncTracker) : List Gap :=
  match tracker.arrived with
  | [] => []
  | range :: later =>
      if 1 < range.first then
        { fromSeq := 1, toSeq := range.first - 1 } :: gapsBetween (range :: later)
      else gapsBetween (range :: later)

def withRetry (tracker : SyncTracker) (gap : Gap) : Gap :=
  match tracker.retries gap.fromSeq with
  | some info => { gap with attempt := info.attempt, nextRetryAtMs := info.nextRetryAtMs }
  | none => gap

def gapsWithRetry (tracker : SyncTracker) : List Gap := tracker.computeGaps.map tracker.withRetry

def gaps (tracker : SyncTracker) : List Gap := tracker.gapsWithRetry

def hasGaps (tracker : SyncTracker) : Bool := !tracker.computeGaps.isEmpty

def restoreRange (tracker : SyncTracker) (range : Int × Int) : SyncTracker :=
  if 0 < range.1 ∧ range.1 ≤ range.2 then
    { tracker with
      arrived := addArrived tracker.arrived range.1 range.2
      maxSeen := max tracker.maxSeen range.2 }
  else tracker

def restoreRetry (tracker : SyncTracker) (gap : Gap) : SyncTracker :=
  if 0 < gap.fromSeq ∧ gap.fromSeq ≤ gap.toSeq ∧ 0 < gap.attempt then
    { tracker with
      retries := Function.update tracker.retries gap.fromSeq
        (some ⟨gap.attempt, gap.nextRetryAtMs⟩) }
  else tracker

def restore (tracker : SyncTracker) (arrived : List (Int × Int)) (persistedGaps : List Gap) :
    SyncTracker :=
  persistedGaps.foldl restoreRetry (arrived.foldl restoreRange
    { tracker with arrived := [], retries := fun _ => none, maxSeen := 0 })

def observeSeq (tracker : SyncTracker) (seq : Int) : Bool × SyncTracker :=
  if seq ≤ 0 then (false, tracker)
  else
    let observed := { tracker with
      maxSeen := if seq > tracker.maxSeen then seq else tracker.maxSeen
      arrived := addArrived tracker.arrived seq seq }
    (observed.contiguousSeq > tracker.contiguousSeq, observed)

def fillGap (tracker : SyncTracker) (fromSeq toSeq : Int) : SyncTracker :=
  if fromSeq > toSeq then tracker
  else
    { tracker with
      maxSeen := if toSeq > tracker.maxSeen then toSeq else tracker.maxSeen
      arrived := addArrived tracker.arrived fromSeq toSeq }

def doubled (maxBackoffMs : Int) : Nat → Int → Int
  | 0, value => value
  | more + 1, value =>
      if value < maxBackoffMs then doubled maxBackoffMs more (2 * value) else value

def backoffFor (tracker : SyncTracker) (attempt : Int) : Int :=
  min (doubled tracker.config.maxBackoffMs (attempt - 1).toNat tracker.config.baseBackoffMs)
    tracker.config.maxBackoffMs

def markGapAttemptFailed (tracker : SyncTracker) (nowMs : Int) : SyncTracker :=
  match tracker.computeGaps with
  | [] => tracker
  | gap :: _ =>
      let attempt := ((tracker.retries gap.fromSeq).getD {}).attempt + 1
      { tracker with
        retries := Function.update tracker.retries gap.fromSeq
          (some ⟨attempt, nowMs + tracker.backoffFor attempt⟩) }

def pendingGaps (tracker : SyncTracker) (nowMs : Int) : List Gap :=
  (tracker.gapsWithRetry.filter fun gap => !decide (gap.nextRetryAtMs > nowMs)).take
    (max 1 tracker.config.maxGapsPerPass.toNat)

section Ranges

open Span

variable {range : Span} {arrived later : List Span} {first last number : Int}

theorem absorb_first (below : ∀ next ∈ later, range.first ≤ next.first) :
    ∀ kept ∈ absorb range later, range.first ≤ kept.first := by
  induction later generalizing range with
  | nil => simp [absorb]
  | cons next later ih =>
      intro kept member
      simp only [absorb] at member
      split at member
      · exact @ih { range with last := max range.last next.last }
          (fun other listed => below other (List.mem_cons_of_mem _ listed)) kept member
      · rcases List.mem_cons.mp member with rfl | member
        · exact le_rfl
        · exact below kept member

theorem absorb_apart (apart : Apart later) (ordered : range.first ≤ range.last)
    (below : ∀ next ∈ later, range.first ≤ next.first) : Apart (absorb range later) := by
  induction later generalizing range with
  | nil => exact apart_cons.mpr ⟨ordered, by simp, apart_nil⟩
  | cons next later ih =>
      obtain ⟨nextOrdered, beyond, rest⟩ := apart_cons.mp apart
      simp only [absorb]
      split
      · refine ih rest ?_ fun other listed => below other (List.mem_cons_of_mem _ listed)
        simp only
        omega
      · rename_i separate
        refine apart_cons.mpr ⟨ordered, fun other listed => ?_, apart⟩
        rcases List.mem_cons.mp listed with rfl | listed
        · omega
        · have := beyond other listed
          omega

theorem mem_absorb (apart : Apart later) (ordered : range.first ≤ range.last)
    (below : ∀ next ∈ later, range.first ≤ next.first) :
    number ∈ members (absorb range later) ↔ number ∈ members (range :: later) := by
  induction later generalizing range with
  | nil => rfl
  | cons next later ih =>
      obtain ⟨nextOrdered, _, rest⟩ := apart_cons.mp apart
      have start := below next List.mem_cons_self
      simp only [absorb]
      split
      · rename_i touching
        rw [@ih { range with last := max range.last next.last } rest
          (by simp only; omega) fun other listed => below other (List.mem_cons_of_mem _ listed)]
        simp only [mem_members_cons, ← or_assoc]
        refine or_congr ⟨?_, ?_⟩ Iff.rfl
        · rintro ⟨lower, upper⟩
          omega
        · rintro (⟨lower, upper⟩ | ⟨lower, upper⟩)
          all_goals exact ⟨by omega, by omega⟩
      · rfl

theorem lowerBound_before {value : Int} :
    ∀ earlier ∈ (lowerBound arrived value).1, earlier.last < value := by
  intro earlier member
  simpa using List.mem_takeWhile_imp member

theorem lowerBound_append (arrived : List Span) (value : Int) :
    (lowerBound arrived value).1 ++ (lowerBound arrived value).2 = arrived :=
  List.takeWhile_append_dropWhile

theorem lowerBound_head {value : Int} (found : (lowerBound arrived value).2 = range :: later) :
    value ≤ range.last := by
  have stopped := List.head?_dropWhile_not (fun range : Span => decide (range.last < value)) arrived
  rw [show arrived.dropWhile (fun range => decide (range.last < value)) = range :: later
    from found] at stopped
  simpa using stopped

theorem addArrived_spec (apart : Apart arrived) (ordered : first ≤ last) :
    Apart (addArrived arrived first last) ∧ ∀ number,
      number ∈ members (addArrived arrived first last) ↔
        number ∈ members arrived ∨ (first ≤ number ∧ number ≤ last) := by
  obtain ⟨before, after, found⟩ : ∃ before after, lowerBound arrived (first - 1) = (before, after) :=
    ⟨_, _, rfl⟩
  have whole : before ++ after = arrived := by
    simpa [found] using lowerBound_append arrived (first - 1)
  have behind : ∀ earlier ∈ before, earlier.last < first - 1 := by
    simpa [found] using @lowerBound_before arrived (first - 1)
  obtain ⟨beforeApart, afterApart, between⟩ := apart_append.mp (whole.symm ▸ apart)
  simp only [addArrived, if_neg (show ¬last < first by omega), found]
  cases after with
  | nil =>
      refine ⟨apart_append.mpr ⟨beforeApart, apart_cons.mpr ⟨ordered, by simp, apart_nil⟩, ?_⟩, ?_⟩
      · intro earlier listed later member
        have := behind earlier listed
        rcases List.mem_singleton.mp member with rfl
        simp only
        omega
      · intro number
        simp [← whole]
  | cons range next =>
      have reaches : first - 1 ≤ range.last :=
        lowerBound_head (show (lowerBound arrived (first - 1)).2 = range :: next by rw [found])
      obtain ⟨rangeOrdered, beyond, nextApart⟩ := apart_cons.mp afterApart
      simp only
      split
      · rename_i touching
        have below : ∀ other ∈ next, (⟨min range.first first, max range.last last⟩ : Span).first ≤
            other.first := by
          intro other listed
          have := beyond other listed
          simp only
          omega
        have joined : (⟨min range.first first, max range.last last⟩ : Span).first ≤
            (⟨min range.first first, max range.last last⟩ : Span).last := by
          simp only
          omega
        refine ⟨apart_append.mpr ⟨beforeApart, absorb_apart nextApart joined below, ?_⟩, ?_⟩
        · intro earlier listed later member
          have start := absorb_first below later member
          have := behind earlier listed
          have := between earlier listed range List.mem_cons_self
          simp only at start
          omega
        · intro number
          rw [mem_members_append, mem_absorb nextApart joined below, ← whole]
          simp only [mem_members_append, mem_members_cons]
          constructor
          · rintro (held | ⟨lower, upper⟩ | held)
            · exact .inl (.inl held)
            · by_cases old : range.first ≤ number ∧ number ≤ range.last
              · exact .inl (.inr (.inl old))
              · exact .inr (by omega)
            · exact .inl (.inr (.inr held))
          · rintro ((held | held | held) | held)
            · exact .inl held
            · exact .inr (.inl (by omega))
            · exact .inr (.inr held)
            · exact .inr (.inl (by omega))
      · rename_i separate
        refine ⟨apart_append.mpr ⟨beforeApart, apart_cons.mpr ⟨ordered, ?_, afterApart⟩, ?_⟩, ?_⟩
        · intro other listed
          rcases List.mem_cons.mp listed with rfl | listed
          · simp only
            omega
          · have := beyond other listed
            simp only
            omega
        · intro earlier listed later member
          have := behind earlier listed
          rcases List.mem_cons.mp member with rfl | member
          · simp only
            omega
          · exact between earlier listed later member
        · intro number
          rw [← whole]
          simp only [mem_members_append, mem_members_cons]
          tauto

end Ranges

def Gap.span (gap : Gap) : Span := ⟨gap.fromSeq, gap.toSeq⟩

theorem gapsBetween_spans (range : Span) (later : List Span) :
    (gapsBetween (range :: later)).map Gap.span = Span.holes (range.last + 1) later := by
  induction later generalizing range with
  | nil => rfl
  | cons next later ih =>
      simp only [gapsBetween, Span.holes]
      by_cases room : range.last + 1 < next.first
      · rw [if_pos (by omega), if_pos room, List.map_cons, ih]
        rfl
      · rw [if_neg (by omega), if_neg room, ih]

theorem computeGaps_spans (tracker : SyncTracker) :
    tracker.computeGaps.map Gap.span = Span.holes 1 tracker.arrived := by
  unfold computeGaps
  cases tracker.arrived with
  | nil => rfl
  | cons range later =>
      simp only [Span.holes]
      split
      · rw [List.map_cons, gapsBetween_spans]
        rfl
      · exact gapsBetween_spans range later

theorem withRetry_span (tracker : SyncTracker) (gap : Gap) :
    (tracker.withRetry gap).span = gap.span := by
  unfold withRetry
  split <;> rfl

theorem gaps_spans (tracker : SyncTracker) :
    tracker.gaps.map Gap.span = Span.holes 1 tracker.arrived := by
  rw [← computeGaps_spans]
  simp [gaps, gapsWithRetry, withRetry_span]

structure Refines (tracker : SyncTracker) (numbers : Set Int) : Prop where
  lists : Span.Lists numbers tracker.arrived
  positive : ∀ number ∈ numbers, 0 < number
  seen : ∀ number ∈ numbers, number ≤ tracker.maxSeen
  greatest : tracker.maxSeen ∈ numbers ∨ numbers = ∅ ∧ tracker.maxSeen = 0

def missing (numbers : Set Int) : Set Int :=
  {number | 1 ≤ number ∧ (∃ greatest, IsGreatest numbers greatest ∧ number ≤ greatest) ∧
    number ∉ numbers}

def marks (numbers : Set Int) : Set Int :=
  {mark | 0 ≤ mark ∧ ∀ number, 1 ≤ number → number ≤ mark → number ∈ numbers}

namespace Refines

variable {tracker : SyncTracker} {numbers : Set Int}

theorem starts (refines : tracker.Refines numbers) :
    ∀ range ∈ tracker.arrived, 1 ≤ range.first := by
  intro range member
  have ordered := refines.lists.apart.ordered range member
  have held := ((refines.lists.listed range).mp member).inside range.first le_rfl ordered
  have := refines.positive _ held
  omega

theorem maxSeen_greatest (refines : tracker.Refines numbers) (some : numbers.Nonempty) :
    IsGreatest numbers tracker.maxSeen := by
  rcases refines.greatest with held | ⟨empty, _⟩
  · exact ⟨held, refines.seen⟩
  · exact absurd empty some.ne_empty

theorem gaps_lists (refines : tracker.Refines numbers) :
    Span.Lists (missing numbers) (tracker.gaps.map Gap.span) := by
  rw [gaps_spans]
  have listed := Span.lists_holes refines.lists.apart refines.starts
  rw [refines.lists.covered] at listed
  convert listed using 1
  ext number
  constructor
  · rintro ⟨lower, ⟨greatest, isGreatest, upper⟩, absent⟩
    refine ⟨lower, absent, greatest, isGreatest.1, lt_of_le_of_ne upper ?_⟩
    rintro rfl
    exact absent isGreatest.1
  · rintro ⟨lower, absent, greater, held, less⟩
    have greatest := refines.maxSeen_greatest ⟨greater, held⟩
    exact ⟨lower, ⟨_, greatest, (less.trans_le (greatest.2 held)).le⟩, absent⟩

theorem contiguousSeq_greatest (refines : tracker.Refines numbers) :
    IsGreatest (marks numbers) tracker.contiguousSeq := by
  have starts := refines.starts
  have apart := refines.lists.apart
  have covered := refines.lists.covered
  unfold contiguousSeq
  cases arrived : tracker.arrived with
  | nil =>
      rw [arrived] at covered
      simp only
      refine ⟨⟨le_rfl, fun number lower upper => by omega⟩, fun mark ⟨_, held⟩ => ?_⟩
      by_contra above
      have := held 1 le_rfl (by omega)
      rw [← covered] at this
      exact Span.mem_members_nil this
  | cons range later =>
      rw [arrived] at apart covered starts
      have start := starts range List.mem_cons_self
      obtain ⟨ordered, below, _⟩ := Span.apart_cons.mp apart
      simp only
      split
      · rename_i late
        refine ⟨⟨le_rfl, fun number lower upper => by omega⟩, fun mark ⟨_, held⟩ => ?_⟩
        by_contra above
        have one := held 1 le_rfl (by omega)
        rw [← covered] at one
        rcases Span.mem_members_cons.mp one with inside | inside
        · omega
        · have := Span.lt_of_mem below inside
          omega
      · rename_i first
        have first : range.first = 1 := not_not.mp first
        rw [← covered]
        refine ⟨⟨by omega, fun number lower upper => ?_⟩, fun mark ⟨_, held⟩ => ?_⟩
        · exact Span.mem_members_cons.mpr (.inl ⟨by omega, upper⟩)
        · exact apart.unbroken.mp fun number lower upper => held number (by omega) upper

theorem unique {other : SyncTracker} (refines : tracker.Refines numbers)
    (same : other.Refines numbers) :
    tracker.arrived = other.arrived ∧ tracker.computeGaps = other.computeGaps := by
  have arrived := refines.lists.unique same.lists
  refine ⟨arrived, ?_⟩
  unfold computeGaps
  rw [arrived]

theorem add (refines : tracker.Refines numbers) {first last : Int} (positive : 0 < first)
    (ordered : first ≤ last) {after : SyncTracker}
    (arrived : after.arrived = addArrived tracker.arrived first last)
    (maxSeen : after.maxSeen = max tracker.maxSeen last) :
    after.Refines (numbers ∪ Set.Icc first last) := by
  obtain ⟨apart, holds⟩ := addArrived_spec refines.lists.apart ordered
  have covered : Span.members after.arrived = numbers ∪ Set.Icc first last := by
    ext number
    rw [arrived, holds, refines.lists.covered]
    rfl
  refine ⟨covered ▸ Span.Apart.lists (arrived ▸ apart), ?_, ?_, .inl ?_⟩
  · rintro number (held | ⟨lower, _⟩)
    · exact refines.positive number held
    · omega
  · rintro number (held | ⟨_, upper⟩)
    · have := refines.seen number held
      omega
    · omega
  · rw [maxSeen]
    rcases refines.greatest with held | ⟨_, zero⟩
    · rcases max_choice tracker.maxSeen last with kept | raised
      · rw [kept]
        exact .inl held
      · rw [raised]
        exact .inr ⟨ordered, le_rfl⟩
    · rw [zero, max_eq_right (by omega)]
      exact .inr ⟨ordered, le_rfl⟩

end Refines

inductive Call
  | restore (arrived : List (Int × Int)) (persistedGaps : List Gap)
  | observeSeq (seq : Int)
  | fillGap (fromSeq toSeq : Int)

def call (tracker : SyncTracker) : Call → SyncTracker
  | .restore arrived persistedGaps => tracker.restore arrived persistedGaps
  | .observeSeq seq => (tracker.observeSeq seq).2
  | .fillGap fromSeq toSeq => tracker.fillGap fromSeq toSeq

def after (config : Config)
    (calls : List Call) : SyncTracker := calls.foldl call { config := config }

def Call.give (numbers : Set Int) : Call → Set Int
  | .restore arrived _ => {number | ∃ range ∈ arrived, range.1 ≤ number ∧ number ≤ range.2}
  | .observeSeq seq => numbers ∪ {seq}
  | .fillGap fromSeq toSeq => numbers ∪ Set.Icc fromSeq toSeq

def given (calls : List Call) : Set Int := calls.foldl Call.give ∅

def Call.persist (persistedGaps : List Gap) : Call → List Gap
  | .restore _ gaps => gaps
  | _ => persistedGaps

def persisted (calls : List Call) : List Gap := calls.foldl Call.persist []

theorem new_refines (config : Config) : ({ config := config } : SyncTracker).Refines ∅ :=
  ⟨Span.members_nil ▸ Span.apart_nil.lists, by simp, by simp, .inr ⟨rfl, rfl⟩⟩

theorem restoreRetry_kept (persistedGaps : List Gap) (tracker : SyncTracker) :
    (persistedGaps.foldl restoreRetry tracker).arrived = tracker.arrived ∧
      (persistedGaps.foldl restoreRetry tracker).maxSeen = tracker.maxSeen := by
  induction persistedGaps generalizing tracker with
  | nil => exact ⟨rfl, rfl⟩
  | cons gap later ih =>
      have kept : (restoreRetry tracker gap).arrived = tracker.arrived ∧
          (restoreRetry tracker gap).maxSeen = tracker.maxSeen := by
        unfold restoreRetry
        split <;> exact ⟨rfl, rfl⟩
      rw [List.foldl_cons]
      exact ⟨(ih _).1.trans kept.1, (ih _).2.trans kept.2⟩

theorem restore_config (tracker : SyncTracker) (arrived : List (Int × Int))
    (persistedGaps : List Gap) :
    (tracker.restore arrived persistedGaps).config = tracker.config := by
  rw [restore, Lib.foldl_view (fun tracker : SyncTracker => tracker.config) restoreRetry
    (fun tracker gap => by unfold restoreRetry; split <;> rfl),
    Lib.foldl_view (fun tracker : SyncTracker => tracker.config) restoreRange
    (fun tracker range => by unfold restoreRange; split <;> rfl)]

theorem restoreRange_refines {tracker : SyncTracker} {numbers : Set Int}
    (refines : tracker.Refines numbers) {arrived : List (Int × Int)}
    (positive : ∀ range ∈ arrived, 0 < range.1) :
    (arrived.foldl restoreRange tracker).Refines
      (numbers ∪ {number | ∃ range ∈ arrived, range.1 ≤ number ∧ number ≤ range.2}) := by
  induction arrived generalizing tracker numbers with
  | nil => simpa using refines
  | cons range later ih =>
      have start := positive range List.mem_cons_self
      have step : (restoreRange tracker range).Refines (numbers ∪ Set.Icc range.1 range.2) := by
        unfold restoreRange
        by_cases ordered : range.1 ≤ range.2
        · rw [if_pos ⟨start, ordered⟩]
          exact refines.add start ordered rfl rfl
        · rw [if_neg (by tauto), Set.Icc_eq_empty ordered, Set.union_empty]
          exact refines
      have rest := ih step fun other member => positive other (List.mem_cons_of_mem _ member)
      rw [List.foldl_cons]
      convert rest using 1
      ext number
      simp [or_and_right, exists_or, or_assoc]

theorem restore_refines (tracker : SyncTracker) {arrived : List (Int × Int)}
    (persistedGaps : List Gap) (positive : ∀ range ∈ arrived, 0 < range.1) :
    (tracker.restore arrived persistedGaps).Refines
      {number | ∃ range ∈ arrived, range.1 ≤ number ∧ number ≤ range.2} := by
  obtain ⟨kept, seen⟩ := restoreRetry_kept persistedGaps (arrived.foldl restoreRange
    { tracker with arrived := [], retries := fun _ => none, maxSeen := 0 })
  have empty : ({ tracker with arrived := [], retries := fun _ => none, maxSeen := 0 } :
      SyncTracker).Refines ∅ := new_refines tracker.config
  have filled := restoreRange_refines empty positive
  rw [Set.empty_union] at filled
  exact ⟨kept ▸ filled.lists, filled.positive, seen ▸ filled.seen, seen ▸ filled.greatest⟩

theorem raised_eq_max (seen last : Int) : (if last > seen then last else seen) = max seen last := by
  split <;> omega

theorem observeSeq_eq (tracker : SyncTracker) {seq : Int} (positive : 0 < seq) :
    (tracker.observeSeq seq).2 = { tracker with
      maxSeen := max tracker.maxSeen seq, arrived := addArrived tracker.arrived seq seq } := by
  rw [observeSeq, if_neg (by omega), raised_eq_max]

theorem restoreRange_retries (arrived : List (Int × Int)) (tracker : SyncTracker) :
    (arrived.foldl restoreRange tracker).retries = tracker.retries := by
  induction arrived generalizing tracker with
  | nil => rfl
  | cons range later ih =>
      rw [List.foldl_cons, ih]
      unfold restoreRange
      split <;> rfl

theorem restoreRetry_retries (persistedGaps : List Gap) {tracker other : SyncTracker}
    (same : tracker.retries = other.retries) :
    (persistedGaps.foldl restoreRetry tracker).retries =
      (persistedGaps.foldl restoreRetry other).retries := by
  induction persistedGaps generalizing tracker other with
  | nil => exact same
  | cons gap later ih =>
      refine ih ?_
      simp only [restoreRetry]
      split
      · rw [same]
      · exact same

end SyncTracker

end Jitong
