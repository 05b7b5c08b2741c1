import Jitong.GapRepair
import Jitong.Lib.Run

/-!
Which gap a failed request is charged to. The requests that are under way are kept beside the
runtime, which itself does not know them: it charges the first gap of the conversation.
-/

namespace Jitong

open Jitong.Lib SyncTracker

structure GapWorld where
  repair : GapRepair
  asked : List Gap := []
  nowMs : Int

/-- The handlers take the runtime's mutex more than once, so that their parts are events. A page
comes for a request that is under way or for none of these: late, or asked for by the user. -/
inductive GapEvent
  | store (incoming : IncomingChat) (nowMs : Int)
  | page (own : Option Gap) (page : List IncomingChat) (hasMore : Bool) (nowMs : Int)
  | request (nowMs : Int) (isOpen stillOpen : Bool)
  | timer (nowMs : Int) (isOpen stillOpen : Bool)

def GapEvent.nowMs : GapEvent → Int
  | .store _ nowMs | .page _ _ _ nowMs | .request nowMs _ _ | .timer nowMs _ _ => nowMs

def IncomingChat.brings (repair : GapRepair) (gap : Gap) (incoming : IncomingChat) : Bool :=
  incoming.message.peer repair.ownerId = repair.conversationId &&
    incoming.message.accepted repair.ownerId && incoming.committed &&
    gap.fromSeq ≤ incoming.message.conversationSeq && incoming.message.conversationSeq ≤ gap.toSeq

namespace GapWorld

def start (ownerId conversationId gapRequestTimeoutMs : Int) (arrived : List (Int × Int))
    (persistedGaps : List Gap) (nowMs : Int) : GapWorld where
  repair := {
    ownerId, conversationId, gapRequestTimeoutMs
    tracker := SyncTracker.restore { config := { ownerId, conversationId } } arrived persistedGaps }
  nowMs

/-- What `maybeRequestGap` and a timer do in the event, if the event is one of these. -/
def attempt (world : GapWorld) : GapEvent → GapOutcome × GapRepair
  | .request nowMs isOpen stillOpen => world.repair.maybeRequestGap nowMs isOpen stillOpen
  | .timer nowMs isOpen stillOpen =>
      match world.repair.timer with
      | some timer => world.repair.runSyncTimer timer nowMs isOpen stillOpen
      | none => (.nothing, world.repair)
  | _ => (.nothing, world.repair)

def timesOut (world : GapWorld) : GapEvent → Bool
  | .timer .. => world.repair.timer.any fun timer => timer.requestTimeout
  | _ => false

def next (world : GapWorld) (event : GapEvent) : GapWorld :=
  match event with
  | .store incoming nowMs =>
      { world with repair := (world.repair.storeProtocolMessage incoming).2, nowMs }
  | .page own page hasMore nowMs =>
      { repair := world.repair.takePage page hasMore nowMs
        asked := own.elim world.asked world.asked.erase
        nowMs }
  | event =>
      let asked := if world.timesOut event then world.asked.tail else world.asked
      match world.attempt event with
      | (.sent request, repair) => ⟨repair, request.gap :: asked, event.nowMs⟩
      | (_, repair) => ⟨repair, asked, event.nowMs⟩

def allowed (world : GapWorld) (event : GapEvent) : Bool :=
  world.nowMs ≤ event.nowMs &&
    match event with
    | .page (some gap) .. => world.asked.contains gap
    | .timer nowMs .. => world.repair.timer.any fun timer => timer.atMs ≤ nowMs
    | _ => true

def failed (world : GapWorld) (event : GapEvent) : Option Gap :=
  match event with
  | .page (some gap) page _ _ => if page.any (·.brings world.repair gap) then none else some gap
  | .page none .. | .store .. => none
  | event =>
      if world.timesOut event then
        if world.repair.inFlight then world.asked.head? else none
      else
        match (world.attempt event).1 with
        | .refused request => some request.gap
        | _ => none

def arrivals (world : GapWorld) : GapEvent → SyncTracker
  | .store incoming _ => (world.repair.storeProtocolMessage incoming).2.tracker
  | .page _ page _ _ => (world.repair.settle.storePage page).2.tracker
  | _ => world.repair.tracker

def recorded (world : GapWorld) : GapEvent → Bool
  | .page _ page hasMore _ => !(world.repair.settle.storePage page).1 || !hasMore
  | _ => true

def chargesFirst (world : GapWorld) (event : GapEvent) : Bool :=
  match world.failed event with
  | none => true
  | some gap =>
      if world.recorded event then
        (world.arrivals event).computeGaps.head?.all fun first => first.fromSeq = gap.fromSeq
      else (world.arrivals event).computeGaps.all fun other => other.fromSeq ≠ gap.fromSeq

end GapWorld

def SyncTracker.lacks (tracker : SyncTracker) (gap : Gap) : Prop :=
  ∃ other ∈ tracker.computeGaps, other.fromSeq = gap.fromSeq

instance (tracker : SyncTracker) (gap : Gap) : Decidable (tracker.lacks gap) :=
  inferInstanceAs (Decidable (∃ _ ∈ _, _))

def Charged (gap : Gap) (nowMs : Int) (before after : SyncTracker) : Prop :=
  ∀ key, after.retries key =
    if key = gap.fromSeq ∧ after.lacks gap then
      let attempt := ((before.retries key).getD {}).attempt + 1
      some ⟨attempt, nowMs + before.backoffFor attempt⟩
    else before.retries key

def GapWorld.requested (world : GapWorld) (event : GapEvent) : Option Gap :=
  match (world.attempt event).1 with
  | .sent request | .refused request => some request.gap
  | .nothing => none

section Charges

variable {tracker before : SyncTracker} {gap : Gap} {nowMs : Int}

theorem computeGaps_marked (tracker : SyncTracker) (nowMs : Int) :
    (tracker.markGapAttemptFailed nowMs).computeGaps = tracker.computeGaps := by
  unfold markGapAttemptFailed
  split <;> rfl

theorem retries_marked (tracker : SyncTracker) (nowMs key : Int) :
    (tracker.markGapAttemptFailed nowMs).retries key =
      if ∃ first, tracker.computeGaps.head? = some first ∧ first.fromSeq = key then
        let attempt := ((tracker.retries key).getD {}).attempt + 1
        some ⟨attempt, nowMs + tracker.backoffFor attempt⟩
      else tracker.retries key := by
  unfold markGapAttemptFailed
  cases tracker.computeGaps with
  | nil => simp
  | cons first later =>
      by_cases same : first.fromSeq = key
      · subst same
        simp
      · simp [same, Ne.symm same]

theorem attempt_grows (known : Option RetryInfo) (retryAt : Int) :
    known ≠ some ⟨(known.getD {}).attempt + 1, retryAt⟩ := by
  rintro same
  have grown := congrArg (fun info : Option RetryInfo => (info.getD {}).attempt) same
  simp only [Option.getD_some] at grown
  omega

theorem charged_marked_iff (retries : tracker.retries = before.retries)
    (config : tracker.config = before.config) :
    Charged gap nowMs before (tracker.markGapAttemptFailed nowMs) ↔
      ∀ first, tracker.computeGaps.head? = some first → first.fromSeq = gap.fromSeq := by
  have backoff : tracker.backoffFor = before.backoffFor := by
    funext attempt
    simp only [backoffFor, config]
  simp only [Charged, retries_marked, retries, backoff]
  constructor
  · intro charged first head
    by_contra other
    have key := charged first.fromSeq
    rw [if_pos ⟨first, head, rfl⟩, if_neg (fun same => other same.1)] at key
    exact attempt_grows _ _ key.symm
  · intro own key
    refine if_congr ⟨?_, ?_⟩ rfl rfl
    · rintro ⟨first, head, rfl⟩
      refine ⟨own first head, first, ?_, own first head⟩
      rw [computeGaps_marked]
      exact List.mem_of_head? head
    · rintro ⟨rfl, other, member, _⟩
      rw [computeGaps_marked] at member
      cases found : tracker.computeGaps with
      | nil => simp [found] at member
      | cons first later => exact ⟨first, rfl, own first (by rw [found]; rfl)⟩

theorem charged_unmarked_iff (retries : tracker.retries = before.retries) :
    Charged gap nowMs before tracker ↔ ∀ other ∈ tracker.computeGaps, other.fromSeq ≠ gap.fromSeq := by
  simp only [Charged, retries]
  constructor
  · rintro charged other member same
    have key := charged gap.fromSeq
    rw [if_pos ⟨rfl, other, member, same⟩] at key
    exact attempt_grows _ _ key
  · intro gone key
    rw [if_neg]
    rintro ⟨rfl, other, member, same⟩
    exact gone other member same

end Charges

namespace GapWorld

variable (world : GapWorld) (event : GapEvent)

theorem arrivals_kept : (world.arrivals event).retries = world.repair.tracker.retries ∧
    (world.arrivals event).config = world.repair.tracker.config := by
  cases event with
  | store incoming nowMs =>
      obtain ⟨identity, retries⟩ := world.repair.storeProtocolMessage_kept incoming
      exact ⟨retries, congrArg (fun identity => identity.2.2.2) identity⟩
  | page own page hasMore nowMs =>
      obtain ⟨identity, retries⟩ := world.repair.settle.storePage_kept page
      exact ⟨retries, congrArg (fun identity => identity.2.2.2) identity⟩
  | request => exact ⟨rfl, rfl⟩
  | timer => exact ⟨rfl, rfl⟩

theorem attempt_identity : (world.attempt event).2.identity = world.repair.identity := by
  cases event with
  | store => rfl
  | page => rfl
  | request nowMs isOpen stillOpen =>
      exact world.repair.maybeRequestGap_identity nowMs isOpen stillOpen
  | timer nowMs isOpen stillOpen =>
      simp only [attempt]
      split
      · exact world.repair.runSyncTimer_identity _ nowMs isOpen stillOpen
      · rfl

theorem next_identity : (world.next event).repair.identity = world.repair.identity := by
  cases event with
  | store incoming nowMs => exact (world.repair.storeProtocolMessage_kept incoming).1
  | page own page hasMore nowMs => exact world.repair.takePage_identity page hasMore nowMs
  | request nowMs isOpen stillOpen =>
      have kept := world.attempt_identity (.request nowMs isOpen stillOpen)
      unfold next
      dsimp only
      split <;> simpa [*] using kept
  | timer nowMs isOpen stillOpen =>
      have kept := world.attempt_identity (.timer nowMs isOpen stillOpen)
      unfold next
      dsimp only
      split <;> simpa [*] using kept

theorem next_request (nowMs : Int) (isOpen stillOpen : Bool) :
    (world.next (.request nowMs isOpen stillOpen)).repair =
      (world.attempt (.request nowMs isOpen stillOpen)).2 := by
  unfold next
  dsimp only
  split <;> simp [*]

theorem next_timer (nowMs : Int) (isOpen stillOpen : Bool) :
    (world.next (.timer nowMs isOpen stillOpen)).repair =
      (world.attempt (.timer nowMs isOpen stillOpen)).2 := by
  unfold next
  dsimp only
  split <;> simp [*]

theorem next_nowMs : (world.next event).nowMs = event.nowMs := by
  cases event with
  | store | page => rfl
  | request | timer =>
      unfold next
      dsimp only
      split <;> rfl

variable {world event}

theorem attempt_cases (conversation : 0 < world.repair.conversationId) :
    ((world.attempt event).1 = .nothing ∧
      ((world.attempt event).2.tracker = world.repair.tracker ∨
        (world.attempt event).2.tracker = world.repair.tracker.markGapAttemptFailed event.nowMs)) ∨
    (world.timesOut event = false ∧ ∃ gap ∈ world.repair.tracker.pendingGaps event.nowMs,
      ((world.attempt event).1 = .sent (GapRepair.gapRequest gap) ∧
        (world.attempt event).2.tracker = world.repair.tracker) ∨
      ((world.attempt event).1 = .refused (GapRepair.gapRequest gap) ∧
        (world.attempt event).2.tracker =
          world.repair.tracker.markGapAttemptFailed event.nowMs)) := by
  cases event with
  | store | page => exact .inl ⟨rfl, .inl rfl⟩
  | request nowMs isOpen stillOpen =>
      rcases world.repair.maybeRequestGap_cases conversation nowMs isOpen stillOpen with
        quiet | asks
      · exact .inl quiet
      · exact .inr ⟨rfl, asks⟩
  | timer nowMs isOpen stillOpen =>
      simp only [attempt, timesOut]
      cases armed : world.repair.timer with
      | none => exact .inl ⟨rfl, .inl rfl⟩
      | some timer =>
          simp only [GapRepair.runSyncTimer, Option.any_some]
          cases timeout : timer.requestTimeout with
          | true =>
              refine .inl ⟨rfl, ?_⟩
              simp only [GapRepair.timeOut, if_true]
              split
              · exact .inr (GapRepair.failGap_tracker _ (by exact conversation) nowMs)
              · exact .inl rfl
          | false =>
              rcases GapRepair.maybeRequestGap_cases { world.repair with timer := none }
                conversation nowMs isOpen stillOpen with quiet | asks
              · exact .inl quiet
              · exact .inr ⟨rfl, asks⟩

theorem next_tracker (conversation : 0 < world.repair.conversationId) :
    (world.next event).repair.tracker = world.arrivals event ∨
      (world.next event).repair.tracker =
        (world.arrivals event).markGapAttemptFailed event.nowMs := by
  have attempted := @attempt_cases world event conversation
  cases event with
  | store => exact .inl rfl
  | page own page hasMore nowMs =>
      have taken := world.repair.takePage_tracker conversation page hasMore nowMs
      simp only at taken
      split at taken
      · exact .inr taken
      · exact .inl taken
  | request nowMs isOpen stillOpen =>
      rw [next_request]
      rcases attempted with ⟨_, same | marked⟩ | ⟨_, _, _, ⟨_, same⟩ | ⟨_, marked⟩⟩
      · exact .inl same
      · exact .inr marked
      · exact .inl same
      · exact .inr marked
  | timer nowMs isOpen stillOpen =>
      rw [next_timer]
      rcases attempted with ⟨_, same | marked⟩ | ⟨_, _, _, ⟨_, same⟩ | ⟨_, marked⟩⟩
      · exact .inl same
      · exact .inr marked
      · exact .inl same
      · exact .inr marked

theorem failed_tracker (conversation : 0 < world.repair.conversationId) {gap : Gap}
    (failed : world.failed event = some gap) :
    (world.next event).repair.tracker =
      if world.recorded event then (world.arrivals event).markGapAttemptFailed event.nowMs
      else world.arrivals event := by
  have attempted := @attempt_cases world event conversation
  cases event with
  | store => cases failed
  | page own page hasMore nowMs => exact world.repair.takePage_tracker conversation page hasMore nowMs
  | request nowMs isOpen stillOpen =>
      rw [next_request]
      simp only [GapWorld.failed, timesOut, Bool.false_eq_true, if_false] at failed
      rcases attempted with ⟨nothing, _⟩ | ⟨_, _, _, ⟨sent, _⟩ | ⟨_, marked⟩⟩
      · simp [nothing] at failed
      · simp [sent] at failed
      · exact marked
  | timer nowMs isOpen stillOpen =>
      rw [next_timer]
      cases timeout : world.timesOut (.timer nowMs isOpen stillOpen) with
      | true =>
          simp only [GapWorld.failed, timeout, if_true] at failed
          simp only [timesOut, Option.any_eq_true] at timeout
          obtain ⟨timer, armed, requested⟩ := timeout
          split at failed
          · rename_i flying
            simp only [attempt, armed, GapRepair.runSyncTimer, requested, if_true,
              GapRepair.timeOut, flying]
            exact GapRepair.failGap_tracker _ (by exact conversation) nowMs
          · cases failed
      | false =>
          simp only [GapWorld.failed, timeout, Bool.false_eq_true, if_false] at failed
          rcases attempted with ⟨nothing, _⟩ | ⟨_, _, _, ⟨sent, _⟩ | ⟨_, marked⟩⟩
          · simp [nothing] at failed
          · simp [sent] at failed
          · exact marked

theorem charged_iff (conversation : 0 < world.repair.conversationId) :
    (∀ gap, world.failed event = some gap →
      Charged gap event.nowMs world.repair.tracker (world.next event).repair.tracker) ↔
    world.chargesFirst event = true := by
  obtain ⟨retries, config⟩ := world.arrivals_kept event
  cases failed : world.failed event with
  | none => simp [chargesFirst, failed]
  | some gap =>
      rw [failed_tracker conversation failed]
      simp only [chargesFirst, failed, Option.some.injEq, forall_eq']
      split
      · rw [charged_marked_iff retries config, Option.all_eq_true]
        simp only [decide_eq_true_eq]
      · rw [charged_unmarked_iff retries, List.all_eq_true]
        simp only [decide_eq_true_eq]

theorem requested_due (conversation : 0 < world.repair.conversationId) {gap : Gap}
    (requested : world.requested event = some gap) {info : RetryInfo}
    (known : world.repair.tracker.retries gap.fromSeq = some info) :
    info.nextRetryAtMs ≤ event.nowMs := by
  obtain ⟨pending, member, own⟩ : ∃ pending ∈ world.repair.tracker.pendingGaps event.nowMs,
      pending = gap := by
    rcases @attempt_cases world event conversation with
      ⟨nothing, _⟩ | ⟨_, pending, member, ⟨sent, _⟩ | ⟨refused, _⟩⟩
    · simp [GapWorld.requested, nothing] at requested
    · simp only [GapWorld.requested, sent, GapRepair.gapRequest] at requested
      exact ⟨pending, member, Option.some.inj requested⟩
    · simp only [GapWorld.requested, refused, GapRepair.gapRequest] at requested
      exact ⟨pending, member, Option.some.inj requested⟩
  subst own
  have listed := List.mem_of_mem_take member
  rw [List.mem_filter] at listed
  obtain ⟨bare, _, rfl⟩ := List.mem_map.mp listed.1
  have due : (world.repair.tracker.withRetry bare).nextRetryAtMs ≤ event.nowMs := by
    simpa using listed.2
  have key : (world.repair.tracker.withRetry bare).fromSeq = bare.fromSeq := by
    unfold withRetry
    split <;> rfl
  rw [key] at known
  simpa [withRetry, known] using due

end GapWorld

section Backoff

theorem doubled_le (maxBackoffMs : Int) (more : Nat) {value : Int} (positive : 0 ≤ value) :
    doubled maxBackoffMs more value ≤ doubled maxBackoffMs (more + 1) value := by
  induction more generalizing value with
  | zero =>
      simp only [doubled]
      split <;> omega
  | succ more ih =>
      rw [doubled, doubled]
      split
      · exact ih (by omega)
      · exact le_rfl

theorem backoffFor_mono (tracker : SyncTracker) (positive : 0 ≤ tracker.config.baseBackoffMs)
    {attempt more : Int} (grown : attempt ≤ more) :
    tracker.backoffFor attempt ≤ tracker.backoffFor more := by
  have raised : Monotone fun times => doubled tracker.config.maxBackoffMs times
      tracker.config.baseBackoffMs :=
    monotone_nat_of_le_succ fun times => doubled_le _ times positive
  have bound := raised (show (attempt - 1).toNat ≤ (more - 1).toNat by omega)
  exact min_le_min_right _ bound

structure BackingOff (charged : SyncTracker) (key since attempt : Int)
    (world : GapWorld) : Prop where
  conversation : 0 < world.repair.conversationId
  config : world.repair.tracker.config = charged.config
  later : since ≤ world.nowMs
  known : ∃ info, world.repair.tracker.retries key = some info ∧ attempt ≤ info.attempt ∧
    since + charged.backoffFor attempt ≤ info.nextRetryAtMs

theorem conversationId_of_identity {one other : GapRepair} (same : one.identity = other.identity) :
    one.conversationId = other.conversationId := congrArg (fun identity => identity.2.1) same

theorem config_of_identity {one other : GapRepair} (same : one.identity = other.identity) :
    one.tracker.config = other.tracker.config := congrArg (fun identity => identity.2.2.2) same

theorem BackingOff.next {charged : SyncTracker} {key since attempt : Int} {world : GapWorld}
    (positive : 0 ≤ charged.config.baseBackoffMs)
    (waits : BackingOff charged key since attempt world) {event : GapEvent}
    (allowed : world.allowed event = true) :
    BackingOff charged key since attempt (world.next event) := by
  have identity := world.next_identity event
  obtain ⟨retries, config⟩ := world.arrivals_kept event
  have passed : world.nowMs ≤ event.nowMs := by
    simp only [GapWorld.allowed, Bool.and_eq_true, decide_eq_true_eq] at allowed
    exact allowed.1
  refine ⟨conversationId_of_identity identity ▸ waits.conversation,
    (config_of_identity identity).trans waits.config, ?_, ?_⟩
  · rw [world.next_nowMs]
    exact waits.later.trans passed
  · obtain ⟨info, known, attempts, deadline⟩ := waits.known
    rcases @GapWorld.next_tracker _ event waits.conversation with stored | marked
    · exact ⟨info, by rw [stored, retries, known], attempts, deadline⟩
    · rw [marked, retries_marked, retries]
      split
      · -- another failure of the same gap: more attempts, from a later time on
        refine ⟨_, rfl, ?_, ?_⟩
        · simp only [known, Option.getD_some]
          omega
        · have same : (world.arrivals event).backoffFor = charged.backoffFor := by
            funext attempt
            simp only [backoffFor, config, waits.config]
          have more := backoffFor_mono charged positive
            (show attempt ≤ info.attempt + 1 by omega)
          have := waits.later
          simp only [known, Option.getD_some, same]
          omega
      · exact ⟨info, known, attempts, deadline⟩

end Backoff

def FailuresKept (start : GapWorld) (events : List GapEvent) : Prop :=
  ∀ front event back, front ++ event :: back = events →
    ∀ gap, (front.foldl GapWorld.next start).failed event = some gap →
      let before := front.foldl GapWorld.next start
      let after := before.next event
      Charged gap event.nowMs before.repair.tracker after.repair.tracker ∧
        (after.repair.tracker.lacks gap → ∀ middle request rest, middle ++ request :: rest = back →
          ∀ again, (middle.foldl GapWorld.next after).requested request = some again →
            again.fromSeq = gap.fromSeq →
              event.nowMs + before.repair.tracker.backoffFor
                (((before.repair.tracker.retries gap.fromSeq).getD {}).attempt + 1) ≤
                  request.nowMs)

theorem foldl_next_identity (start : GapWorld) (events : List GapEvent) :
    (events.foldl GapWorld.next start).repair.identity = start.repair.identity :=
  foldl_view (fun world : GapWorld => world.repair.identity) GapWorld.next
    (fun world event => world.next_identity event) events start

theorem charged_waits {before : GapWorld} (conversation : 0 < before.repair.conversationId)
    (positive : 0 ≤ before.repair.tracker.config.baseBackoffMs) {event : GapEvent} {gap : Gap}
    (charged : Charged gap event.nowMs before.repair.tracker (before.next event).repair.tracker)
    (lacks : (before.next event).repair.tracker.lacks gap) {middle rest : List GapEvent}
    {request : GapEvent}
    (allowed : guarded GapWorld.next GapWorld.allowed (before.next event)
      (middle ++ request :: rest) = true) {again : Gap}
    (requested : (middle.foldl GapWorld.next (before.next event)).requested request = some again)
    (same : again.fromSeq = gap.fromSeq) :
    event.nowMs + before.repair.tracker.backoffFor
      (((before.repair.tracker.retries gap.fromSeq).getD {}).attempt + 1) ≤ request.nowMs := by
  have identity := before.next_identity event
  have key := charged gap.fromSeq
  rw [if_pos ⟨rfl, lacks⟩] at key
  have first : BackingOff before.repair.tracker gap.fromSeq event.nowMs
      (((before.repair.tracker.retries gap.fromSeq).getD {}).attempt + 1) (before.next event) :=
    ⟨conversationId_of_identity identity ▸ conversation, config_of_identity identity,
      (before.next_nowMs event).ge, _, key, le_rfl, le_rfl⟩
  have later := prefixes_of_guarded
    (BackingOff before.repair.tracker gap.fromSeq event.nowMs
      (((before.repair.tracker.retries gap.fromSeq).getD {}).attempt + 1)) (fun _ => True)
    (fun world other _ waits passed => waits.next positive passed) _ first _
    (fun _ _ => trivial) allowed middle (request :: rest) rfl
  obtain ⟨info, known, _, deadline⟩ := later.known
  rw [← same] at known
  exact deadline.trans (GapWorld.requested_due later.conversation requested known)

/-- In the repair of a conversation every failure counts for the gap that failed exactly when every
failure finds that gap first and is seen. -/
theorem failures_kept_iff (ownerId conversationId gapRequestTimeoutMs nowMs : Int)
    (conversation : 0 < conversationId) (arrived : List (Int × Int)) (persistedGaps : List Gap)
    (events : List GapEvent)
    (allowed : guarded GapWorld.next GapWorld.allowed
      (.start ownerId conversationId gapRequestTimeoutMs arrived persistedGaps nowMs) events =
        true) :
    FailuresKept (.start ownerId conversationId gapRequestTimeoutMs arrived persistedGaps nowMs)
        events ↔
      guarded GapWorld.next GapWorld.chargesFirst
        (.start ownerId conversationId gapRequestTimeoutMs arrived persistedGaps nowMs) events =
          true := by
  generalize begun : GapWorld.start ownerId conversationId gapRequestTimeoutMs arrived
    persistedGaps nowMs = start at allowed ⊢
  have positive : 0 < start.repair.conversationId := begun ▸ conversation
  have base : 0 ≤ start.repair.tracker.config.baseBackoffMs := by
    rw [← begun, GapWorld.start, restore_config]
    exact (by decide : (0 : Int) ≤ 1000)
  have steps := @steps_iff_guarded _ _ _ GapWorld.chargesFirst
    (fun world : GapWorld => 0 < world.repair.conversationId)
    (fun world event => ∀ gap, world.failed event = some gap →
      Charged gap event.nowMs world.repair.tracker (world.next event).repair.tracker)
    (fun world event inside => conversationId_of_identity (world.next_identity event) ▸ inside)
    (fun world event inside => GapWorld.charged_iff inside) start positive events
  rw [← steps]
  constructor
  · intro kept front event back split gap failed
    exact (kept front event back split gap failed).1
  · intro charged front event back split gap failed
    have own := charged front event back split gap failed
    refine ⟨own, fun lacks middle request rest tail again requested same => ?_⟩
    have identity := foldl_next_identity start front
    have inside : 0 < (front.foldl GapWorld.next start).repair.conversationId :=
      conversationId_of_identity identity ▸ positive
    have config := config_of_identity identity
    subst tail
    have later := @guarded_append _ _ _ _ _ front _ (split ▸ allowed)
    simp only [guarded, Bool.and_eq_true] at later
    exact charged_waits inside (config ▸ base) own lacks later.2 requested same

def oddNumbers : GapWorld := .start 1 9 5000 [(1, 1), (3, 3), (5, 5)] [] 1000

theorem failures_kept_first : FailuresKept oddNumbers [.request 1000 true true, .timer 6000 true true] :=
  (failures_kept_iff 1 9 5000 1000 (by decide) [(1, 1), (3, 3), (5, 5)] []
    [.request 1000 true true, .timer 6000 true true] (by decide)).mpr (by decide)

def secondFailure : List GapEvent :=
  [.request 1000 true true, .timer 6000 true true, .request 6001 true true, .timer 11001 true true]

theorem failures_kept_second :
    guarded GapWorld.next GapWorld.allowed oddNumbers secondFailure = true ∧
      ¬FailuresKept oddNumbers secondFailure := by
  refine ⟨by decide, fun kept => ?_⟩
  have failed := (kept (secondFailure.take 3) (.timer 11001 true true) [] rfl ⟨4, 4, 0, 0⟩
    (by decide)).1
  have retries := failed 4
  rw [if_pos (by decide)] at retries
  exact absurd (congrArg Option.isSome retries) (by decide)

end Jitong
