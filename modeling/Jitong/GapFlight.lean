import Jitong.ClientRuntime
import Jitong.GapRepair

/-!
The requests for the gaps of one conversation, in the blocks that run under `m_mutex`, under
`m_syncTimerMutex` and in `SyncService`: the thread of the timers beside any threads that handle
what the server sends, in any order of their blocks.
-/

namespace Jitong

open Jitong.Lib SyncTracker

namespace GapFlight

inductive After
  | ends | paging
  deriving DecidableEq

inductive Origin
  | incoming | conversations | page (hasMore : Bool)
  deriving DecidableEq

/-- The block that a thread comes to next. `maybeRequestGap` goes from `asking` to `arming`; requests
are told apart by numbers that the runtime does not know. -/
inductive Job
  | asking
  | looking
  | clearing
  | choosing
  | gating (gap : Gap)
  | deferring
  | marking (gap : Gap)
  | requesting (id : Nat) (gap : Gap)
  | withdrawing (id : Nat)
  | failing (after : After)
  | retrying (after : After)
  | arming (atMs : Int) (request : Option Nat) (after : After)
  | answered (own : Option Nat) (page : List IncomingChat) (hasMore : Bool)
  | storing (messages : List IncomingChat) (changed : Bool) (origin : Origin)
  | judging
  | paging
  | observing (seq : Int)
  | resuming
  | expired (own : Option Nat)
  deriving DecidableEq

def After.job : After → Option Job
  | .ends => none
  | .paging => some .paging

def Job.request : Job → Option Nat
  | .requesting id _ | .withdrawing id => some id
  | .arming _ request _ => request
  | .answered own _ _ | .expired own => own
  | _ => none

inductive Event (threads : Nat)
  | live (call : ClientRuntime.LifeCall)
  | stopSyncTimer
  | joined
  | setDatabase (tracker : Option SyncTracker)
  | setConnected (connected : Bool)
  | setAccountAuthenticated (thread : Fin threads) (authenticated : Bool)
  | handleIncomingChat (thread : Fin threads) (incoming : IncomingChat)
  | handleRoamConversations (thread : Fin threads) (messages : List IncomingChat)
  | handleRoamMessages (thread : Fin threads) (own : Option Nat) (page : List IncomingChat)
      (hasMore : Bool)
  | handleChatAck (thread : Fin threads) (seq : Int)
  | fire (nowMs : Nat)
  | proceed (thread : Option (Fin threads)) (nowMs : Nat)

end GapFlight

open GapFlight

/-- `flight` is the request that the mark in `m_gapInFlight` was set for and `armedFor` the one that
the timer was armed for; `outstanding` are the requests that were sent and are neither answered nor
given up after their time. -/
structure GapFlight (threads : Nat) where
  runtime : ClientRuntime
  repair : GapRepair
  service : Bool := false
  connected : Bool := false
  syncTimerStop : Bool := true
  timerThread : Bool := false
  cleared : Bool := false
  jobs : Option (Fin threads) → Option Job := fun _ => none
  flight : Option Nat := none
  armedFor : Option Nat := none
  outstanding : List Nat := []
  nextRequest : Nat := 0

namespace GapFlight

variable {threads : Nat}

def create (ownerId : Int) (completionCapacity : Nat) (instanceId : UInt64)
    (conversationId gapRequestTimeoutMs : Int) (tracker : SyncTracker) : GapFlight threads where
  runtime := .create ownerId completionCapacity instanceId
  repair := { ownerId, conversationId, gapRequestTimeoutMs, tracker }

def set (world : GapFlight threads) (thread : Option (Fin threads)) (job : Option Job) :
    GapFlight threads :=
  { world with jobs := Function.update world.jobs thread job }

def unmark (world : GapFlight threads) : GapFlight threads :=
  { world with repair := { world.repair with inFlight := false }, flight := none }

def setTimer (world : GapFlight threads) (timer : Option GapTimer) (armedFor : Option Nat) :
    GapFlight threads :=
  { world with repair := { world.repair with timer := timer }, armedFor := armedFor }

def authenticated (world : GapFlight threads) : Bool :=
  world.runtime.accountAuthenticated

def running (world : GapFlight threads) : Bool :=
  world.runtime.state = .running

/-- `storeProtocolMessage` refuses when the runtime does not run. -/
def storeProtocolMessage (world : GapFlight threads) (incoming : IncomingChat) :
    Bool × GapRepair :=
  if world.running ∧ world.service then world.repair.storeProtocolMessage incoming
  else (false, world.repair)

def Origin.next (changed : Bool) : Origin → Option Job
  | .incoming => some .asking
  | .conversations => none
  | .page hasMore => if !changed || !hasMore then some .judging else some .asking

def advanceJob (world : GapFlight threads) (thread : Option (Fin threads)) (nowMs : Nat) :
    Job → GapFlight threads
  | .asking =>
      world.set thread
        (if 0 < world.repair.conversationId ∧ world.running ∧ world.service then some .looking
        else none)
  | .looking =>
      world.set thread (some (if world.repair.tracker.hasGaps then .choosing else .clearing))
  | .clearing =>
      { world.unmark with
        repair := { world.repair with pending := false, inFlight := false, pages := none } }.set
          thread none
  | .choosing =>
      world.set thread (some
        (match world.repair.tracker.pendingGaps nowMs with
        | [] => .retrying .ends
        | gap :: _ => .gating gap))
  | .gating gap =>
      world.set thread
        (some (if world.authenticated && world.connected then .marking gap else .deferring))
  | .deferring => { world with repair := { world.repair with pending := true } }.set thread none
  | .marking gap =>
      let repair := { world.repair with pending := true }
      if repair.inFlight then { world with repair := repair }.set thread none
      else if 5 ≤ repair.pages.getD 0 then
        { world with repair := { repair with pages := none } }.set thread (some (.failing .ends))
      else
        { world with
          repair := { repair with pages := some (repair.pages.getD 0 + 1), inFlight := true }
          flight := some world.nextRequest
          nextRequest := world.nextRequest + 1 }.set thread
            (some (.requesting world.nextRequest gap))
  | .requesting id gap =>
      let request := GapRepair.gapRequest gap
      if GapRepair.requestRoamMessages world.repair.conversationId request.beforeSeq request.limit
          (world.running && world.authenticated && world.connected) then
        { world with outstanding := id :: world.outstanding }.set thread
          (some (.arming (nowMs + max 1 world.repair.gapRequestTimeoutMs) (some id) .ends))
      else world.set thread (some (.withdrawing id))
  | .withdrawing _ => world.unmark.set thread (some (.failing .ends))
  | .failing after =>
      { world with repair := world.repair.markGapFailed nowMs }.set thread (some (.retrying after))
  | .retrying after =>
      world.set thread
        (if 0 < world.repair.nextRetryAtMs then
          some (.arming world.repair.nextRetryAtMs none after)
        else after.job)
  | .arming atMs request after =>
      (if 0 < world.repair.conversationId ∧ 0 < atMs then
        world.setTimer (some ⟨atMs, request.isSome⟩) request
      else world).set thread after.job
  | .answered _ page hasMore =>
      world.unmark.set thread (some (.storing page false (.page hasMore)))
  | .storing [] changed origin => world.set thread (origin.next changed)
  | .storing (incoming :: rest) changed origin =>
      if incoming.message.peer world.repair.ownerId = world.repair.conversationId then
        let (stored, repair) := world.storeProtocolMessage incoming
        { world with repair := repair }.set thread
          (some (.storing rest (stored || changed) origin))
      else world.set thread (some (.storing rest changed origin))
  | .judging =>
      world.set thread
        (some (if world.service && world.repair.tracker.hasGaps then .failing .paging
        else .paging))
  | .paging => { world with repair := { world.repair with pages := none } }.set thread (some .asking)
  | .observing seq =>
      { world with
        repair :=
          if world.service ∧ 0 < seq then
            { world.repair with
              tracker := (world.repair.tracker.observeSeq seq).2
              pending := world.repair.pending || (world.repair.tracker.observeSeq seq).2.hasGaps }
          else world.repair }.set thread (some .asking)
  | .resuming => world.set thread (if world.repair.pending then some .asking else none)
  | .expired own =>
      { world.unmark with
        repair := { world.repair with pending := true, inFlight := false, pages := none }
        outstanding := own.elim world.outstanding world.outstanding.erase }.set thread
          (if world.repair.inFlight && world.service then some (.failing .ends) else none)

def clears (runtime : ClientRuntime) : ClientRuntime.LifeCall → Bool
  | .advance => runtime.control = some .clearAccount
  | .destroy _ => runtime.control = none && runtime.state ≠ .destroyed
  | _ => false

def changeLife (world : GapFlight threads) (call : ClientRuntime.LifeCall) : GapFlight threads :=
  if clears world.runtime call then
    { world.unmark with
      runtime := world.runtime.live call
      service := false
      repair := { world.repair with pending := false, inFlight := false, pages := none } }
  else { world with runtime := world.runtime.live call }

/-- `stopSyncTimer` ends when the thread of the timers has. -/
def live (world : GapFlight threads) : ClientRuntime.LifeCall → GapFlight threads
  | .advance =>
      match world.runtime.control with
      | some .startSyncTimer =>
          if world.timerThread then world.changeLife .advance
          else { world with syncTimerStop := false, timerThread := true }.changeLife .advance
      | some (.stopSyncTimer _) =>
          if world.cleared ∧ !world.timerThread then
            { world with cleared := false }.changeLife .advance
          else world
      | _ => world.changeLife .advance
  | call => world.changeLife call

def begin (world : GapFlight threads) (thread : Fin threads) (job : Job) : GapFlight threads :=
  if world.jobs (some thread) = none then world.set (some thread) (some job) else world

def step (world : GapFlight threads) : Event threads → GapFlight threads
  | .live call => world.live call
  | .stopSyncTimer =>
      match world.runtime.control with
      | some (.stopSyncTimer _) =>
          if world.cleared then world
          else { world.setTimer none none with syncTimerStop := true, cleared := true }
      | _ => world
  | .joined =>
      if world.syncTimerStop ∧ world.jobs none = none then { world with timerThread := false }
      else world
  | .setDatabase tracker =>
      if world.runtime.control = none ∧
          (world.runtime.state = .idle ∨ world.runtime.state = .stopped) then
        { world with
          service := tracker.isSome
          repair := { world.repair with tracker := tracker.getD world.repair.tracker } }
      else world
  | .setConnected connected => { world with connected := connected }
  | .setAccountAuthenticated thread authenticated =>
      if world.jobs (some thread) = none then
        { world.set (some thread) (if authenticated then some .resuming else none) with
          runtime := { world.runtime with accountAuthenticated := authenticated } }
      else world
  | .handleIncomingChat thread incoming =>
      if incoming.message.peer world.repair.ownerId = world.repair.conversationId then
        world.begin thread (.storing [incoming] false .incoming)
      else world
  | .handleRoamConversations thread messages =>
      world.begin thread (.storing messages false .conversations)
  | .handleRoamMessages thread own page hasMore =>
      if world.jobs (some thread) = none ∧ own.all (world.outstanding.contains ·) then
        { world.setTimer none none with
          outstanding := own.elim world.outstanding world.outstanding.erase }.set (some thread)
            (some (.answered own page hasMore))
      else world
  | .handleChatAck thread seq => world.begin thread (.observing seq)
  | .fire nowMs =>
      match world.repair.timer with
      | some timer =>
          if world.timerThread ∧ !world.syncTimerStop ∧ world.jobs none = none ∧
              timer.atMs ≤ nowMs then
            (world.setTimer none none).set none
              (some (if timer.requestTimeout then .expired world.armedFor else .asking))
          else world
      | none => world
  | .proceed thread nowMs =>
      match world.jobs thread with
      | some job => world.advanceJob thread nowMs job
      | none => world

def settled (world : GapFlight threads) : Prop :=
  ∃ thread, (world.jobs thread).any (fun job => job.request = world.flight) = true

instance (world : GapFlight threads) : Decidable world.settled :=
  inferInstanceAs (Decidable (∃ thread,
    (world.jobs thread).any (fun job => job.request = world.flight) = true))

/-- At most one request is outstanding, and a conversation that is marked has an armed timer for its
request, or a thread that is about to arm it or to take the mark back. -/
structure SingleFlight (world : GapFlight threads) : Prop where
  outstanding : world.outstanding.length ≤ 1
  armed : world.repair.inFlight = true →
    world.repair.timer.any (·.requestTimeout) = true ∨ world.settled

def unmarks (world : GapFlight threads) (own : Option Nat) : Bool :=
  !world.repair.inFlight || world.flight = own

def permits (world : GapFlight threads) : Event threads → Bool
  | .live call => !clears world.runtime call || world.unmarks none
  | .stopSyncTimer | .handleRoamMessages _ none _ _ =>
      !world.repair.inFlight || world.settled
  | .proceed thread _ =>
      match world.jobs thread with
      | some .clearing => world.unmarks none
      | some (.answered own _ _) | some (.expired own) => world.unmarks own
      | some (.arming _ request _) => world.unmarks request || world.settled
      | _ => true
  | _ => true

/-! What every permitted step keeps. -/

def Job.unsent : Job → Option Nat
  | .requesting id _ | .withdrawing id => some id
  | _ => none

structure Sound (world : GapFlight threads) : Prop where
  flagged : world.repair.inFlight = world.flight.isSome
  outstanding : ∀ id ∈ world.outstanding, world.flight = some id
  nodup : world.outstanding.Nodup
  flightFresh : ∀ id, world.flight = some id → id < world.nextRequest
  armedFresh : ∀ id, world.armedFor = some id → id < world.nextRequest
  jobFresh : ∀ thread job id, world.jobs thread = some job → job.request = some id →
    id < world.nextRequest
  unsent : ∀ thread job id, world.jobs thread = some job → job.unsent = some id →
    world.flight = some id ∧ id ∉ world.outstanding ∧ world.armedFor ≠ some id ∧
      ∀ other later, other ≠ thread → world.jobs other = some later → later.request ≠ some id
  answered : ∀ thread id page hasMore, world.jobs thread = some (.answered (some id) page hasMore) →
    id ∉ world.outstanding
  armed : ∀ id, world.flight = some id →
    world.repair.timer.any (·.requestTimeout) = true ∧ world.armedFor = some id ∨
      ∃ thread job, world.jobs thread = some job ∧ job.request = some id
  ready : ∀ thread atMs id after, world.jobs thread = some (.arming atMs (some id) after) →
    0 < atMs ∧ 0 < world.repair.conversationId

variable {world : GapFlight threads} {thread other : Option (Fin threads)} {job : Job}
  {work : Option Job}

theorem Sound.singleFlight (sound : world.Sound) : world.SingleFlight where
  outstanding := by
    cases found : world.outstanding with
    | nil => simp
    | cons first rest =>
        cases rest with
        | nil => simp
        | cons second rest =>
            have unique := sound.nodup
            rw [found] at unique
            have one := sound.outstanding first (by simp [found])
            have two := sound.outstanding second (by simp [found])
            rw [one, Option.some.injEq] at two
            simp [two] at unique
  armed marked := by
    rw [sound.flagged] at marked
    obtain ⟨id, flight⟩ := Option.isSome_iff_exists.mp marked
    rcases sound.armed id flight with ⟨timer, _⟩ | ⟨thread, job, works, request⟩
    · exact .inl timer
    · exact .inr ⟨thread, by simp [works, request, flight]⟩

theorem unsent_request {id : Nat} (unsent : job.unsent = some id) : job.request = some id := by
  cases job <;> simp_all [Job.unsent, Job.request]

theorem set_jobs (world : GapFlight threads) (thread other : Option (Fin threads))
    (work : Option Job) :
    (world.set thread work).jobs other = if other = thread then work else world.jobs other := by
  simp [set, Function.update_apply]

theorem set_cases (works : (world.set thread work).jobs other = some job) :
    other = thread ∧ work = some job ∨ other ≠ thread ∧ world.jobs other = some job := by
  rw [set_jobs] at works
  split at works
  · rename_i same
    exact .inl ⟨same, works⟩
  · rename_i apart
    exact .inr ⟨apart, works⟩

theorem Sound.goesOn (sound : world.Sound)
    (free : ∀ job, world.jobs thread = some job → job.request = none) {repair : GapRepair}
    (inFlight : repair.inFlight = world.repair.inFlight) (timer : repair.timer = world.repair.timer)
    (conversation : repair.conversationId = world.repair.conversationId)
    (next : ∀ job, work = some job → job.request = none) :
    ({ world with repair := repair }.set thread work).Sound where
  flagged := inFlight.trans sound.flagged
  outstanding := sound.outstanding
  nodup := sound.nodup
  flightFresh := sound.flightFresh
  armedFresh := sound.armedFresh
  jobFresh other job id works request := by
    rcases set_cases works with ⟨_, own⟩ | ⟨_, works⟩
    · simp [next job own] at request
    · exact sound.jobFresh other job id works request
  unsent other job id works unsent := by
    rcases set_cases works with ⟨_, own⟩ | ⟨_, works⟩
    · exact absurd (unsent_request unsent) (by simp [next job own])
    · obtain ⟨flight, waiting, armedFor, alone⟩ := sound.unsent other job id works unsent
      refine ⟨flight, waiting, armedFor, fun third later apart works => ?_⟩
      rcases set_cases works with ⟨_, own⟩ | ⟨_, works⟩
      · simp [next later own]
      · exact alone third later apart works
  answered other id page hasMore works := by
    rcases set_cases works with ⟨_, own⟩ | ⟨_, works⟩
    · have request := next _ own
      simp [Job.request] at request
    · exact sound.answered other id page hasMore works
  armed id flight := by
    rcases sound.armed id flight with armed | ⟨other, job, works, request⟩
    · exact .inl ⟨timer ▸ armed.1, armed.2⟩
    · refine .inr ⟨other, job, ?_, request⟩
      rw [set_jobs, if_neg]
      · exact works
      · rintro rfl
        simp [free job works] at request
  ready other atMs id after works := by
    rcases set_cases works with ⟨_, own⟩ | ⟨_, works⟩
    · have request := next _ own
      simp [Job.request] at request
    · exact conversation ▸ sound.ready other atMs id after works

theorem Sound.idle (sound : world.Sound) (flight : world.flight = none) :
    world.outstanding = [] := by
  refine List.eq_nil_iff_forall_not_mem.mpr fun id member => ?_
  have known := sound.outstanding id member
  simp [flight] at known

theorem Sound.alone (sound : world.Sound) {id : Nat} (works : world.jobs thread = some job)
    (request : job.request = some id) (apart : other ≠ thread) {later : Job}
    (elsewhere : world.jobs other = some later) : later.unsent ≠ some id := by
  intro unsent
  obtain ⟨_, _, _, alone⟩ := sound.unsent other later id elsewhere unsent
  exact alone thread job apart.symm works request

theorem Sound.marks (sound : world.Sound) (unmarked : world.repair.inFlight = false)
    {repair : GapRepair} (inFlight : repair.inFlight = true)
    (conversation : repair.conversationId = world.repair.conversationId) (gap : Gap) :
    ({ world with
      repair := repair
      flight := some world.nextRequest
      nextRequest := world.nextRequest + 1 }.set thread
        (some (.requesting world.nextRequest gap))).Sound := by
  have flight : world.flight = none := by simpa [unmarked] using sound.flagged.symm
  have idle := sound.idle flight
  exact {
    flagged := inFlight
    outstanding := by simp [set, idle]
    nodup := sound.nodup
    flightFresh := fun id same => by
      simp only [set, Option.some.injEq] at same
      simp only [set]
      omega
    armedFresh := fun id same => (sound.armedFresh id same).trans (Nat.lt_succ_self _)
    jobFresh := fun other job id works request => by
      rcases set_cases works with ⟨_, own⟩ | ⟨_, works⟩
      · obtain rfl := Option.some.inj own
        simp only [Job.request, Option.some.injEq] at request
        simp only [set]
        omega
      · exact (sound.jobFresh other job id works request).trans (Nat.lt_succ_self _)
    unsent := fun other job id works unsent => by
      rcases set_cases works with ⟨marker, own⟩ | ⟨_, works⟩
      · obtain rfl := Option.some.inj own
        simp only [Job.unsent, Option.some.injEq] at unsent
        subst unsent
        refine ⟨rfl, by simp [set, idle], fun armed => ?_, fun third later apart works => ?_⟩
        · exact absurd (sound.armedFresh _ armed) (lt_irrefl _)
        · rcases set_cases works with ⟨same, _⟩ | ⟨_, works⟩
          · exact absurd (same.trans marker.symm) apart
          · exact fun request => absurd (sound.jobFresh third later _ works request) (lt_irrefl _)
      · have before := (sound.unsent other job id works unsent).1
        simp [flight] at before
    answered := fun other id page hasMore works => by
      rcases set_cases works with ⟨_, own⟩ | ⟨_, works⟩
      · simp at own
      · simp [set, idle]
    armed := fun id same => by
      simp only [set, Option.some.injEq] at same
      exact .inr ⟨thread, _, by rw [set_jobs, if_pos rfl], by simp [Job.request, same]⟩
    ready := fun other atMs id after works => by
      rcases set_cases works with ⟨_, own⟩ | ⟨_, works⟩
      · simp at own
      · exact conversation ▸ sound.ready other atMs id after works }

theorem Sound.sends (sound : world.Sound) {id : Nat} {gap : Gap}
    (works : world.jobs thread = some (.requesting id gap))
    (conversation : 0 < world.repair.conversationId) {atMs : Int} (ahead : 0 < atMs)
    (after : After) :
    ({ world with outstanding := id :: world.outstanding }.set thread
      (some (.arming atMs (some id) after))).Sound := by
  obtain ⟨flight, waiting, armedFor, alone⟩ := sound.unsent thread _ id works rfl
  have idle : world.outstanding = [] := by
    refine List.eq_nil_iff_forall_not_mem.mpr fun other member => ?_
    have known := sound.outstanding other member
    rw [flight, Option.some.injEq] at known
    exact waiting (known ▸ member)
  exact {
    flagged := sound.flagged
    outstanding := fun other member => by
      simp only [set, idle, List.mem_singleton] at member
      subst member
      exact flight
    nodup := by simp [set, idle]
    flightFresh := sound.flightFresh
    armedFresh := sound.armedFresh
    jobFresh := fun other job number known request => by
      rcases set_cases known with ⟨_, own⟩ | ⟨_, known⟩
      · obtain rfl := Option.some.inj own
        simp only [Job.request, Option.some.injEq] at request
        exact request ▸ sound.flightFresh id flight
      · exact sound.jobFresh other job number known request
    unsent := fun other job number known unsent => by
      rcases set_cases known with ⟨_, own⟩ | ⟨apart, known⟩
      · obtain rfl := Option.some.inj own
        simp [Job.unsent] at unsent
      · have same := (sound.unsent other job number known unsent).1
        rw [flight, Option.some.injEq] at same
        exact absurd (unsent_request unsent) (same ▸ alone other job apart known)
    answered := fun other number page hasMore known => by
      rcases set_cases known with ⟨_, own⟩ | ⟨apart, known⟩
      · simp at own
      · simp only [set, idle, List.mem_singleton]
        rintro rfl
        exact alone other _ apart known rfl
    armed := fun number same => .inr
      ⟨thread, .arming atMs (some id) after, by rw [set_jobs, if_pos rfl], flight.symm.trans same⟩
    ready := fun other atMs number after known => by
      rcases set_cases known with ⟨_, own⟩ | ⟨_, known⟩
      · simp only [Option.some.injEq, Job.arming.injEq] at own
        exact ⟨own.1 ▸ ahead, conversation⟩
      · exact sound.ready other atMs number after known }

theorem Sound.withdraws (sound : world.Sound) {id : Nat} {gap : Gap}
    (works : world.jobs thread = some (.requesting id gap)) :
    (world.set thread (some (.withdrawing id))).Sound := by
  have known := sound.unsent thread _ id works rfl
  exact {
    flagged := sound.flagged
    outstanding := sound.outstanding
    nodup := sound.nodup
    flightFresh := sound.flightFresh
    armedFresh := sound.armedFresh
    jobFresh := fun other job number works request => by
      rcases set_cases works with ⟨_, own⟩ | ⟨_, works⟩
      · obtain rfl := Option.some.inj own
        simp only [Job.request, Option.some.injEq] at request
        exact request ▸ sound.flightFresh id known.1
      · exact sound.jobFresh other job number works request
    unsent := fun other job number elsewhere unsent => by
      rcases set_cases elsewhere with ⟨same, own⟩ | ⟨apart, elsewhere⟩
      · obtain rfl := Option.some.inj own
        simp only [Job.unsent, Option.some.injEq] at unsent
        subst unsent same
        refine ⟨known.1, known.2.1, known.2.2.1, fun third later apart works => ?_⟩
        rcases set_cases works with ⟨same, _⟩ | ⟨_, works⟩
        · exact absurd same apart
        · exact known.2.2.2 third later apart works
      · exact absurd unsent (by
          have flight := (sound.unsent other job number elsewhere unsent).1
          rw [known.1, Option.some.injEq] at flight
          exact flight ▸ sound.alone works rfl apart elsewhere)
    answered := fun other number page hasMore works => by
      rcases set_cases works with ⟨_, own⟩ | ⟨_, works⟩
      · simp at own
      · exact sound.answered other number page hasMore works
    armed := fun number same => .inr
      ⟨thread, .withdrawing id, by rw [set_jobs, if_pos rfl], known.1.symm.trans same⟩
    ready := fun other atMs number after works => by
      rcases set_cases works with ⟨_, own⟩ | ⟨_, works⟩
      · simp at own
      · exact sound.ready other atMs number after works }

theorem Sound.unmarked (sound : world.Sound) {own : Option Nat}
    (permitted : world.unmarks own = true) (works : world.jobs thread = some job)
    (request : job.request = own) {repair : GapRepair} (inFlight : repair.inFlight = false)
    (conversation : repair.conversationId = world.repair.conversationId)
    {outstanding : List Nat} (empty : outstanding = [])
    (next : ∀ job, work = some job → job.request = none) :
    ({ world with repair := repair, flight := none, outstanding := outstanding }.set
      thread work).Sound where
  flagged := inFlight
  outstanding := by simp [set, empty]
  nodup := by simp [set, empty]
  flightFresh := by simp [set]
  armedFresh := sound.armedFresh
  jobFresh other later id works request := by
    rcases set_cases works with ⟨_, own⟩ | ⟨_, works⟩
    · simp [next later own] at request
    · exact sound.jobFresh other later id works request
  unsent other later id elsewhere unsent := by
    exfalso
    rcases set_cases elsewhere with ⟨_, mine⟩ | ⟨apart, elsewhere⟩
    · exact absurd (unsent_request unsent) (by simp [next later mine])
    · have flight := (sound.unsent other later id elsewhere unsent).1
      have marked : world.repair.inFlight = true := by simp [sound.flagged, flight]
      have same : world.flight = own := by simpa [unmarks, marked] using permitted
      exact sound.alone works (request.trans (same.symm.trans flight)) apart elsewhere unsent
  answered := by simp [set, empty]
  armed := by simp [set]
  ready other atMs id after elsewhere := by
    rcases set_cases elsewhere with ⟨_, mine⟩ | ⟨_, elsewhere⟩
    · have request := next _ mine
      simp [Job.request] at request
    · exact conversation ▸ sound.ready other atMs id after elsewhere

theorem Sound.own (sound : world.Sound) {own : Option Nat} (permitted : world.unmarks own = true) :
    ∀ id ∈ world.outstanding, own = some id := by
  intro id member
  have flight := sound.outstanding id member
  have marked : world.repair.inFlight = true := by simp [sound.flagged, flight]
  have same : world.flight = own := by simpa [unmarks, marked] using permitted
  exact same.symm.trans flight

theorem Sound.own_erased (sound : world.Sound) {own : Option Nat}
    (permitted : world.unmarks own = true) :
    own.elim world.outstanding world.outstanding.erase = [] := by
  refine List.eq_nil_iff_forall_not_mem.mpr fun id member => ?_
  cases own with
  | none => exact absurd (sound.own permitted id member) (by simp)
  | some first =>
      simp only [Option.elim_some] at member
      have known := sound.own permitted id (List.mem_of_mem_erase member)
      rw [Option.some.injEq] at known
      exact sound.nodup.not_mem_erase (known ▸ member)

theorem After.job_request {after : After} (follows : after.job = some job) :
    job.request = none := by
  cases after with
  | ends => simp [After.job] at follows
  | paging =>
      obtain rfl := Option.some.inj follows
      rfl

theorem Sound.timed (sound : world.Sound) {atMs : Int} {request : Option Nat} {after : After}
    (works : world.jobs thread = some (.arming atMs request after)) {repair : GapRepair}
    {armedFor : Option Nat} (same : repair.inFlight = world.repair.inFlight)
    (conversation : repair.conversationId = world.repair.conversationId)
    (known : ∀ id, armedFor = some id → request = some id ∨ world.armedFor = some id)
    (armed : ∀ id, world.flight = some id →
      repair.timer.any (·.requestTimeout) = true ∧ armedFor = some id ∨
        ∃ other job, other ≠ thread ∧ world.jobs other = some job ∧ job.request = some id) :
    ({ world with repair := repair, armedFor := armedFor }.set thread after.job).Sound where
  flagged := same.trans sound.flagged
  outstanding := sound.outstanding
  nodup := sound.nodup
  flightFresh := sound.flightFresh
  armedFresh id armedFor := by
    rcases known id armedFor with own | before
    · exact sound.jobFresh thread _ id works own
    · exact sound.armedFresh id before
  jobFresh other job id elsewhere isFor := by
    rcases set_cases elsewhere with ⟨_, mine⟩ | ⟨_, elsewhere⟩
    · simp [After.job_request mine] at isFor
    · exact sound.jobFresh other job id elsewhere isFor
  unsent other job id elsewhere unsent := by
    rcases set_cases elsewhere with ⟨_, mine⟩ | ⟨apart, elsewhere⟩
    · exact absurd (unsent_request unsent) (by simp [After.job_request mine])
    · obtain ⟨flight, waiting, armedBefore, alone⟩ := sound.unsent other job id elsewhere unsent
      refine ⟨flight, waiting, fun armedFor => ?_, fun third later distinct elsewhere => ?_⟩
      · rcases known id armedFor with own | before
        · exact alone thread _ apart.symm works own
        · exact armedBefore before
      · rcases set_cases elsewhere with ⟨_, mine⟩ | ⟨_, elsewhere⟩
        · simp [After.job_request mine]
        · exact alone third later distinct elsewhere
  answered other id page hasMore elsewhere := by
    rcases set_cases elsewhere with ⟨_, mine⟩ | ⟨_, elsewhere⟩
    · have isFor := After.job_request mine
      simp [Job.request] at isFor
    · exact sound.answered other id page hasMore elsewhere
  armed id flight := by
    rcases armed id flight with timer | ⟨other, job, apart, elsewhere, isFor⟩
    · exact .inl timer
    · exact .inr ⟨other, job, by rw [set_jobs, if_neg apart]; exact elsewhere, isFor⟩
  ready other time id later elsewhere := by
    rcases set_cases elsewhere with ⟨_, mine⟩ | ⟨_, elsewhere⟩
    · have isFor := After.job_request mine
      simp [Job.request] at isFor
    · exact conversation ▸ sound.ready other time id later elsewhere

theorem Sound.arms (sound : world.Sound) {atMs : Int} {request : Option Nat} {after : After}
    (works : world.jobs thread = some (.arming atMs request after))
    (permitted : (world.unmarks request || world.settled) = true) :
    ((if 0 < world.repair.conversationId ∧ 0 < atMs then
        world.setTimer (some ⟨atMs, request.isSome⟩) request
      else world).set thread after.job).Sound := by
  split
  · refine sound.timed works rfl rfl (fun id armedFor => .inl armedFor) fun id flight => ?_
    have own (isFor : request = some id) :
        (some (GapTimer.mk atMs request.isSome)).any (·.requestTimeout) = true ∧
          request = some id := by
      simp [isFor]
    rcases Bool.or_eq_true_iff.mp permitted with isOwn | settled
    · have marked : world.repair.inFlight = true := by simp [sound.flagged, flight]
      have same : world.flight = request := by simpa [unmarks, marked] using isOwn
      exact .inl (own (same.symm.trans flight))
    · obtain ⟨other, settles⟩ := of_decide_eq_true settled
      obtain ⟨job, elsewhere, isFor⟩ := (Option.any_eq_true _ _).mp settles
      have isFor : job.request = some id := (of_decide_eq_true isFor).trans flight
      by_cases same : other = thread
      · subst same
        rw [works, Option.some.injEq] at elsewhere
        subst elsewhere
        exact .inl (own isFor)
      · exact .inr ⟨other, job, same, elsewhere, isFor⟩
  · rename_i unready
    refine sound.timed works rfl rfl (fun id armedFor => .inr armedFor) fun id flight => ?_
    rcases sound.armed id flight with timer | ⟨other, job, elsewhere, isFor⟩
    · exact .inl timer
    · refine .inr ⟨other, job, ?_, elsewhere, isFor⟩
      rintro rfl
      rw [works, Option.some.injEq] at elsewhere
      subst elsewhere
      obtain rfl : request = some id := isFor
      obtain ⟨ahead, conversation⟩ := sound.ready other atMs id after works
      exact unready ⟨conversation, ahead⟩

theorem markGapFailed_kept (repair : GapRepair) (nowMs : Int) :
    (repair.markGapFailed nowMs).inFlight = repair.inFlight ∧
      (repair.markGapFailed nowMs).timer = repair.timer ∧
      (repair.markGapFailed nowMs).conversationId = repair.conversationId := by
  unfold GapRepair.markGapFailed
  split <;> exact ⟨rfl, rfl, rfl⟩

theorem storeProtocolMessage_kept (world : GapFlight threads) (incoming : IncomingChat) :
    (world.storeProtocolMessage incoming).2.inFlight = world.repair.inFlight ∧
      (world.storeProtocolMessage incoming).2.timer = world.repair.timer ∧
      (world.storeProtocolMessage incoming).2.conversationId = world.repair.conversationId := by
  unfold storeProtocolMessage GapRepair.storeProtocolMessage
  split
  · split
    · split <;> exact ⟨rfl, rfl, rfl⟩
    · exact ⟨rfl, rfl, rfl⟩
  · exact ⟨rfl, rfl, rfl⟩

theorem Origin.next_request {changed : Bool} {origin : Origin}
    (follows : origin.next changed = some job) : job.request = none := by
  cases origin with
  | incoming =>
      obtain rfl := Option.some.inj follows
      rfl
  | conversations => simp [Origin.next] at follows
  | page hasMore =>
      simp only [Origin.next] at follows
      split at follows <;>
      · obtain rfl := Option.some.inj follows
        rfl

theorem Sound.advances (sound : world.Sound) {nowMs : Nat} (works : world.jobs thread = some job)
    (permitted : permits world (.proceed thread nowMs : Event threads) = true) :
    (world.advanceJob thread nowMs job).Sound := by
  simp only [permits, works] at permitted
  have free (none : job.request = none) : ∀ other, world.jobs thread = some other →
      other.request = Option.none := by
    intro other same
    rw [works, Option.some.injEq] at same
    exact same ▸ none
  cases job with
  | asking =>
      refine sound.goesOn (free rfl) rfl rfl rfl fun job follows => ?_
      split at follows
      · obtain rfl := Option.some.inj follows
        rfl
      · simp at follows
  | looking =>
      refine sound.goesOn (free rfl) rfl rfl rfl fun job follows => ?_
      obtain rfl := Option.some.inj follows
      split <;> rfl
  | clearing =>
      refine sound.unmarked permitted works rfl ?_ ?_ (sound.own_erased permitted) ?_
      · rfl
      · rfl
      · simp
  | choosing =>
      refine sound.goesOn (free rfl) rfl rfl rfl fun job follows => ?_
      obtain rfl := Option.some.inj follows
      split <;> rfl
  | gating gap =>
      refine sound.goesOn (free rfl) rfl rfl rfl fun job follows => ?_
      obtain rfl := Option.some.inj follows
      split <;> rfl
  | deferring => exact sound.goesOn (free rfl) rfl rfl rfl (by simp)
  | marking gap =>
      simp only [advanceJob]
      split
      · exact sound.goesOn (free rfl) rfl rfl rfl (by simp)
      · rename_i unmarked
        split
        · exact sound.goesOn (free rfl) rfl rfl rfl (by simp [Job.request])
        · refine sound.marks (by simpa using unmarked) ?_ ?_ gap <;> rfl
  | requesting id gap =>
      simp only [advanceJob]
      split
      · rename_i sent
        have conversation : 0 < world.repair.conversationId := by
          simp only [GapRepair.requestRoamMessages, Bool.and_eq_true, Bool.not_eq_true',
            decide_eq_false_iff_not] at sent
          omega
        exact sound.sends works conversation (by omega) .ends
      · exact sound.withdraws works
  | withdrawing id =>
      obtain ⟨flight, waiting, _⟩ := sound.unsent thread _ id works rfl
      have isOwn : world.unmarks (some id) = true := by simp [unmarks, flight]
      have empty : world.outstanding = [] := by
        refine List.eq_nil_iff_forall_not_mem.mpr fun other member => waiting ?_
        exact Option.some.inj (sound.own isOwn other member) ▸ member
      refine sound.unmarked isOwn works rfl ?_ ?_ empty ?_
      · rfl
      · rfl
      · simp [Job.request]
  | failing after =>
      obtain ⟨inFlight, timer, conversation⟩ := markGapFailed_kept world.repair nowMs
      exact sound.goesOn (free rfl) inFlight timer conversation (by simp [Job.request])
  | retrying after =>
      refine sound.goesOn (free rfl) rfl rfl rfl fun job follows => ?_
      split at follows
      · obtain rfl := Option.some.inj follows
        rfl
      · exact After.job_request follows
  | arming atMs request after => exact sound.arms works permitted
  | answered own page hasMore =>
      have empty : world.outstanding = [] := by
        refine List.eq_nil_iff_forall_not_mem.mpr fun other member => ?_
        obtain rfl := sound.own permitted other member
        exact sound.answered thread other page hasMore works member
      refine sound.unmarked permitted works rfl ?_ ?_ empty ?_
      · rfl
      · rfl
      · simp [Job.request]
  | storing messages changed origin =>
      cases messages with
      | nil => exact sound.goesOn (free rfl) rfl rfl rfl fun job follows => Origin.next_request follows
      | cons incoming rest =>
          simp only [advanceJob]
          split
          · obtain ⟨inFlight, timer, conversation⟩ := storeProtocolMessage_kept world incoming
            exact sound.goesOn (free rfl) inFlight timer conversation (by simp [Job.request])
          · exact sound.goesOn (free rfl) rfl rfl rfl (by simp [Job.request])
  | judging =>
      refine sound.goesOn (free rfl) rfl rfl rfl fun job follows => ?_
      obtain rfl := Option.some.inj follows
      split <;> rfl
  | paging => exact sound.goesOn (free rfl) rfl rfl rfl (by simp [Job.request])
  | observing seq =>
      simp only [advanceJob]
      split
      · exact sound.goesOn (free rfl) rfl rfl rfl (by simp [Job.request])
      · exact sound.goesOn (free rfl) rfl rfl rfl (by simp [Job.request])
  | resuming =>
      refine sound.goesOn (free rfl) rfl rfl rfl fun job follows => ?_
      split at follows
      · obtain rfl := Option.some.inj follows
        rfl
      · simp at follows
  | expired own =>
      refine sound.unmarked permitted works rfl ?_ ?_ (sound.own_erased permitted)
        fun job follows => ?_
      · rfl
      · rfl
      · split at follows
        · obtain rfl := Option.some.inj follows
          rfl
        · simp at follows

theorem Sound.answers (sound : world.Sound) {thread : Fin threads}
    (free : world.jobs (some thread) = none) {own : Option Nat}
    (asked : own.all (world.outstanding.contains ·) = true)
    (permitted : own = none → (!world.repair.inFlight || world.settled) = true)
    (page : List IncomingChat) (hasMore : Bool) :
    ({ world.setTimer none none with
      outstanding := own.elim world.outstanding world.outstanding.erase }.set (some thread)
        (some (.answered own page hasMore))).Sound where
  flagged := sound.flagged
  outstanding id member := by
    cases own with
    | none => exact sound.outstanding id member
    | some first => exact sound.outstanding id (List.mem_of_mem_erase member)
  nodup := by
    cases own with
    | none => exact sound.nodup
    | some first => exact sound.nodup.erase first
  flightFresh := sound.flightFresh
  armedFresh := by simp [set, setTimer]
  jobFresh other job id works request := by
    rcases set_cases works with ⟨_, mine⟩ | ⟨_, works⟩
    · obtain rfl := Option.some.inj mine
      obtain rfl : own = some id := request
      have member : id ∈ world.outstanding := by simpa using asked
      exact sound.flightFresh id (sound.outstanding id member)
    · exact sound.jobFresh other job id works request
  unsent other job id works unsent := by
    rcases set_cases works with ⟨_, mine⟩ | ⟨apart, works⟩
    · obtain rfl := Option.some.inj mine
      simp [Job.unsent] at unsent
    · obtain ⟨flight, waiting, _, alone⟩ := sound.unsent other job id works unsent
      refine ⟨flight, fun member => waiting ?_, by simp [set, setTimer],
        fun third later distinct works => ?_⟩
      · cases own with
        | none => exact member
        | some first => exact List.mem_of_mem_erase member
      · rcases set_cases works with ⟨_, mine⟩ | ⟨_, works⟩
        · obtain rfl := Option.some.inj mine
          rintro rfl
          exact waiting (by simpa using asked)
        · exact alone third later distinct works
  answered other id page hasMore works := by
    rcases set_cases works with ⟨_, mine⟩ | ⟨_, works⟩
    · simp only [Option.some.injEq, Job.answered.injEq] at mine
      obtain ⟨rfl, _, _⟩ := mine
      exact sound.nodup.not_mem_erase
    · intro member
      refine sound.answered other id page hasMore works ?_
      cases own with
      | none => exact member
      | some first => exact List.mem_of_mem_erase member
  armed id flight := by
    cases own with
    | none =>
        have marked : world.repair.inFlight = true := by
          rw [sound.flagged]
          exact Option.isSome_iff_exists.mpr ⟨id, flight⟩
        have settled : world.settled := by simpa [marked] using permitted rfl
        obtain ⟨other, settles⟩ := settled
        obtain ⟨job, works, request⟩ := (Option.any_eq_true _ _).mp settles
        refine .inr ⟨other, job, ?_, (of_decide_eq_true request).trans flight⟩
        rw [set_jobs, if_neg]
        · exact works
        · rintro rfl
          simp [free] at works
    | some first =>
        have member : first ∈ world.outstanding := by simpa using asked
        have same := (sound.outstanding first member).symm.trans flight
        exact .inr ⟨some thread, .answered (some first) page hasMore,
          by rw [set_jobs, if_pos rfl], same⟩
  ready other atMs id after works := by
    rcases set_cases works with ⟨_, mine⟩ | ⟨_, works⟩
    · simp at mine
    · exact sound.ready other atMs id after works

theorem Sound.fires (sound : world.Sound) (free : world.jobs none = none) {timer : GapTimer}
    (due : world.repair.timer = some timer) :
    ((world.setTimer none none).set none
      (some (if timer.requestTimeout then .expired world.armedFor else .asking))).Sound where
  flagged := sound.flagged
  outstanding := sound.outstanding
  nodup := sound.nodup
  flightFresh := sound.flightFresh
  armedFresh := by simp [set, setTimer]
  jobFresh other job id works request := by
    rcases set_cases works with ⟨_, mine⟩ | ⟨_, works⟩
    · obtain rfl := Option.some.inj mine
      split at request
      · exact sound.armedFresh id request
      · simp [Job.request] at request
    · exact sound.jobFresh other job id works request
  unsent other job id works unsent := by
    rcases set_cases works with ⟨_, mine⟩ | ⟨apart, works⟩
    · obtain rfl := Option.some.inj mine
      split at unsent <;> simp [Job.unsent] at unsent
    · obtain ⟨flight, waiting, armedFor, alone⟩ := sound.unsent other job id works unsent
      refine ⟨flight, waiting, by simp [set, setTimer], fun third later distinct works => ?_⟩
      rcases set_cases works with ⟨_, mine⟩ | ⟨_, works⟩
      · obtain rfl := Option.some.inj mine
        split
        · exact armedFor
        · simp [Job.request]
      · exact alone third later distinct works
  answered other id page hasMore works := by
    rcases set_cases works with ⟨_, mine⟩ | ⟨_, works⟩
    · have mine := Option.some.inj mine
      split at mine <;> simp at mine
    · exact sound.answered other id page hasMore works
  armed id flight := by
    refine .inr ?_
    rcases sound.armed id flight with ⟨timedOut, armedFor⟩ | ⟨other, job, works, request⟩
    · have isTimeout : timer.requestTimeout = true := by simpa [due] using timedOut
      refine ⟨none, .expired (some id), ?_, rfl⟩
      rw [set_jobs, if_pos rfl, if_pos isTimeout, armedFor]
    · refine ⟨other, job, ?_, request⟩
      rw [set_jobs, if_neg]
      · exact works
      · rintro rfl
        simp [free] at works
  ready other atMs id after works := by
    rcases set_cases works with ⟨_, mine⟩ | ⟨_, works⟩
    · have mine := Option.some.inj mine
      split at mine <;> simp at mine
    · exact sound.ready other atMs id after works

theorem Sound.changes (sound : world.Sound) {after : GapFlight threads}
    (inFlight : after.repair.inFlight = world.repair.inFlight)
    (conversation : after.repair.conversationId = world.repair.conversationId)
    (jobs : after.jobs = world.jobs) (flight : after.flight = world.flight)
    (outstanding : after.outstanding = world.outstanding)
    (nextRequest : after.nextRequest = world.nextRequest)
    (timer : after.repair.timer = world.repair.timer ∧ after.armedFor = world.armedFor ∨
      after.armedFor = none ∧ (!world.repair.inFlight || world.settled) = true) :
    after.Sound where
  flagged := by rw [inFlight, flight]; exact sound.flagged
  outstanding := by rw [outstanding, flight]; exact sound.outstanding
  nodup := by rw [outstanding]; exact sound.nodup
  flightFresh := by rw [flight, nextRequest]; exact sound.flightFresh
  armedFresh id armedFor := by
    rcases timer with same | gone
    · exact nextRequest ▸ sound.armedFresh id (same.2 ▸ armedFor)
    · simp [gone.1] at armedFor
  jobFresh := by rw [jobs, nextRequest]; exact sound.jobFresh
  unsent thread job id works unsent := by
    rw [jobs] at works ⊢
    obtain ⟨known, waiting, armedFor, alone⟩ := sound.unsent thread job id works unsent
    refine ⟨flight ▸ known, outstanding ▸ waiting, ?_, alone⟩
    rcases timer with same | gone
    · exact same.2 ▸ armedFor
    · simp [gone.1]
  answered := by rw [jobs, outstanding]; exact sound.answered
  armed id known := by
    rw [flight] at known
    rcases timer with same | ⟨_, idle⟩
    · rw [same.1, same.2, jobs]
      exact sound.armed id known
    · have marked : world.repair.inFlight = true := by
        rw [sound.flagged]
        exact Option.isSome_iff_exists.mpr ⟨id, known⟩
      have settled : world.settled := by simpa [marked] using idle
      obtain ⟨thread, settles⟩ := settled
      obtain ⟨job, works, request⟩ := (Option.any_eq_true _ _).mp settles
      exact .inr ⟨thread, job, by rw [jobs]; exact works, (of_decide_eq_true request).trans known⟩
  ready := by rw [jobs, conversation]; exact sound.ready

theorem Sound.changesLife (sound : world.Sound) {call : ClientRuntime.LifeCall}
    (permitted : (!clears world.runtime call || world.unmarks none) = true) :
    (world.changeLife call).Sound := by
  unfold changeLife
  split
  · rename_i clearing
    have idle : world.unmarks none = true := by simpa [clearing] using permitted
    have unmarked : world.flight = none ∧ world.repair.inFlight = false := by
      have flagged := sound.flagged
      cases marked : world.repair.inFlight with
      | true =>
          have none : world.flight = none := by simpa [unmarks, marked] using idle
          simp [marked, none] at flagged
      | false => exact ⟨by simpa [marked] using flagged.symm, rfl⟩
    exact sound.changes unmarked.2.symm rfl rfl unmarked.1.symm rfl rfl (.inl ⟨rfl, rfl⟩)
  · exact sound.changes rfl rfl rfl rfl rfl rfl (.inl ⟨rfl, rfl⟩)

theorem Sound.live (sound : world.Sound) {call : ClientRuntime.LifeCall}
    (permitted : permits world (.live call : Event threads) = true) : (world.live call).Sound := by
  cases call with
  | advance =>
      simp only [GapFlight.live]
      split
      · split
        · exact sound.changesLife permitted
        · have started : { world with syncTimerStop := false, timerThread := true }.Sound :=
            sound.changes rfl rfl rfl rfl rfl rfl (.inl ⟨rfl, rfl⟩)
          exact started.changesLife permitted
      · split
        · have stopped : { world with cleared := false }.Sound :=
            sound.changes rfl rfl rfl rfl rfl rfl (.inl ⟨rfl, rfl⟩)
          exact stopped.changesLife permitted
        · exact sound
      · exact sound.changesLife permitted
  | start databaseFits => exact sound.changesLife permitted
  | stop now => exact sound.changesLife permitted
  | logout now => exact sound.changesLife permitted
  | destroy now => exact sound.changesLife permitted

theorem Sound.begins (sound : world.Sound) {thread : Fin threads} {job : Job}
    (request : job.request = none) : (world.begin thread job).Sound := by
  unfold GapFlight.begin
  split
  · rename_i free
    refine sound.goesOn (by simp [free]) rfl rfl rfl fun other same => ?_
    obtain rfl := Option.some.inj same
    exact request
  · exact sound

theorem Sound.step (sound : world.Sound) {event : Event threads}
    (permitted : permits world event = true) : (world.step event).Sound := by
  cases event with
  | live call => exact sound.live permitted
  | stopSyncTimer =>
      simp only [GapFlight.step]
      split
      · split
        · exact sound
        · exact sound.changes rfl rfl rfl rfl rfl rfl (.inr ⟨rfl, permitted⟩)
      · exact sound
  | joined =>
      simp only [GapFlight.step]
      split
      · exact sound.changes rfl rfl rfl rfl rfl rfl (.inl ⟨rfl, rfl⟩)
      · exact sound
  | setDatabase tracker =>
      simp only [GapFlight.step]
      split
      · exact sound.changes rfl rfl rfl rfl rfl rfl (.inl ⟨rfl, rfl⟩)
      · exact sound
  | setConnected connected =>
      exact sound.changes rfl rfl rfl rfl rfl rfl (.inl ⟨rfl, rfl⟩)
  | setAccountAuthenticated thread authenticated =>
      simp only [GapFlight.step]
      split
      · rename_i free
        have resumed : (world.set (some thread)
            (if authenticated then some .resuming else none)).Sound := by
          refine sound.goesOn (by simp [free]) rfl rfl rfl fun job follows => ?_
          split at follows
          · obtain rfl := Option.some.inj follows
            rfl
          · simp at follows
        exact resumed.changes rfl rfl rfl rfl rfl rfl (.inl ⟨rfl, rfl⟩)
      · exact sound
  | handleIncomingChat thread incoming =>
      simp only [GapFlight.step]
      split
      · exact sound.begins rfl
      · exact sound
  | handleRoamConversations thread messages => exact sound.begins rfl
  | handleRoamMessages thread own page hasMore =>
      simp only [GapFlight.step]
      split
      · rename_i begins
        refine sound.answers begins.1 begins.2 ?_ page hasMore
        rintro rfl
        exact permitted
      · exact sound
  | handleChatAck thread seq => exact sound.begins rfl
  | fire nowMs =>
      simp only [GapFlight.step]
      split
      · rename_i timer due
        split
        · rename_i fires
          exact sound.fires fires.2.2.1 due
        · exact sound
      · exact sound
  | proceed thread nowMs =>
      simp only [GapFlight.step]
      split
      · rename_i works
        exact sound.advances works permitted
      · exact sound

theorem create_sound (ownerId : Int) (completionCapacity : Nat) (instanceId : UInt64)
    (conversationId gapRequestTimeoutMs : Int) (tracker : SyncTracker) :
    (create ownerId completionCapacity instanceId conversationId gapRequestTimeoutMs tracker :
      GapFlight threads).Sound where
  flagged := rfl
  outstanding := by simp [create]
  nodup := by simp [create]
  flightFresh := by simp [create]
  armedFresh := by simp [create]
  jobFresh := by simp [create]
  unsent := by simp [create]
  answered := by simp [create]
  armed := by simp [create]
  ready := by simp [create]

end GapFlight

/-- In a run whose steps all meet the condition, requests are single flight and have their timers. -/
theorem gap_requests_single {threads : Nat} (ownerId : Int) (completionCapacity : Nat)
    (instanceId : UInt64) (conversationId gapRequestTimeoutMs : Int) (tracker : SyncTracker)
    (events : List (GapFlight.Event threads))
    (passed : guarded GapFlight.step GapFlight.permits (GapFlight.create ownerId completionCapacity
      instanceId conversationId gapRequestTimeoutMs tracker) events = true) :
    ∀ front back, front ++ back = events →
      (front.foldl GapFlight.step (GapFlight.create ownerId completionCapacity instanceId
        conversationId gapRequestTimeoutMs tracker)).SingleFlight := by
  intro front back split
  exact (prefixes_of_guarded GapFlight.Sound (fun _ => True)
    (fun world event _ sound permitted => sound.step permitted) _
    (GapFlight.create_sound ownerId completionCapacity instanceId conversationId gapRequestTimeoutMs
      tracker) events (fun _ _ => trivial) passed front back split).singleFlight

namespace GapFlight

def stored (seq : Nat) : IncomingChat where
  message := { fromId := 2, toId := 1, msgId := ascii "m" ++ decimal seq, conversationSeq := seq }
  committed := true

def blocks (thread : Fin 2) (count : Nat) : List (Event 2) :=
  List.replicate count (.proceed (some thread) 100)

def started : List (Event 2) :=
  [.live (.start true), .live .advance, .live .advance, .live .advance,
    .setAccountAuthenticated 0 true]

def asked : List (Event 2) :=
  [.setDatabase (some { config := { ownerId := 1, conversationId := 2 } }), .setConnected true] ++
    started ++ blocks 0 1 ++ [.handleIncomingChat 0 (stored 5)] ++ blocks 0 9

def answeredAll : List (Event 2) :=
  asked ++ [.handleRoamMessages 0 (some 0) [stored 4, stored 3, stored 2, stored 1] false] ++
    blocks 0 11

def scrolled : List (Event 2) :=
  asked ++ [.handleRoamMessages 1 none [stored 4] true] ++ blocks 1 10

def restarted : List (Event 2) :=
  asked ++ [.live (.stop 0), .live .advance, .stopSyncTimer, .joined, .live .advance,
    .live .advance, .live .advance] ++ started ++ blocks 0 6

def fresh : GapFlight 2 := create 1 256 1 2 5000 { config := { ownerId := 1, conversationId := 2 } }

def stuck : GapFlight 2 := restarted.foldl step fresh

end GapFlight

theorem gap_requests_single_answered :
    (answeredAll.foldl GapFlight.step fresh).repair.tracker.contiguousSeq = 5 ∧
      (answeredAll.foldl GapFlight.step fresh).SingleFlight :=
  ⟨by decide +kernel, gap_requests_single 1 256 1 2 5000
    { config := { ownerId := 1, conversationId := 2 } } answeredAll (by decide +kernel) answeredAll []
    (by simp)⟩

/-- Two requests are outstanding; and after a restart the conversation is marked without a timer, and
no thread is at work. -/
theorem gap_requests_doubled :
    (scrolled.foldl GapFlight.step fresh).outstanding.length = 2 ∧
      ¬(scrolled.foldl GapFlight.step fresh).SingleFlight ∧ stuck.running = true ∧
      stuck.authenticated = true ∧ stuck.repair.inFlight = true ∧ stuck.repair.timer = none ∧
      (∀ thread, stuck.jobs thread = none) ∧ ¬stuck.SingleFlight := by
  have doubled : (scrolled.foldl GapFlight.step fresh).outstanding.length = 2 := by decide +kernel
  have marked : stuck.repair.inFlight = true := by decide +kernel
  have untimed : stuck.repair.timer = none := by decide +kernel
  have idle : ∀ thread, stuck.jobs thread = none := by decide +kernel
  refine ⟨doubled, fun single => ?_, by decide +kernel, by decide +kernel, marked, untimed, idle,
    fun single => ?_⟩
  · have most := single.outstanding
    omega
  · rcases single.armed marked with timer | ⟨thread, settles⟩
    · simp [untimed] at timer
    · simp [idle thread] at settles

end Jitong
