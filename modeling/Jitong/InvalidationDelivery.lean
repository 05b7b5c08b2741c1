import Jitong.ClientRuntime
import Jitong.Lib.Run
import Jitong.TokenManager

/-!
The way from a change in the database to the sink of a runtime: threads commit, draw a version,
publish it under `m_mutex` and hand it to the sink after the unlock, while the life cycle goes on.
-/

namespace Jitong

open ClientRuntime Jitong.Lib

namespace InvalidationDelivery

inductive Method
  | handleIncomingChat | handleRoamConversations | handleRoamMessages | sendText | sendMedia
  | markRead | handleChatAck | handleFriendInfo | handleFriendRequestList | handleFriendOffline
  | handleDeleteFriendResult
  deriving DecidableEq

def Method.captures : Method → Bool
  | .handleIncomingChat | .handleRoamConversations | .handleRoamMessages => true
  | _ => false

def Method.domains : Method → InvalidationBus.Domain × List InvalidationBus.Domain
  | .markRead => (.conversations, [])
  | .handleFriendInfo | .handleFriendRequestList | .handleFriendOffline
  | .handleDeleteFriendResult => (.friends, [])
  | _ => (.messages, [.conversations])

structure Commit where
  generation : Int64
  delivered : Nat
  deriving DecidableEq

/-- `announcing` evaluates the arguments of `publishInvalidation` in some order; `delivering` has
released `m_mutex` and holds the sink. -/
inductive Stage
  | entered
  | announcing (version generation : Option Int64)
  | delivering (version generation : Int64)
  deriving DecidableEq

/-- A thread in one of the methods; `captured` is the generation it read on entry. -/
structure Caller where
  captured : Option Int64
  domain : InvalidationBus.Domain
  later : List InvalidationBus.Domain
  commits : List Commit := []
  changed : Bool := false
  stage : Stage := .entered
  deriving DecidableEq

structure Change where
  commit : Commit
  domain : InvalidationBus.Domain
  version : Option Int64
  deriving DecidableEq

structure Delivery where
  domain : InvalidationBus.Domain
  version : Int64
  generation : Int64
  state : State
  current : Int64
  deriving DecidableEq

namespace Caller

def enter (runtime : ClientRuntime) (method : Method) : Caller where
  captured := if method.captures then some runtime.generation else none
  domain := method.domains.1
  later := method.domains.2

def unannounced (caller : Caller) : List Change :=
  caller.commits.flatMap fun commit =>
    (caller.domain :: caller.later).map fun domain => ⟨commit, domain, none⟩

def announced (caller : Caller) (version : Int64) : List Change :=
  caller.commits.map fun commit => ⟨commit, caller.domain, some version⟩

def next (caller : Caller) : Option Caller :=
  match caller.later with
  | [] => none
  | domain :: later =>
      some { caller with
        domain := domain
        later := later
        stage := .announcing none caller.captured }

def delivering (caller : Caller) : Bool :=
  match caller.stage with
  | .delivering _ _ => true
  | _ => false

end Caller

end InvalidationDelivery

open InvalidationDelivery

structure InvalidationDelivery (threads : Nat) where
  runtime : ClientRuntime
  callers : Fin threads → Option Caller := fun _ => none
  changes : List Change := []
  delivered : List Delivery := []

namespace InvalidationDelivery

inductive Event (threads : Nat)
  | enter (thread : Fin threads) (method : Method)
  | commit (thread : Fin threads) (written reported : Bool)
  | announce (thread : Fin threads)
  | drawVersion (thread : Fin threads)
  | loadGeneration (thread : Fin threads)
  | publish (thread : Fin threads)
  | deliver (thread : Fin threads)
  | setRuntimeEventSink (present : Bool)
  | live (call : LifeCall)
  deriving DecidableEq

variable {threads : Nat}

def set (world : InvalidationDelivery threads) (thread : Fin threads) (caller : Option Caller) :
    InvalidationDelivery threads :=
  { world with callers := Function.update world.callers thread caller }

def enter (world : InvalidationDelivery threads) (thread : Fin threads) (method : Method) :
    InvalidationDelivery threads :=
  match world.callers thread with
  | some _ => world
  | none => world.set thread (some (.enter world.runtime method))

def commit (world : InvalidationDelivery threads) (thread : Fin threads) (caller : Caller)
    (written reported : Bool) : InvalidationDelivery threads :=
  let commits := if written && world.runtime.state = .running then
    caller.commits ++ [⟨world.runtime.generation, world.delivered.length⟩] else caller.commits
  world.set thread (some { caller with
    commits := commits
    changed := caller.changed || reported })

def announce (world : InvalidationDelivery threads) (thread : Fin threads) (caller : Caller) :
    InvalidationDelivery threads :=
  if caller.changed then
    world.set thread (some { caller with stage := .announcing none caller.captured })
  else { world.set thread none with changes := world.changes ++ caller.unannounced }

def drawVersion (world : InvalidationDelivery threads) (thread : Fin threads) (caller : Caller)
    (generation : Option Int64) : InvalidationDelivery threads :=
  let version := world.runtime.dbVersion + 1
  { world.set thread (some { caller with stage := .announcing (some version) generation }) with
    runtime := { world.runtime with dbVersion := version }
    changes := world.changes ++ caller.announced version }

def loadGeneration (world : InvalidationDelivery threads) (thread : Fin threads)
    (caller : Caller) (version : Option Int64) : InvalidationDelivery threads :=
  world.set thread (some { caller with
    stage := .announcing version (some world.runtime.generation) })

def publish (world : InvalidationDelivery threads) (thread : Fin threads) (caller : Caller)
    (version generation : Int64) : InvalidationDelivery threads :=
  if world.runtime.state ≠ .running ∨ generation ≠ world.runtime.generation then
    world.set thread caller.next
  else
    match world.runtime.invalidations.publish caller.domain version.toInt with
    | none => world.set thread caller.next
    | some invalidations =>
        { world.set thread (if world.runtime.runtimeEventSink then
              some { caller with stage := .delivering version generation }
            else caller.next) with
          runtime := { world.runtime with invalidations := invalidations } }

def deliver (world : InvalidationDelivery threads) (thread : Fin threads) (caller : Caller)
    (version generation : Int64) : InvalidationDelivery threads :=
  { world.set thread caller.next with
    delivered := world.delivered ++ [⟨caller.domain, version, generation, world.runtime.state,
      world.runtime.generation⟩] }

def within (world : InvalidationDelivery threads) (thread : Fin threads)
    (move : Caller → InvalidationDelivery threads) : InvalidationDelivery threads :=
  match world.callers thread with
  | none => world
  | some caller => move caller

def step (world : InvalidationDelivery threads) : Event threads → InvalidationDelivery threads
  | .enter thread method => world.enter thread method
  | .commit thread written reported => world.within thread fun caller =>
      match caller.stage with
      | .entered => world.commit thread caller written reported
      | _ => world
  | .announce thread => world.within thread fun caller =>
      match caller.stage with
      | .entered => world.announce thread caller
      | _ => world
  | .drawVersion thread => world.within thread fun caller =>
      match caller.stage with
      | .announcing none generation => world.drawVersion thread caller generation
      | _ => world
  | .loadGeneration thread => world.within thread fun caller =>
      match caller.stage with
      | .announcing version none => world.loadGeneration thread caller version
      | _ => world
  | .publish thread => world.within thread fun caller =>
      match caller.stage with
      | .announcing (some version) (some generation) =>
          world.publish thread caller version generation
      | _ => world
  | .deliver thread => world.within thread fun caller =>
      match caller.stage with
      | .delivering version generation => world.deliver thread caller version generation
      | _ => world
  | .setRuntimeEventSink present =>
      if world.runtime.state = .destroyed ∨ world.runtime.state = .destroying then world
      else { world with runtime := { world.runtime with runtimeEventSink := present } }
  | .live call => { world with runtime := world.runtime.live call }

def Answered (world : InvalidationDelivery threads) : Prop :=
  (∀ thread, world.callers thread = none) → world.runtime.state = .running →
    ∀ change ∈ world.changes, change.commit.generation = world.runtime.generation →
      ∃ version, change.version = some version ∧
        ∃ delivery ∈ world.delivered.drop change.commit.delivered,
          delivery.domain = change.domain ∧ version.toInt ≤ delivery.version.toInt

def Ascending (world : InvalidationDelivery threads) : Prop :=
  ∀ domain, ((world.delivered.filter (·.domain = domain)).map (·.version.toInt)).Pairwise (· ≤ ·)

def Timely (world : InvalidationDelivery threads) : Prop :=
  ∀ delivery ∈ world.delivered, delivery.state = .running ∧ delivery.generation = delivery.current

def noneDelivering (world : InvalidationDelivery threads) : Bool :=
  decide (∀ thread, (world.callers thread).all fun caller => !caller.delivering)

def accepts (world : InvalidationDelivery threads) (domain : InvalidationBus.Domain)
    (version generation : Int64) : Bool :=
  world.runtime.state = .running && generation = world.runtime.generation &&
    world.runtime.invalidations.current domain < version.toInt

def permits (world : InvalidationDelivery threads) : Event threads → Bool
  | .commit thread written _ => (world.callers thread).all fun caller =>
      !(written && world.runtime.state = .running) ||
        caller.captured.all fun generation => generation = world.runtime.generation
  | .announce thread => (world.callers thread).all fun caller =>
      caller.changed || caller.commits = []
  | .drawVersion _ => world.runtime.dbVersion.toInt < maxInt64
  | .publish thread => (world.callers thread).all fun caller =>
      match caller.stage with
      | .announcing (some version) (some generation) =>
          !world.accepts caller.domain version generation ||
            world.runtime.runtimeEventSink && decide (∀ other, (world.callers other).all fun busy =>
              !(busy.delivering && busy.domain = caller.domain))
      | _ => true
  | .live .advance =>
      world.runtime.generation.toInt < maxInt64 &&
        (world.runtime.control ≠ some .enterRunning ||
          decide (∀ thread, (world.callers thread).all fun caller =>
            match caller.stage with
            | .announcing (some _) none => false
            | _ => true))
  | .live (.start _) => true
  | .live _ => world.runtime.control ≠ none || world.noneDelivering
  | _ => true

def create (ownerId : Int) (instanceId : UInt64) : InvalidationDelivery threads where
  runtime := ClientRuntime.create ownerId 256 instanceId

/-! What a run keeps where every step meets the condition. -/

theorem toInt_succ {number : Int64} (small : number.toInt < maxInt64) :
    (number + 1).toInt = number.toInt + 1 := by
  have least := number.le_toInt
  simp only [maxInt64] at small
  rw [Int64.toInt_add]
  refine Int.bmod_eq_of_le ?_ ?_ <;> simp at least ⊢ <;> omega

namespace Caller

def version? (caller : Caller) : Option Int64 :=
  match caller.stage with
  | .entered => none
  | .announcing version _ => version
  | .delivering version _ => some version

def generation? (caller : Caller) : Option Int64 :=
  match caller.stage with
  | .entered => none
  | .announcing _ generation => generation
  | .delivering _ generation => some generation

/-- What is known of a thread: `floor` is the last version of the runs before this one, `count`
the number of deliveries. -/
structure Fits (runtime : ClientRuntime) (floor : Int) (count : Nat) (caller : Caller) : Prop where
  captured : ∀ generation, caller.captured = some generation →
    generation.toInt ≤ runtime.generation.toInt
  read : ∀ generation, caller.generation? = some generation →
    generation.toInt ≤ runtime.generation.toInt
  drawn : ∀ version, caller.version? = some version →
    0 < version.toInt ∧ version.toInt ≤ runtime.dbVersion.toInt
  recent : runtime.state = .running → ∀ version, caller.version? = some version →
    (∀ generation, caller.generation? = some generation → generation = runtime.generation) →
      floor < version.toInt
  past : ∀ commit ∈ caller.commits, commit.generation.toInt ≤ runtime.generation.toInt ∧
    commit.delivered ≤ count
  own : runtime.state = .running → ∀ commit ∈ caller.commits,
    commit.generation = runtime.generation →
      (∀ generation, caller.captured = some generation → generation = runtime.generation) ∧
      ∀ generation, caller.generation? = some generation → generation = runtime.generation
  handing : ∀ version generation, caller.stage = .delivering version generation →
    runtime.state = .running ∧ generation = runtime.generation ∧
      version.toInt = runtime.invalidations.current caller.domain

variable {runtime : ClientRuntime} {floor : Int} {count : Nat} {caller : Caller}

theorem Fits.next (fits : caller.Fits runtime floor count) {later : Caller}
    (follows : caller.next = some later) : later.Fits runtime floor count := by
  unfold Caller.next at follows
  split at follows
  · simp at follows
  · obtain rfl := Option.some.inj follows
    refine ⟨fits.captured, fits.captured, by simp [version?], by simp [version?], fits.past, ?_,
      by simp⟩
    intro running commit member same
    exact ⟨(fits.own running commit member same).1, (fits.own running commit member same).1⟩

theorem next_idle {later : Caller} (follows : caller.next = some later) :
    later.delivering = false ∧ later.version? = none := by
  unfold Caller.next at follows
  split at follows
  · simp at follows
  · obtain rfl := Option.some.inj follows
    exact ⟨rfl, rfl⟩

end Caller

def Pending (caller : Option Caller) (change : Change) (version : Int64) : Prop :=
  ∃ held, caller = some held ∧ held.domain = change.domain ∧ change.commit ∈ held.commits ∧
    ∃ generation, held.stage = .announcing (some version) generation

def Accounted (world : InvalidationDelivery threads) (change : Change) : Prop :=
  ∃ version, change.version = some version ∧ 0 < version.toInt ∧
    change.commit.generation.toInt ≤ world.runtime.generation.toInt ∧
    change.commit.delivered ≤ world.delivered.length ∧
    (∀ delivery ∈ world.delivered.take change.commit.delivered,
      delivery.version.toInt < version.toInt) ∧
    (world.runtime.state = .running → change.commit.generation = world.runtime.generation →
      version.toInt ≤ world.runtime.invalidations.current change.domain ∨
        ∃ thread, Pending (world.callers thread) change version)

structure Sound (floor : Int) (world : InvalidationDelivery threads) : Prop where
  quiet : world.runtime.Quiet
  fits : ∀ thread caller, world.callers thread = some caller →
    caller.Fits world.runtime floor world.delivered.length
  single : ∀ first second caller other, world.callers first = some caller →
    world.callers second = some other → caller.delivering = true → other.delivering = true →
      caller.domain = other.domain → first = second
  base : floor ≤ world.runtime.dbVersion.toInt ∧ 0 ≤ world.runtime.dbVersion.toInt
  bus : ∀ domain, world.runtime.invalidations.current domain ≤ world.runtime.dbVersion.toInt
  handed : ∀ domain, world.runtime.invalidations.current domain = 0 ∨
    (∃ thread caller, world.callers thread = some caller ∧ caller.delivering = true ∧
      caller.domain = domain) ∨
    ∃ delivery ∈ world.delivered, delivery.domain = domain ∧
      delivery.version.toInt = world.runtime.invalidations.current domain
  bounded : ∀ delivery ∈ world.delivered,
    delivery.version.toInt ≤ world.runtime.dbVersion.toInt ∧
      (world.runtime.state = .running → delivery.version.toInt ≤ floor ∨
        delivery.version.toInt ≤ world.runtime.invalidations.current delivery.domain)
  changes : ∀ change ∈ world.changes, world.Accounted change
  ascending : world.Ascending
  timely : world.Timely

variable {world : InvalidationDelivery threads} {floor : Int} {thread : Fin threads}
  {caller : Caller}

theorem create_sound (ownerId : Int) (instanceId : UInt64) :
    (create ownerId instanceId : InvalidationDelivery threads).Sound 0 := by
  refine ⟨by simp [create, ClientRuntime.create, Quiet], ?_, ?_, ?_, ?_, ?_, ?_, ?_, ?_, ?_⟩ <;>
    simp [create, ClientRuntime.create, Ascending, Timely]

theorem Sound.answered (sound : world.Sound floor) : world.Answered := by
  intro idle running change member same
  obtain ⟨version, drawn, positive, _, _, earlier, published⟩ := sound.changes change member
  refine ⟨version, drawn, ?_⟩
  have current : version.toInt ≤ world.runtime.invalidations.current change.domain := by
    rcases published running same with current | ⟨thread, held, occupied, _⟩
    · exact current
    · simp [idle thread] at occupied
  rcases sound.handed change.domain with zero | ⟨thread, held, occupied, _⟩ |
    ⟨delivery, delivered, domain, newest⟩
  · omega
  · simp [idle thread] at occupied
  · refine ⟨delivery, ?_, domain, by omega⟩
    rw [← List.take_append_drop change.commit.delivered world.delivered] at delivered
    rcases List.mem_append.mp delivered with before | after
    · have older := earlier delivery before
      omega
    · exact after

theorem Sound.set (sound : world.Sound floor) (thread : Fin threads) (after : Option Caller)
    (fits : ∀ caller, after = some caller →
      caller.Fits world.runtime floor world.delivered.length ∧ caller.delivering = false)
    (idle : ∀ caller, world.callers thread = some caller → caller.delivering = false)
    (kept : world.runtime.state = .running → ∀ change version,
      change.commit.generation = world.runtime.generation →
      Pending (world.callers thread) change version →
        version.toInt ≤ world.runtime.invalidations.current change.domain ∨
          Pending after change version) :
    (world.set thread after).Sound floor := by
  have callers (other : Fin threads) : (world.set thread after).callers other =
      if other = thread then after else world.callers other := by
    simp [InvalidationDelivery.set, Function.update_apply]
  refine ⟨sound.quiet, ?_, ?_, sound.base, sound.bus, ?_, sound.bounded, ?_, sound.ascending,
    sound.timely⟩
  · intro other caller occupied
    rw [callers] at occupied
    split at occupied
    · exact (fits caller occupied).1
    · exact sound.fits other caller occupied
  · intro first second caller other left right busy busyOther same
    rw [callers] at left right
    split at left
    · simp [(fits caller left).2] at busy
    · split at right
      · simp [(fits other right).2] at busyOther
      · exact sound.single first second caller other left right busy busyOther same
  · intro domain
    rcases sound.handed domain with zero | ⟨other, caller, occupied, busy, same⟩ | delivered
    · exact .inl zero
    · refine .inr (.inl ⟨other, caller, ?_, busy, same⟩)
      rw [callers, if_neg]
      · exact occupied
      · rintro rfl
        simp [idle caller occupied] at busy
    · exact .inr (.inr delivered)
  · intro change member
    obtain ⟨version, drawn, positive, past, within, earlier, published⟩ :=
      sound.changes change member
    refine ⟨version, drawn, positive, past, within, earlier, fun running same => ?_⟩
    rcases published running same with current | ⟨other, pending⟩
    · exact .inl current
    · by_cases own : other = thread
      · subst own
        rcases kept running change version same pending with current | pending
        · exact .inl current
        · exact .inr ⟨other, by rw [callers, if_pos rfl]; exact pending⟩
      · exact .inr ⟨other, by rw [callers, if_neg own]; exact pending⟩

theorem Sound.enter (sound : world.Sound floor) (thread : Fin threads) (method : Method) :
    (world.enter thread method).Sound floor := by
  unfold InvalidationDelivery.enter
  split
  · exact sound
  · rename_i vacant
    refine sound.set thread _ ?_ (by simp [vacant]) (by simp [vacant, Pending])
    intro caller entered
    obtain rfl := Option.some.inj entered
    refine ⟨⟨?_, by simp [Caller.enter, Caller.generation?], by simp [Caller.enter, Caller.version?],
      by simp [Caller.enter, Caller.version?], by simp [Caller.enter], by simp [Caller.enter],
      by simp [Caller.enter]⟩, rfl⟩
    intro generation captured
    simp only [Caller.enter] at captured
    split at captured
    · exact (Option.some.inj captured).symm ▸ le_rfl
    · simp at captured

theorem Sound.commit (sound : world.Sound floor) (occupied : world.callers thread = some caller)
    (entered : caller.stage = .entered) (written reported : Bool)
    (permitted : world.permits (.commit thread written reported) = true) :
    (world.commit thread caller written reported).Sound floor := by
  have fits := sound.fits thread caller occupied
  simp only [permits, occupied, Option.all_some, Bool.or_eq_true, Bool.not_eq_true',
    Option.all_eq_true, decide_eq_true_eq] at permitted
  unfold InvalidationDelivery.commit
  refine sound.set thread _ ?_ ?_ ?_
  · intro after moved
    obtain rfl := Option.some.inj moved
    refine ⟨⟨fits.captured, by simp [Caller.generation?, entered],
      by simp [Caller.version?, entered], by simp [Caller.version?, entered], ?_, ?_,
      by simp [entered]⟩, by simp [Caller.delivering, entered]⟩
    · intro commit member
      dsimp only at member
      split at member
      · rcases List.mem_append.mp member with earlier | own
        · exact fits.past commit earlier
        · exact List.mem_singleton.mp own ▸ ⟨le_rfl, le_rfl⟩
      · exact fits.past commit member
    · intro running commit member same
      refine ⟨?_, by simp [Caller.generation?, entered]⟩
      dsimp only at member
      split at member
      · rename_i took
        rcases List.mem_append.mp member with earlier | _
        · exact (fits.own running commit earlier same).1
        · rcases permitted with idle | captured
          · exact absurd (took.symm.trans idle) (by simp)
          · exact captured
      · exact (fits.own running commit member same).1
  · intro before same
    obtain rfl := Option.some.inj (occupied.symm.trans same)
    simp [Caller.delivering, entered]
  · rintro _ change version _ ⟨held, same, _, _, generation, announcing⟩
    obtain rfl := Option.some.inj (occupied.symm.trans same)
    simp [entered] at announcing

theorem Sound.announce (sound : world.Sound floor) (occupied : world.callers thread = some caller)
    (entered : caller.stage = .entered) (permitted : world.permits (.announce thread) = true) :
    (world.announce thread caller).Sound floor := by
  have fits := sound.fits thread caller occupied
  simp only [permits, occupied, Option.all_some, Bool.or_eq_true, decide_eq_true_eq] at permitted
  have idle (before : Caller) (same : world.callers thread = some before) :
      before.delivering = false := by
    obtain rfl := Option.some.inj (occupied.symm.trans same)
    simp [Caller.delivering, entered]
  have unpublished (after : Option Caller) : world.runtime.state = .running →
      ∀ change version, change.commit.generation = world.runtime.generation →
        Pending (world.callers thread) change version →
          version.toInt ≤ world.runtime.invalidations.current change.domain ∨
            Pending after change version := by
    rintro _ change version _ ⟨held, same, _, _, generation, announcing⟩
    obtain rfl := Option.some.inj (occupied.symm.trans same)
    simp [entered] at announcing
  unfold InvalidationDelivery.announce
  split
  · refine sound.set thread _ ?_ idle (unpublished _)
    intro after moved
    obtain rfl := Option.some.inj moved
    refine ⟨⟨fits.captured, fits.captured, by simp [Caller.version?], by simp [Caller.version?],
      fits.past, ?_, by simp⟩, rfl⟩
    intro running commit member same
    exact ⟨(fits.own running commit member same).1, (fits.own running commit member same).1⟩
  · rename_i unchanged
    have nothing : caller.unannounced = [] := by
      rcases permitted with changed | uncommitted
      · exact absurd changed unchanged
      · simp [Caller.unannounced, uncommitted]
    rw [nothing, List.append_nil]
    exact sound.set thread none (by simp) idle (unpublished _)

theorem Sound.loadGeneration (sound : world.Sound floor) {version : Option Int64}
    (occupied : world.callers thread = some caller)
    (announcing : caller.stage = .announcing version none) :
    (world.loadGeneration thread caller version).Sound floor := by
  have fits := sound.fits thread caller occupied
  have unread : caller.generation? = none := by simp [Caller.generation?, announcing]
  have sameVersion : caller.version? = version := by simp [Caller.version?, announcing]
  unfold InvalidationDelivery.loadGeneration
  refine sound.set thread _ ?_ ?_ ?_
  · intro after moved
    obtain rfl := Option.some.inj moved
    refine ⟨⟨fits.captured, ?_, ?_, ?_, fits.past, ?_, by simp⟩, rfl⟩
    · intro generation read
      exact (Option.some.inj read) ▸ le_rfl
    · exact fun drawn same => fits.drawn drawn (sameVersion.trans same)
    · intro running drawn same _
      exact fits.recent running drawn (sameVersion.trans same) (by simp [unread])
    · intro running commit member same
      refine ⟨(fits.own running commit member same).1, fun generation read => ?_⟩
      exact (Option.some.inj read).symm
  · intro before same
    obtain rfl := Option.some.inj (occupied.symm.trans same)
    simp [Caller.delivering, announcing]
  · rintro _ change drawn _ ⟨held, same, domain, member, generation, stage⟩
    obtain rfl := Option.some.inj (occupied.symm.trans same)
    rw [announcing] at stage
    obtain ⟨rfl, _⟩ := Stage.announcing.inj stage
    exact .inr ⟨_, rfl, domain, member, _, rfl⟩

theorem Caller.Fits.mono {runtime after : ClientRuntime} {count later : Nat}
    (fits : caller.Fits runtime floor count) (generation : after.generation = runtime.generation)
    (state : after.state = runtime.state)
    (dbVersion : runtime.dbVersion.toInt ≤ after.dbVersion.toInt) (more : count ≤ later)
    (current : caller.delivering = true → after.invalidations.current caller.domain =
      runtime.invalidations.current caller.domain) : caller.Fits after floor later := by
  obtain ⟨captured, read, drawn, recent, past, own, handing⟩ := fits
  refine ⟨?_, ?_, ?_, ?_, ?_, ?_, ?_⟩
  · simpa only [generation] using captured
  · simpa only [generation] using read
  · exact fun version same => ⟨(drawn version same).1, (drawn version same).2.trans dbVersion⟩
  · simpa only [generation, state] using recent
  · intro commit member
    rw [generation]
    exact ⟨(past commit member).1, (past commit member).2.trans more⟩
  · simpa only [generation, state] using own
  · intro version held stage
    rw [generation, state, current (by simp [Caller.delivering, stage])]
    exact handing version held stage

theorem Sound.drawVersion (sound : world.Sound floor) {generation : Option Int64}
    (occupied : world.callers thread = some caller)
    (announcing : caller.stage = .announcing none generation)
    (permitted : world.permits (.drawVersion thread) = true) :
    (world.drawVersion thread caller generation).Sound floor := by
  have fits := sound.fits thread caller occupied
  have small : world.runtime.dbVersion.toInt < maxInt64 := by simpa [permits] using permitted
  have grown := toInt_succ small
  obtain ⟨above, positive⟩ := sound.base
  have unheld : caller.delivering = false := by simp [Caller.delivering, announcing]
  have sameGeneration : caller.generation? = generation := by
    simp [Caller.generation?, announcing]
  unfold InvalidationDelivery.drawVersion
  refine ⟨sound.quiet, ?_, ?_, ?_, ?_, ?_, ?_, ?_, sound.ascending, sound.timely⟩
  · intro other held occupiedNow
    simp only [InvalidationDelivery.set, Function.update_apply] at occupiedNow
    split at occupiedNow
    · obtain rfl := Option.some.inj occupiedNow
      refine ⟨fits.captured, ?_, ?_, ?_, fits.past, ?_, by simp⟩
      · exact fun read same => fits.read read (sameGeneration.trans same)
      · intro version drawn
        obtain rfl := Option.some.inj drawn
        dsimp only
        omega
      · intro _ version drawn _
        obtain rfl := Option.some.inj drawn
        omega
      · intro running commit member same
        obtain ⟨captured, read⟩ := fits.own running commit member same
        exact ⟨captured, fun generation same => read generation (sameGeneration.trans same)⟩
    · exact (sound.fits other held occupiedNow).mono rfl rfl (by dsimp only; omega) le_rfl
        fun _ => rfl
  · intro first second left right occupiedLeft occupiedRight busy busyOther same
    simp only [InvalidationDelivery.set, Function.update_apply] at occupiedLeft occupiedRight
    split at occupiedLeft
    · obtain rfl := Option.some.inj occupiedLeft
      simp [Caller.delivering] at busy
    · split at occupiedRight
      · obtain rfl := Option.some.inj occupiedRight
        simp [Caller.delivering] at busyOther
      · exact sound.single first second left right occupiedLeft occupiedRight busy busyOther same
  · dsimp only
    omega
  · intro domain
    have bound := sound.bus domain
    dsimp only
    omega
  · intro domain
    rcases sound.handed domain with zero | ⟨other, held, occupiedOther, busy, same⟩ | delivered
    · exact .inl zero
    · refine .inr (.inl ⟨other, held, ?_, busy, same⟩)
      simp only [InvalidationDelivery.set, Function.update_apply]
      rw [if_neg]
      · exact occupiedOther
      · rintro rfl
        obtain rfl := Option.some.inj (occupied.symm.trans occupiedOther)
        simp [unheld] at busy
    · exact .inr (.inr delivered)
  · intro delivery member
    obtain ⟨bound, recent⟩ := sound.bounded delivery member
    refine ⟨?_, recent⟩
    dsimp only
    omega
  · intro change member
    rcases List.mem_append.mp member with earlier | own
    · obtain ⟨version, drawn, least, past, within, before, published⟩ :=
        sound.changes change earlier
      refine ⟨version, drawn, least, past, within, before, fun running same => ?_⟩
      rcases published running same with current | ⟨other, held, occupiedOther, domain, mine, seen,
        stage⟩
      · exact .inl current
      · refine .inr ⟨other, held, ?_, domain, mine, seen, stage⟩
        simp only [InvalidationDelivery.set, Function.update_apply]
        rw [if_neg]
        · exact occupiedOther
        · rintro rfl
          obtain rfl := Option.some.inj (occupied.symm.trans occupiedOther)
          simp [announcing] at stage
    · obtain ⟨commit, mine, rfl⟩ := List.mem_map.mp own
      refine ⟨_, rfl, by omega, (fits.past commit mine).1, (fits.past commit mine).2, ?_,
        fun _ _ => .inr ⟨thread, { caller with
          stage := .announcing (some (world.runtime.dbVersion + 1)) generation }, ?_, rfl, mine,
          generation, rfl⟩⟩
      · intro delivery member
        have bound := (sound.bounded delivery (List.mem_of_mem_take member)).1
        omega
      · simp [InvalidationDelivery.set]

theorem Sound.publish (sound : world.Sound floor) {version generation : Int64}
    (occupied : world.callers thread = some caller)
    (announcing : caller.stage = .announcing (some version) (some generation))
    (permitted : world.permits (.publish thread) = true) :
    (world.publish thread caller version generation).Sound floor := by
  have fits := sound.fits thread caller occupied
  have drawn : caller.version? = some version := by simp [Caller.version?, announcing]
  have read : caller.generation? = some generation := by simp [Caller.generation?, announcing]
  have unheld : caller.delivering = false := by simp [Caller.delivering, announcing]
  have idle (before : Caller) (same : world.callers thread = some before) :
      before.delivering = false := by
    obtain rfl := Option.some.inj (occupied.symm.trans same)
    exact unheld
  -- A refused publication is of an older run, or another thread has published a newer version.
  have refused (older : world.runtime.state = .running →
      generation = world.runtime.generation →
        version.toInt ≤ world.runtime.invalidations.current caller.domain) :
      (world.set thread caller.next).Sound floor := by
    refine sound.set thread caller.next ?_ idle ?_
    · intro after follows
      exact ⟨fits.next follows, (Caller.next_idle follows).1⟩
    · rintro running change held same ⟨before, sameCaller, domain, member, seen, stage⟩
      obtain rfl := Option.some.inj (occupied.symm.trans sameCaller)
      obtain ⟨sameVersion, _⟩ := Stage.announcing.inj (announcing.symm.trans stage)
      obtain rfl := Option.some.inj sameVersion
      have current := (fits.own running change.commit member same).2 generation read
      exact .inl (domain ▸ older running current)
  unfold InvalidationDelivery.publish
  split
  · rename_i stale
    refine refused fun running current => ?_
    rcases stale with stopped | other
    · exact absurd running stopped
    · exact absurd current other
  · rename_i live
    simp only [not_or, ne_eq, Decidable.not_not] at live
    obtain ⟨running, rfl⟩ := live
    unfold InvalidationBus.publish
    by_cases older : version.toInt ≤ world.runtime.invalidations.current caller.domain
    · simp only [if_pos older]
      exact refused fun _ _ => older
    · simp only [if_neg older]
      have newer := not_le.mp older
      simp only [permits, occupied, Option.all_some, announcing, accepts, running, decide_true,
        Bool.true_and, newer, Bool.not_true, Bool.false_or, Bool.and_eq_true, decide_eq_true_eq]
        at permitted
      obtain ⟨sink, free⟩ := permitted
      rw [sink, if_pos rfl]
      have newFloor := fits.recent running version drawn (by simp [read])
      have current (domain : InvalidationBus.Domain) :
          world.runtime.invalidations.current domain ≤
            Function.update world.runtime.invalidations.current caller.domain version.toInt
              domain := by
        rw [Function.update_apply]
        split
        · rename_i same
          rw [same]
          exact newer.le
        · exact le_rfl
      refine ⟨sound.quiet, ?_, ?_, sound.base, ?_, ?_, ?_, ?_, sound.ascending, sound.timely⟩
      · intro other held occupiedNow
        simp only [InvalidationDelivery.set, Function.update_apply] at occupiedNow
        split at occupiedNow
        · obtain rfl := Option.some.inj occupiedNow
          refine ⟨fits.captured, ?_, ?_, ?_, fits.past, ?_, ?_⟩
          · exact fun seen same => fits.read seen (read.trans same)
          · exact fun seen same => fits.drawn seen (drawn.trans same)
          · exact fun _ seen same _ => Option.some.inj same ▸ newFloor
          · intro _ commit member same
            refine ⟨(fits.own running commit member same).1, fun seen sameSeen => ?_⟩
            exact (Option.some.inj sameSeen).symm
          · intro seen held stage
            obtain ⟨rfl, rfl⟩ := Stage.delivering.inj stage
            exact ⟨running, rfl, by simp⟩
        · refine (sound.fits other held occupiedNow).mono rfl rfl le_rfl le_rfl fun busy => ?_
          have apart := free other
          simp only [occupiedNow, Option.all_some, busy, Bool.true_and, Bool.not_eq_true',
            decide_eq_false_iff_not] at apart
          exact Function.update_of_ne apart _ _
      · intro first second left right occupiedLeft occupiedRight busy busyOther same
        have apart (other : Fin threads) (held : Caller) (there : world.callers other = some held)
            (busyHeld : held.delivering = true) : held.domain ≠ caller.domain := by
          have free := free other
          simpa [there, busyHeld] using free
        simp only [InvalidationDelivery.set, Function.update_apply] at occupiedLeft occupiedRight
        split at occupiedLeft
        · rename_i own
          obtain rfl := Option.some.inj occupiedLeft
          split at occupiedRight
          · rename_i ownRight
            exact own.trans ownRight.symm
          · exact absurd same.symm (apart second right occupiedRight busyOther)
        · split at occupiedRight
          · obtain rfl := Option.some.inj occupiedRight
            exact absurd same (apart first left occupiedLeft busy)
          · exact sound.single first second left right occupiedLeft occupiedRight busy busyOther same
      · intro domain
        dsimp only
        rw [Function.update_apply]
        split
        · exact (fits.drawn version drawn).2
        · exact sound.bus domain
      · intro domain
        by_cases own : domain = caller.domain
        · exact .inr (.inl ⟨thread,
            { caller with stage := .delivering version world.runtime.generation },
            by simp [InvalidationDelivery.set], rfl, own.symm⟩)
        · dsimp only
          rw [Function.update_of_ne own]
          rcases sound.handed domain with zero | ⟨other, held, there, busy, same⟩ | delivered
          · exact .inl zero
          · refine .inr (.inl ⟨other, held, ?_, busy, same⟩)
            simp only [InvalidationDelivery.set, Function.update_apply]
            rw [if_neg]
            · exact there
            · rintro rfl
              simp [idle held there] at busy
          · exact .inr (.inr delivered)
      · intro delivery member
        obtain ⟨bound, recent⟩ := sound.bounded delivery member
        refine ⟨bound, fun _ => (recent running).imp_right fun old => old.trans (current _)⟩
      · intro change member
        obtain ⟨seen, sameSeen, least, past, within, before, published⟩ :=
          sound.changes change member
        refine ⟨seen, sameSeen, least, past, within, before, fun _ same => ?_⟩
        rcases published running same with old | ⟨other, held, there, domain, mine, read, stage⟩
        · exact .inl (old.trans (current _))
        · by_cases own : other = thread
          · subst own
            obtain rfl := Option.some.inj (occupied.symm.trans there)
            obtain ⟨sameVersion, _⟩ := Stage.announcing.inj (announcing.symm.trans stage)
            obtain rfl := Option.some.inj sameVersion
            refine .inl ?_
            dsimp only
            rw [← domain, Function.update_self]
          · refine .inr ⟨other, held, ?_, domain, mine, read, stage⟩
            simp [InvalidationDelivery.set, own, there]

theorem Sound.deliver (sound : world.Sound floor) {version generation : Int64}
    (occupied : world.callers thread = some caller)
    (handing : caller.stage = .delivering version generation) :
    (world.deliver thread caller version generation).Sound floor := by
  have fits := sound.fits thread caller occupied
  obtain ⟨running, rfl, newest⟩ := fits.handing version generation handing
  have held : caller.delivering = true := by simp [Caller.delivering, handing]
  have drawn : caller.version? = some version := by simp [Caller.version?, handing]
  have read : caller.generation? = some world.runtime.generation := by
    simp [Caller.generation?, handing]
  have newFloor := fits.recent running version drawn (by simp [read])
  unfold InvalidationDelivery.deliver
  refine ⟨sound.quiet, ?_, ?_, sound.base, sound.bus, ?_, ?_, ?_, ?_, ?_⟩
  · intro other after occupiedNow
    simp only [InvalidationDelivery.set, Function.update_apply] at occupiedNow
    have more : world.delivered.length ≤ (world.delivered ++ [(⟨caller.domain, version,
        world.runtime.generation, world.runtime.state, world.runtime.generation⟩ :
          Delivery)]).length := by simp
    split at occupiedNow
    · exact (fits.next occupiedNow).mono rfl rfl le_rfl more fun _ => rfl
    · exact (sound.fits other after occupiedNow).mono rfl rfl le_rfl more fun _ => rfl
  · intro first second left right occupiedLeft occupiedRight busy busyOther same
    simp only [InvalidationDelivery.set, Function.update_apply] at occupiedLeft occupiedRight
    split at occupiedLeft
    · simp [(Caller.next_idle occupiedLeft).1] at busy
    · split at occupiedRight
      · simp [(Caller.next_idle occupiedRight).1] at busyOther
      · exact sound.single first second left right occupiedLeft occupiedRight busy busyOther same
  · intro domain
    rcases sound.handed domain with zero | ⟨other, after, there, busy, same⟩ |
      ⟨delivery, member, same⟩
    · exact .inl zero
    · by_cases own : other = thread
      · subst own
        obtain rfl := Option.some.inj (occupied.symm.trans there)
        exact .inr (.inr ⟨_, List.mem_append_right _ List.mem_cons_self, same, same ▸ newest⟩)
      · refine .inr (.inl ⟨other, after, ?_, busy, same⟩)
        simp [InvalidationDelivery.set, own, there]
    · exact .inr (.inr ⟨delivery, List.mem_append_left _ member, same⟩)
  · intro delivery member
    rcases List.mem_append.mp member with earlier | own
    · exact sound.bounded delivery earlier
    · obtain rfl := List.mem_singleton.mp own
      exact ⟨(fits.drawn version drawn).2, fun _ => .inr newest.le⟩
  · intro change member
    obtain ⟨seen, sameSeen, least, past, within, before, published⟩ :=
      sound.changes change member
    refine ⟨seen, sameSeen, least, past, ?_, ?_, fun _ same => ?_⟩
    · rw [List.length_append]
      omega
    · intro delivery early
      rw [List.take_append_of_le_length within] at early
      exact before delivery early
    · rcases published running same with old | ⟨other, after, there, domain, mine, stage⟩
      · exact .inl old
      · refine .inr ⟨other, after, ?_, domain, mine, stage⟩
        simp only [InvalidationDelivery.set, Function.update_apply]
        rw [if_neg]
        · exact there
        · rintro rfl
          obtain rfl := Option.some.inj (occupied.symm.trans there)
          simp [handing] at stage
  · intro domain
    have ascending := sound.ascending domain
    dsimp only
    rw [List.filter_append, List.map_append, List.pairwise_append]
    refine ⟨ascending, ?_, ?_⟩
    · by_cases own : caller.domain = domain <;> simp [own]
    · intro older inOlder newer inNewer
      obtain ⟨delivery, kept, rfl⟩ := List.mem_map.mp inOlder
      obtain ⟨member, same⟩ := List.mem_filter.mp kept
      obtain ⟨own, keptOwn, rfl⟩ := List.mem_map.mp inNewer
      obtain ⟨inOwn, sameOwn⟩ := List.mem_filter.mp keptOwn
      obtain rfl := List.mem_singleton.mp inOwn
      simp only [decide_eq_true_eq] at same sameOwn
      dsimp only
      rcases (sound.bounded delivery member).2 running with low | current
      · omega
      · rw [same, ← sameOwn, ← newest] at current
        exact current
  · intro delivery member
    rcases List.mem_append.mp member with earlier | own
    · exact sound.timely delivery earlier
    · obtain rfl := List.mem_singleton.mp own
      exact ⟨running, rfl⟩

theorem noneDelivering_iff : world.noneDelivering = true ↔
    ∀ thread caller, world.callers thread = some caller → caller.delivering = false := by
  simp only [noneDelivering, decide_eq_true_eq, Option.all_eq_true, Bool.not_eq_true']

theorem Sound.live (sound : world.Sound floor) {call : LifeCall}
    (permitted : world.permits (.live call) = true) :
    ∃ above, ({ world with runtime := world.runtime.live call } : InvalidationDelivery threads).Sound
      above := by
  have quiet := live_quiet sound.quiet call
  obtain ⟨sameVersion, _, counted, stays, enters, sameBus⟩ := live_lives sound.quiet call
  have grows : world.runtime.generation.toInt ≤ (world.runtime.live call).generation.toInt := by
    by_cases advance : call = .advance
    · subst advance
      simp only [permits, Bool.and_eq_true, decide_eq_true_eq] at permitted
      rcases counted with same | ⟨next, _⟩
      · rw [same]
      · rw [next, toInt_succ permitted.1]
        omega
    · rw [live_generation advance]
  by_cases runs : (world.runtime.live call).state = .running
  · by_cases ran : world.runtime.state = .running
    · obtain ⟨sameGeneration, kept⟩ := stays runs ran
      obtain ⟨_, fits, single, base, bus, handed, bounded, changes, ascending, timely⟩ := sound
      refine ⟨floor, quiet, fun thread caller occupied => ?_, single, ?_, ?_, ?_, ?_, ?_, ascending,
        timely⟩
      · exact (fits thread caller occupied).mono sameGeneration (runs.trans ran.symm)
          (by rw [sameVersion]) le_rfl fun _ => by rw [kept]
      · simpa only [sameVersion] using base
      · simpa only [kept, sameVersion] using bus
      · simpa only [kept] using handed
      · simpa only [kept, sameVersion, runs, ran] using bounded
      · intro change member
        obtain ⟨version, drawn, least, past, within, before, published⟩ := changes change member
        refine ⟨version, drawn, least, past.trans grows, within, before, fun _ same => ?_⟩
        dsimp only
        rw [kept]
        exact published ran (same.trans sameGeneration)
    · obtain ⟨next, kept⟩ := enters runs ran
      obtain ⟨rfl, control⟩ := live_enters ran runs
      simp only [permits, Bool.and_eq_true, decide_eq_true_eq, control, ne_eq, not_true,
        decide_false, Bool.false_or, Option.all_eq_true] at permitted
      obtain ⟨small, read⟩ := permitted
      have later := toInt_succ small
      rw [← next] at later
      have older {generation : Int64} (past : generation.toInt ≤ world.runtime.generation.toInt) :
          generation ≠ (world.runtime.live .advance).generation := by
        rintro rfl
        omega
      obtain ⟨_, fits, single, base, bus, handed, bounded, changes, ascending, timely⟩ := sound
      refine ⟨world.runtime.dbVersion.toInt, quiet, fun thread caller occupied => ?_, single, ?_,
        ?_, ?_, ?_, ?_, ascending, timely⟩
      · have fits := fits thread caller occupied
        refine ⟨?_, ?_, ?_, ?_, ?_, ?_, ?_⟩
        · exact fun generation same => (fits.captured generation same).trans grows
        · exact fun generation same => (fits.read generation same).trans grows
        · simpa only [sameVersion] using fits.drawn
        · intro _ version drawn current
          have none : caller.generation? = none := by
            cases seen : caller.generation? with
            | none => rfl
            | some generation =>
                exact absurd (current generation seen) (older (fits.read generation seen))
          have half := read thread caller occupied
          cases stage : caller.stage with
          | entered => simp [Caller.version?, stage] at drawn
          | announcing held seen =>
              simp only [Caller.version?, Caller.generation?, stage] at drawn none
              simp [stage, drawn, none] at half
          | delivering held seen => simp [Caller.generation?, stage] at none
        · exact fun commit mine => ⟨(fits.past commit mine).1.trans grows, (fits.past commit mine).2⟩
        · exact fun _ commit mine same => absurd same (older (fits.past commit mine).1)
        · exact fun version generation stage =>
            absurd (fits.handing version generation stage).1 ran
      · exact ⟨by rw [sameVersion], by rw [sameVersion]; exact base.2⟩
      · simpa only [kept, sameVersion] using bus
      · simpa only [kept] using handed
      · intro delivery member
        dsimp only
        rw [sameVersion]
        exact ⟨(bounded delivery member).1, fun _ => .inl (bounded delivery member).1⟩
      · intro change member
        obtain ⟨version, drawn, least, past, within, before, _⟩ := changes change member
        exact ⟨version, drawn, least, past.trans grows, within, before,
          fun _ same => absurd same (older past)⟩
  · have none (thread : Fin threads) (caller : Caller)
        (occupied : world.callers thread = some caller) : caller.delivering = false := by
      cases stage : caller.stage with
      | entered => simp [Caller.delivering, stage]
      | announcing _ _ => simp [Caller.delivering, stage]
      | delivering version generation =>
          have ran := ((sound.fits thread caller occupied).handing version generation stage).1
          obtain ⟨control, notAdvance, notStart⟩ := live_leaves sound.quiet ran runs
          have free : world.noneDelivering = true := by
            cases call with
            | advance => exact absurd rfl notAdvance
            | start databaseFits => exact absurd rfl (notStart databaseFits)
            | _ => simpa [permits, control] using permitted
          exact noneDelivering_iff.mp free thread caller occupied
    obtain ⟨_, fits, single, base, bus, handed, bounded, changes, ascending, timely⟩ := sound
    refine ⟨floor, quiet, fun thread caller occupied => ?_, single, ?_, ?_, ?_, ?_, ?_, ascending,
      timely⟩
    · have free := none thread caller occupied
      have fits := fits thread caller occupied
      refine ⟨?_, ?_, ?_, ?_, ?_, ?_, ?_⟩
      · exact fun generation same => (fits.captured generation same).trans grows
      · exact fun generation same => (fits.read generation same).trans grows
      · simpa only [sameVersion] using fits.drawn
      · exact fun running => absurd running runs
      · exact fun commit mine => ⟨(fits.past commit mine).1.trans grows, (fits.past commit mine).2⟩
      · exact fun running => absurd running runs
      · intro version generation stage
        simp [Caller.delivering, stage] at free
    · simpa only [sameVersion] using base
    · intro domain
      dsimp only
      rw [sameVersion]
      rcases sameBus with same | reset
      · exact same ▸ bus domain
      · exact reset ▸ base.2
    · intro domain
      rcases sameBus with same | reset
      · rcases handed domain with zero | ⟨thread, caller, occupied, busy, _⟩ | delivered
        · exact .inl (same ▸ zero)
        · simp [none thread caller occupied] at busy
        · exact .inr (.inr (same ▸ delivered))
      · exact .inl (by dsimp only; rw [reset])
    · intro delivery member
      dsimp only
      rw [sameVersion]
      exact ⟨(bounded delivery member).1, fun running => absurd running runs⟩
    · intro change member
      obtain ⟨version, drawn, least, past, within, before, _⟩ := changes change member
      exact ⟨version, drawn, least, past.trans grows, within, before,
        fun running => absurd running runs⟩

theorem Sound.step (sound : world.Sound floor) (event : Event threads)
    (permitted : world.permits event = true) : ∃ above, (world.step event).Sound above := by
  cases event with
  | enter thread method => exact ⟨floor, sound.enter thread method⟩
  | commit thread written reported =>
      simp only [InvalidationDelivery.step, within]
      split
      · exact ⟨floor, sound⟩
      · rename_i caller occupied
        split
        · rename_i entered
          exact ⟨floor, sound.commit occupied entered written reported permitted⟩
        · exact ⟨floor, sound⟩
  | announce thread =>
      simp only [InvalidationDelivery.step, within]
      split
      · exact ⟨floor, sound⟩
      · rename_i caller occupied
        split
        · rename_i entered
          exact ⟨floor, sound.announce occupied entered permitted⟩
        · exact ⟨floor, sound⟩
  | drawVersion thread =>
      simp only [InvalidationDelivery.step, within]
      split
      · exact ⟨floor, sound⟩
      · rename_i caller occupied
        split
        · rename_i announcing
          exact ⟨floor, sound.drawVersion occupied announcing permitted⟩
        · exact ⟨floor, sound⟩
  | loadGeneration thread =>
      simp only [InvalidationDelivery.step, within]
      split
      · exact ⟨floor, sound⟩
      · rename_i caller occupied
        split
        · rename_i announcing
          exact ⟨floor, sound.loadGeneration occupied announcing⟩
        · exact ⟨floor, sound⟩
  | publish thread =>
      simp only [InvalidationDelivery.step, within]
      split
      · exact ⟨floor, sound⟩
      · rename_i caller occupied
        split
        · rename_i announcing
          exact ⟨floor, sound.publish occupied announcing permitted⟩
        · exact ⟨floor, sound⟩
  | deliver thread =>
      simp only [InvalidationDelivery.step, within]
      split
      · exact ⟨floor, sound⟩
      · rename_i caller occupied
        split
        · rename_i handing
          exact ⟨floor, sound.deliver occupied handing⟩
        · exact ⟨floor, sound⟩
  | setRuntimeEventSink present =>
      simp only [InvalidationDelivery.step]
      split
      · exact ⟨floor, sound⟩
      · obtain ⟨quiet, fits, single, base, bus, handed, bounded, changes, ascending, timely⟩ := sound
        refine ⟨floor, quiet, fun thread caller occupied => ?_, single, base, bus, handed, bounded,
          changes, ascending, timely⟩
        exact (fits thread caller occupied).mono rfl rfl le_rfl le_rfl fun _ => rfl
  | live call => exact sound.live permitted

end InvalidationDelivery

open InvalidationDelivery in
/-- No change is lost, no version goes back and nothing is late, for any number of threads, in every
run whose steps meet the condition. -/
theorem invalidations_delivered (threads : Nat) (ownerId : Int) (instanceId : UInt64)
    (events : List (Event threads))
    (permitted : guarded step permits (create ownerId instanceId) events = true) :
    (events.foldl step (create ownerId instanceId)).Answered ∧
      (events.foldl step (create ownerId instanceId)).Ascending ∧
        (events.foldl step (create ownerId instanceId)).Timely := by
  have kept : ∃ floor, (events.foldl step (create ownerId instanceId)).Sound floor := by
    refine prefixes_of_guarded (fun world => ∃ floor, world.Sound floor) (fun _ => True) ?_
      (create ownerId instanceId) ⟨0, create_sound ownerId instanceId⟩ events (fun _ _ => trivial)
      permitted events [] (List.append_nil events)
    rintro world event - ⟨floor, sound⟩ passed
    exact sound.step event passed
  obtain ⟨floor, sound⟩ := kept
  exact ⟨sound.answered, sound.ascending, sound.timely⟩

namespace InvalidationDelivery

def starting : List (Event 2) :=
  [.setRuntimeEventSink true, .live (.start true), .live .advance, .live .advance, .live .advance]

def drawing (thread : Fin 2) (method : Method) : List (Event 2) :=
  [.enter thread method, .commit thread true true, .announce thread, .drawVersion thread,
    .loadGeneration thread]

def between : List (Event 2) :=
  starting ++ drawing 0 .handleIncomingChat ++ [.publish 0, .deliver 0] ++ drawing 1 .markRead ++
    [.publish 1, .deliver 1, .drawVersion 0, .publish 0, .deliver 0]

def overtaking : List (Event 2) :=
  starting ++ drawing 0 .markRead ++ [.publish 0] ++ drawing 1 .markRead ++
    [.publish 1, .deliver 1, .deliver 0]

def stopping : List (Event 2) :=
  starting ++ drawing 0 .markRead ++ [.publish 0, .live (.stop 0), .deliver 0]

def early : List (Event 2) :=
  [.enter 0 .handleIncomingChat] ++ starting ++
    [.commit 0 true true, .announce 0, .drawVersion 0, .publish 0, .drawVersion 0, .publish 0]

end InvalidationDelivery

open InvalidationDelivery in
theorem invalidations_delivered_between :
    (between.foldl step (create 7 1)).delivered.map Delivery.version = [1, 2, 3] ∧
      (between.foldl step (create 7 1)).Ascending :=
  ⟨by decide +kernel, (invalidations_delivered 2 7 1 between (by decide +kernel)).2.1⟩

open InvalidationDelivery in
/-- Versions go back, one comes after the stop, and one does not come at all. -/
theorem invalidations_overtaken :
    (¬∀ events : List (Event 2), (events.foldl step (create 7 1)).Ascending) ∧
    (¬∀ events : List (Event 2), (events.foldl step (create 7 1)).Timely) ∧
    ¬∀ events : List (Event 2), (events.foldl step (create 7 1)).Answered := by
  refine ⟨fun ascending => ?_, fun timely => ?_, fun answered => ?_⟩
  · have order := ascending overtaking .conversations
    revert order
    decide +kernel
  · have late := timely stopping ⟨.conversations, 1, 1, .stopping, 1⟩ (by decide +kernel)
    exact absurd late.1 (by decide)
  · obtain ⟨version, _, delivery, member, _⟩ := answered early (by decide +kernel)
      (by decide +kernel) ⟨⟨1, 0⟩, .messages, some 1⟩ (by decide +kernel) (by decide +kernel)
    have empty : (early.foldl step (create 7 1)).delivered = [] := by decide +kernel
    rw [empty] at member
    simp at member

end Jitong
