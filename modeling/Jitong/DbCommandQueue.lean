import Jitong.Lib.Run
import Jitong.Text

/-!
The queue of write commands: the threads that submit and close, the writer, and the executor that
runs the callbacks, one step at a time.
-/

namespace Jitong

open Lib

inductive CommandResult
  | ok | cancelled | queueFull | notOpen | sqlFailed
  deriving DecidableEq

structure Invalidation where
  table : Bytes
  conversationId : Int
  version : UInt64
  deriving DecidableEq

inductive WriteOutcome (Db : Type)
  | returned (ok : Bool) (written : Db)
  | threw (written : Db)

structure CommandRequest (Db : Type) where
  fn : Option (Db → WriteOutcome Db)
  cancel : Option Nat := none
  table : Bytes := []
  conversationId : Int := 0
  onDone : Bool := true

structure Submitted (Db : Type) where
  id : Nat
  request : CommandRequest Db

inductive CompletionTask
  | tell (id : Nat) (inv : Invalidation)
  | done (id : Nat) (result : CommandResult)
  deriving DecidableEq

inductive WriterPhase (Db : Type)
  | waiting
  | taken (req : Submitted Db)
  | checked (req : Submitted Db) (fn : Db → WriteOutcome Db)
  | begun (req : Submitted Db) (fn : Db → WriteOutcome Db)
  | ran (req : Submitted Db) (ok : Bool) (written : Db)
  | settled (req : Submitted Db) (result : CommandResult)
  | completing (req : Submitted Db) (result : CommandResult)
  | exited

inductive Closer (Db : Type)
  | joining
  | cancelling (left : List (Submitted Db))

/-- The queue, its database and the executor. `accepted` are the requests in the order of submission,
`results` the calls of `complete`, `started` and `committed` the transactions. -/
structure DbCommandQueue (Db : Type) where
  db : Db
  capacity : Nat
  sink : Bool
  queue : List (Submitted Db) := []
  running : Bool := true
  version : UInt64 := 0
  writer : WriterPhase Db := .waiting
  closers : List (Closer Db) := []
  raised : Nat → Bool := fun _ => false
  tasks : List CompletionTask := []
  log : List CompletionTask := []
  accepted : List (Submitted Db) := []
  started : List (Submitted Db) := []
  committed : List (Submitted Db) := []
  results : List (Submitted Db × CommandResult) := []

def WriterPhase.held {Db : Type} : WriterPhase Db → List (Submitted Db)
  | .waiting | .exited => []
  | .taken req | .checked req _ | .begun req _ | .ran req _ _ | .settled req _
  | .completing req _ => [req]

def WriterPhase.unstarted {Db : Type} : WriterPhase Db → List (Submitted Db)
  | .taken req | .checked req _ => [req]
  | _ => []

def Closer.held {Db : Type} : Closer Db → List (Submitted Db)
  | .joining => []
  | .cancelling left => left

@[simp] theorem Closer.held_joining {Db : Type} : (joining : Closer Db).held = [] := rfl

@[simp] theorem Closer.held_cancelling {Db : Type} (left : List (Submitted Db)) :
    (cancelling left).held = left := rfl

namespace DbCommandQueue

variable {Db : Type}

/-- `complete`, which posts nothing when there is no callback. -/
def complete (q : DbCommandQueue Db) (req : Submitted Db) (result : CommandResult) :
    DbCommandQueue Db :=
  { q with
    results := q.results ++ [(req, result)]
    tasks := if req.request.onDone then q.tasks ++ [.done req.id result] else q.tasks }

def submit (q : DbCommandQueue Db) (request : CommandRequest Db) :
    CommandResult × DbCommandQueue Db :=
  if !q.running then (.notOpen, q)
  else if q.capacity ≤ q.queue.length then (.queueFull, q)
  else
    let req : Submitted Db := ⟨q.accepted.length, request⟩
    (.ok, { q with queue := q.queue ++ [req], accepted := q.accepted ++ [req] })

def close (q : DbCommandQueue Db) : DbCommandQueue Db :=
  if q.running then { q with running := false, closers := q.closers ++ [.joining] }
  else { q with queue := [], closers := q.closers ++ [.cancelling q.queue] }

/-- The next step of a thread in `close`: the join ends when the writer has left its loop. -/
def closeNext (q : DbCommandQueue Db) (index : Nat) : Option (DbCommandQueue Db) :=
  match q.closers[index]?, q.writer with
  | some .joining, .exited =>
      some { q with queue := [], closers := q.closers.set index (.cancelling q.queue) }
  | some (.cancelling (req :: left)), _ =>
      some ({ q with closers := q.closers.set index (.cancelling left) }.complete req .cancelled)
  | _, _ => none

def invalidation (request : CommandRequest Db) (version : UInt64) : Invalidation :=
  ⟨request.table, request.conversationId, version⟩

/-- The next step of `writerLoop`; `works` says how the statement of this step ends. -/
def writerLoop (q : DbCommandQueue Db) (works : Bool) : Option (DbCommandQueue Db) :=
  match q.writer with
  | .waiting =>
      match q.queue with
      | [] => if q.running then none else some { q with writer := .exited }
      | req :: later => some { q with queue := later, writer := .taken req }
  | .taken req =>
      if req.request.cancel.any q.raised then some { q with writer := .completing req .cancelled }
      else
        match req.request.fn with
        | none => some { q with writer := .completing req .sqlFailed }
        | some fn => some { q with writer := .checked req fn }
  | .checked req fn =>
      if works then some { q with writer := .begun req fn, started := q.started ++ [req] }
      else some { q with writer := .settled req .sqlFailed }
  | .begun req fn =>
      match fn q.db with
      | .returned ok written => some { q with writer := .ran req ok written }
      | .threw written => some { q with writer := .ran req false written }
  | .ran req ok written =>
      if ok && works then
        some { q with
          db := written
          committed := q.committed ++ [req]
          writer := .settled req .ok }
      else some { q with writer := .settled req .sqlFailed }
  | .settled req result =>
      if result = .ok ∧ q.sink then
        some { q with
          version := q.version + 1
          tasks := q.tasks ++ [.tell req.id (invalidation req.request (q.version + 1))]
          writer := .completing req result }
      else some { q with writer := .completing req result }
  | .completing req result => some { q.complete req result with writer := .waiting }
  | .exited => none

def deliver (q : DbCommandQueue Db) : Option (DbCommandQueue Db) :=
  match q.tasks with
  | [] => none
  | task :: later => some { q with tasks := later, log := q.log ++ [task] }

inductive Event (Db : Type)
  | submit (request : CommandRequest Db)
  | raise (token : Nat)
  | close
  | closeNext (index : Nat)
  | writerLoop (works : Bool)
  | deliver

def next (q : DbCommandQueue Db) : Event Db → Option (DbCommandQueue Db)
  | .submit request => some (q.submit request).2
  | .raise token => some { q with raised := Function.update q.raised token true }
  | .close => some q.close
  | .closeNext index => q.closeNext index
  | .writerLoop works => q.writerLoop works
  | .deliver => q.deliver

def Step (before : DbCommandQueue Db) (event : Event Db) (after : DbCommandQueue Db) : Prop :=
  before.next event = some after

def opened (db : Db) (capacity : Nat) (sink : Bool) : DbCommandQueue Db where
  db := db
  capacity := capacity
  sink := sink

/-! What one step can do. -/

inductive Moves (q : DbCommandQueue Db) : DbCommandQueue Db → Prop
  | still (raised : Nat → Bool) : Moves q { q with raised := raised }
  | submit (request : CommandRequest Db) (running : q.running = true) : Moves q
      { q with
        queue := q.queue ++ [⟨q.accepted.length, request⟩]
        accepted := q.accepted ++ [⟨q.accepted.length, request⟩] }
  | close (running : q.running = true) : Moves q
      { q with running := false, closers := q.closers ++ [.joining] }
  | closeAgain (stopped : q.running = false) : Moves q
      { q with queue := [], closers := q.closers ++ [.cancelling q.queue] }
  | join (index) (joins : q.closers[index]? = some .joining) (left : q.writer = .exited) :
      Moves q { q with queue := [], closers := q.closers.set index (.cancelling q.queue) }
  | cancel (index req left) (cancels : q.closers[index]? = some (.cancelling (req :: left))) :
      Moves q ({ q with closers := q.closers.set index (.cancelling left) }.complete req .cancelled)
  | exit (waits : q.writer = .waiting) (idle : q.queue = []) (stopped : q.running = false) :
      Moves q { q with writer := .exited }
  | take (req later) (waits : q.writer = .waiting) (first : q.queue = req :: later) :
      Moves q { q with queue := later, writer := .taken req }
  | skip (req result) (at_ : q.writer = .taken req) (unsuccessful : result ≠ .ok) :
      Moves q { q with writer := .completing req result }
  | check (req fn) (at_ : q.writer = .taken req) (called : req.request.fn = some fn) :
      Moves q { q with writer := .checked req fn }
  | begin (req fn) (at_ : q.writer = .checked req fn) :
      Moves q { q with writer := .begun req fn, started := q.started ++ [req] }
  | refuse (req fn) (at_ : q.writer = .checked req fn) :
      Moves q { q with writer := .settled req .sqlFailed }
  | run (req fn ok written) (at_ : q.writer = .begun req fn)
      (outcome : ok = true → fn q.db = .returned true written) :
      Moves q { q with writer := .ran req ok written }
  | commit (req written) (at_ : q.writer = .ran req true written) : Moves q
      { q with
        db := written
        committed := q.committed ++ [req]
        writer := .settled req .ok }
  | rollback (req ok written) (at_ : q.writer = .ran req ok written) :
      Moves q { q with writer := .settled req .sqlFailed }
  | announce (req) (at_ : q.writer = .settled req .ok) (listened : q.sink = true) : Moves q
      { q with
        version := q.version + 1
        tasks := q.tasks ++ [.tell req.id (invalidation req.request (q.version + 1))]
        writer := .completing req .ok }
  | pass (req result) (at_ : q.writer = .settled req result)
      (quiet : result = .ok → q.sink = false) :
      Moves q { q with writer := .completing req result }
  | finish (req result) (at_ : q.writer = .completing req result) :
      Moves q { q.complete req result with writer := .waiting }
  | deliver (task later) (first : q.tasks = task :: later) :
      Moves q { q with tasks := later, log := q.log ++ [task] }

variable {q after : DbCommandQueue Db}

theorem closeNext_moves {index : Nat} (stepped : q.closeNext index = some after) :
    Moves q after := by
  unfold closeNext at stepped
  split at stepped
  · rename_i joins left
    exact Option.some.inj stepped ▸ .join index joins left
  · rename_i req left cancels
    exact Option.some.inj stepped ▸ .cancel index req left cancels
  · simp at stepped

theorem writerLoop_moves {works : Bool} (stepped : q.writerLoop works = some after) :
    Moves q after := by
  unfold writerLoop at stepped
  split at stepped
  · rename_i waits
    split at stepped
    · rename_i idle
      split at stepped
      · simp at stepped
      · rename_i stopped
        exact Option.some.inj stepped ▸ .exit waits idle (by simpa using stopped)
    · rename_i req later first
      exact Option.some.inj stepped ▸ .take req later waits first
  · rename_i req at_
    split at stepped
    · exact Option.some.inj stepped ▸ .skip req .cancelled at_ (by simp)
    · split at stepped
      · exact Option.some.inj stepped ▸ .skip req .sqlFailed at_ (by simp)
      · rename_i fn called
        exact Option.some.inj stepped ▸ .check req fn at_ called
  · rename_i req fn at_
    split at stepped
    · exact Option.some.inj stepped ▸ .begin req fn at_
    · exact Option.some.inj stepped ▸ .refuse req fn at_
  · rename_i req fn at_
    split at stepped
    · rename_i ok written outcome
      exact Option.some.inj stepped ▸ .run req fn ok written at_ fun good => good ▸ outcome
    · rename_i written _
      exact Option.some.inj stepped ▸ .run req fn false written at_ (by simp)
  · rename_i req ok written at_
    split at stepped
    · rename_i good
      simp only [Bool.and_eq_true] at good
      exact Option.some.inj stepped ▸ .commit req written (good.1 ▸ at_)
    · exact Option.some.inj stepped ▸ .rollback req ok written at_
  · rename_i req result at_
    split at stepped
    · rename_i announced
      obtain ⟨rfl, listened⟩ := announced
      exact Option.some.inj stepped ▸ .announce req at_ listened
    · rename_i quiet
      exact Option.some.inj stepped ▸ .pass req result at_ fun good => by simpa [good] using quiet
  · rename_i req result at_
    exact Option.some.inj stepped ▸ .finish req result at_
  · simp at stepped

theorem next_moves {event : Event Db} (stepped : q.next event = some after) : Moves q after := by
  cases event with
  | submit request =>
      obtain rfl := Option.some.inj stepped
      unfold submit
      split
      · exact .still q.raised
      · rename_i running
        split
        · exact .still q.raised
        · exact .submit request (by simpa using running)
  | raise token => exact Option.some.inj stepped ▸ .still _
  | close =>
      obtain rfl := Option.some.inj stepped
      unfold close
      split
      · rename_i running
        exact .close running
      · rename_i stopped
        exact .closeAgain (by simpa using stopped)
  | closeNext index => exact closeNext_moves stepped
  | writerLoop works => exact writerLoop_moves stepped
  | deliver =>
      simp only [next, deliver] at stepped
      split at stepped
      · simp at stepped
      · rename_i task later first
        exact Option.some.inj stepped ▸ .deliver task later first

/-! The law. -/

def held (q : DbCommandQueue Db) : List (Submitted Db) :=
  q.queue ++ q.writer.held ++ q.closers.flatMap Closer.held

def doneOf : CompletionTask → Option (Nat × CommandResult)
  | .done id result => some (id, result)
  | .tell .. => none

def toldOf : CompletionTask → Option (Nat × Invalidation)
  | .tell id inv => some (id, inv)
  | .done .. => none

def invalidations (committed : List (Submitted Db)) : List (Nat × Invalidation) :=
  committed.zipIdx.map fun (req, index) =>
    (req.id, invalidation req.request (UInt64.ofNat (index + 1)))

def applied (db : Db) (req : Submitted Db) : Db :=
  match req.request.fn.map fun (fn : Db → WriteOutcome Db) => fn db with
  | some (.returned true written) => written
  | _ => db

def Announced (tasks : List CompletionTask) : Prop :=
  ∀ front id back, tasks = front ++ .done id .ok :: back →
    id ∈ (front.filterMap toldOf).map Prod.fst

structure Lawful (start : Db) (q : DbCommandQueue Db) : Prop where
  numbered : q.accepted.map Submitted.id = List.range q.accepted.length
  counted : (q.results.map Prod.fst ++ q.held).Perm q.accepted
  called : (q.log ++ q.tasks).filterMap doneOf =
    (q.results.filter fun result => result.1.request.onDone).map fun result =>
      (result.1.id, result.2)
  ordered : q.started.Pairwise fun first second => first.id < second.id
  begun : q.committed.Sublist q.started
  ok : ∀ req result, (req, result) ∈ q.results → (result = .ok ↔ req ∈ q.committed)
  database : q.db = q.committed.foldl applied start
  told : q.sink = true → ∃ later,
    (q.log ++ q.tasks).filterMap toldOf ++ later = invalidations q.committed
  increasing : q.sink = true → q.committed.length < 2 ^ 64 →
    ((q.log ++ q.tasks).filterMap toldOf).Pairwise fun first second =>
      first.2.version < second.2.version
  announced : q.sink = true → Announced q.log

/-! What holds of the commands. -/

def reporting : WriterPhase Db → List (Submitted Db × CommandResult)
  | .completing req result => [(req, result)]
  | _ => []

def finishing : WriterPhase Db → List (Submitted Db × CommandResult)
  | .settled req result | .completing req result => [(req, result)]
  | _ => []

def successes (results : List (Submitted Db × CommandResult)) : List (Submitted Db) :=
  (results.filter fun result => result.2 = .ok).map Prod.fst

def tally (q : DbCommandQueue Db) : Multiset (Submitted Db) :=
  (q.results.map Prod.fst : Multiset (Submitted Db)) + (q.queue : Multiset (Submitted Db)) +
    (q.writer.held : Multiset (Submitted Db)) +
    (q.closers.map fun closer => (closer.held : Multiset (Submitted Db))).sum

def Computed (db : Db) : WriterPhase Db → Prop
  | .checked req fn | .begun req fn => req.request.fn = some fn
  | .ran req true written => applied db req = written
  | _ => True

def Opened (started committed : List (Submitted Db)) : WriterPhase Db → Prop
  | .begun req _ | .ran req _ _ =>
      ∃ earlier, started = earlier ++ [req] ∧ committed.Sublist earlier
  | _ => committed.Sublist started

structure Sound (start : Db) (q : DbCommandQueue Db) : Prop where
  numbered : q.accepted.map Submitted.id = List.range q.accepted.length
  counted : q.tally = q.accepted
  ordered : (q.started ++ q.writer.unstarted ++ q.queue).Pairwise fun first second =>
    first.id < second.id
  known : ∀ req ∈ q.started, req ∈ q.accepted
  opened : Opened q.started q.committed q.writer
  computed : Computed q.db q.writer
  database : q.db = q.committed.foldl applied start
  finished : q.committed = successes (q.results ++ finishing q.writer)
  called : (q.log ++ q.tasks).filterMap doneOf =
    (q.results.filter fun result => result.1.request.onDone).map fun result =>
      (result.1.id, result.2)
  told : q.sink = true →
    (q.log ++ q.tasks).filterMap toldOf =
      invalidations (successes (q.results ++ reporting q.writer)) ∧
    q.version = UInt64.ofNat (successes (q.results ++ reporting q.writer)).length
  announced : q.sink = true → Announced (q.log ++ q.tasks)
  left : q.writer = .exited → q.running = false ∧ q.queue = []

theorem sum_set {closers : List (Closer Db)} {index : Nat} {old : Closer Db}
    (there : closers[index]? = some old) (new : Closer Db) :
    ((closers.set index new).map fun closer => (closer.held : Multiset (Submitted Db))).sum +
        (old.held : Multiset (Submitted Db)) =
      (closers.map fun closer => (closer.held : Multiset (Submitted Db))).sum +
        (new.held : Multiset (Submitted Db)) := by
  induction closers generalizing index with
  | nil => simp at there
  | cons closer later ih =>
      cases index with
      | zero =>
          obtain rfl := Option.some.inj there
          simp only [List.set_cons_zero, List.map_cons, List.sum_cons]
          abel
      | succ index =>
          have rest := ih there
          simp only [List.set_cons_succ, List.map_cons, List.sum_cons]
          rw [add_assoc, rest, add_assoc]

theorem Moves.counted (moves : Moves q after) (counted : q.tally = q.accepted) :
    after.tally = after.accepted := by
  unfold tally at *
  cases moves with
  | still => exact counted
  | submit request =>
      simp only [← Multiset.coe_add, ← counted]
      abel
  | close => simpa using counted
  | closeAgain =>
      rw [← counted]
      simp only [List.map_append, List.sum_append, List.map_cons, List.map_nil, List.sum_cons,
        List.sum_nil, Closer.held_cancelling, Multiset.coe_nil]
      abel
  | join index joins left =>
      have moved := sum_set joins (.cancelling q.queue)
      simp only [Closer.held_joining, Closer.held_cancelling, Multiset.coe_nil, add_zero] at moved
      rw [← counted]
      simp only [moved, Multiset.coe_nil]
      abel
  | cancel index req left cancels =>
      have moved := sum_set cancels (.cancelling left)
      simp only [Closer.held_cancelling, ← Multiset.cons_coe, ← Multiset.singleton_add] at moved
      rw [← add_assoc, add_left_inj] at moved
      simp only [complete, List.map_append, List.map_cons, List.map_nil, ← Multiset.coe_add,
        Multiset.coe_singleton]
      rw [← counted, ← moved]
      abel
  | exit waits => simpa [waits, WriterPhase.held] using counted
  | take req later waits first =>
      rw [← counted, first, waits]
      simp only [WriterPhase.held, ← Multiset.cons_coe, ← Multiset.singleton_add, Multiset.coe_nil]
      abel
  | skip req result at_ => simpa [at_, WriterPhase.held] using counted
  | check req fn at_ => simpa [at_, WriterPhase.held] using counted
  | begin req fn at_ => simpa [at_, WriterPhase.held] using counted
  | refuse req fn at_ => simpa [at_, WriterPhase.held] using counted
  | run req fn ok written at_ => simpa [at_, WriterPhase.held] using counted
  | commit req written at_ => simpa [at_, WriterPhase.held] using counted
  | rollback req ok written at_ => simpa [at_, WriterPhase.held] using counted
  | announce req at_ => simpa [at_, WriterPhase.held] using counted
  | pass req result at_ => simpa [at_, WriterPhase.held] using counted
  | finish req result at_ =>
      simp only [complete, List.map_append, List.map_cons, List.map_nil, ← Multiset.coe_add,
        Multiset.coe_singleton, WriterPhase.held, Multiset.coe_nil]
      rw [← counted, at_]
      simp only [WriterPhase.held, Multiset.coe_singleton]
      abel
  | deliver => exact counted

theorem Moves.numbered (moves : Moves q after)
    (numbered : q.accepted.map Submitted.id = List.range q.accepted.length) :
    after.accepted.map Submitted.id = List.range after.accepted.length := by
  cases moves with
  | submit request =>
      rw [List.map_append, numbered, List.length_append, List.length_singleton, List.range_succ]
      rfl
  | _ => exact numbered

theorem id_lt (numbered : q.accepted.map Submitted.id = List.range q.accepted.length)
    {req : Submitted Db} (member : req ∈ q.accepted) : req.id < q.accepted.length := by
  have listed := List.mem_map_of_mem member (f := Submitted.id)
  rwa [numbered, List.mem_range] at listed

theorem accepted_nodup (numbered : q.accepted.map Submitted.id = List.range q.accepted.length) :
    q.accepted.Nodup := by
  have ids : (q.accepted.map Submitted.id).Nodup := numbered ▸ List.nodup_range
  exact ids.of_map

variable {start : Db}

theorem Sound.mem_accepted (sound : Sound start q) {req : Submitted Db}
    (there : req ∈ q.queue ∨ req ∈ q.writer.held) : req ∈ q.accepted := by
  have counted : req ∈ q.tally := by
    unfold tally
    simp only [Multiset.mem_add, Multiset.mem_coe]
    tauto
  rwa [sound.counted, Multiset.mem_coe] at counted

theorem unstarted_held {req : Submitted Db} (there : req ∈ q.writer.unstarted) :
    req ∈ q.writer.held := by
  cases at_ : q.writer <;> simp_all [WriterPhase.unstarted, WriterPhase.held]

theorem Moves.ordered (moves : Moves q after) (sound : Sound start q) :
    (after.started ++ after.writer.unstarted ++ after.queue).Pairwise fun first second =>
      first.id < second.id := by
  have ordered := sound.ordered
  cases moves with
  | submit request =>
      rw [← List.append_assoc]
      refine List.pairwise_append.mpr ⟨ordered, List.pairwise_singleton _ _, ?_⟩
      intro req earlier new last
      rw [List.mem_singleton.mp last]
      refine id_lt sound.numbered ?_
      simp only [List.mem_append] at earlier
      rcases earlier with (started | unstarted) | queued
      · exact sound.known req started
      · exact sound.mem_accepted (.inr (unstarted_held unstarted))
      · exact sound.mem_accepted (.inl queued)
  | closeAgain => exact ordered.sublist ((List.nil_sublist _).append_left _)
  | join => exact ordered.sublist ((List.nil_sublist _).append_left _)
  | exit waits => simpa [waits, WriterPhase.unstarted] using ordered
  | take req later waits first => simpa [waits, first, WriterPhase.unstarted] using ordered
  | skip req result at_ =>
      refine ordered.sublist (List.Sublist.append_right ?_ _)
      exact (List.nil_sublist _).append_left _
  | check req fn at_ => simpa [at_, WriterPhase.unstarted] using ordered
  | begin req fn at_ => simpa [at_, WriterPhase.unstarted] using ordered
  | refuse req fn at_ =>
      refine ordered.sublist (List.Sublist.append_right ?_ _)
      exact (List.nil_sublist _).append_left _
  | run req fn ok written at_ => simpa [at_, WriterPhase.unstarted] using ordered
  | commit req written at_ => simpa [at_, WriterPhase.unstarted] using ordered
  | rollback req ok written at_ => simpa [at_, WriterPhase.unstarted] using ordered
  | announce req at_ => simpa [at_, WriterPhase.unstarted] using ordered
  | pass req result at_ => simpa [at_, WriterPhase.unstarted] using ordered
  | finish req result at_ => simpa [at_, WriterPhase.unstarted, complete] using ordered
  | _ => exact ordered

theorem Moves.known (moves : Moves q after) (sound : Sound start q) :
    ∀ req ∈ after.started, req ∈ after.accepted := by
  cases moves with
  | submit request =>
      intro req started
      exact List.mem_append_left _ (sound.known req started)
  | begin req fn at_ =>
      intro other started
      rcases List.mem_append.mp started with before | new
      · exact sound.known other before
      · rw [List.mem_singleton.mp new]
        exact sound.mem_accepted (.inr (by simp [at_, WriterPhase.held]))
  | _ => exact sound.known

theorem Moves.opened (moves : Moves q after) (opened : Opened q.started q.committed q.writer) :
    Opened after.started after.committed after.writer := by
  cases moves with
  | exit waits => simpa [waits, Opened] using opened
  | take req later waits => simpa [waits, Opened] using opened
  | skip req result at_ => simpa [at_, Opened] using opened
  | check req fn at_ => simpa [at_, Opened] using opened
  | begin req fn at_ => exact ⟨q.started, rfl, by simpa [at_, Opened] using opened⟩
  | refuse req fn at_ => simpa [at_, Opened] using opened
  | run req fn ok written at_ => simpa [at_, Opened] using opened
  | commit req written at_ =>
      simp only [at_, Opened] at opened ⊢
      obtain ⟨earlier, same, sublist⟩ := opened
      rw [same]
      exact sublist.append (List.Sublist.refl _)
  | rollback req ok written at_ =>
      simp only [at_, Opened] at opened ⊢
      obtain ⟨earlier, same, sublist⟩ := opened
      rw [same]
      exact sublist.trans (List.sublist_append_left _ _)
  | announce req at_ => simpa [at_, Opened] using opened
  | pass req result at_ => simpa [at_, Opened] using opened
  | finish req result at_ => simpa [at_, Opened, complete] using opened
  | _ => exact opened

theorem Moves.computed (moves : Moves q after) (computed : Computed q.db q.writer) :
    Computed after.db after.writer := by
  cases moves with
  | check req fn at_ called => exact called
  | begin req fn at_ => simpa [at_, Computed] using computed
  | run req fn ok written at_ outcome =>
      cases ok with
      | false => trivial
      | true =>
          simp only [at_, Computed] at computed ⊢
          simp [applied, computed, outcome]
  | exit | take | skip | refuse | commit | rollback | announce | pass | finish => trivial
  | _ => exact computed

theorem Moves.database (moves : Moves q after) (computed : Computed q.db q.writer)
    (database : q.db = q.committed.foldl applied start) :
    after.db = after.committed.foldl applied start := by
  cases moves with
  | commit req written at_ =>
      simp only [at_, Computed] at computed
      rw [List.foldl_append, List.foldl_cons, List.foldl_nil, ← database, computed]
  | _ => exact database

theorem successes_append (front back : List (Submitted Db × CommandResult)) :
    successes (front ++ back) = successes front ++ successes back := by
  simp [successes]

theorem Moves.finished (moves : Moves q after)
    (finished : q.committed = successes (q.results ++ finishing q.writer)) :
    after.committed = successes (after.results ++ finishing after.writer) := by
  rw [successes_append] at finished ⊢
  cases moves with
  | cancel index req left cancels =>
      simp only [complete, successes_append]
      simpa [successes] using finished
  | finish req result at_ =>
      simp only [complete, successes_append]
      simpa [at_, successes, finishing] using finished
  | exit waits => simpa [waits, successes, finishing] using finished
  | take req later waits => simpa [waits, successes, finishing] using finished
  | skip req result at_ unsuccessful =>
      simpa [at_, successes, finishing, unsuccessful] using finished
  | check req fn at_ => simpa [at_, successes, finishing] using finished
  | begin req fn at_ => simpa [at_, successes, finishing] using finished
  | refuse req fn at_ => simpa [at_, successes, finishing] using finished
  | run req fn ok written at_ => simpa [at_, successes, finishing] using finished
  | commit req written at_ => simpa [at_, successes, finishing] using finished
  | rollback req ok written at_ => simpa [at_, successes, finishing] using finished
  | announce req at_ => simpa [at_, successes, finishing] using finished
  | pass req result at_ => simpa [at_, successes, finishing] using finished
  | _ => exact finished

/-! What holds of the executor. -/

theorem invalidations_append (committed : List (Submitted Db)) (req : Submitted Db) :
    invalidations (committed ++ [req]) = invalidations committed ++
      [(req.id, invalidation req.request (UInt64.ofNat (committed.length + 1)))] := by
  simp [invalidations, List.zipIdx_append]

theorem posted_complete (q : DbCommandQueue Db) (req : Submitted Db) (result : CommandResult) :
    (q.complete req result).log ++ (q.complete req result).tasks =
      (q.log ++ q.tasks) ++ if req.request.onDone then [.done req.id result] else [] := by
  unfold complete
  split <;> simp

theorem Moves.called (moves : Moves q after)
    (called : (q.log ++ q.tasks).filterMap doneOf =
      (q.results.filter fun result => result.1.request.onDone).map fun result =>
        (result.1.id, result.2)) :
    (after.log ++ after.tasks).filterMap doneOf =
      (after.results.filter fun result => result.1.request.onDone).map fun result =>
        (result.1.id, result.2) := by
  have completed (other : DbCommandQueue Db) (req : Submitted Db) (result : CommandResult)
      (called : (other.log ++ other.tasks).filterMap doneOf =
        (other.results.filter fun result => result.1.request.onDone).map fun result =>
          (result.1.id, result.2)) :
      ((other.complete req result).log ++ (other.complete req result).tasks).filterMap doneOf =
        ((other.complete req result).results.filter fun result =>
          result.1.request.onDone).map fun result => (result.1.id, result.2) := by
    rw [posted_complete, List.filterMap_append, called]
    cases has : req.request.onDone <;> simp [complete, has, doneOf]
  cases moves with
  | cancel index req left cancels => exact completed _ req .cancelled called
  | finish req result at_ => exact completed q req result called
  | announce req at_ listened =>
      rw [← List.append_assoc, List.filterMap_append, called]
      simp [doneOf]
  | deliver task later first => simpa [first] using called
  | _ => exact called

theorem Moves.told (moves : Moves q after)
    (told : q.sink = true →
      (q.log ++ q.tasks).filterMap toldOf =
        invalidations (successes (q.results ++ reporting q.writer)) ∧
      q.version = UInt64.ofNat (successes (q.results ++ reporting q.writer)).length)
    (listened : after.sink = true) :
    (after.log ++ after.tasks).filterMap toldOf =
      invalidations (successes (after.results ++ reporting after.writer)) ∧
    after.version = UInt64.ofNat (successes (after.results ++ reporting after.writer)).length := by
  have silent (req : Submitted Db) (result : CommandResult) :
      (if req.request.onDone then [CompletionTask.done req.id result] else []).filterMap toldOf =
        [] := by
    split <;> rfl
  rw [successes_append] at told ⊢
  cases moves with
  | cancel index req left cancels =>
      rw [posted_complete, List.filterMap_append, silent, List.append_nil]
      simp only [complete, successes_append]
      simpa [successes] using told listened
  | finish req result at_ =>
      have posted := posted_complete q req result
      rw [show ({ q.complete req result with writer := .waiting } : DbCommandQueue Db).log ++
          ({ q.complete req result with writer := .waiting } : DbCommandQueue Db).tasks =
            (q.complete req result).log ++ (q.complete req result).tasks from rfl, posted,
        List.filterMap_append, silent, List.append_nil]
      simp only [complete, successes_append]
      simpa [at_, successes, reporting] using told listened
  | exit waits => simpa [waits, successes, reporting] using told listened
  | take req later waits => simpa [waits, successes, reporting] using told listened
  | skip req result at_ unsuccessful =>
      simpa [at_, successes, reporting, unsuccessful] using told listened
  | check req fn at_ => simpa [at_, successes, reporting] using told listened
  | begin req fn at_ => simpa [at_, successes, reporting] using told listened
  | refuse req fn at_ => simpa [at_, successes, reporting] using told listened
  | run req fn ok written at_ => simpa [at_, successes, reporting] using told listened
  | commit req written at_ => simpa [at_, successes, reporting] using told listened
  | rollback req ok written at_ => simpa [at_, successes, reporting] using told listened
  | announce req at_ _ =>
      obtain ⟨invs, version⟩ := told listened
      have now : successes (reporting (.completing req .ok)) = [req] := rfl
      have before : successes (reporting (.settled req CommandResult.ok)) = [] := rfl
      rw [at_, before, List.append_nil] at invs version
      have counts (count : Nat) : UInt64.ofNat (count + 1) = UInt64.ofNat count + 1 :=
        UInt64.ofNat_add count 1
      rw [← List.append_assoc, List.filterMap_append, invs, now, invalidations_append,
        List.length_append, version, List.length_singleton, counts]
      exact ⟨rfl, rfl⟩
  | pass req result at_ quiet =>
      have unsuccessful : result ≠ .ok := by
        intro good
        rw [show q.sink = true from listened] at quiet
        exact Bool.noConfusion (quiet good)
      simpa [at_, successes, reporting, unsuccessful] using told listened
  | deliver task later first => simpa [first] using told listened
  | _ => exact told listened

theorem announced_snoc {tasks : List CompletionTask} {task : CompletionTask}
    (announced : Announced tasks)
    (last : ∀ id, task = .done id .ok → id ∈ (tasks.filterMap toldOf).map Prod.fst) :
    Announced (tasks ++ [task]) := by
  intro front id back split
  rcases List.eq_nil_or_concat' back with rfl | ⟨earlier, final, rfl⟩
  · obtain ⟨rfl, same⟩ := List.append_inj' split rfl
    exact last id (by simpa using same)
  · rw [← List.cons_append, ← List.append_assoc] at split
    obtain ⟨same, _⟩ := List.append_inj' split rfl
    exact announced front id earlier same

theorem Announced.front {front back : List CompletionTask} (announced : Announced (front ++ back)) :
    Announced front := by
  rintro earlier id later rfl
  exact announced earlier id (later ++ back) (by simp)

theorem announced_complete {req : Submitted Db} {result : CommandResult}
    (announced : Announced (q.log ++ q.tasks))
    (last : result = .ok → req.id ∈ ((q.log ++ q.tasks).filterMap toldOf).map Prod.fst) :
    Announced ((q.complete req result).log ++ (q.complete req result).tasks) := by
  rw [posted_complete]
  split
  · refine announced_snoc announced fun id same => ?_
    simp only [CompletionTask.done.injEq] at same
    exact same.1 ▸ last same.2
  · simpa using announced

theorem Moves.announced (moves : Moves q after) (sound : Sound start q)
    (listened : after.sink = true) : Announced (after.log ++ after.tasks) := by
  have announced := sound.announced
  cases moves with
  | cancel index req left cancels => exact announced_complete (announced listened) (by simp)
  | finish req result at_ =>
      refine announced_complete (announced listened) ?_
      rintro rfl
      rw [(sound.told listened).1, at_, successes_append,
        show successes (reporting (.completing req .ok)) = [req] from rfl, invalidations_append]
      simp
  | announce req at_ _ =>
      rw [← List.append_assoc]
      exact announced_snoc (announced listened) (by simp)
  | deliver task later first =>
      have same := announced listened
      rw [first] at same
      simpa using same
  | _ => exact announced listened

theorem Moves.left (moves : Moves q after)
    (left : q.writer = .exited → q.running = false ∧ q.queue = []) (exited : after.writer = .exited) :
    after.running = false ∧ after.queue = [] := by
  cases moves with
  | submit request running =>
      have stopped := (left exited).1
      rw [running] at stopped
      exact Bool.noConfusion stopped
  | close => exact ⟨rfl, (left exited).2⟩
  | closeAgain stopped => exact ⟨stopped, rfl⟩
  | join index joins now => exact ⟨(left now).1, rfl⟩
  | exit waits idle stopped => exact ⟨stopped, idle⟩
  | still | cancel | deliver => exact left exited
  | _ => simp at exited

theorem Moves.sound (moves : Moves q after) (sound : Sound start q) : Sound start after where
  numbered := moves.numbered sound.numbered
  counted := moves.counted sound.counted
  ordered := moves.ordered sound
  known := moves.known sound
  opened := moves.opened sound.opened
  computed := moves.computed sound.computed
  database := moves.database sound.computed sound.database
  finished := moves.finished sound.finished
  called := moves.called sound.called
  told := moves.told sound.told
  announced := moves.announced sound
  left := moves.left sound.left

theorem sound_opened (start : Db) (capacity : Nat) (sink : Bool) :
    Sound start (DbCommandQueue.opened start capacity sink) := by
  constructor <;> simp [DbCommandQueue.opened, tally, Opened, Computed, WriterPhase.held,
    WriterPhase.unstarted, successes, finishing, reporting, invalidations, Announced]

/-! The law. -/

theorem closers_sum (closers : List (Closer Db)) :
    (closers.map fun closer => (closer.held : Multiset (Submitted Db))).sum =
      (closers.flatMap Closer.held : List (Submitted Db)) := by
  induction closers with
  | nil => rfl
  | cons closer later ih =>
      rw [List.map_cons, List.sum_cons, ih, List.flatMap_cons, Multiset.coe_add]

theorem Sound.counted_perm (sound : Sound start q) :
    (q.results.map Prod.fst ++ q.held).Perm q.accepted := by
  have counted := sound.counted
  unfold tally at counted
  rw [closers_sum, Multiset.coe_add, Multiset.coe_add, Multiset.coe_add,
    Multiset.coe_eq_coe] at counted
  simpa [DbCommandQueue.held] using counted

theorem Sound.finished_nodup (sound : Sound start q) :
    ((q.results ++ finishing q.writer).map Prod.fst).Nodup := by
  have all : (q.results.map Prod.fst ++ q.held).Nodup :=
    sound.counted_perm.nodup_iff.mpr (accepted_nodup sound.numbered)
  have own : ((finishing q.writer).map Prod.fst).Sublist q.held := by
    have held : ((finishing q.writer).map Prod.fst).Sublist q.writer.held := by
      cases q.writer <;> simp [finishing, WriterPhase.held]
    exact held.trans ((List.sublist_append_right _ _).trans (List.sublist_append_left _ _))
  rw [List.map_append]
  exact all.sublist (own.append_left _)

theorem Sound.ok_iff (sound : Sound start q) {req : Submitted Db} {result : CommandResult}
    (completed : (req, result) ∈ q.results) : result = .ok ↔ req ∈ q.committed := by
  rw [sound.finished]
  constructor
  · rintro rfl
    exact List.mem_map.mpr ⟨(req, .ok), List.mem_filter.mpr
      ⟨List.mem_append_left _ completed, by simp⟩, rfl⟩
  · intro succeeded
    obtain ⟨⟨other, good⟩, member, rfl⟩ := List.mem_map.mp succeeded
    obtain ⟨listed, isOk⟩ := List.mem_filter.mp member
    have same := List.inj_on_of_nodup_map sound.finished_nodup
      (List.mem_append_left _ completed) listed rfl
    rw [show result = good from congrArg Prod.snd same]
    simpa using isOk

theorem Sound.told_all (sound : Sound start q) (listened : q.sink = true) :
    ∃ later, (q.log ++ q.tasks).filterMap toldOf ++ later = invalidations q.committed := by
  rw [(sound.told listened).1, sound.finished, successes_append, successes_append]
  cases at_ : q.writer with
  | settled req result =>
      by_cases good : result = .ok
      · subst good
        refine ⟨_, (congrArg (· ++ _) (congrArg invalidations (List.append_nil _))).trans
          (invalidations_append _ req).symm⟩
      · exact ⟨[], by simp [successes, finishing, reporting, good]⟩
  | _ => exact ⟨[], by simp [finishing, reporting]⟩

theorem invalidations_increasing {committed : List (Submitted Db)}
    (fits : committed.length < 2 ^ 64) :
    (invalidations committed).Pairwise fun first second => first.2.version < second.2.version := by
  rw [invalidations, List.pairwise_map, List.pairwise_iff_getElem]
  intro first second firstBound secondBound before
  rw [List.length_zipIdx] at secondBound
  simp only [List.getElem_zipIdx, invalidation, UInt64.lt_iff_toNat_lt, UInt64.toNat_ofNat']
  rw [Nat.mod_eq_of_lt (by omega), Nat.mod_eq_of_lt (by omega)]
  omega

theorem Sound.lawful (sound : Sound start q) : Lawful start q where
  numbered := sound.numbered
  counted := sound.counted_perm
  called := sound.called
  ordered := (List.pairwise_append.mp (List.pairwise_append.mp sound.ordered).1).1
  begun := by
    have opened := sound.opened
    cases at_ : q.writer <;> rw [at_] at opened
    case begun | ran =>
      obtain ⟨earlier, same, sublist⟩ := opened
      exact same ▸ sublist.trans (List.sublist_append_left _ _)
    all_goals exact opened
  ok := fun _ _ => sound.ok_iff
  database := sound.database
  told := sound.told_all
  increasing := by
    intro listened fits
    obtain ⟨later, all⟩ := sound.told_all listened
    exact (List.pairwise_append.mp (all ▸ invalidations_increasing fits)).1
  announced := fun listened => (sound.announced listened).front

/-! The writer, the threads that close and the executor come to an end. -/

def Event.internal : Event Db → Bool
  | .closeNext _ | .writerLoop _ | .deliver => true
  | _ => false

def phaseWeight : WriterPhase Db → Nat
  | .waiting => 1
  | .taken _ => 9
  | .checked .. => 8
  | .begun .. => 7
  | .ran .. => 6
  | .settled .. => 5
  | .completing .. => 3
  | .exited => 0

def closerWeight : Closer Db → Nat
  | .joining => 1
  | .cancelling left => 2 * left.length

def weight (q : DbCommandQueue Db) : Nat :=
  10 * q.queue.length + phaseWeight q.writer + (q.closers.map closerWeight).sum + q.tasks.length

theorem weight_set {closers : List (Closer Db)} {index : Nat} {old : Closer Db}
    (there : closers[index]? = some old) (new : Closer Db) :
    ((closers.set index new).map closerWeight).sum + closerWeight old =
      (closers.map closerWeight).sum + closerWeight new := by
  induction closers generalizing index with
  | nil => simp at there
  | cons closer later ih =>
      cases index with
      | zero =>
          obtain rfl := Option.some.inj there
          simp only [List.set_cons_zero, List.map_cons, List.sum_cons]
          omega
      | succ index =>
          have rest := ih there
          simp only [List.set_cons_succ, List.map_cons, List.sum_cons]
          omega

theorem weight_complete (q : DbCommandQueue Db) (req : Submitted Db) (result : CommandResult) :
    (q.complete req result).tasks.length ≤ q.tasks.length + 1 := by
  unfold complete
  split <;> simp

theorem closeNext_weight {index : Nat} (stepped : q.closeNext index = some after) :
    after.weight < q.weight := by
  unfold closeNext at stepped
  split at stepped
  · rename_i joins left
    obtain rfl := Option.some.inj stepped
    have moved := weight_set joins (.cancelling q.queue)
    simp only [closerWeight] at moved
    simp only [weight, List.length_nil]
    omega
  · rename_i req left cancels
    obtain rfl := Option.some.inj stepped
    have moved := weight_set cancels (.cancelling left)
    have posted := weight_complete { q with closers := q.closers.set index (.cancelling left) } req
      .cancelled
    simp only [closerWeight, List.length_cons] at moved
    simp only [weight, complete] at posted ⊢
    omega
  · simp at stepped

theorem writerLoop_weight {works : Bool} (stepped : q.writerLoop works = some after) :
    after.weight < q.weight := by
  unfold writerLoop at stepped
  split at stepped <;> rename_i at_
  · split at stepped
    · split at stepped
      · simp at stepped
      · obtain rfl := Option.some.inj stepped
        simp only [weight, at_, phaseWeight]
        omega
    · rename_i req later first
      obtain rfl := Option.some.inj stepped
      simp only [weight, at_, phaseWeight, first, List.length_cons]
      omega
  · split at stepped
    · obtain rfl := Option.some.inj stepped
      simp only [weight, at_, phaseWeight]
      omega
    · split at stepped <;> obtain rfl := Option.some.inj stepped <;>
        simp only [weight, at_, phaseWeight] <;> omega
  · split at stepped <;> obtain rfl := Option.some.inj stepped <;>
      simp only [weight, at_, phaseWeight] <;> omega
  · split at stepped <;> obtain rfl := Option.some.inj stepped <;>
      simp only [weight, at_, phaseWeight] <;> omega
  · split at stepped <;> obtain rfl := Option.some.inj stepped <;>
      simp only [weight, at_, phaseWeight] <;> omega
  · split at stepped <;> obtain rfl := Option.some.inj stepped <;>
      simp only [weight, at_, phaseWeight, List.length_append, List.length_singleton] <;> omega
  · rename_i req result
    obtain rfl := Option.some.inj stepped
    have posted := weight_complete q req result
    simp only [weight, at_, phaseWeight, complete] at posted ⊢
    omega
  · simp at stepped

theorem internal_weight {event : Event Db} (inside : event.internal = true)
    (stepped : q.next event = some after) : after.weight < q.weight := by
  cases event with
  | closeNext index => exact closeNext_weight stepped
  | writerLoop works => exact writerLoop_weight stepped
  | deliver =>
      simp only [next, deliver] at stepped
      split at stepped
      · simp at stepped
      · rename_i task later first
        obtain rfl := Option.some.inj stepped
        simp only [weight, first, List.length_cons]
        omega
  | _ => simp [Event.internal] at inside

def Quiet (q : DbCommandQueue Db) : Prop :=
  ∀ event : Event Db, event.internal = true → q.next event = none

theorem Sound.quiet (sound : Sound start q) (quiet : q.Quiet) : q.held = [] ∧ q.tasks = [] := by
  have writer := quiet (.writerLoop true) rfl
  have idle : q.writer.held = [] ∧ q.queue = [] := by
    simp only [next, writerLoop] at writer
    split at writer <;> rename_i at_
    · split at writer
      · rename_i none
        exact ⟨by rw [at_]; rfl, none⟩
      · simp at writer
    · split at writer
      · simp at writer
      · split at writer <;> simp at writer
    · simp at writer
    · split at writer <;> simp at writer
    · split at writer <;> simp at writer
    · split at writer <;> simp at writer
    · simp at writer
    · exact ⟨by rw [at_]; rfl, (sound.left at_).2⟩
  have closers : q.closers.flatMap Closer.held = [] := by
    refine List.flatMap_eq_nil_iff.mpr fun closer member => ?_
    obtain ⟨index, bound, there⟩ := List.getElem_of_mem member
    have found : q.closers[index]? = some closer := there ▸ List.getElem?_eq_getElem bound
    cases closer with
    | joining => rfl
    | cancelling left =>
        cases left with
        | nil => rfl
        | cons req later =>
            have cancels := quiet (.closeNext index) rfl
            simp [next, closeNext, found] at cancels
  have executor := quiet .deliver rfl
  refine ⟨by simp [DbCommandQueue.held, idle, closers], ?_⟩
  simp only [next, deliver] at executor
  split at executor
  · rename_i none
    exact none
  · simp at executor

/-- From here the internal steps come to an end, and at the end every command that was accepted has
its completion. -/
structure Settles (q : DbCommandQueue Db) : Prop where
  bounded : ∀ events last, (∀ event ∈ events, Event.internal event = true) →
    Run Step q events last → events.length ≤ q.weight
  done : ∀ events last, (∀ event ∈ events, Event.internal event = true) →
    Run Step q events last → last.Quiet →
      (last.results.map Prod.fst).Perm last.accepted ∧ last.log.filterMap doneOf =
        (last.results.filter fun result => result.1.request.onDone).map fun result =>
          (result.1.id, result.2)

theorem run_sound {events : List (Event Db)} {before last : DbCommandQueue Db}
    (sound : Sound start before) (run : Run Step before events last) : Sound start last :=
  run.invariant sound fun _ _ _ sound stepped => (next_moves stepped).sound sound

theorem internal_bounded {events : List (Event Db)} {last : DbCommandQueue Db}
    (inside : ∀ event ∈ events, Event.internal event = true) (run : Run Step q events last) :
    last.weight + events.length ≤ q.weight := by
  induction run with
  | nil => simp
  | snoc _ stepped ih =>
      have before := ih fun event member => inside event (List.mem_append_left _ member)
      have less := internal_weight (inside _ (by simp)) stepped
      rw [List.length_append, List.length_singleton]
      omega

/-- The law holds in every state of every run. -/
theorem commandQueue_lawful {start : Db} {capacity : Nat} {sink : Bool} {events : List (Event Db)}
    {last : DbCommandQueue Db} (run : Run Step (opened start capacity sink) events last) :
    Lawful start last ∧ Settles last := by
  have sound := run_sound (sound_opened start capacity sink) run
  refine ⟨sound.lawful, ?_, ?_⟩
  · intro events last inside run
    have bounded := internal_bounded inside run
    omega
  · intro events last inside run quiet
    have after := run_sound sound run
    obtain ⟨held, tasks⟩ := after.quiet quiet
    have counted := after.counted_perm
    have called := after.called
    rw [held, List.append_nil] at counted
    rw [tasks, List.append_nil] at called
    exact ⟨counted, called⟩

def writes (number : Nat) : CommandRequest (List Nat) where
  fn := some fun db => .returned true (db ++ [number])
  table := [0x6D]
  cancel := some number

def throws (number : Nat) : CommandRequest (List Nat) where
  fn := some fun db => .threw (db ++ [number])

def closing : List (Event (List Nat)) :=
  let loops (times : Nat) : List (Event (List Nat)) := List.replicate times (.writerLoop true)
  let asked : List (Event (List Nat)) :=
    [.submit (writes 1), .submit (throws 2), .submit (writes 3), .raise 3]
  let closed : List (Event (List Nat)) := [.submit (writes 4), .close, .close, .closeNext 1]
  let ran : List (Event (List Nat)) := [.deliver, .deliver, .deliver, .deliver, .deliver]
  asked ++ loops 17 ++ closed ++ ran ++ loops 1 ++ [Event.closeNext 0]

theorem commandQueue_lawful_closing :
    ∃ last, Run Step (opened [] 8 true) closing last ∧
      last.db = [1] ∧
      last.log.filterMap doneOf = [(0, .ok), (1, .sqlFailed), (2, .cancelled), (3, .cancelled)] ∧
      Lawful [] last ∧ Settles last := by
  have ends : (closing.foldlM next (opened [] 8 true)).map
      (fun last => (last.db, last.log.filterMap doneOf)) =
        some ([1], [(0, .ok), (1, .sqlFailed), (2, .cancelled), (3, .cancelled)]) := by
    decide +kernel
  obtain ⟨last, reached, same⟩ := Option.map_eq_some_iff.mp ends
  have run : Run Step (opened [] 8 true) closing last := Run.of_foldlM reached
  simp only [Prod.mk.injEq] at same
  exact ⟨last, run, same.1, same.2, commandQueue_lawful run⟩

/-- A queue without a sink tells nobody of a commit, and a command without a callback is completed
by no call. -/
theorem commandQueue_untold :
    ∃ last, Run Step (opened [] 8 false)
        (.submit { writes 1 with onDone := false } :: List.replicate 7 (.writerLoop true)) last ∧
      last.db = [1] ∧ last.committed.length = 1 ∧ last.held.length = 0 ∧
      last.log ++ last.tasks = [] := by
  have ends : ((.submit { writes 1 with onDone := false } ::
      List.replicate 7 (.writerLoop true)).foldlM next (opened [] 8 false)).map
        (fun last => (last.db, last.committed.length, last.held.length, last.log ++ last.tasks)) =
          some ([1], 1, 0, []) := by
    decide +kernel
  obtain ⟨last, reached, same⟩ := Option.map_eq_some_iff.mp ends
  simp only [Prod.mk.injEq] at same
  exact ⟨last, Run.of_foldlM reached, same⟩

end DbCommandQueue

end Jitong
