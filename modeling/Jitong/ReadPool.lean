import Jitong.Lib.Slots

/-!
The pool of read connections and its callers. A caller goes through its call one block at a time:
what it does under the mutex is one step, and so is the callback's start and its end. A wait on the
condition variable may wake at any time.
-/

namespace Jitong

open Lib

inductive ReadResult
  | ok | busy | timeout | closing | callbackFailed
  deriving DecidableEq

structure ReadPool where
  isOpen : Bool
  conns : List Nat
  busy : List Bool
  next : Nat := 0
  active : Nat := 0
  waiters : Nat := 0
  deriving DecidableEq

/-- Where a caller is in `withRead`, which has a callback or none, or in `close`. A callback that
reads again is another caller. -/
inductive PoolCall
  | entering (waitFor : Int) (fn : Bool)
  | waiting (fn : Bool)
  | lent (slot conn : Nat) (fn : Bool)
  | running (slot conn : Nat)
  | ran (slot : Nat) (result : ReadResult)
  | returned (result : ReadResult)
  | closing
  | draining
  | closed
  deriving DecidableEq

structure PoolLuck where
  timedOut : Bool := false
  threw : Bool := false

namespace PoolCall

def slot? : PoolCall → Option Nat
  | .lent slot _ _ | .running slot _ | .ran slot _ => some slot
  | _ => none

def reads? : PoolCall → Option Nat
  | .running _ conn => some conn
  | _ => none

def waits : PoolCall → Bool
  | .waiting _ => true
  | _ => false

end PoolCall

namespace ReadPool

def opened (size : Int) : ReadPool where
  isOpen := true
  conns := List.range (max size 1).toNat
  busy := List.replicate (max size 1).toNat false

def findIdle (pool : ReadPool) : Option Nat :=
  ((List.range pool.conns.length).map fun i => (pool.next + i) % pool.conns.length).find?
    fun j => pool.busy[j]? = some false

def lend (pool : ReadPool) (slot : Nat) (fn : Bool) : ReadPool × PoolCall :=
  ({ pool with
      busy := pool.busy.set slot true
      active := pool.active + 1
      next := (slot + 1) % pool.conns.length },
    .lent slot (pool.conns.getD slot 0) fn)

/-- The end of `close`, when no connection is lent and nobody waits for one. -/
def drain (pool : ReadPool) : ReadPool × PoolCall :=
  if pool.active = 0 ∧ pool.waiters = 0 then ({ pool with conns := [], busy := [] }, .closed)
  else (pool, .draining)

def advance (pool : ReadPool) (luck : PoolLuck) : PoolCall → ReadPool × PoolCall
  | .entering waitFor fn =>
      if !pool.isOpen || pool.conns.isEmpty then (pool, .returned .closing)
      else
        match pool.findIdle with
        | some slot => pool.lend slot fn
        | none =>
            if waitFor ≤ 0 then (pool, .returned .busy)
            else ({ pool with waiters := pool.waiters + 1 }, .waiting fn)
  | .waiting fn =>
      let ok := !pool.isOpen || pool.findIdle.isSome
      if ok || luck.timedOut then
        let pool := { pool with waiters := pool.waiters - 1 }
        if !pool.isOpen then (pool, .returned .closing)
        else if !ok then (pool, .returned .timeout)
        else
          match pool.findIdle with
          | some slot => pool.lend slot fn
          | none => (pool, .returned .closing)
      else (pool, .waiting fn)
  | .lent slot conn fn => (pool, if fn then .running slot conn else .ran slot .ok)
  | .running slot _ => (pool, .ran slot (if luck.threw then .callbackFailed else .ok))
  | .ran slot result =>
      ({ pool with busy := pool.busy.set slot false, active := pool.active - 1 },
        .returned result)
  | .closing => { pool with isOpen := false }.drain
  | .draining => pool.drain
  | .returned result => (pool, .returned result)
  | .closed => (pool, .closed)

end ReadPool

structure PoolWorld where
  pool : ReadPool
  calls : List PoolCall
  deriving DecidableEq

inductive PoolEvent
  | withRead (waitFor : Int) (fn : Bool)
  | close
  | next (index : Nat) (luck : PoolLuck)

namespace PoolWorld

def opened (size : Int) : PoolWorld := ⟨.opened size, []⟩

def step (world : PoolWorld) : PoolEvent → PoolWorld
  | .withRead waitFor fn => { world with calls := world.calls ++ [.entering waitFor fn] }
  | .close => { world with calls := world.calls ++ [.closing] }
  | .next index luck =>
      match world.calls[index]? with
      | none => world
      | some call =>
          let (pool, call) := world.pool.advance luck call
          ⟨pool, world.calls.set index call⟩

def run (world : PoolWorld) (events : List PoolEvent) : PoolWorld := events.foldl step world

def held (world : PoolWorld) : List Nat := world.calls.filterMap PoolCall.slot?

end PoolWorld

namespace PoolCall

def conn? : PoolCall → Option Nat
  | .lent _ conn _ | .running _ conn => some conn
  | _ => none

theorem conn?_of_reads? {call : PoolCall} {conn : Nat} (reads : call.reads? = some conn) :
    call.conn? = some conn := by
  cases call with
  | running slot other => exact reads
  | _ => simp [reads?] at reads

end PoolCall

namespace PoolWorld

structure Kept (world : PoolWorld) : Prop where
  marks : Marks world.pool.busy world.held
  active : world.pool.active = world.held.length
  waiters : world.pool.waiters = world.calls.countP PoolCall.waits
  numbered : world.pool.conns = List.range world.pool.busy.length
  lent : ∀ call ∈ world.calls, ∀ conn, call.conn? = some conn → call.slot? = some conn
  shutting : PoolCall.draining ∈ world.calls → world.pool.isOpen = false
  shut : world.pool.conns = [] → world.pool.isOpen = false

theorem opened_kept (size : Int) : (opened size).Kept where
  marks := Marks.none _
  active := rfl
  waiters := rfl
  numbered := by simp [opened, ReadPool.opened]
  lent call member := absurd member List.not_mem_nil
  shutting member := absurd member List.not_mem_nil
  shut none := by
    simp only [opened, ReadPool.opened, List.range_eq_nil] at none
    omega

variable {pool : ReadPool} {front back : List PoolCall} {call : PoolCall}

theorem held_split : (PoolWorld.mk pool (front ++ call :: back)).held =
    front.filterMap PoolCall.slot? ++ (call.slot?.toList ++ back.filterMap PoolCall.slot?) := by
  unfold held
  rw [List.filterMap_append, List.filterMap_cons]
  cases call.slot? <;> rfl

theorem Kept.swap (kept : Kept ⟨pool, front ++ call :: back⟩) (next : PoolCall) (isOpen : Bool)
    (waiters : Nat) (slot : next.slot? = call.slot?)
    (counted : waiters + (if call.waits then 1 else 0) =
      pool.waiters + (if next.waits then 1 else 0))
    (conn : ∀ conn, next.conn? = some conn → next.slot? = some conn)
    (opens : isOpen = true → pool.isOpen = true ∧ next ≠ .draining) :
    Kept ⟨{ pool with isOpen, waiters }, front ++ next :: back⟩ where
  marks := by
    have marks := kept.marks
    rw [held_split] at marks ⊢
    rw [slot]
    exact marks
  active := by
    have active := kept.active
    rw [held_split] at active ⊢
    rw [slot]
    exact active
  waiters := by
    have before := kept.waiters
    simp only [List.countP_append, List.countP_cons] at before ⊢
    omega
  numbered := kept.numbered
  lent other member other' lent := by
    rcases List.mem_append.mp member with inFront | inRest
    · exact kept.lent other (List.mem_append_left _ inFront) other' lent
    · rcases List.mem_cons.mp inRest with rfl | inBack
      · exact conn other' lent
      · exact kept.lent other (List.mem_append_right _ (List.mem_cons_of_mem _ inBack)) other' lent
  shutting member := by
    by_contra still
    obtain ⟨before, apart⟩ := opens (by simpa using still)
    have shutting := kept.shutting
    simp only [List.mem_append, List.mem_cons, apart.symm, false_or] at member shutting
    rw [before] at shutting
    exact absurd (shutting (member.imp_right .inr)) (by simp)
  shut none := by
    by_contra still
    have before := (opens (by simpa using still)).1
    exact absurd (before.symm.trans (kept.shut none)) (by simp)

theorem findIdle_free {slot : Nat} (idle : pool.findIdle = some slot) :
    pool.busy[slot]? = some false := by
  simpa using List.find?_some idle

theorem Kept.lend (kept : Kept ⟨pool, front ++ call :: back⟩) {slot : Nat} (fn : Bool)
    (idle : pool.findIdle = some slot) (empty : call.slot? = none) (moves : call.waits = false) :
    Kept ⟨(pool.lend slot fn).1, front ++ (pool.lend slot fn).2 :: back⟩ where
  marks := by
    have marks := kept.marks
    rw [held_split, empty] at marks
    rw [held_split]
    exact marks.take (findIdle_free idle)
  active := by
    have active := kept.active
    rw [held_split, empty] at active
    rw [held_split]
    simp only [ReadPool.lend, PoolCall.slot?, Option.toList_some, Option.toList_none,
      List.length_append, List.length_cons, List.length_nil] at active ⊢
    omega
  waiters := by
    have before := kept.waiters
    simp only [List.countP_append, List.countP_cons, moves] at before
    simp only [ReadPool.lend, List.countP_append, List.countP_cons, PoolCall.waits]
    exact before
  numbered := by
    simp only [ReadPool.lend, List.length_set]
    exact kept.numbered
  lent other member conn lent := by
    rcases List.mem_append.mp member with inFront | inRest
    · exact kept.lent other (List.mem_append_left _ inFront) conn lent
    · rcases List.mem_cons.mp inRest with rfl | inBack
      · have bound := (List.getElem?_eq_some_iff.mp (findIdle_free idle)).1
        have numbered : pool.conns = List.range pool.busy.length := kept.numbered
        simp only [ReadPool.lend, PoolCall.conn?, PoolCall.slot?, Option.some.injEq] at lent ⊢
        rw [← lent, numbered, List.getD_eq_getElem _ _ (by simpa using bound), List.getElem_range]
      · exact kept.lent other (List.mem_append_right _ (List.mem_cons_of_mem _ inBack)) conn lent
  shutting member := by
    refine kept.shutting ?_
    simp only [ReadPool.lend, List.mem_append, List.mem_cons, reduceCtorEq, false_or] at member ⊢
    exact member.imp_right .inr
  shut := kept.shut

theorem Kept.give {slot : Nat} {result : ReadResult}
    (kept : Kept ⟨pool, front ++ .ran slot result :: back⟩) :
    Kept ⟨{ pool with busy := pool.busy.set slot false, active := pool.active - 1 },
      front ++ .returned result :: back⟩ where
  marks := by
    have marks := kept.marks
    rw [held_split] at marks ⊢
    exact marks.give
  active := by
    have active := kept.active
    rw [held_split] at active ⊢
    simp only [PoolCall.slot?, Option.toList_some, Option.toList_none, List.length_append,
      List.length_cons, List.length_nil] at active ⊢
    omega
  waiters := by
    have before := kept.waiters
    simp only [List.countP_append, List.countP_cons, PoolCall.waits, Bool.false_eq_true, if_false,
      Nat.add_zero] at before ⊢
    exact before
  numbered := by
    simp only [List.length_set]
    exact kept.numbered
  lent other member conn lent := by
    rcases List.mem_append.mp member with inFront | inRest
    · exact kept.lent other (List.mem_append_left _ inFront) conn lent
    · rcases List.mem_cons.mp inRest with rfl | inBack
      · simp [PoolCall.conn?] at lent
      · exact kept.lent other (List.mem_append_right _ (List.mem_cons_of_mem _ inBack)) conn lent
  shutting member := by
    refine kept.shutting ?_
    simp only [List.mem_append, List.mem_cons, reduceCtorEq, false_or] at member ⊢
    exact member
  shut := kept.shut

theorem Kept.drained {world : PoolWorld} (kept : world.Kept) (active : world.pool.active = 0)
    (waiters : world.pool.waiters = 0) :
    ∀ call ∈ world.calls, call.slot? = none ∧ call.waits = false := by
  intro call member
  have none : world.held = [] := List.eq_nil_of_length_eq_zero (kept.active.symm.trans active)
  constructor
  · exact List.filterMap_eq_nil_iff.mp none call member
  · simpa using List.countP_eq_zero.mp (kept.waiters.symm.trans waiters) call member

theorem Kept.drain (kept : Kept ⟨pool, front ++ call :: back⟩) (closed : pool.isOpen = false)
    (empty : call.slot? = none) (moves : call.waits = false) :
    Kept ⟨pool.drain.1, front ++ pool.drain.2 :: back⟩ := by
  unfold ReadPool.drain
  split
  · rename_i zero
    have none := kept.drained zero.1 zero.2
    have idle : ∀ other ∈ front ++ PoolCall.closed :: back,
        other.slot? = Option.none ∧ other.waits = false := by
      intro other member
      rcases List.mem_append.mp member with inFront | inRest
      · exact none other (List.mem_append_left _ inFront)
      · rcases List.mem_cons.mp inRest with rfl | inBack
        · exact ⟨rfl, rfl⟩
        · exact none other (List.mem_append_right _ (List.mem_cons_of_mem _ inBack))
    have nobody : (PoolWorld.mk { pool with conns := [], busy := [] }
        (front ++ PoolCall.closed :: back)).held = [] :=
      List.filterMap_eq_nil_iff.mpr fun other member => (idle other member).1
    exact {
      marks := by
        rw [nobody]
        exact Marks.none 0
      active := by
        rw [nobody]
        exact zero.1
      waiters := by
        refine zero.2.trans (List.countP_eq_zero.mpr fun other member => ?_).symm
        simp [(idle other member).2]
      numbered := rfl
      lent := fun other member conn lent => by
        have slot := (idle other member).1
        cases other <;> simp_all [PoolCall.conn?, PoolCall.slot?]
      shutting := fun _ => closed
      shut := fun _ => closed }
  · refine kept.swap .draining pool.isOpen pool.waiters empty.symm ?_ ?_ ?_
    · rw [moves]
      rfl
    · simp [PoolCall.conn?]
    · simp [closed]

def Leaves (front back : List PoolCall) (answer : ReadPool × PoolCall) : Prop :=
  Kept ⟨answer.1, front ++ answer.2 :: back⟩

theorem Kept.advance (kept : Kept ⟨pool, front ++ call :: back⟩) (luck : PoolLuck) :
    Leaves front back (pool.advance luck call) := by
  cases call with
  | entering waitFor fn =>
      have left (result : ReadResult) : Kept ⟨pool, front ++ .returned result :: back⟩ :=
        kept.swap (.returned result) pool.isOpen pool.waiters rfl rfl (by simp [PoolCall.conn?])
          (by simp)
      unfold ReadPool.advance
      dsimp only
      split
      · exact left .closing
      · split
        · rename_i slot idle
          exact kept.lend fn idle rfl rfl
        · split
          · exact left .busy
          · refine kept.swap (.waiting fn) pool.isOpen (pool.waiters + 1) rfl ?_ ?_ ?_
            · simp [PoolCall.waits]
            · simp [PoolCall.conn?]
            · simp
  | waiting fn =>
      have counted : 0 < pool.waiters := by
        have waiters := kept.waiters
        simp only [List.countP_append, List.countP_cons, PoolCall.waits, if_true] at waiters
        omega
      have left (result : ReadResult) : Kept
          ⟨{ pool with waiters := pool.waiters - 1 }, front ++ .returned result :: back⟩ := by
        refine kept.swap (.returned result) pool.isOpen (pool.waiters - 1) rfl ?_ ?_ ?_
        · simp only [PoolCall.waits, if_true, Bool.false_eq_true, if_false]
          omega
        · simp [PoolCall.conn?]
        · simp
      unfold ReadPool.advance
      dsimp only
      split
      · split
        · exact left .closing
        · split
          · exact left .timeout
          · split
            · rename_i slot idle
              exact (left .closing).lend fn idle rfl rfl
            · exact left .closing
      · exact kept
  | lent slot conn fn =>
      have numbered := kept.lent _ (List.mem_append_right _ (List.mem_cons_self ..)) conn rfl
      unfold ReadPool.advance
      dsimp only
      split
      · exact kept.swap (.running slot conn) pool.isOpen pool.waiters rfl rfl
          (fun other same => numbered.trans same) (by simp)
      · exact kept.swap (.ran slot .ok) pool.isOpen pool.waiters rfl rfl (by simp [PoolCall.conn?])
          (by simp)
  | running slot conn =>
      exact kept.swap (.ran slot _) pool.isOpen pool.waiters rfl rfl (by simp [PoolCall.conn?])
        (by simp)
  | ran slot result => exact kept.give
  | returned result => exact kept
  | closing =>
      have closed : Kept ⟨{ pool with isOpen := false }, front ++ .closing :: back⟩ :=
        kept.swap .closing false pool.waiters rfl rfl (by simp [PoolCall.conn?]) (by simp)
      exact closed.drain rfl rfl rfl
  | draining =>
      have closed := kept.shutting (List.mem_append_right _ (List.mem_cons_self ..))
      exact kept.drain closed rfl rfl
  | closed => exact kept

theorem Kept.enter {world : PoolWorld} (kept : world.Kept) (call : PoolCall)
    (empty : call.slot? = none) (fresh : call.waits = false ∧ call.conn? = none)
    (starts : call ≠ .draining) : Kept { world with calls := world.calls ++ [call] } where
  marks := by
    have marks := kept.marks
    unfold held at marks ⊢
    simpa [empty] using marks
  active := by
    have active := kept.active
    unfold held at active ⊢
    simpa [empty] using active
  waiters := by simpa [fresh.1] using kept.waiters
  numbered := kept.numbered
  lent other member conn lent := by
    rcases List.mem_append.mp member with old | new
    · exact kept.lent other old conn lent
    · rw [List.mem_singleton.mp new, fresh.2] at lent
      simp at lent
  shutting member := by
    rcases List.mem_append.mp member with old | new
    · exact kept.shutting old
    · exact absurd (List.mem_singleton.mp new).symm starts
  shut := kept.shut

theorem split_calls {calls : List PoolCall} {index : Nat} (found : calls[index]? = some call) :
    ∃ front back, calls = front ++ call :: back ∧
      ∀ next, calls.set index next = front ++ next :: back := by
  obtain ⟨bound, rfl⟩ := List.getElem?_eq_some_iff.mp found
  refine ⟨calls.take index, calls.drop (index + 1), ?_, fun next => ?_⟩
  · rw [← List.drop_eq_getElem_cons bound, List.take_append_drop]
  · rw [List.set_eq_take_append_cons_drop, if_pos bound]

theorem Kept.step {world : PoolWorld} (kept : world.Kept) (event : PoolEvent) :
    (world.step event).Kept := by
  cases event with
  | withRead waitFor fn => exact kept.enter _ rfl ⟨rfl, rfl⟩ PoolCall.noConfusion
  | close => exact kept.enter _ rfl ⟨rfl, rfl⟩ PoolCall.noConfusion
  | next index luck =>
      unfold PoolWorld.step
      dsimp only
      split
      · exact kept
      · rename_i call found
        obtain ⟨front, back, calls, changed⟩ := split_calls found
        rw [changed]
        refine Kept.advance ?_ luck
        rw [← calls]
        exact kept

theorem run_kept (size : Int) (events : List PoolEvent) : ((opened size).run events).Kept :=
  List.foldlRecOn (motive := Kept) events PoolWorld.step (opened_kept size)
    fun _ kept event _ => kept.step event

theorem advance_closed (shut : pool.isOpen = false) (luck : PoolLuck) (call : PoolCall) :
    (pool.advance luck call).1.isOpen = false ∧
      ((pool.advance luck call).2.slot?.isSome →
        call.slot? = (pool.advance luck call).2.slot?) := by
  have drained (closing : ReadPool) (empty : closing.isOpen = false) :
      closing.drain.1.isOpen = false ∧ closing.drain.2.slot? = none := by
    unfold ReadPool.drain
    split
    · exact ⟨empty, rfl⟩
    · exact ⟨empty, rfl⟩
  cases call with
  | entering waitFor fn => simp [ReadPool.advance, shut, PoolCall.slot?]
  | waiting fn => simp [ReadPool.advance, shut, PoolCall.slot?]
  | lent slot conn fn =>
      unfold ReadPool.advance
      dsimp only
      split
      · exact ⟨shut, fun _ => rfl⟩
      · exact ⟨shut, fun _ => rfl⟩
  | running slot conn => exact ⟨shut, fun _ => rfl⟩
  | ran slot result =>
      exact ⟨shut, fun some => absurd some (by simp [ReadPool.advance, PoolCall.slot?])⟩
  | returned result => exact ⟨shut, fun _ => rfl⟩
  | closing =>
      obtain ⟨still, none⟩ := drained { pool with isOpen := false } rfl
      exact ⟨still, fun some => absurd some (by simp [ReadPool.advance, none])⟩
  | draining =>
      obtain ⟨still, none⟩ := drained pool shut
      exact ⟨still, fun some => absurd some (by simp [ReadPool.advance, none])⟩
  | closed => exact ⟨shut, fun _ => rfl⟩

theorem step_closed {world : PoolWorld} (shut : world.pool.isOpen = false) (event : PoolEvent) :
    (world.step event).pool.isOpen = false ∧
      ∀ (index : Nat) (call : PoolCall), (world.step event).calls[index]? = some call →
        call.slot?.isSome →
        ∃ before, world.calls[index]? = some before ∧ before.slot? = call.slot? := by
  have entered (new : PoolCall) (empty : new.slot? = none) (index : Nat) (call : PoolCall)
      (found : (world.calls ++ [new])[index]? = some call) (lent : call.slot?.isSome) :
      ∃ before, world.calls[index]? = some before ∧ before.slot? = call.slot? := by
    by_cases old : index < world.calls.length
    · rw [List.getElem?_append_left old] at found
      exact ⟨call, found, rfl⟩
    · rw [List.getElem?_append_right (by omega)] at found
      rw [List.mem_singleton.mp (List.mem_of_getElem? found), empty] at lent
      simp at lent
  cases event with
  | withRead waitFor fn => exact ⟨shut, entered _ rfl⟩
  | close => exact ⟨shut, entered _ rfl⟩
  | next at' luck =>
      unfold step
      dsimp only
      split
      · exact ⟨shut, fun index call found _ => ⟨call, found, rfl⟩⟩
      · rename_i moved found
        obtain ⟨still, lent⟩ := advance_closed shut luck moved
        refine ⟨still, fun index call after some => ?_⟩
        rw [List.getElem?_set] at after
        split at after
        · rename_i same
          subst index
          split at after
          · rw [← Option.some.inj after] at some ⊢
            exact ⟨moved, found, lent some⟩
          · simp at after
        · exact ⟨call, after, rfl⟩

theorem run_closed {world : PoolWorld} (shut : world.pool.isOpen = false)
    (events : List PoolEvent) :
    (world.run events).pool.isOpen = false ∧
      ∀ (index : Nat) (call : PoolCall), (world.run events).calls[index]? = some call →
        call.slot?.isSome →
        ∃ before, world.calls[index]? = some before ∧ before.slot? = call.slot? := by
  induction events using List.reverseRecOn with
  | nil => exact ⟨shut, fun index call found _ => ⟨call, found, rfl⟩⟩
  | append_singleton events event ih =>
      unfold run at ih ⊢
      rw [List.foldl_append]
      obtain ⟨still, lent⟩ := step_closed ih.1 event
      refine ⟨still, fun index call found some => ?_⟩
      obtain ⟨between, before, same⟩ := lent index call found some
      obtain ⟨first, stored, again⟩ := ih.2 index between before (same ▸ some)
      exact ⟨first, stored, again.trans same⟩

theorem Kept.destroyed {world : PoolWorld} (kept : world.Kept) (event : PoolEvent)
    (present : world.pool.conns ≠ []) (gone : (world.step event).pool.conns = []) :
    ∀ call ∈ world.calls, call.slot? = none ∧ call.waits = false := by
  have drained (closing : ReadPool) (conns : closing.conns = world.pool.conns)
      (active : closing.active = world.pool.active) (waiters : closing.waiters = world.pool.waiters)
      (empty : closing.drain.1.conns = []) :
      ∀ call ∈ world.calls, call.slot? = none ∧ call.waits = false := by
    unfold ReadPool.drain at empty
    split at empty
    · rename_i zero
      exact kept.drained (active ▸ zero.1) (waiters ▸ zero.2)
    · exact absurd (conns ▸ empty) present
  cases event with
  | withRead waitFor fn => exact absurd gone present
  | close => exact absurd gone present
  | next index luck =>
      unfold PoolWorld.step at gone
      dsimp only at gone
      split at gone
      · exact absurd gone present
      · rename_i moved _
        have conns : (world.pool.advance luck moved).1.conns = [] := gone
        cases moved with
        | closing => exact drained { world.pool with isOpen := false } rfl rfl rfl conns
        | draining => exact drained world.pool rfl rfl rfl conns
        | entering waitFor fn =>
            refine absurd ?_ present
            unfold ReadPool.advance at conns
            dsimp only at conns
            split at conns
            · exact conns
            · split at conns
              · exact conns
              · split at conns
                · exact conns
                · exact conns
        | waiting fn =>
            refine absurd ?_ present
            unfold ReadPool.advance at conns
            dsimp only at conns
            split at conns
            · split at conns
              · exact conns
              · split at conns
                · exact conns
                · split at conns
                  · exact conns
                  · exact conns
            · exact conns
        | _ => exact absurd conns present

structure Exclusive (world : PoolWorld) : Prop where
  alone : ∀ conn, world.calls.countP (fun call => call.reads? = some conn) ≤ 1
  reading : ∀ call ∈ world.calls, ∀ conn, call.reads? = some conn → conn ∈ world.pool.conns
  counted : world.pool.busy.count true = world.calls.countP (·.slot?.isSome)
  shut : world.pool.isOpen = false → ∀ later (index : Nat) (call : PoolCall),
    (world.run later).calls[index]? = some call → call.slot?.isSome →
      ∃ before, world.calls[index]? = some before ∧ before.slot? = call.slot?
  destroyed : ∀ event, world.pool.conns ≠ [] → (world.step event).pool.conns = [] →
    ∀ call ∈ world.calls, call.slot? = none ∧ call.waits = false

theorem readPool_exclusive (size : Int) (events : List PoolEvent) :
    ((opened size).run events).Exclusive := by
  have kept := run_kept size events
  generalize (opened size).run events = world at kept
  have slot (call : PoolCall) (member : call ∈ world.calls) (conn : Nat)
      (reads : call.reads? = some conn) : call.slot? = some conn :=
    kept.lent call member conn (PoolCall.conn?_of_reads? reads)
  exact {
    alone := fun conn => by
      have once := List.nodup_iff_count_le_one.mp kept.marks.distinct conn
      rw [held, List.count, List.countP_filterMap] at once
      refine Nat.le_trans (List.countP_mono_left fun call member reads => ?_) once
      simp [slot call member conn (by simpa using reads)]
    reading := fun call member conn reads => by
      have lent : conn ∈ world.held :=
        List.mem_filterMap.mpr ⟨call, member, slot call member conn reads⟩
      have bound := (List.getElem?_eq_some_iff.mp ((kept.marks.marked conn).mpr lent)).1
      rw [kept.numbered]
      exact List.mem_range.mpr bound
    counted := by
      rw [kept.marks.count_eq, held, List.length_filterMap_eq_countP]
    shut := fun closed later index call found lent =>
      (run_closed closed later).2 index call found lent
    destroyed := fun event present gone => kept.destroyed event present gone }

def lateStart : List PoolEvent :=
  [.withRead 0 true, .next 0 {}, .close, .next 1 {}, .next 0 {}]

/-- A slot is busy while no callback runs, and the callback starts in a closed pool. -/
theorem lateStart_runs :
    ((opened 2).run (lateStart.take 2)).pool.busy.count true = 1 ∧
      ((opened 2).run (lateStart.take 2)).calls.countP (·.reads?.isSome) = 0 ∧
      ((opened 2).run (lateStart.take 4)).pool.isOpen = false ∧
      ((opened 2).run (lateStart.take 4)).calls.countP (·.reads?.isSome) = 0 ∧
      ((opened 2).run lateStart).calls.countP (·.reads?.isSome) = 1 := by
  decide

end PoolWorld

end Jitong
