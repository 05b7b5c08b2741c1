import Jitong.CutoverJournal
import Jitong.CutoverMigration
import Jitong.Lib.Program
import Jitong.Lib.Run

/-!
The change log of Room on its way into the native database: `LegacyDeltaApplier` and the rounds of
`catchUp` as threads, the transactions of the Writer, and what is cleaned from the log.
-/

namespace Jitong

open Lib MigrationImporter

structure LoggedChange where
  ownerId : Int
  entry : LegacyDeltaChange
  deriving DecidableEq

/-- `legacy_change_log`, and the row of `sqlite_sequence` that numbers it. -/
structure ChangeLog where
  rows : List LoggedChange := []
  lastSeq : Int := 0
  increasing : rows.Pairwise fun first second => first.entry.changeSeq < second.entry.changeSeq
  bounded : ∀ row ∈ rows, row.entry.changeSeq ≤ lastSeq

structure ChangePage where
  changes : List LegacyDeltaChange
  highWater : Int
  contiguous : Bool
  deriving DecidableEq

namespace ChangeLog

def append (log : ChangeLog) (ownerId : Int) (change : LegacyChange) : ChangeLog where
  rows := log.rows ++ [⟨ownerId, ⟨log.lastSeq + 1, change⟩⟩]
  lastSeq := log.lastSeq + 1
  increasing := by
    refine List.pairwise_append.mpr ⟨log.increasing, List.pairwise_singleton .., ?_⟩
    intro row member fresh here
    have below := log.bounded row member
    obtain rfl := List.mem_singleton.mp here
    exact Int.lt_add_one_iff.mpr below
  bounded := by
    intro row member
    rcases List.mem_append.mp member with old | fresh
    · exact Int.le_trans (log.bounded row old) (Int.le_add_one (Int.le_refl _))
    · obtain rfl := List.mem_singleton.mp fresh
      exact Int.le_refl _

def deleteThrough (log : ChangeLog) (ownerId through : Int) : ChangeLog where
  rows := log.rows.filter fun row => ¬ (row.ownerId = ownerId ∧ row.entry.changeSeq ≤ through)
  lastSeq := log.lastSeq
  increasing := log.increasing.filter _
  bounded := fun row member => log.bounded row (List.mem_of_mem_filter member)

def changesOf (log : ChangeLog) (ownerId : Int) : List LegacyDeltaChange :=
  (log.rows.filter fun row => row.ownerId = ownerId).map (·.entry)

def highWater (log : ChangeLog) (ownerId : Int) : Int :=
  (((log.changesOf ownerId).map (·.changeSeq)).max?).getD 0

def nextChanges (log : ChangeLog) (ownerId after limit : Int) : Option ChangePage :=
  if 0 < ownerId ∧ 0 ≤ after ∧ 1 ≤ limit ∧ limit ≤ 500 then
    let rows := ((log.changesOf ownerId).filter fun c => after < c.changeSeq).take limit.toNat
    some {
      changes := rows
      highWater := log.highWater ownerId
      contiguous := (rows.zip rows.tail).all (fun pair => pair.1.changeSeq < pair.2.changeSeq) &&
        rows.head?.all fun first => after < first.changeSeq }
  else none

end ChangeLog

inductive MigrationState
  | disabled | shadowImport | verified
  deriving DecidableEq

/-- The native tables, `state` of `migration_meta`, and the checkpoint of the stream `legacy_delta`
for the epoch. `applied` are the changes that the tables have taken. -/
structure NativeDelta where
  store : MessageStore := {}
  applied : List LegacyDeltaChange := []
  state : MigrationState := .disabled
  checkpoint : Option Int := none

/-- What goes wrong in a transaction of a batch, if anything does: its `BEGIN` or `COMMIT`, a
statement of one of its changes, the statement of the checkpoint. -/
structure BatchFaults where
  works : TransactionWorks := {}
  failsAt : Option Nat := none
  checkpointFails : Bool := false

namespace NativeDelta

def readLegacyDeltaCheckpoint (native : NativeDelta) : Int := native.checkpoint.getD 0

def applyChanges (failsAt : Option Nat) (native : NativeDelta) :
    List LegacyDeltaChange → Bool × NativeDelta
  | [] => (true, native)
  | c :: rest =>
      if failsAt = some 0 then (false, native)
      else
        match native.store.applyChange c.change with
        | none => (false, native)
        | some written =>
            applyChanges (failsAt.map (· - 1))
              { native with store := written, applied := native.applied ++ [c] } rest

/-- With `committedCheckpoint`, where it returns true. -/
def applyLegacyDeltaBatch (native : NativeDelta) (faults : BatchFaults) (expectedAfter : Int)
    (changes : List LegacyDeltaChange) : Option Int × NativeDelta :=
  let current := native.readLegacyDeltaCheckpoint
  match changes.getLast? with
  | none => (if current = expectedAfter then some current else none, native)
  | some last =>
      if !MessageStore.validBatch expectedAfter changes then (none, native)
      else if expectedAfter < current ∧ last.changeSeq ≤ current then (some current, native)
      else if current ≠ expectedAfter then (none, native)
      else
        let (ok, written) := native.applyChanges faults.failsAt changes
        if !ok || faults.checkpointFails then (none, written)
        else (some last.changeSeq, { written with checkpoint := some last.changeSeq })

def submitLegacyDeltaBatch (native : NativeDelta) (faults : BatchFaults) (expectedAfter : Int)
    (changes : List LegacyDeltaChange) : Option Int × NativeDelta :=
  let batch :=
    if native.state ≠ .shadowImport then (none, native)
    else native.applyLegacyDeltaBatch faults expectedAfter changes
  match runTransaction faults.works native fun _ => .returned batch.1.isSome batch.2 with
  | (.ok, written) => (batch.1, written)
  | (_, kept) => (none, kept)

def seedLegacyDeltaCheckpoint (native : NativeDelta) (baseline : Int) : NativeDelta :=
  if native.state ≠ .shadowImport ∨ baseline < 0 ∨ native.checkpoint.isSome then native
  else { native with checkpoint := some baseline }

end NativeDelta

/-! ### The threads -/

inductive DeltaOp
  | getLegacyDeltaCheckpoint
  | nextChanges (after limit : Int)
  | submitLegacyDeltaBatch (expectedAfter : Int) (changes : List LegacyDeltaChange)
  | deleteThrough (checkpoint : Int)

inductive DeltaResponse
  | ok (checkpoint : Int)
  | timedOutButMayCommit (text : String)
  | error (text : String)
  deriving DecidableEq

def DeltaOp.Reply : DeltaOp → Type
  | .getLegacyDeltaCheckpoint => Option Int
  | .nextChanges _ _ => Option ChangePage
  | .submitLegacyDeltaBatch _ _ => DeltaResponse
  | .deleteThrough _ => Unit

/-- `LegacyDeltaApplier.Result`, and what `catchUp` returns. `threw` is an exception. -/
inductive DeltaResult
  | committed (checkpoint highWater : Int) (count : Nat)
  | retryable (reason : String)
  | rejected (reason : String)
  | caughtUp
  | threw
  deriving DecidableEq

abbrev DeltaProgram := Program DeltaOp.Reply DeltaResult

namespace LegacyDeltaApplier

def afterPage (recovered : Int) (page : ChangePage) : DeltaProgram :=
  if !page.contiguous then .done (.rejected "Room delta 页内 changeSeq 非严格递增")
  else
    match page.changes.getLast? with
    | none =>
        if page.highWater ≤ recovered then .done .caughtUp
        else .done (.retryable "Room high-water 已前进，重新读取 delta 页")
    | some last =>
        .ask (.submitLegacyDeltaBatch recovered page.changes) fun (response : DeltaResponse) =>
          match response with
          | .timedOutButMayCommit text => .done (.retryable text)
          | .error text => .done (.rejected text)
          | .ok checkpoint =>
              if checkpoint < last.changeSeq then
                .done (.rejected "Native checkpoint 落后于已提交页")
              else
                .ask (.deleteThrough checkpoint) fun _ =>
                  .done (.committed checkpoint page.highWater page.changes.length)

def fromCheckpoint (limit recovered : Int) : DeltaProgram :=
  .ask (.nextChanges recovered limit) fun (page : Option ChangePage) =>
    match page with
    | none => .done .threw
    | some page => afterPage recovered page

def applyNextPage (expectedAfter : Option Int) (limit : Int) : DeltaProgram :=
  match expectedAfter with
  | some recovered => fromCheckpoint limit recovered
  | none =>
      .ask .getLegacyDeltaCheckpoint fun (checkpoint : Option Int) =>
        match checkpoint with
        | none => .done (.retryable "无法恢复 Native delta checkpoint")
        | some recovered => fromCheckpoint limit recovered

end LegacyDeltaApplier

/-- `CutoverMigrationCoordinator.catchUp`, with so many rounds left. -/
def catchUpRounds : Nat → DeltaProgram
  | 0 => .done (.retryable "超过单次追平页数上限")
  | rounds + 1 =>
      .ask .getLegacyDeltaCheckpoint fun (checkpoint : Option Int) =>
        match checkpoint with
        | none => .done (.retryable "无法读取 checkpoint")
        | some checkpoint =>
            .ask (.nextChanges checkpoint 500) fun (page : Option ChangePage) =>
              match page with
              | none => .done .threw
              | some page =>
                  if page.changes = [] then
                    if page.highWater ≤ checkpoint then .done .caughtUp
                    else .done (.retryable "high-water 前进，需重读")
                  else
                    .ask (.submitLegacyDeltaBatch checkpoint page.changes)
                      fun (response : DeltaResponse) =>
                        match response with
                        | .ok committed =>
                            .ask (.deleteThrough committed) fun _ => catchUpRounds rounds
                        | .timedOutButMayCommit text => .done (.retryable text)
                        | .error text => .done (.retryable text)

inductive DeltaCall
  | applyNextPage (expectedAfter : Option Int) (limit : Int)
  | catchUp

def DeltaCall.program : DeltaCall → DeltaProgram
  | .applyNextPage expectedAfter limit => LegacyDeltaApplier.applyNextPage expectedAfter limit
  | .catchUp => catchUpRounds 10000

def DeltaCall.recovers : DeltaCall → Bool
  | .applyNextPage expectedAfter _ => expectedAfter.isNone
  | .catchUp => true

/-- A call under way. `seen` is how many changes were logged when it last read a page. -/
structure DeltaThread where
  call : DeltaCall
  program : DeltaProgram
  seen : Nat := 0

/-- `late` are the batches whose callers stopped waiting, `history` all changes of the owner that
were ever logged, `baseline` the checkpoint from which on they are applied. -/
structure DeltaWorld where
  log : ChangeLog
  native : NativeDelta
  late : List (Int × List LegacyDeltaChange) := []
  threads : List DeltaThread := []
  history : List LegacyDeltaChange
  baseline : Int

inductive Submission
  | runs | timesOut | refused
  deriving DecidableEq

structure DeltaLuck where
  readable : Bool := true
  text : String := ""
  submission : Submission := .runs
  faults : BatchFaults := {}

inductive DeltaEvent
  | logged (ownerId : Int) (change : LegacyChange)
  | start (call : DeltaCall)
  | advance (thread : Nat) (luck : DeltaLuck)
  | land (index : Nat) (faults : BatchFaults)
  | seed (baseline : Int)
  | state (state : MigrationState)
  | otherWrite (write : MessageStore → MessageStore)

namespace DeltaWorld

variable (ownerId : Int)

def opened (log : ChangeLog) (native : NativeDelta) : DeltaWorld where
  log := log
  native := { native with applied := [] }
  history := log.changesOf ownerId
  baseline := native.readLegacyDeltaCheckpoint

def commit (world : DeltaWorld) (faults : BatchFaults) (expectedAfter : Int)
    (changes : List LegacyDeltaChange) : Option Int × DeltaWorld :=
  let (answer, native) := world.native.submitLegacyDeltaBatch faults expectedAfter changes
  (answer, { world with native := native })

def answer (luck : DeltaLuck) (world : DeltaWorld) : (op : DeltaOp) → op.Reply × DeltaWorld
  | .getLegacyDeltaCheckpoint =>
      (if luck.readable then some world.native.readLegacyDeltaCheckpoint else none, world)
  | .nextChanges after limit => (world.log.nextChanges ownerId after limit, world)
  | .submitLegacyDeltaBatch expectedAfter changes =>
      match luck.submission with
      | .refused => (DeltaResponse.error luck.text, world)
      | .timesOut =>
          (DeltaResponse.timedOutButMayCommit luck.text,
            { world with late := world.late ++ [(expectedAfter, changes)] })
      | .runs =>
          match world.commit luck.faults expectedAfter changes with
          | (some checkpoint, after) => (DeltaResponse.ok checkpoint, after)
          | (none, after) => (DeltaResponse.error luck.text, after)
  | .deleteThrough checkpoint =>
      ((), { world with log := world.log.deleteThrough ownerId checkpoint })

def seenAfter (world : DeltaWorld) (seen : Nat) : DeltaOp → Nat
  | .nextChanges _ _ => world.history.length
  | _ => seen

def advance (world : DeltaWorld) (index : Nat) (luck : DeltaLuck) : DeltaWorld :=
  match world.threads[index]? with
  | some ⟨call, .ask op next, seen⟩ =>
      let (reply, after) := world.answer ownerId luck op
      { after with
        threads := after.threads.set index ⟨call, next reply, world.seenAfter seen op⟩ }
  | _ => world

def step (world : DeltaWorld) : DeltaEvent → DeltaWorld
  | .logged owner change =>
      { world with
        log := world.log.append owner change
        history := if owner = ownerId then world.history ++ [⟨world.log.lastSeq + 1, change⟩]
          else world.history }
  | .start call => { world with threads := world.threads ++ [⟨call, call.program, 0⟩] }
  | .advance index luck => world.advance ownerId index luck
  | .land index faults =>
      match world.late[index]? with
      | some (expectedAfter, changes) =>
          (({ world with late := world.late.eraseIdx index } : DeltaWorld).commit faults
            expectedAfter changes).2
      | none => world
  | .seed baseline =>
      { world with
        native := world.native.seedLegacyDeltaCheckpoint baseline
        baseline := if (world.native.seedLegacyDeltaCheckpoint baseline).checkpoint =
          world.native.checkpoint then world.baseline else baseline }
  | .state state => { world with native := { world.native with state := state } }
  | .otherWrite write =>
      { world with native := { world.native with store := write world.native.store } }

def run (world : DeltaWorld) (events : List DeltaEvent) : DeltaWorld :=
  events.foldl (step ownerId) world

def checkpoint (world : DeltaWorld) : Int := world.native.readLegacyDeltaCheckpoint

end DeltaWorld

/-! ### Numbered lists -/

def Increasing (changes : List LegacyDeltaChange) : Prop :=
  changes.Pairwise fun first second => first.changeSeq < second.changeSeq

def between (low high : Int) (changes : List LegacyDeltaChange) : List LegacyDeltaChange :=
  changes.filter fun c => low < c.changeSeq ∧ c.changeSeq ≤ high

theorem mem_between {low high : Int} {changes : List LegacyDeltaChange} {c : LegacyDeltaChange} :
    c ∈ between low high changes ↔ c ∈ changes ∧ low < c.changeSeq ∧ c.changeSeq ≤ high := by
  simp [between]

theorem between_empty (low : Int) (changes : List LegacyDeltaChange) :
    between low low changes = [] := by
  rw [List.eq_nil_iff_forall_not_mem]
  intro c member
  have bounds := (mem_between.mp member).2
  omega

theorem between_append {low middle high : Int} (lower : low ≤ middle) (upper : middle ≤ high)
    {changes : List LegacyDeltaChange} (increasing : Increasing changes) :
    between low high changes = between low middle changes ++ between middle high changes := by
  induction changes with
  | nil => rfl
  | cons c rest ih =>
      obtain ⟨above, increasing⟩ := List.pairwise_cons.mp increasing
      have ih := ih increasing
      simp only [between, List.filter_cons] at ih ⊢
      by_cases first : c.changeSeq ≤ middle
      · by_cases inside : low < c.changeSeq
        · rw [if_pos (by simpa using ⟨inside, by omega⟩), if_pos (by simpa using ⟨inside, first⟩),
            if_neg (by simp; omega), ih, List.cons_append]
        · rw [if_neg (by simp; omega), if_neg (by simp; omega), if_neg (by simp; omega), ih]
      · have none : between low middle rest = [] := by
          rw [List.eq_nil_iff_forall_not_mem]
          intro other member
          obtain ⟨listed, bounds⟩ := mem_between.mp member
          have later := above other listed
          omega
        simp only [between] at none
        rw [none, List.nil_append] at ih
        have outside : ¬ (low < c.changeSeq ∧ c.changeSeq ≤ middle) := by omega
        have same : (low < c.changeSeq ∧ c.changeSeq ≤ high) ↔
            (middle < c.changeSeq ∧ c.changeSeq ≤ high) := by omega
        simp only [outside, same, decide_false, Bool.false_eq_true, if_false, none,
          List.nil_append, ih]

theorem prefix_eq_between {after : Int} {changes page : List LegacyDeltaChange}
    (increasing : Increasing changes) {last : LegacyDeltaChange}
    (ends : page.getLast? = some last)
    (front : page <+: changes.filter fun c => after < c.changeSeq) :
    page = between after last.changeSeq changes := by
  obtain ⟨rest, split⟩ := front
  obtain ⟨before, rfl⟩ := List.getLast?_eq_some_iff.mp ends
  have sorted : Increasing (before ++ [last] ++ rest) := split ▸ increasing.filter _
  obtain ⟨inner, _, across⟩ := List.pairwise_append.mp sorted
  obtain ⟨_, _, below⟩ := List.pairwise_append.mp inner
  have whole : between after last.changeSeq changes =
      (changes.filter fun c => after < c.changeSeq).filter fun c => c.changeSeq ≤ last.changeSeq := by
    rw [between, List.filter_filter]
    refine List.filter_congr fun c _ => ?_
    rw [Bool.decide_and, Bool.and_comm]
  rw [whole, ← split, List.filter_append]
  have kept : (before ++ [last]).filter (fun c => c.changeSeq ≤ last.changeSeq) = before ++ [last] := by
    refine List.filter_eq_self.mpr fun c member => ?_
    rcases List.mem_append.mp member with earlier | here
    · have less := below c earlier last (List.mem_singleton_self last)
      simpa using Int.le_of_lt less
    · obtain rfl := List.mem_singleton.mp here
      simp
  have dropped : rest.filter (fun c => c.changeSeq ≤ last.changeSeq) = [] := by
    refine List.filter_eq_nil_iff.mpr fun c member => ?_
    have less := across last (by simp) c member
    simpa using less
  rw [kept, dropped, List.append_nil]

theorem Increasing.ext {first second : List LegacyDeltaChange} (left : Increasing first)
    (right : Increasing second) (same : ∀ c, c ∈ first ↔ c ∈ second) : first = second := by
  have nodup {changes : List LegacyDeltaChange} (increasing : Increasing changes) :
      changes.Nodup :=
    increasing.imp fun less equal => absurd (equal ▸ less) (Int.lt_irrefl _)
  have permuted := (List.perm_ext_iff_of_nodup (nodup left) (nodup right)).mpr same
  refine permuted.eq_of_pairwise ?_ left right
  intro a b _ _ less more
  exact absurd less (Int.lt_asymm more)

/-! ### One transaction -/

namespace NativeDelta

variable {native : NativeDelta}

theorem applyChanges_done {failsAt : Option Nat} {changes : List LegacyDeltaChange}
    {written : NativeDelta} (done : native.applyChanges failsAt changes = (true, written)) :
    ∃ store, changes.foldlM (fun (store : MessageStore) c => store.applyChange c.change)
        native.store = some store ∧
      written = { native with store := store, applied := native.applied ++ changes } := by
  induction changes generalizing native failsAt with
  | nil =>
      obtain rfl := (Prod.mk.inj done).2
      exact ⟨native.store, rfl, by simp⟩
  | cons c rest ih =>
      rw [applyChanges] at done
      split at done
      · exact nomatch done
      · split at done
        · exact nomatch done
        · rename_i next taken
          obtain ⟨store, folded, rfl⟩ := ih done
          exact ⟨store, by rw [List.foldlM_cons, taken]; exact folded, by simp⟩

inductive Submits (native : NativeDelta) (expectedAfter : Int) (changes : List LegacyDeltaChange) :
    Option Int × NativeDelta → Prop
  | failed : Submits native expectedAfter changes (none, native)
  | known : Submits native expectedAfter changes (some native.readLegacyDeltaCheckpoint, native)
  | applied (last : LegacyDeltaChange) (store : MessageStore)
      (ends : changes.getLast? = some last)
      (expected : native.readLegacyDeltaCheckpoint = expectedAfter)
      (later : expectedAfter < last.changeSeq)
      (folded : changes.foldlM (fun (store : MessageStore) c => store.applyChange c.change)
        native.store = some store) :
      Submits native expectedAfter changes (some last.changeSeq, { native with
        store := store
        applied := native.applied ++ changes
        checkpoint := some last.changeSeq })

theorem validBatch_last {prev : Int} {changes : List LegacyDeltaChange} {last : LegacyDeltaChange}
    (valid : MessageStore.validBatch prev changes = true) (ends : changes.getLast? = some last) :
    prev < last.changeSeq := by
  induction changes generalizing prev with
  | nil => exact nomatch ends
  | cons c rest ih =>
      simp only [MessageStore.validBatch, Bool.and_eq_true, decide_eq_true_eq] at valid
      obtain ⟨⟨above, _⟩, valid⟩ := valid
      cases rest with
      | nil =>
          obtain rfl := Option.some.inj ends
          exact above
      | cons next rest =>
          rw [List.getLast?_cons_cons] at ends
          exact Int.lt_trans above (ih valid ends)

theorem batch_submits {faults : BatchFaults} {expectedAfter checkpoint : Int}
    {changes : List LegacyDeltaChange} {written : NativeDelta}
    (done : native.applyLegacyDeltaBatch faults expectedAfter changes = (some checkpoint, written)) :
    Submits native expectedAfter changes (some checkpoint, written) := by
  unfold applyLegacyDeltaBatch at done
  simp only at done
  split at done
  · split at done
    · obtain ⟨same, rfl⟩ := Prod.mk.inj done
      obtain rfl := Option.some.inj same
      exact .known
    · exact nomatch (Prod.mk.inj done).1
  · rename_i last ends
    split at done
    · exact nomatch done
    · rename_i valid
      rw [Bool.not_eq_true', Bool.not_eq_false] at valid
      split at done
      · obtain ⟨same, rfl⟩ := Prod.mk.inj done
        obtain rfl := Option.some.inj same
        exact .known
      · split at done
        · exact nomatch done
        · rename_i expected
          split at done
          · exact nomatch done
          · rename_i works
            simp only [Bool.or_eq_true, Bool.not_eq_true', not_or, Bool.not_eq_false] at works
            obtain ⟨store, folded, same⟩ := applyChanges_done (Prod.ext works.1 rfl)
            obtain ⟨number, rfl⟩ := Prod.mk.inj done
            obtain rfl := Option.some.inj number
            simp only [same]
            exact .applied last store ends (not_not.mp expected) (validBatch_last valid ends) folded

theorem submit_submits (faults : BatchFaults) (expectedAfter : Int)
    (changes : List LegacyDeltaChange) : Submits native expectedAfter changes
      (native.submitLegacyDeltaBatch faults expectedAfter changes) := by
  unfold submitLegacyDeltaBatch
  obtain failed | ⟨written, returned, ended⟩ := JournaledDb.runTransaction_cases faults.works native
    fun _ => .returned (if native.state ≠ .shadowImport then (none, native)
      else native.applyLegacyDeltaBatch faults expectedAfter changes).1.isSome
      (if native.state ≠ .shadowImport then (none, native)
        else native.applyLegacyDeltaBatch faults expectedAfter changes).2
  · simp only [failed]
    exact .failed
  · simp only [ended]
    split at returned
    · exact nomatch returned
    · rename_i shadow
      rw [if_neg shadow]
      injection returned with some same
      subst same
      obtain ⟨checkpoint, known⟩ := Option.isSome_iff_exists.mp some
      rw [known]
      exact batch_submits (Prod.ext known rfl)

end NativeDelta

/-! ### What a thread knows -/

/-- The checkpoint that a thread has seen, the page that it has read, and whether that was empty
behind this checkpoint. -/
structure DeltaKnown where
  checkpoint : Option Int := none
  page : Option (Int × List LegacyDeltaChange) := none
  caught : Bool := false

def DeltaKnown.reaches (known : DeltaKnown) (number : Int) : Bool :=
  known.checkpoint.any (number ≤ ·)

def DeltaKnown.learn (known : DeltaKnown) : (op : DeltaOp) → op.Reply → DeltaKnown
  | .getLegacyDeltaCheckpoint, (reply : Option Int) => { known with checkpoint := reply }
  | .nextChanges after _, (reply : Option ChangePage) =>
      { known with
        page := reply.map fun page => (after, page.changes)
        caught := known.reaches after && reply.any fun page => page.changes = [] }
  | .submitLegacyDeltaBatch _ _, (reply : DeltaResponse) =>
      match reply with
      | .ok checkpoint => { known with checkpoint := some checkpoint }
      | _ => known
  | .deleteThrough _, _ => known

def deltaMonitor : Monitor DeltaOp.Reply DeltaKnown where
  learn := DeltaKnown.learn
  allows known
    | .getLegacyDeltaCheckpoint => True
    | .nextChanges _ _ => True
    | .submitLegacyDeltaBatch expectedAfter changes => known.page = some (expectedAfter, changes)
    | .deleteThrough checkpoint => known.reaches checkpoint = true

def DeltaCall.ends (call : DeltaCall) (known : DeltaKnown) (result : DeltaResult) : Prop :=
  call.recovers = true → result = .caughtUp → known.caught = true

theorem fromCheckpoint_obeys (call : DeltaCall) (limit recovered : Int) (known : DeltaKnown)
    (reached : call.recovers = true → known.reaches recovered = true) :
    (LegacyDeltaApplier.fromCheckpoint limit recovered).Obeys deltaMonitor call.ends known := by
  refine ⟨trivial, ?_⟩
  rintro (_ | page)
  · exact nofun
  simp only [LegacyDeltaApplier.afterPage]
  split
  · exact nofun
  split
  · rename_i empty
    rw [List.getLast?_eq_none_iff] at empty
    split
    · intro recovers _
      simp [deltaMonitor, DeltaKnown.learn, reached recovers, empty]
    · exact nofun
  · rename_i last _
    refine ⟨rfl, ?_⟩
    rintro (checkpoint | text | text)
    · simp only
      split
      · exact nofun
      · refine ⟨?_, fun _ => nofun⟩
        simp [deltaMonitor, DeltaKnown.learn, DeltaKnown.reaches]
    · exact nofun
    · exact nofun

theorem catchUpRounds_obeys (rounds : Nat) (known : DeltaKnown) :
    (catchUpRounds rounds).Obeys deltaMonitor DeltaCall.catchUp.ends known := by
  induction rounds generalizing known with
  | zero => exact nofun
  | succ rounds ih =>
      refine ⟨trivial, ?_⟩
      rintro (_ | checkpoint)
      · exact nofun
      refine ⟨trivial, ?_⟩
      rintro (_ | page)
      · exact nofun
      simp only
      split
      · rename_i empty
        split
        · intro _ _
          simp [deltaMonitor, DeltaKnown.learn, DeltaKnown.reaches, empty]
        · exact nofun
      · refine ⟨rfl, ?_⟩
        rintro (committed | text | text)
        · refine ⟨?_, fun _ => ih _⟩
          simp [deltaMonitor, DeltaKnown.learn, DeltaKnown.reaches]
        · exact nofun
        · exact nofun

theorem call_obeys (call : DeltaCall) (known : DeltaKnown) :
    call.program.Obeys deltaMonitor call.ends known := by
  cases call with
  | catchUp => exact catchUpRounds_obeys 10000 known
  | applyNextPage expectedAfter limit =>
      cases expectedAfter with
      | some recovered => exact fromCheckpoint_obeys _ limit recovered known nofun
      | none =>
          refine ⟨trivial, ?_⟩
          rintro (_ | recovered)
          · exact nofun
          · refine fromCheckpoint_obeys _ limit recovered _ fun _ => ?_
            simp [deltaMonitor, DeltaKnown.learn, DeltaKnown.reaches]

/-! ### The log -/

namespace ChangeLog

variable {log : ChangeLog} {ownerId : Int}

theorem mem_changesOf {c : LegacyDeltaChange} :
    c ∈ log.changesOf ownerId ↔ ⟨ownerId, c⟩ ∈ log.rows := by
  simp only [changesOf, List.mem_map, List.mem_filter, decide_eq_true_eq]
  constructor
  · rintro ⟨⟨_, entry⟩, ⟨member, rfl⟩, rfl⟩
    exact member
  · intro member
    exact ⟨⟨ownerId, c⟩, ⟨member, rfl⟩, rfl⟩

theorem changesOf_increasing : Increasing (log.changesOf ownerId) :=
  List.pairwise_map.mpr (log.increasing.filter _)

theorem mem_changesOf_append {owner : Int} {change : LegacyChange} {c : LegacyDeltaChange} :
    c ∈ (log.append owner change).changesOf ownerId ↔
      c ∈ log.changesOf ownerId ∨ owner = ownerId ∧ c = ⟨log.lastSeq + 1, change⟩ := by
  rw [mem_changesOf, mem_changesOf, append, List.mem_append, List.mem_singleton,
    LoggedChange.mk.injEq, @eq_comm _ ownerId]

theorem mem_changesOf_deleteThrough {through : Int} {c : LegacyDeltaChange} :
    c ∈ (log.deleteThrough ownerId through).changesOf ownerId ↔
      c ∈ log.changesOf ownerId ∧ through < c.changeSeq := by
  rw [mem_changesOf, mem_changesOf, deleteThrough, List.mem_filter]
  simp

end ChangeLog

namespace DeltaWorld

variable {ownerId : Int} {world after : DeltaWorld}

def Page (world : DeltaWorld) (expectedAfter : Int) (changes : List LegacyDeltaChange) : Prop :=
  world.checkpoint ≤ expectedAfter →
    changes <+: world.history.filter fun c => expectedAfter < c.changeSeq

structure Knows (world : DeltaWorld) (seen : Nat) (known : DeltaKnown) : Prop where
  checkpoint : ∀ number, known.reaches number = true → number ≤ world.checkpoint
  page : ∀ batch, known.page = some batch → world.Page batch.1 batch.2
  within : seen ≤ world.history.length
  caught : known.caught = true → ∀ c ∈ world.history.take seen, c.changeSeq ≤ world.checkpoint

def Honest (world : DeltaWorld) (thread : DeltaThread) : Prop :=
  ∃ known, thread.program.Obeys deltaMonitor thread.call.ends known ∧
    world.Knows thread.seen known

structure Sound (ownerId : Int) (world : DeltaWorld) : Prop where
  logged : ∀ c ∈ world.log.changesOf ownerId, c ∈ world.history
  kept : ∀ c ∈ world.history, world.checkpoint < c.changeSeq → c ∈ world.log.changesOf ownerId
  increasing : Increasing world.history
  bounded : ∀ c ∈ world.history, c.changeSeq ≤ world.log.lastSeq
  applied : world.native.applied = between world.baseline world.checkpoint world.history
  above : world.baseline ≤ world.checkpoint
  reached : world.checkpoint = world.baseline ∨ world.checkpoint ≤ world.log.lastSeq
  unseeded : world.native.checkpoint = none → world.baseline = 0
  late : ∀ batch ∈ world.late, world.Page batch.1 batch.2
  threads : ∀ thread ∈ world.threads, world.Honest thread

structure Grows (before after : DeltaWorld) : Prop where
  history : before.history <+: after.history
  checkpoint : before.checkpoint ≤ after.checkpoint

theorem Grows.refl (world : DeltaWorld) : Grows world world :=
  ⟨List.prefix_refl _, Int.le_refl _⟩

theorem Grows.page (grows : Grows world after) {expectedAfter : Int}
    {changes : List LegacyDeltaChange} (page : world.Page expectedAfter changes) :
    after.Page expectedAfter changes := fun reached =>
  (page (Int.le_trans grows.checkpoint reached)).trans (grows.history.filter _)

theorem Grows.knows (grows : Grows world after) {seen : Nat} {known : DeltaKnown}
    (knows : world.Knows seen known) : after.Knows seen known where
  checkpoint number reached := Int.le_trans (knows.checkpoint number reached) grows.checkpoint
  page batch known := grows.page (knows.page batch known)
  within := Nat.le_trans knows.within grows.history.length_le
  caught caught c member := by
    refine Int.le_trans (knows.caught caught c ?_) grows.checkpoint
    obtain ⟨rest, same⟩ := grows.history
    rwa [← same, List.take_append_of_le_length knows.within] at member

theorem Grows.honest (grows : Grows world after) {thread : DeltaThread}
    (honest : world.Honest thread) : after.Honest thread := by
  obtain ⟨known, obeys, knows⟩ := honest
  exact ⟨known, obeys, grows.knows knows⟩

theorem Sound.page_read (sound : Sound ownerId world) {number limit : Int} {page : ChangePage}
    (read : world.log.nextChanges ownerId number limit = some page) :
    world.Page number page.changes ∧ (page.changes = [] → number ≤ world.checkpoint →
      ∀ c ∈ world.history, c.changeSeq ≤ world.checkpoint) := by
  unfold ChangeLog.nextChanges at read
  split at read
  · rename_i asked
    obtain rfl := Option.some.inj read
    constructor
    · intro reached
      have same : (world.log.changesOf ownerId).filter (fun c => number < c.changeSeq) =
          world.history.filter fun c => number < c.changeSeq := by
        refine Increasing.ext (ChangeLog.changesOf_increasing.filter _)
          (sound.increasing.filter _) ?_
        intro c
        simp only [List.mem_filter, decide_eq_true_eq]
        constructor
        · rintro ⟨member, later⟩
          exact ⟨sound.logged c member, later⟩
        · rintro ⟨member, later⟩
          exact ⟨sound.kept c member (Int.lt_of_le_of_lt reached later), later⟩
      simp only [same]
      exact List.take_prefix _ _
    · intro empty behind c member
      by_contra later
      have pending : c ∈ (world.log.changesOf ownerId).filter fun c => number < c.changeSeq :=
        List.mem_filter.mpr ⟨sound.kept c member (Int.not_le.mp later), by simpa using by omega⟩
      rcases List.take_eq_nil_iff.mp empty with none | none
      · omega
      · rw [none] at pending
        exact absurd pending List.not_mem_nil
  · exact nomatch read

theorem Sound.frame (sound : Sound ownerId world) (grows : Grows world after)
    (log : after.log = world.log) (history : after.history = world.history)
    (native : after.native.checkpoint = world.native.checkpoint)
    (applied : after.native.applied = world.native.applied)
    (baseline : after.baseline = world.baseline)
    (late : ∀ batch ∈ after.late, batch ∈ world.late ∨ world.Page batch.1 batch.2)
    (threads : ∀ thread ∈ after.threads, thread ∈ world.threads ∨ after.Honest thread) :
    Sound ownerId after := by
  have checkpoint : after.checkpoint = world.checkpoint := by
    rw [DeltaWorld.checkpoint, NativeDelta.readLegacyDeltaCheckpoint, native]
    rfl
  refine { logged := ?_, kept := ?_, increasing := ?_, bounded := ?_, applied := ?_, above := ?_,
           reached := ?_, unseeded := ?_, late := ?_, threads := ?_ }
  · rw [log, history]
    exact sound.logged
  · rw [log, history, checkpoint]
    exact sound.kept
  · rw [history]
    exact sound.increasing
  · rw [log, history]
    exact sound.bounded
  · rw [applied, baseline, checkpoint, history]
    exact sound.applied
  · rw [baseline, checkpoint]
    exact sound.above
  · rw [baseline, checkpoint, log]
    exact sound.reached
  · rw [native, baseline]
    exact sound.unseeded
  · intro batch member
    rcases late batch member with known | page
    · exact grows.page (sound.late batch known)
    · exact grows.page page
  · intro thread member
    rcases threads thread member with known | honest
    · exact grows.honest (sound.threads thread known)
    · exact honest

theorem Sound.commit (sound : Sound ownerId world) (faults : BatchFaults) {expectedAfter : Int}
    {changes : List LegacyDeltaChange} (page : world.Page expectedAfter changes) :
    Sound ownerId (world.commit faults expectedAfter changes).2 ∧
      Grows world (world.commit faults expectedAfter changes).2 ∧
      ∀ checkpoint, (world.commit faults expectedAfter changes).1 = some checkpoint →
        checkpoint ≤ (world.commit faults expectedAfter changes).2.checkpoint := by
  have submits := @NativeDelta.submit_submits world.native faults expectedAfter changes
  unfold DeltaWorld.commit
  generalize world.native.submitLegacyDeltaBatch faults expectedAfter changes = submitted at submits ⊢
  cases submits with
  | failed => exact ⟨sound, .refl world, nofun⟩
  | known =>
      refine ⟨sound, .refl world, ?_⟩
      rintro checkpoint same
      exact Int.le_of_eq (Option.some.inj same).symm
  | applied last store ends expected later folded =>
      have checkpoint : world.checkpoint = expectedAfter := expected
      have front := page (Int.le_of_eq checkpoint)
      have whole := prefix_eq_between sound.increasing ends front
      have grows : Grows world { world with native := { world.native with
          store := store
          applied := world.native.applied ++ changes
          checkpoint := some last.changeSeq } } :=
        ⟨List.prefix_refl _, by
          rw [checkpoint]
          exact Int.le_of_lt later⟩
      refine ⟨?_, grows, ?_⟩
      · exact {
          logged := sound.logged
          kept := fun c member behind => sound.kept c member
            (Int.lt_of_le_of_lt grows.checkpoint behind)
          increasing := sound.increasing
          bounded := sound.bounded
          applied := by
            change world.native.applied ++ changes = between world.baseline last.changeSeq _
            rw [sound.applied, whole, checkpoint]
            exact (between_append (checkpoint ▸ sound.above) (Int.le_of_lt later)
              sound.increasing).symm
          above := Int.le_trans sound.above grows.checkpoint
          reached := .inr (sound.bounded last
            (List.mem_of_mem_filter (front.subset (List.mem_of_getLast? ends))))
          unseeded := nofun
          late := fun batch member => grows.page (sound.late batch member)
          threads := fun thread member => grows.honest (sound.threads thread member) }
      · rintro number same
        exact Int.le_of_eq (Option.some.inj same).symm

theorem Sound.answer (sound : Sound ownerId world) (luck : DeltaLuck) {seen : Nat}
    {known : DeltaKnown} (knows : world.Knows seen known) (op : DeltaOp)
    (allowed : deltaMonitor.allows known op) :
    Sound ownerId (world.answer ownerId luck op).2 ∧ Grows world (world.answer ownerId luck op).2 ∧
      (world.answer ownerId luck op).2.Knows (world.seenAfter seen op)
        (known.learn op (world.answer ownerId luck op).1) := by
  cases op with
  | getLegacyDeltaCheckpoint =>
      refine ⟨sound, .refl world, { knows with checkpoint := ?_ }⟩
      intro number reached
      change Option.any (fun found => decide (number ≤ found))
        (if luck.readable then some world.checkpoint else none) = true at reached
      split at reached
      · exact of_decide_eq_true reached
      · exact nomatch reached
  | nextChanges number limit =>
      refine ⟨sound, .refl world, ?_⟩
      simp only [DeltaWorld.answer, DeltaKnown.learn, seenAfter]
      cases read : world.log.nextChanges ownerId number limit with
      | none => exact ⟨knows.checkpoint, nofun, Nat.le_refl _, by simp⟩
      | some page =>
          obtain ⟨front, caught⟩ := sound.page_read read
          refine ⟨knows.checkpoint, ?_, Nat.le_refl _, ?_⟩
          · rintro _ ⟨⟩
            exact front
          · simp only [Option.any_some, Bool.and_eq_true, decide_eq_true_eq, List.take_length]
            rintro ⟨reached, empty⟩
            exact caught empty (knows.checkpoint number reached)
  | submitLegacyDeltaBatch expectedAfter changes =>
      have page := knows.page _ allowed
      cases kind : luck.submission with
      | refused =>
          simp only [DeltaWorld.answer, kind]
          exact ⟨sound, .refl world, knows⟩
      | timesOut =>
          simp only [DeltaWorld.answer, kind]
          refine ⟨sound.frame ⟨List.prefix_refl _, Int.le_refl _⟩ rfl rfl rfl rfl rfl ?_
            (fun thread => .inl), ⟨List.prefix_refl _, Int.le_refl _⟩,
            ⟨knows.checkpoint, knows.page, knows.within, knows.caught⟩⟩
          intro batch member
          rcases List.mem_append.mp member with old | fresh
          · exact .inl old
          · obtain rfl := List.mem_singleton.mp fresh
            exact .inr page
      | runs =>
          obtain ⟨kept, grows, answered⟩ := sound.commit luck.faults page
          simp only [DeltaWorld.answer, kind]
          generalize world.commit luck.faults expectedAfter changes = committed at kept grows answered ⊢
          obtain ⟨_ | checkpoint, after⟩ := committed
          · exact ⟨kept, grows, grows.knows knows⟩
          · refine ⟨kept, grows, { grows.knows knows with checkpoint := ?_ }⟩
            intro number reached
            exact Int.le_trans (of_decide_eq_true reached) (answered checkpoint rfl)
  | deleteThrough checkpoint =>
      have reached := knows.checkpoint checkpoint allowed
      have grows : Grows world (world.answer ownerId luck (.deleteThrough checkpoint)).2 :=
        ⟨List.prefix_refl _, Int.le_refl _⟩
      refine ⟨?_, grows, grows.knows knows⟩
      exact {
        logged := fun c member =>
          sound.logged c (ChangeLog.mem_changesOf_deleteThrough.mp member).1
        kept := fun c member behind => ChangeLog.mem_changesOf_deleteThrough.mpr
          ⟨sound.kept c member behind, Int.lt_of_le_of_lt reached behind⟩
        increasing := sound.increasing
        bounded := sound.bounded
        applied := sound.applied
        above := sound.above
        reached := sound.reached
        unseeded := sound.unseeded
        late := sound.late
        threads := fun thread member => grows.honest (sound.threads thread member) }

theorem Sound.advance (sound : Sound ownerId world) (index : Nat) (luck : DeltaLuck) :
    Sound ownerId (world.advance ownerId index luck) ∧
      Grows world (world.advance ownerId index luck) := by
  unfold DeltaWorld.advance
  split
  · rename_i call op next seen found
    obtain ⟨known, ⟨allowed, obeys⟩, knows⟩ := sound.threads _ (List.mem_of_getElem? found)
    obtain ⟨kept, grows, learns⟩ := sound.answer luck knows op allowed
    refine ⟨kept.frame ⟨List.prefix_refl _, Int.le_refl _⟩ rfl rfl rfl rfl rfl
      (fun batch => .inl) ?_, grows.history, grows.checkpoint⟩
    intro thread member
    rcases List.mem_or_eq_of_mem_set member with old | rfl
    · exact .inl old
    · exact .inr ⟨_, obeys _, learns.checkpoint, learns.page, learns.within, learns.caught⟩
  · exact ⟨sound, .refl world⟩

theorem Sound.logged_step (sound : Sound ownerId world) (owner : Int) (change : LegacyChange) :
    Sound ownerId (world.step ownerId (.logged owner change)) ∧
      Grows world (world.step ownerId (.logged owner change)) := by
  have grows : Grows world (world.step ownerId (.logged owner change)) := by
    refine ⟨?_, Int.le_refl _⟩
    simp only [DeltaWorld.step]
    split
    · exact List.prefix_append _ _
    · exact List.prefix_refl _
  have wider : world.log.lastSeq < (world.log.append owner change).lastSeq :=
    Int.lt_succ world.log.lastSeq
  have mine (c : LegacyDeltaChange) : c ∈ (world.step ownerId (.logged owner change)).history ↔
      c ∈ world.history ∨ owner = ownerId ∧ c = ⟨world.log.lastSeq + 1, change⟩ := by
    simp only [DeltaWorld.step]
    split
    · rename_i same
      simp [same]
    · rename_i other
      simp [other]
  refine ⟨?_, grows⟩
  exact {
    logged := fun c member => (mine c).mpr <|
      (ChangeLog.mem_changesOf_append.mp member).imp_left (sound.logged c)
    kept := fun c member behind => ChangeLog.mem_changesOf_append.mpr <|
      ((mine c).mp member).imp_left fun old => sound.kept c old behind
    increasing := by
      simp only [DeltaWorld.step]
      split
      · refine List.pairwise_append.mpr ⟨sound.increasing, List.pairwise_singleton .., ?_⟩
        intro c member fresh here
        obtain rfl := List.mem_singleton.mp here
        exact Int.lt_of_le_of_lt (sound.bounded c member) wider
      · exact sound.increasing
    bounded := by
      intro c member
      rcases (mine c).mp member with old | ⟨_, rfl⟩
      · exact Int.le_trans (sound.bounded c old) (Int.le_of_lt wider)
      · exact Int.le_refl _
    applied := by
      have outside : ¬ (world.baseline < world.log.lastSeq + 1 ∧
          world.log.lastSeq + 1 ≤ world.checkpoint) := by
        rcases sound.reached with same | below <;> omega
      change world.native.applied = between world.baseline world.checkpoint _
      rw [sound.applied]
      simp only [DeltaWorld.step]
      split
      · rw [between, between, List.filter_append, List.filter_cons_of_neg (by simpa using outside),
          List.filter_nil, List.append_nil]
      · rfl
    above := sound.above
    reached := sound.reached.imp_right fun below => Int.le_trans below (Int.le_of_lt wider)
    unseeded := sound.unseeded
    late := fun batch member => grows.page (sound.late batch member)
    threads := fun thread member => grows.honest (sound.threads thread member) }

theorem Sound.seed_step (sound : Sound ownerId world) (baseline : Int) :
    Sound ownerId (world.step ownerId (.seed baseline)) ∧
      Grows world (world.step ownerId (.seed baseline)) := by
  by_cases refused : world.native.state ≠ .shadowImport ∨ baseline < 0 ∨
      world.native.checkpoint.isSome = true
  · have same : world.step ownerId (.seed baseline) = world := by
      simp [DeltaWorld.step, NativeDelta.seedLegacyDeltaCheckpoint, refused]
    rw [same]
    exact ⟨sound, .refl world⟩
  · obtain ⟨_, positive, unseeded⟩ : _ ∧ 0 ≤ baseline ∧ world.native.checkpoint = none := by
      simpa using refused
    have seeded : world.native.seedLegacyDeltaCheckpoint baseline =
        { world.native with checkpoint := some baseline } := if_neg refused
    have next : world.step ownerId (.seed baseline) = { world with
        native := { world.native with checkpoint := some baseline }
        baseline := baseline } := by
      simp [DeltaWorld.step, seeded, unseeded]
    have zero : world.checkpoint = 0 := by
      rw [DeltaWorld.checkpoint, NativeDelta.readLegacyDeltaCheckpoint, unseeded]
      rfl
    have grows : Grows world (world.step ownerId (.seed baseline)) := by
      rw [next]
      exact ⟨List.prefix_refl _, by rw [zero]; exact positive⟩
    refine ⟨?_, grows⟩
    rw [next] at grows ⊢
    exact {
      logged := sound.logged
      kept := fun c member behind => sound.kept c member
        (Int.lt_of_le_of_lt grows.checkpoint behind)
      increasing := sound.increasing
      bounded := sound.bounded
      applied := by
        change world.native.applied = between baseline baseline world.history
        rw [sound.applied, zero, sound.unseeded unseeded, between_empty, between_empty]
      above := Int.le_refl _
      reached := .inl rfl
      unseeded := nofun
      late := fun batch member => grows.page (sound.late batch member)
      threads := fun thread member => grows.honest (sound.threads thread member) }

theorem Sound.step (sound : Sound ownerId world) (event : DeltaEvent) :
    Sound ownerId (world.step ownerId event) ∧ Grows world (world.step ownerId event) := by
  have still (after : DeltaWorld) (history : after.history = world.history)
      (checkpoint : after.checkpoint = world.checkpoint) : Grows world after :=
    ⟨by rw [history], by rw [checkpoint]⟩
  cases event with
  | logged owner change => exact sound.logged_step owner change
  | start call =>
      have grows := still (world.step ownerId (.start call)) rfl rfl
      refine ⟨sound.frame grows rfl rfl rfl rfl rfl (fun batch => .inl) ?_, grows⟩
      intro thread member
      rcases List.mem_append.mp member with old | fresh
      · exact .inl old
      · obtain rfl := List.mem_singleton.mp fresh
        exact .inr ⟨{}, call_obeys call {}, nofun, nofun, Nat.zero_le _, nofun⟩
  | advance index luck => exact sound.advance index luck
  | land index faults =>
      simp only [DeltaWorld.step]
      split
      · rename_i expectedAfter changes found
        have grows := still { world with late := world.late.eraseIdx index } rfl rfl
        have waiting : Sound ownerId { world with late := world.late.eraseIdx index } :=
          sound.frame grows rfl rfl rfl rfl rfl
            (fun batch member => .inl (List.mem_of_mem_eraseIdx member)) fun thread => .inl
        obtain ⟨kept, onward, _⟩ := waiting.commit faults
          (grows.page (sound.late _ (List.mem_of_getElem? found)))
        exact ⟨kept, onward.history, onward.checkpoint⟩
      · exact ⟨sound, .refl world⟩
  | seed baseline => exact sound.seed_step baseline
  | state state =>
      have grows := still (world.step ownerId (.state state)) rfl rfl
      exact ⟨sound.frame grows rfl rfl rfl rfl rfl (fun batch => .inl) fun thread => .inl, grows⟩
  | otherWrite write =>
      have grows := still (world.step ownerId (.otherWrite write)) rfl rfl
      exact ⟨sound.frame grows rfl rfl rfl rfl rfl (fun batch => .inl) fun thread => .inl, grows⟩

theorem opened_sound (log : ChangeLog) (native : NativeDelta) :
    Sound ownerId (opened ownerId log native) where
  logged _ member := member
  kept _ member _ := member
  increasing := ChangeLog.changesOf_increasing
  bounded c member := log.bounded ⟨ownerId, c⟩ (ChangeLog.mem_changesOf.mp member)
  applied := (between_empty _ _).symm
  above := Int.le_refl _
  reached := .inl rfl
  unseeded absent := by
    change native.checkpoint = none at absent
    change native.checkpoint.getD 0 = 0
    rw [absent]
    rfl
  late := nofun
  threads := nofun

theorem run_sound (log : ChangeLog) (native : NativeDelta) (events : List DeltaEvent) :
    Sound ownerId ((opened ownerId log native).run ownerId events) :=
  List.foldlRecOn events _ (opened_sound log native) fun _ sound event _ => (sound.step event).1

/-! ### Exactly once -/

def TakesNone (event : DeltaEvent) (before after : NativeDelta) : Prop :=
  after.applied = before.applied ∧
    (after.store = before.store ∨ ∃ write, event = .otherWrite write) ∧
    (after.checkpoint = before.checkpoint ∨ ∃ baseline, event = .seed baseline)

theorem TakesNone.same {event : DeltaEvent} {before after : NativeDelta} (same : after = before) :
    TakesNone event before after :=
  ⟨by rw [same], .inl (by rw [same]), .inl (by rw [same])⟩

theorem Sound.taken (sound : Sound ownerId world) {c : LegacyDeltaChange} (member : c ∈ world.history)
    (later : world.baseline < c.changeSeq) (reached : c.changeSeq ≤ world.checkpoint) :
    c ∈ world.native.applied := by
  rw [sound.applied]
  exact mem_between.mpr ⟨member, later, reached⟩

end DeltaWorld

end Jitong
