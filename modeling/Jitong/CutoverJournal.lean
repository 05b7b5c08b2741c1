import Jitong.DbCommandQueue
import Jitong.TokenManager

/-!
The journal of the cutover in the native database of one account, the gate that every business
transaction passes, and the transactions of the writer.
-/

namespace Jitong

open Lib

inductive CutoverJournalState
  | legacyActive | prepared | nativeCommittedNoWrite | nativeCommittedDirty
  deriving DecidableEq

def CutoverJournalState.toInt : CutoverJournalState → Int
  | .legacyActive => 0
  | .prepared => 1
  | .nativeCommittedNoWrite => 2
  | .nativeCommittedDirty => 3

structure JournalRow where
  epoch : Int
  state : CutoverJournalState
  highWater : Int
  schemaVersion : Int
  keyId : Bytes
  summary : Bytes
  dirty : Bool
  updatedAt : Int
  deriving DecidableEq

structure JournaledDb (Business : Type) where
  journal : List JournalRow := []
  business : Business

def latest (journal : List JournalRow) : Option JournalRow :=
  journal.find? fun row => journal.all fun other => other.epoch ≤ row.epoch

/-- `INSERT INTO cutover_journal ... ON CONFLICT(epoch) DO UPDATE SET` every column -/
def writeJournal (journal : List JournalRow) (row : JournalRow) : List JournalRow :=
  if journal.any (·.epoch = row.epoch) then
    journal.map fun known => if known.epoch = row.epoch then row else known
  else journal ++ [row]

/-- Whether the `BEGIN` and the `COMMIT` of a transaction work. -/
structure TransactionWorks where
  begins : Bool := true
  commits : Bool := true
  deriving DecidableEq

def runTransaction {Db : Type} (works : TransactionWorks) (db : Db) (fn : Db → WriteOutcome Db) :
    CommandResult × Db :=
  if !works.begins then (.sqlFailed, db)
  else
    match fn db with
    | .returned true written => if works.commits then (.ok, written) else (.sqlFailed, db)
    | .returned false _ => (.sqlFailed, db)
    | .threw _ => (.sqlFailed, db)

namespace JournaledDb

variable {Business : Type}

def runBusiness (db : JournaledDb Business) (journal : List JournalRow)
    (fn : Business → WriteOutcome Business) : WriteOutcome (JournaledDb Business) :=
  match fn db.business with
  | .returned ok written => .returned ok { journal := journal, business := written }
  | .threw written => .threw { journal := journal, business := written }

/-- `UPDATE cutover_journal SET state=3,dirty=1,updated_at=MAX(updated_at+1,...) WHERE epoch=? AND
state=2` -/
def markDirty (journal : List JournalRow) (epoch now : Int) : List JournalRow :=
  journal.map fun row =>
    if row.epoch = epoch ∧ row.state = .nativeCommittedNoWrite then
      { row with
        state := .nativeCommittedDirty
        dirty := true
        updatedAt := max (row.updatedAt + 1) now }
    else row

def businessHook (now : Int) (fn : Business → WriteOutcome Business) (db : JournaledDb Business) :
    WriteOutcome (JournaledDb Business) :=
  match latest db.journal with
  | none => db.runBusiness db.journal fn
  | some row =>
      match row.state with
      | .legacyActive => .returned false db
      | .prepared => .returned false db
      | .nativeCommittedNoWrite => db.runBusiness (markDirty db.journal row.epoch now) fn
      | .nativeCommittedDirty => db.runBusiness db.journal fn

/-- `submitBusinessSync`; a command without a function fails before the queue. -/
def submitBusinessSync (db : JournaledDb Business) (works : TransactionWorks) (now : Int)
    (fn : Option (Business → WriteOutcome Business)) : CommandResult × JournaledDb Business :=
  match fn with
  | none => (.sqlFailed, db)
  | some fn => runTransaction works db (businessHook now fn)

end JournaledDb

structure JournalAdvance where
  ownerId : Int
  epoch : Int
  expectedState : Int
  target : CutoverJournalState
  highWater : Int
  schemaVersion : Int
  keyId : Bytes
  summary : Bytes
  updatedAt : Int
  deriving DecidableEq

namespace JournalAdvance

def valid (dbOwnerId : Int) (call : JournalAdvance) : Bool :=
  0 < call.ownerId && call.ownerId = dbOwnerId && 0 < call.epoch && 0 ≤ call.highWater &&
    0 < call.schemaVersion && call.keyId ≠ [] && 0 < call.updatedAt

def row (call : JournalAdvance) : JournalRow where
  epoch := call.epoch
  state := call.target
  highWater := call.highWater
  schemaVersion := call.schemaVersion
  keyId := (cstr call.keyId).bytes
  summary := (cstr call.summary).bytes
  dirty := call.target = .nativeCommittedDirty
  updatedAt := call.updatedAt

def current (known : Option JournalRow) : Int := (known.map (·.state.toInt)).getD (-1)

def permitted (known : Option JournalRow) (call : JournalAdvance) : Bool :=
  current known = call.expectedState && known.all (fun row => row.epoch = call.epoch) &&
    (current known = -1 && call.target.toInt = 0 || call.target.toInt = current known ||
      call.target.toInt = current known + 1)

def agrees (known : Option JournalRow) (call : JournalAdvance) : Bool :=
  known.all fun row => row.state ≠ call.target || row.highWater = call.highWater &&
    row.schemaVersion = call.schemaVersion && row.keyId = call.keyId && row.summary = call.summary

end JournalAdvance

namespace JournaledDb

variable {Business : Type}

def advance (call : JournalAdvance) (db : JournaledDb Business) :
    WriteOutcome (JournaledDb Business) :=
  if call.permitted (latest db.journal) && call.agrees (latest db.journal) then
    .returned true { db with journal := writeJournal db.journal call.row }
  else .returned false db

def advanceCutoverJournal (dbOwnerId : Int) (db : JournaledDb Business) (works : TransactionWorks)
    (call : JournalAdvance) : CommandResult × JournaledDb Business :=
  if call.valid dbOwnerId then runTransaction works db (advance call) else (.sqlFailed, db)

end JournaledDb

/-- What happens to a native database: a write of the journal, a business transaction, one of the
transactions that do not pass the gate (the import), a reopening. -/
inductive JournalEvent (Business : Type)
  | advance (call : JournalAdvance) (works : TransactionWorks)
  | business (fn : Option (Business → WriteOutcome Business)) (works : TransactionWorks) (now : Int)
  | sync (fn : Business → WriteOutcome Business) (works : TransactionWorks)
  | reopen

namespace JournaledDb

variable {Business : Type}

def step (dbOwnerId : Int) (db : JournaledDb Business) :
    JournalEvent Business → CommandResult × JournaledDb Business
  | .advance call works => db.advanceCutoverJournal dbOwnerId works call
  | .business fn works now => db.submitBusinessSync works now fn
  | .sync fn works => runTransaction works db fun db => db.runBusiness db.journal fn
  | .reopen => (.ok, db)

def run (dbOwnerId : Int) (db : JournaledDb Business) (events : List (JournalEvent Business)) :
    JournaledDb Business :=
  events.foldl (fun db event => (db.step dbOwnerId event).2) db

def place (db : JournaledDb Business) : Nat :=
  match latest db.journal with
  | none => 0
  | some row => row.state.toInt.toNat + 1

variable {dbOwnerId : Int} {db after : JournaledDb Business} {row : JournalRow}

theorem runTransaction_cases {Db : Type} (works : TransactionWorks) (db : Db)
    (fn : Db → WriteOutcome Db) :
    runTransaction works db fn = (.sqlFailed, db) ∨
      ∃ written, fn db = .returned true written ∧ runTransaction works db fn = (.ok, written) := by
  unfold runTransaction
  split
  · exact .inl rfl
  · cases outcome : fn db with
    | returned ok written =>
        cases ok with
        | false => exact .inl rfl
        | true =>
            by_cases commits : works.commits = true
            · exact .inr ⟨written, rfl, by simp [commits]⟩
            · exact .inl (by simp [commits])
    | threw written => exact .inl rfl

def Shaped (db : JournaledDb Business) : Prop :=
  db.journal = [] ∨
    ∃ row, db.journal = [row] ∧ (row.dirty = true ↔ row.state = .nativeCommittedDirty)

theorem latest_single (row : JournalRow) : latest [row] = some row := by
  simp [latest]

theorem row_dirty (call : JournalAdvance) :
    call.row.dirty = true ↔ call.row.state = .nativeCommittedDirty :=
  decide_eq_true_iff

theorem writeJournal_single {call : JournalAdvance} (same : row.epoch = call.epoch) :
    writeJournal [row] call.row = [call.row] := by
  simp [writeJournal, JournalAdvance.row, same]

inductive Writes (db : JournaledDb Business) : JournalEvent Business → JournaledDb Business → Prop
  | created {call : JournalAdvance} {works : TransactionWorks} (none : db.journal = [])
      (first : call.target = .legacyActive) :
      Writes db (.advance call works) { db with journal := [call.row] }
  | repeated {call : JournalAdvance} {works : TransactionWorks} {row : JournalRow}
      (known : db.journal = [row]) (epoch : row.epoch = call.epoch) (same : row.state = call.target)
      (content : (row.highWater, row.schemaVersion, row.keyId, row.summary) =
        (call.highWater, call.schemaVersion, call.keyId, call.summary)) :
      Writes db (.advance call works) { db with journal := [call.row] }
  | advanced {call : JournalAdvance} {works : TransactionWorks} {row : JournalRow}
      (known : db.journal = [row]) (epoch : row.epoch = call.epoch)
      (next : call.target.toInt = row.state.toInt + 1) :
      Writes db (.advance call works) { db with journal := [call.row] }
  | ungated {fn : Option (Business → WriteOutcome Business)} {works : TransactionWorks} {now : Int}
      {written : Business} (none : db.journal = []) :
      Writes db (.business fn works now) { db with business := written }
  | dirtied {fn : Option (Business → WriteOutcome Business)} {works : TransactionWorks} {now : Int}
      {row : JournalRow} {written : Business} (known : db.journal = [row])
      (unwritten : row.state = .nativeCommittedNoWrite) :
      Writes db (.business fn works now)
        { journal := markDirty db.journal row.epoch now, business := written }
  | later {fn : Option (Business → WriteOutcome Business)} {works : TransactionWorks} {now : Int}
      {row : JournalRow} {written : Business} (known : db.journal = [row])
      (dirty : row.state = .nativeCommittedDirty) :
      Writes db (.business fn works now) { db with business := written }
  | sync {fn : Business → WriteOutcome Business} {works : TransactionWorks} {written : Business} :
      Writes db (.sync fn works) { db with business := written }
  | reopen : Writes db .reopen db

theorem runBusiness_eq {journal : List JournalRow} {fn : Business → WriteOutcome Business}
    (returned : db.runBusiness journal fn = .returned true after) :
    ∃ written, after = { journal := journal, business := written } := by
  unfold runBusiness at returned
  split at returned
  · rename_i ok written _
    obtain ⟨_, rfl⟩ := WriteOutcome.returned.inj returned
    exact ⟨written, rfl⟩
  · exact nomatch returned

theorem advance_writes (shaped : db.Shaped) {call : JournalAdvance} (works : TransactionWorks)
    (returned : advance call db = .returned true after) : Writes db (.advance call works) after := by
  unfold advance at returned
  split at returned
  · rename_i passed
    obtain ⟨permitted, agrees⟩ := Bool.and_eq_true_iff.mp passed
    obtain ⟨_, rfl⟩ := WriteOutcome.returned.inj returned
    obtain none | ⟨row, known, _⟩ := shaped
    · rw [none] at permitted ⊢
      have first : call.target = .legacyActive := by
        cases target : call.target <;>
          simp [JournalAdvance.permitted, JournalAdvance.current, latest, target,
            CutoverJournalState.toInt] at permitted ⊢
      exact .created none first
    · rw [known, latest_single] at permitted agrees
      simp only [JournalAdvance.permitted, JournalAdvance.current, Option.map_some, Option.getD_some,
        Option.all_some, Bool.and_eq_true, Bool.or_eq_true, decide_eq_true_eq] at permitted
      obtain ⟨⟨_, epoch⟩, step⟩ := permitted
      rw [known, writeJournal_single epoch]
      by_cases same : row.state = call.target
      · simp only [JournalAdvance.agrees, Option.all_some, same, ne_eq, not_true, decide_false,
          Bool.false_or, Bool.and_eq_true, decide_eq_true_eq] at agrees
        obtain ⟨⟨⟨highWater, schemaVersion⟩, keyId⟩, summary⟩ := agrees
        exact .repeated known epoch same (by rw [highWater, schemaVersion, keyId, summary])
      · refine .advanced known epoch ?_
        rcases step with (⟨missing, _⟩ | level) | next
        · cases state : row.state <;> simp [state, CutoverJournalState.toInt] at missing
        · refine absurd ?_ same
          cases state : row.state <;> cases target : call.target <;>
            simp [state, target, CutoverJournalState.toInt] at level ⊢
        · exact of_decide_eq_true next
  · exact absurd (WriteOutcome.returned.inj returned).1 (by decide)

theorem businessHook_writes (shaped : db.Shaped) {now : Int}
    (fn : Option (Business → WriteOutcome Business)) (works : TransactionWorks)
    {body : Business → WriteOutcome Business}
    (returned : businessHook now body db = .returned true after) :
    Writes db (.business fn works now) after := by
  unfold businessHook at returned
  obtain none | ⟨row, known, _⟩ := shaped
  · have missing : latest db.journal = .none := by rw [none]; rfl
    rw [missing] at returned
    obtain ⟨written, rfl⟩ := runBusiness_eq returned
    exact .ungated none
  · have found : latest db.journal = some row := by rw [known, latest_single]
    rw [found] at returned
    cases state : row.state with
    | legacyActive =>
        simp only [state] at returned
        exact absurd (WriteOutcome.returned.inj returned).1 (by decide)
    | prepared =>
        simp only [state] at returned
        exact absurd (WriteOutcome.returned.inj returned).1 (by decide)
    | nativeCommittedNoWrite =>
        simp only [state] at returned
        obtain ⟨written, rfl⟩ := runBusiness_eq returned
        exact .dirtied known state
    | nativeCommittedDirty =>
        simp only [state] at returned
        obtain ⟨written, rfl⟩ := runBusiness_eq returned
        exact .later known state

def Settles (db : JournaledDb Business) (event : JournalEvent Business)
    (result : CommandResult × JournaledDb Business) : Prop :=
  (result.1 ≠ .ok ∧ result.2 = db) ∨ (result.1 = .ok ∧ Writes db event result.2)

theorem refused_settles (event : JournalEvent Business) : Settles db event (.sqlFailed, db) :=
  .inl ⟨nofun, rfl⟩

theorem runTransaction_settles (works : TransactionWorks) {event : JournalEvent Business}
    {fn : JournaledDb Business → WriteOutcome (JournaledDb Business)}
    (writes : ∀ written, fn db = .returned true written → Writes db event written) :
    Settles db event (runTransaction works db fn) := by
  obtain same | ⟨written, returned, same⟩ := runTransaction_cases works db fn
  · rw [same]
    exact refused_settles event
  · rw [same]
    exact .inr ⟨rfl, writes written returned⟩

theorem step_cases (dbOwnerId : Int) (shaped : db.Shaped) (event : JournalEvent Business) :
    Settles db event (db.step dbOwnerId event) := by
  cases event with
  | advance call works =>
      simp only [step, advanceCutoverJournal]
      split
      · exact runTransaction_settles works fun written returned => advance_writes shaped works returned
      · exact refused_settles _
  | business fn works now =>
      cases fn with
      | none => exact refused_settles _
      | some body =>
          exact runTransaction_settles works fun written returned =>
            businessHook_writes shaped (some body) works returned
  | sync fn works =>
      refine runTransaction_settles works fun written returned => ?_
      obtain ⟨business, rfl⟩ := runBusiness_eq returned
      exact .sync
  | reopen => exact .inr ⟨rfl, .reopen⟩

theorem Writes.shaped {event : JournalEvent Business} (writes : Writes db event after)
    (shaped : db.Shaped) : after.Shaped := by
  cases writes with
  | created => exact .inr ⟨_, rfl, row_dirty _⟩
  | repeated => exact .inr ⟨_, rfl, row_dirty _⟩
  | advanced => exact .inr ⟨_, rfl, row_dirty _⟩
  | @dirtied _ _ now row _ known unwritten =>
      refine .inr ⟨{ row with
        state := .nativeCommittedDirty
        dirty := true
        updatedAt := max (row.updatedAt + 1) now }, ?_, by simp⟩
      simp [markDirty, known, unwritten]
  | _ => exact shaped

theorem place_none (none : db.journal = []) : db.place = 0 := by
  simp [place, none, latest]

theorem place_known (known : db.journal = [row]) : db.place = row.state.toInt.toNat + 1 := by
  unfold place
  rw [known, latest_single]

theorem Writes.place {event : JournalEvent Business} (writes : Writes db event after) :
    after.place = db.place ∨ after.place = db.place + 1 := by
  cases writes with
  | created none first =>
      refine .inr ?_
      rw [place_none none, place_known rfl, JournalAdvance.row, first]
      rfl
  | repeated known epoch same content =>
      refine .inl ?_
      rw [place_known known, place_known rfl, JournalAdvance.row, same]
  | @advanced _ _ row known epoch next =>
      refine .inr ?_
      have natural : 0 ≤ row.state.toInt := by cases row.state <;> decide
      rw [place_known known, place_known rfl, JournalAdvance.row]
      dsimp only
      rw [next]
      omega
  | dirtied known unwritten =>
      refine .inr ?_
      rw [place_known known, unwritten]
      simp [JournaledDb.place, markDirty, known, unwritten, latest, CutoverJournalState.toInt]
  | _ => exact .inl rfl

theorem run_append (db : JournaledDb Business) (front back : List (JournalEvent Business)) :
    db.run dbOwnerId (front ++ back) = (db.run dbOwnerId front).run dbOwnerId back :=
  List.foldl_append

theorem Writes.epoch {event : JournalEvent Business} (writes : Writes db event after)
    {later : JournalRow} (known : latest db.journal = some row)
    (found : latest after.journal = some later) : later.epoch = row.epoch := by
  cases writes with
  | created none =>
      rw [none] at known
      exact nomatch known
  | repeated single epoch =>
      rw [single, latest_single] at known
      obtain rfl := Option.some.inj known
      obtain rfl := Option.some.inj ((latest_single _).symm.trans found)
      exact epoch.symm
  | advanced single epoch =>
      rw [single, latest_single] at known
      obtain rfl := Option.some.inj known
      obtain rfl := Option.some.inj ((latest_single _).symm.trans found)
      exact epoch.symm
  | dirtied single unwritten =>
      rw [single, latest_single] at known
      obtain rfl := Option.some.inj known
      simp only [markDirty, single, List.map_cons, List.map_nil, unwritten, and_self, if_true,
        latest_single, Option.some.injEq] at found
      rw [← found]
  | _ =>
      obtain rfl := Option.some.inj (known.symm.trans found)
      rfl

theorem Writes.content {call : JournalAdvance} {works : TransactionWorks}
    (writes : Writes db (.advance call works) after) (known : latest db.journal = some row)
    (same : row.state = call.target) :
    (row.highWater, row.schemaVersion, row.keyId, row.summary) =
      (call.highWater, call.schemaVersion, call.keyId, call.summary) := by
  cases writes with
  | created none =>
      rw [none] at known
      exact nomatch known
  | repeated single epoch _ content =>
      rw [single, latest_single] at known
      obtain rfl := Option.some.inj known
      exact content
  | advanced single epoch next =>
      rw [single, latest_single] at known
      obtain rfl := Option.some.inj known
      rw [same] at next
      omega

end JournaledDb

end Jitong
