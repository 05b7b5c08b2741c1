import Jitong.CutoverRecovery

/-!
Both sides of a cutover with `execute` between them: the tables of Room and their change log, the
native tables with the state of the migration, and the commands of the Writer.
-/

namespace Jitong

open Lib MigrationImporter

/-- `COALESCE(min(seq),0)` and `COALESCE(max(seq),0)` where the numbers are positive. -/
def smallest (numbers : List Int) : Int := ((numbers.filter (0 < ·)).min?).getD 0

def largest (numbers : List Int) : Int := ((numbers.filter (0 < ·)).max?).getD 0

def MigrationExporter.summary (store : ChatStore) : MigrationSummary where
  messages := store.messages.rows.length
  conversations := store.conversations.rows.length
  minSeq := smallest (store.messages.rows.map (·.seq))
  maxSeq := largest (store.messages.rows.map (·.seq))
  fts := store.fts.length

def MigrationImporter.MessageStore.computeSummary (store : MessageStore) : MigrationSummary where
  messages := store.db.messages.rows.length
  conversations := store.db.conversations.rows.length
  minSeq := smallest (store.db.messages.rows.map (·.conversationSeq))
  maxSeq := largest (store.db.messages.rows.map (·.conversationSeq))
  fts := store.fts.length

structure RoomTables where
  messages : Table MessageEntity MessageEntity.clashes := .empty
  conversations : Table ConversationEntity ConversationEntity.clashes := .empty
  fts : List FtsRow := []

def RoomTables.store (tables : RoomTables) : ChatStore where
  messages := tables.messages
  conversations := tables.conversations
  fts := tables.fts

structure SnapshotStreams where
  message : Option Int := none
  conversation : Option Int := none
  deriving DecidableEq

def MigrationImporter.finish (streams : SnapshotStreams) (store : MessageStore)
    (expected : MigrationSummary) : Bool :=
  !(0 < expected.messages && streams.message.isNone) &&
    !(0 < expected.conversations && streams.conversation.isNone) &&
    store.computeSummary = expected

inductive CopyCommand
  | beginImport
  | seedLegacyDeltaCheckpoint (baseline : Int)
  | importBatch (batch : List (Int × MigrationMessage))
  | importConversations (batch : List MigrationConversation)
  | finish (expected : MigrationSummary)

/-- What `execute` works on. `site` has the journal, the mirror and the fence, `delta` the change log
and the native tables; `late` are commands whose callers stopped waiting, `exported` what the
exporter counted last. -/
structure CutoverWorld where
  site : CutoverSite Unit
  tables : RoomTables
  delta : DeltaWorld
  streams : SnapshotStreams := {}
  late : List CopyCommand := []
  run : Option (CutoverProgram CutoverResult) := none
  exported : Option MigrationSummary := none

/-- What the environment does at one question. `reads` is whether a query of Room works, `waits`
what the Writer does with a command and whether the caller waits for it. -/
structure CutoverLuck where
  site : SiteLuck
  delta : DeltaLuck := {}
  reads : Bool := true
  submission : Submission := .runs
  works : TransactionWorks := {}
  text : String := ""

inductive CutoverWorldEvent
  | start (pages : Nat) (epoch : Int)
  | advance (luck : CutoverLuck)
  | land (index : Nat) (works : TransactionWorks)
  | landDelta (index : Nat) (faults : BatchFaults)
  | landJournal (index : Nat) (works : TransactionWorks)
  | kill
  | write (change : RoomTables → RoomTables) (changes : List LegacyChange)
  | index (change : List FtsRow → List FtsRow)

namespace CutoverWorld

variable (ownerId : Int) (isBlank : Bytes → Bool)

def withNative (world : CutoverWorld) (native : NativeDelta) : CutoverWorld :=
  { world with delta := { world.delta with native := native } }

def perform (world : CutoverWorld) : CopyCommand → Option CutoverWorld
  | .beginImport =>
      if world.delta.native.state = .verified then none
      else
        some { world.withNative { world.delta.native with state := .shadowImport } with streams := {} }
  | .seedLegacyDeltaCheckpoint baseline =>
      if world.delta.native.state ≠ .shadowImport ∨ baseline < 0 then none
      else
        match world.delta.native.checkpoint with
        | some current => if current = baseline then some world else none
        | none => some { world with delta := world.delta.step ownerId (.seed baseline) }
  | .importBatch batch =>
      if world.delta.native.state ≠ .shadowImport then none
      else
        (world.delta.native.store.importBatch (batch.map (·.2))).map fun store =>
          { world.withNative { world.delta.native with store := store } with
            streams := { world.streams with message := batch.getLast?.map (·.1) } }
  | .importConversations batch =>
      if world.delta.native.state ≠ .shadowImport then none
      else
        (world.delta.native.store.importConversations batch).map fun store =>
          { world.withNative { world.delta.native with store := store } with
            streams := { world.streams with
              conversation := batch.getLast?.map (·.conversationId) } }
  | .finish expected =>
      if world.delta.native.state ≠ .shadowImport then none
      else if MigrationImporter.finish world.streams world.delta.native.store expected then
        some (world.withNative { world.delta.native with state := .verified })
      else none

def command (world : CutoverWorld) (works : TransactionWorks) (command : CopyCommand) :
    Bool × CutoverWorld :=
  if works.begins && works.commits then
    match world.perform ownerId command with
    | some after => (true, after)
    | none => (false, world)
  else (false, world)

def submit (luck : CutoverLuck) (world : CutoverWorld) (command : CopyCommand) :
    Bool × CutoverWorld :=
  match luck.submission with
  | .refused => (false, world)
  | .timesOut => (false, { world with late := world.late ++ [command] })
  | .runs => world.command ownerId luck.works command

/-- The answer to a question of `execute`, and the world afterwards. -/
def answer (luck : CutoverLuck) (world : CutoverWorld) : (op : CutoverOp) → op.Reply × CutoverWorld
  | .highWater => (if luck.reads then some (world.delta.log.highWater ownerId) else none, world)
  | .beginMigration => world.submit ownerId luck .beginImport
  | .seedLegacyDeltaCheckpoint baseline =>
      let (seeded, after) := world.submit ownerId luck (.seedLegacyDeltaCheckpoint baseline)
      ((if seeded then .ok baseline else .error luck.text : Except String Int), after)
  | .nextBatch cursor =>
      (if luck.reads then some (MigrationExporter.nextBatch world.tables.store cursor) else none, world)
  | .submitMigrationBatch batch =>
      let (imported, after) := world.submit ownerId luck (.importBatch batch)
      ((if imported then .ok () else .error luck.text : Except String Unit), after)
  | .nextConversationBatch cursor =>
      (if luck.reads then some (MigrationExporter.nextConversationBatch world.tables.store cursor)
        else none, world)
  | .submitConversationBatch batch =>
      let (imported, after) := world.submit ownerId luck (.importConversations batch)
      ((if imported then .ok () else .error luck.text : Except String Unit), after)
  | .delta op =>
      if luck.reads then
        let (reply, delta) := world.delta.answer ownerId luck.delta op
        (some reply, { world with delta := delta })
      else (none, world)
  | .summary =>
      if luck.reads then
        (some (MigrationExporter.summary world.tables.store),
          { world with exported := some (MigrationExporter.summary world.tables.store) })
      else (none, world)
  | .finishMigration expected =>
      let (finished, after) := world.submit ownerId luck (.finish expected)
      ((if finished then .ok () else .error luck.text : Except String Unit), after)
  | op =>
      let (reply, site) := world.site.answer ownerId isBlank luck.site op
      (reply, { world with site := site })

def advance (world : CutoverWorld) (luck : CutoverLuck) : CutoverWorld :=
  match world.run with
  | some (.ask op next) =>
      let (reply, after) := world.answer ownerId isBlank luck op
      { after with run := some (next reply) }
  | _ => world

def step (world : CutoverWorld) : CutoverWorldEvent → CutoverWorld
  | .start pages epoch =>
      match world.run with
      | some (.ask _ _) => world
      | _ => { world with run := some (CutoverMigrationCoordinator.execute pages ownerId epoch) }
  | .advance luck => world.advance ownerId isBlank luck
  | .land index works =>
      match world.late[index]? with
      | some command =>
          (({ world with late := world.late.eraseIdx index } : CutoverWorld).command ownerId works
            command).2
      | none => world
  | .landDelta index faults =>
      { world with delta := world.delta.step ownerId (.land index faults) }
  | .landJournal index works =>
      { world with site := world.site.step ownerId isBlank (.land index works) }
  | .kill =>
      { world with
        site := { world.site with late := [] }
        delta := { world.delta with late := [] }
        late := []
        run := none }
  | .write change changes =>
      if world.site.fence.isSome then world
      else
        { world with
          tables := change world.tables
          delta := changes.foldl (fun delta change => delta.step ownerId (.logged ownerId change))
            world.delta }
  | .index change => { world with tables := { world.tables with fts := change world.tables.fts } }

def runs (world : CutoverWorld) (events : List CutoverWorldEvent) : CutoverWorld :=
  events.foldl (step ownerId isBlank) world

def opened (tables : RoomTables) : CutoverWorld where
  site := { db := { business := () }, nativeExists := true }
  tables := tables
  delta := DeltaWorld.opened ownerId
    { rows := [], lastSeq := 0, increasing := List.Pairwise.nil, bounded := List.forall_mem_nil _ } {}

def outcome (world : CutoverWorld) : Option CutoverResult :=
  match world.run with
  | some (.done result) => some result
  | _ => none

end CutoverWorld

end Jitong
