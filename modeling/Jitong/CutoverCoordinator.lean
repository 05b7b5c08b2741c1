import Jitong.LegacyDelta

/-!
`CutoverMigrationCoordinator.execute`, the runner around it, `CutoverRecoverySelector` and the
decisions of `JitongApplication`, as programs that ask the Room database, the native one, the mirror
and the process.
-/

namespace Jitong

open Lib MigrationImporter

structure CutoverEvidence where
  ownerId : Int
  epoch : Int
  state : Int
  highWater : Int
  schemaVersion : Int
  keyId : Bytes
  summary : Bytes
  updatedAt : Int
  deriving DecidableEq

inductive MirrorRead
  | missing
  | corrupt
  | valid (evidence : CutoverEvidence)
  deriving DecidableEq

/-- `MigrationExporter.Summary` and `MigrationSummary`. -/
structure MigrationSummary where
  messages : Int := 0
  conversations : Int := 0
  minSeq : Int := 0
  maxSeq : Int := 0
  fts : Int := 0
  deriving DecidableEq

def MigrationSummary.text (summary : MigrationSummary) : Bytes :=
  ascii "messages=" ++ decimal summary.messages ++ ascii ",conversations=" ++
    decimal summary.conversations ++ ascii ",minSeq=" ++ decimal summary.minSeq ++
    ascii ",maxSeq=" ++ decimal summary.maxSeq ++ ascii ",fts=" ++ decimal summary.fts

/-- What `ColdStartCutoverRunner` asks before it opens the native database. -/
inductive RunnerCheck
  | kernelLoaded | roomFile | roomKey | kernelStarts | rootDirectory
  deriving DecidableEq

inductive CutoverOp
  | now
  | highWater
  | getCutoverJournal
  | advanceCutoverJournal (call : JournalAdvance)
  | readMirror
  | writeMirror (evidence : CutoverEvidence)
  | beginMigration
  | seedLegacyDeltaCheckpoint (baseline : Int)
  | nextBatch (cursor : Int)
  | submitMigrationBatch (batch : List (Int × MigrationMessage))
  | nextConversationBatch (cursor : Int)
  | submitConversationBatch (batch : List MigrationConversation)
  | delta (op : DeltaOp)
  | stopAndDrain
  | freeze (epoch updatedAt : Int)
  | unfreeze (epoch : Int)
  | summary
  | finishMigration (expected : MigrationSummary)
  | pendingRequest
  | clearRequest
  | loggedIn
  | nativeExists
  | check (check : RunnerCheck)
  | openAccountDatabase
  | runDatabaseSelfTest

inductive FreezeReply
  | frozen
  | failed (message : String)
  | threw
  deriving DecidableEq

/-- A text is the one of an answer that is not `ok`; where a question may throw, nothing is that. -/
def CutoverOp.Reply : CutoverOp → Type
  | .now => Int
  | .highWater => Option Int
  | .getCutoverJournal => Option (Option JournalRow)
  | .advanceCutoverJournal _ => Bool
  | .readMirror => MirrorRead
  | .writeMirror _ => Bool
  | .beginMigration => Bool
  | .seedLegacyDeltaCheckpoint _ => Except String Int
  | .nextBatch _ => Option (List (Int × MigrationMessage))
  | .submitMigrationBatch _ => Except String Unit
  | .nextConversationBatch _ => Option (List MigrationConversation)
  | .submitConversationBatch _ => Except String Unit
  | .delta op => Option op.Reply
  | .stopAndDrain => Bool
  | .freeze _ _ => FreezeReply
  | .unfreeze _ => Unit
  | .summary => Option MigrationSummary
  | .finishMigration _ => Except String Unit
  | .pendingRequest => Option Int
  | .clearRequest => Unit
  | .loggedIn => Bool
  | .nativeExists => Bool
  | .check _ => Bool
  | .openAccountDatabase => Bool
  | .runDatabaseSelfTest => Bool

abbrev CutoverProgram (Result : Type) := Program CutoverOp.Reply Result

/-- `threw` is an exception; `unfinished` a run whose snapshot has more pages than it is given. -/
inductive CutoverResult
  | committed (epoch highWater : Int)
  | retryable (phase reason : String)
  | repairRequired (reason : String)
  | threw
  | unfinished
  deriving DecidableEq

/-- A part of `execute` goes on with a value, or ends the function. -/
abbrev CutoverStep (Value : Type) := CutoverProgram (Except CutoverResult Value)

namespace CutoverMigrationCoordinator

def roomSchema : Int := 11
def keyId : Bytes := ascii "android-keystore:jitong.cutover.hmac.v1"
def start : Bytes := ascii "migration-start"

def journalCall (ownerId epoch expectedState : Int) (target : CutoverJournalState)
    (highWater : Int) (summary : Bytes) (updatedAt : Int) : JournalAdvance where
  ownerId := ownerId
  epoch := epoch
  expectedState := expectedState
  target := target
  highWater := highWater
  schemaVersion := roomSchema
  keyId := keyId
  summary := summary
  updatedAt := updatedAt

def evidence (ownerId epoch state highWater : Int) (summary : Bytes) (updatedAt : Int) :
    CutoverEvidence where
  ownerId := ownerId
  epoch := epoch
  state := state
  highWater := highWater
  schemaVersion := roomSchema
  keyId := keyId
  summary := summary
  updatedAt := updatedAt

def resumes (ownerId epoch : Int) (journal : JournalRow) (saved : CutoverEvidence) : Bool :=
  journal.state = .legacyActive && journal.epoch = epoch && saved.ownerId = ownerId &&
    saved.epoch = journal.epoch && saved.state = journal.state.toInt &&
    saved.highWater = journal.highWater && saved.schemaVersion = journal.schemaVersion &&
    saved.keyId = journal.keyId && saved.summary = journal.summary &&
    saved.updatedAt = journal.updatedAt

def baseline (ownerId epoch now observedHighWater : Int) : CutoverStep Int :=
  .ask .getCutoverJournal fun (journal : Option (Option JournalRow)) =>
    match journal with
    | none => .done (.error (.repairRequired "Native journal 无法读取"))
    | some none =>
        .ask (.advanceCutoverJournal
            (journalCall ownerId epoch (-1) .legacyActive observedHighWater start now))
          fun (advanced : Bool) =>
            if !advanced then
              .done (.error (.repairRequired "LEGACY journal 或 HMAC 镜像提交不完整"))
            else
              .ask (.writeMirror (evidence ownerId epoch 0 observedHighWater start now))
                fun (written : Bool) =>
                  if !written then
                    .done (.error (.repairRequired "LEGACY journal 或 HMAC 镜像提交不完整"))
                  else .done (.ok observedHighWater)
    | some (some journal) =>
        .ask .readMirror fun (mirror : MirrorRead) =>
          match mirror with
          | .valid saved =>
              if !resumes ownerId epoch journal saved then
                .done (.error (.repairRequired "已存在的 cutover 双证据不允许续跑"))
              else .done (.ok journal.highWater)
          | _ => .done (.error (.repairRequired "LEGACY 恢复时 HMAC 镜像缺失或损坏"))

def begin (baseline : Int) : CutoverStep Unit :=
  .ask .beginMigration fun (begun : Bool) =>
    if !begun then .done (.error (.retryable "begin" "无法进入 shadow_import"))
    else
      .ask (.seedLegacyDeltaCheckpoint baseline) fun (seeded : Except String Int) =>
        match seeded with
        | .error text => .done (.error (.retryable "baseline" text))
        | .ok checkpoint =>
            if checkpoint ≠ baseline then
              .done (.error (.retryable "baseline" s!"ok|checkpoint={checkpoint}"))
            else .done (.ok ())

def messagePages : Nat → Int → CutoverStep Unit
  | 0, _ => .done (.error .unfinished)
  | pages + 1, cursor =>
      .ask (.nextBatch cursor) fun (batch : Option (List (Int × MigrationMessage))) =>
        match batch with
        | none => .done (.error .threw)
        | some batch =>
            match batch.getLast? with
            | none => .done (.ok ())
            | some last =>
                .ask (.submitMigrationBatch batch) fun (response : Except String Unit) =>
                  match response with
                  | .error text => .done (.error (.retryable "message_snapshot" text))
                  | .ok _ =>
                      if batch.length < MigrationExporter.batchSize then .done (.ok ())
                      else messagePages pages last.1

def conversationPages : Nat → Int → CutoverStep Unit
  | 0, _ => .done (.error .unfinished)
  | pages + 1, cursor =>
      .ask (.nextConversationBatch cursor) fun (batch : Option (List MigrationConversation)) =>
        match batch with
        | none => .done (.error .threw)
        | some batch =>
            match batch.getLast? with
            | none => .done (.ok ())
            | some last =>
                .ask (.submitConversationBatch batch) fun (response : Except String Unit) =>
                  match response with
                  | .error text => .done (.error (.retryable "conversation_snapshot" text))
                  | .ok _ =>
                      if batch.length < MigrationExporter.batchSize then .done (.ok ())
                      else conversationPages pages last.conversationId

/-- A program of deltas within `execute`, where each of its questions may throw. -/
def deltas : DeltaProgram → CutoverStep Unit
  | .done .caughtUp => .done (.ok ())
  | .done (.retryable reason) => .done (.error (.retryable "delta" reason))
  | .done _ => .done (.error .threw)
  | .ask op next =>
      .ask (.delta op) fun (reply : Option op.Reply) =>
        match reply with
        | none => .done (.error .threw)
        | some reply => deltas (next reply)

def catchUp : CutoverStep Unit := deltas (catchUpRounds 10000)

def copy (pages : Nat) (ownerId epoch : Int) : CutoverStep Unit :=
  .ask .now fun (now : Int) =>
    .ask .highWater fun (observed : Option Int) =>
      match observed with
      | none => .done (.error .threw)
      | some observed =>
          (baseline ownerId epoch now observed).bind fun
            | .error result => .done (.error result)
            | .ok baseline =>
                (begin baseline).bind fun
                  | .error result => .done (.error result)
                  | .ok _ =>
                      (messagePages pages 0).bind fun
                        | .error result => .done (.error result)
                        | .ok _ =>
                            (conversationPages pages 0).bind fun
                              | .error result => .done (.error result)
                              | .ok _ => catchUp

def freeze (epoch : Int) : CutoverStep Unit :=
  .ask .stopAndDrain fun (quiet : Bool) =>
    if !quiet then .done (.error (.retryable "quiesce" "Legacy 网络或写任务尚未完全静默"))
    else
      .ask .now fun (now : Int) =>
        .ask (.freeze epoch now) fun (reply : FreezeReply) =>
          match reply with
          | .failed message => .done (.error (.retryable "freeze" message))
          | .threw => .done (.error .threw)
          | .frozen => .done (.ok ())

def verify : CutoverStep (Int × MigrationSummary) :=
  catchUp.bind fun
    | .error result => .done (.error result)
    | .ok _ =>
        .ask .highWater fun (final : Option Int) =>
          match final with
          | none => .done (.error .threw)
          | some final =>
              .ask .summary fun (summary : Option MigrationSummary) =>
                match summary with
                | none => .done (.error .threw)
                | some summary =>
                    .ask (.finishMigration summary) fun (finish : Except String Unit) =>
                      match finish with
                      | .error text => .done (.error (.retryable "verify" text))
                      | .ok _ => .done (.ok (final, summary))

def commit (ownerId epoch final : Int) (summary : Bytes) (preparedAt : Int) :
    CutoverProgram CutoverResult :=
  let preparedEvidence := evidence ownerId epoch 1 final summary preparedAt
  .ask (.writeMirror preparedEvidence) fun (mirrored : Bool) =>
    if !mirrored then .done (.repairRequired "PREPARED 镜像失败")
    else
      .ask .now fun (committedAt : Int) =>
        .ask (.advanceCutoverJournal (journalCall ownerId epoch 1 .nativeCommittedNoWrite final
            summary committedAt)) fun (advanced : Bool) =>
          if !advanced then .done (.repairRequired "NO_WRITE DB journal 失败")
          else
            .ask (.writeMirror { preparedEvidence with state := 2, updatedAt := committedAt })
              fun (mirrored : Bool) =>
                if !mirrored then .done (.repairRequired "NO_WRITE 镜像失败")
                else .done (.committed epoch final)

/-- Unless the journal is prepared, the `finally` takes the fence away. -/
def finishFrozen (ownerId epoch : Int) : CutoverProgram CutoverResult :=
  verify.bind fun
    | .error result => .ask (.unfreeze epoch) fun _ => .done result
    | .ok (final, summary) =>
        .ask .now fun (preparedAt : Int) =>
          .ask (.advanceCutoverJournal (journalCall ownerId epoch 0 .prepared final summary.text
              preparedAt)) fun (advanced : Bool) =>
            if !advanced then
              .ask (.unfreeze epoch) fun _ => .done (.repairRequired "PREPARED DB journal 失败")
            else commit ownerId epoch final summary.text preparedAt

def execute (pages : Nat) (ownerId epoch : Int) : CutoverProgram CutoverResult :=
  if ¬ (0 < ownerId ∧ 0 < epoch) then .done .threw
  else
    (copy pages ownerId epoch).bind fun
      | .error result => .done result
      | .ok _ =>
          (freeze epoch).bind fun
            | .error result => .done result
            | .ok _ => finishFrozen ownerId epoch

end CutoverMigrationCoordinator

/-! ### The cold start -/

inductive CutoverAction
  | legacy | native | repair
  deriving DecidableEq

namespace CutoverRecoverySelector

def parseDb (response : Option (Option JournalRow)) : Option (Option JournalRow) :=
  match response with
  | some (some row) => if row.keyId = [] then none else some (some row)
  | other => other

def dbState : Option (Option JournalRow) → Int
  | none => -2
  | some none => -1
  | some (some row) => row.state.toInt

def mirrorState : MirrorRead → Int
  | .missing => -1
  | .corrupt => -2
  | .valid evidence => evidence.state

def valid (ownerId state evidenceOwner epoch : Int) : Bool :=
  -1 ≤ state && state ≤ 3 && state ≠ -2 && (state = -1 || evidenceOwner = ownerId && 0 < epoch)

def matchesMirror (row : JournalRow) (evidence : CutoverEvidence) : Bool :=
  row.highWater = evidence.highWater && row.schemaVersion = evidence.schemaVersion &&
    row.keyId = evidence.keyId && row.summary = evidence.summary &&
    row.updatedAt = evidence.updatedAt

def resolve (ownerId : Int) (db : Option (Option JournalRow)) (mirror : MirrorRead)
    (nativeExists nativeLoadable : Bool) : CutoverAction :=
  let dbOwner := match db with
    | some (some _) => ownerId
    | _ => 0
  let dbEpoch := match db with
    | some (some row) => row.epoch
    | _ => 0
  let mirrorOwner := match mirror with
    | .valid evidence => evidence.ownerId
    | _ => 0
  let mirrorEpoch := match mirror with
    | .valid evidence => evidence.epoch
    | _ => 0
  if ownerId ≤ 0 || !valid ownerId (dbState db) dbOwner dbEpoch ||
      !valid ownerId (mirrorState mirror) mirrorOwner mirrorEpoch then .repair
  else if dbState db = -1 ∧ mirrorState mirror = -1 then
    if nativeExists then .repair else .legacy
  else if dbState db = -1 ∨ mirrorState mirror = -1 ∨ dbState db ≠ mirrorState mirror ∨
      dbEpoch ≠ mirrorEpoch then .repair
  else
    match db, mirror with
    | some (some row), .valid evidence =>
        if !matchesMirror row evidence then .repair
        else if dbState db = 0 ∨ dbState db = 1 then .legacy
        else if (dbState db = 2 ∨ dbState db = 3) ∧ nativeExists ∧ nativeLoadable then .native
        else .repair
    | _, _ => .repair

end CutoverRecoverySelector

inductive Startup
  | legacy
  | migrating (epoch : Int)
  | native
  | repair
  deriving DecidableEq

namespace JitongApplication

open CutoverRecoverySelector CutoverMigrationCoordinator

/-- The end of `decideBackend`: a journal that is prepared is completed. -/
def settle (ownerId : Int) (db : Option (Option JournalRow)) (mirror : MirrorRead)
    (selfTestOk : Bool) : CutoverProgram Startup :=
  match resolve ownerId db mirror true selfTestOk with
  | .native => .done .native
  | .repair => .done .repair
  | .legacy =>
      match mirror with
      | .valid old =>
          if dbState db = 1 ∧ selfTestOk then
            .ask .now fun (committedAt : Int) =>
              .ask (.advanceCutoverJournal {
                  ownerId := ownerId
                  epoch := old.epoch
                  expectedState := 1
                  target := .nativeCommittedNoWrite
                  highWater := old.highWater
                  schemaVersion := old.schemaVersion
                  keyId := old.keyId
                  summary := old.summary
                  updatedAt := committedAt }) fun (advanced : Bool) =>
                if !advanced then .done .repair
                else
                  .ask (.writeMirror { old with state := 2, updatedAt := committedAt })
                    fun (written : Bool) =>
                      if !written then .done .repair else .done .native
          else .done .legacy
      | _ => .done .legacy

def decideBackend (ownerId : Int) : CutoverProgram Startup :=
  .ask .readMirror fun (mirror : MirrorRead) =>
    let missing := mirror = .missing
    let goOn : CutoverProgram Startup :=
      .ask .nativeExists fun (exists_ : Bool) =>
        if !exists_ then if missing then .done .legacy else .done .repair
        else
          .ask (.check .kernelStarts) fun (starts : Bool) =>
            if !starts then .done .repair
            else
              .ask .openAccountDatabase fun (opened : Bool) =>
                if !opened then settle ownerId none mirror false
                else
                  .ask .getCutoverJournal fun (journal : Option (Option JournalRow)) =>
                    .ask .runDatabaseSelfTest fun (selfTestOk : Bool) =>
                      settle ownerId (parseDb journal) mirror selfTestOk
    match mirror with
    | .valid _ => goOn
    | _ =>
        .ask .loggedIn fun (loggedIn : Bool) =>
          if !loggedIn then if missing then .done .legacy else .done .repair
          else goOn

def onCreate (ownerId : Int) : CutoverProgram Startup :=
  .ask .pendingRequest fun (pending : Option Int) =>
    match pending with
    | none => decideBackend ownerId
    | some epoch =>
        .ask .loggedIn fun (loggedIn : Bool) =>
          if !loggedIn then .done .repair
          else
            (decideBackend ownerId).bind fun
              | .native => .ask .clearRequest fun _ => .done .native
              | .legacy => .done (.migrating epoch)
              | other => .done other

/-- `ColdStartCutoverRunner.run`: the checks, one after the other, and `execute`. -/
def runnerChecks : List RunnerCheck → CutoverProgram Bool
  | [] => .done true
  | check :: rest =>
      .ask (.check check) fun (passed : Bool) =>
        if !passed then .done false else runnerChecks rest

def runner (pages : Nat) (ownerId epoch : Int) : CutoverProgram Bool :=
  .ask .pendingRequest fun (pending : Option Int) =>
    .ask .loggedIn fun (loggedIn : Bool) =>
      if ownerId ≤ 0 ∨ epoch ≤ 0 ∨ pending ≠ some epoch ∨ !loggedIn then .done false
      else
        (runnerChecks [.kernelLoaded, .roomFile, .roomKey, .kernelStarts, .rootDirectory]).bind
          fun passed =>
            if !passed then .done false
            else
              .ask .openAccountDatabase fun (opened : Bool) =>
                if !opened then .done false
                else
                  (execute pages ownerId epoch).bind fun
                    | .committed _ _ => .done true
                    | _ => .done false

def completePendingCutover (pages : Nat) (ownerId : Int) : CutoverProgram Startup :=
  .ask .pendingRequest fun (pending : Option Int) =>
    match pending with
    | none => .done .repair
    | some epoch =>
        (runner pages ownerId epoch).bind fun committed =>
          if !committed then .done .repair
          else
            (decideBackend ownerId).bind fun
              | .native => .ask .clearRequest fun _ => .done .native
              | _ => .done .repair

end JitongApplication

end Jitong
