import Jitong.CutoverCoordinator

/-!
What a cutover leaves on the device, wherever it is stopped: journal, mirror, fence and request, and
what the next cold start makes of them.
-/

namespace Jitong

open Lib

namespace CutoverEvidence

/-- `CutoverMirrorStore.valid`; `isBlank` is of texts that are not empty. -/
def valid (isBlank : Bytes → Bool) (evidence : CutoverEvidence) : Bool :=
  0 < evidence.ownerId && 0 < evidence.epoch && 0 ≤ evidence.state && evidence.state ≤ 3 &&
    0 ≤ evidence.highWater && 0 < evidence.schemaVersion &&
    (evidence.keyId ≠ [] && !isBlank evidence.keyId) && 0 < evidence.updatedAt

def ofRow (ownerId : Int) (row : JournalRow) : CutoverEvidence where
  ownerId := ownerId
  epoch := row.epoch
  state := row.state.toInt
  highWater := row.highWater
  schemaVersion := row.schemaVersion
  keyId := row.keyId
  summary := row.summary
  updatedAt := row.updatedAt

end CutoverEvidence

inductive MirrorWrite
  | stored | storedUnknown | lost
  deriving DecidableEq

/-- What the environment does at one question. `other` answers what is not in the site; `waits` is
whether the caller of a journal write waits for it. -/
structure SiteLuck where
  other : (op : CutoverOp) → op.Reply
  works : TransactionWorks := {}
  waits : Bool := true
  mirror : MirrorWrite := .stored
  readable : Bool := true
  stores : Bool := true

structure SiteLuck.Works (luck : SiteLuck) : Prop where
  transaction : luck.works = {}
  waits : luck.waits = true
  mirror : luck.mirror = .stored
  readable : luck.readable = true
  stores : luck.stores = true
  now : (0 : Int) < (luck.other .now : Int)
  loggedIn : luck.other .loggedIn = true
  starts : luck.other (.check .kernelStarts) = true
  opens : luck.other .openAccountDatabase = true
  selfTest : luck.other .runDatabaseSelfTest = true

inductive CutoverProcess
  | dead
  | deciding (program : CutoverProgram Startup)
  | started (startup : Startup)

def CutoverProcess.of : CutoverProgram Startup → CutoverProcess
  | .done startup => .started startup
  | program => .deciding program

/-- What is on the device for one account, and the process. `fence` is the epoch of the row of
`legacy_cutover_control` in state 1, `late` are the writes of the journal whose callers stopped
waiting, `wrote` whether a business transaction was ever committed natively. -/
structure CutoverSite (Business : Type) where
  db : JournaledDb Business
  nativeExists : Bool := false
  mirror : Option CutoverEvidence := none
  fence : Option Int := none
  pending : Option Int := none
  process : CutoverProcess := .dead
  late : List JournalAdvance := []
  wrote : Bool := false

inductive SiteEvent (Business : Type)
  | coldStart
  | migrate (pages : Nat)
  | advance (luck : SiteLuck)
  | land (index : Nat) (works : TransactionWorks)
  | kill
  | schedule (epoch : Int)
  | business (fn : Option (Business → WriteOutcome Business)) (works : TransactionWorks) (now : Int)
      (mirror : MirrorWrite)

namespace CutoverSite

variable {Business : Type} (ownerId : Int) (isBlank : Bytes → Bool)

def writeMirror (write : MirrorWrite) (site : CutoverSite Business) (evidence : CutoverEvidence) :
    Bool × CutoverSite Business :=
  if !evidence.valid isBlank then (false, site)
  else
    match write with
    | .stored => (true, { site with mirror := some evidence })
    | .storedUnknown => (false, { site with mirror := some evidence })
    | .lost => (false, site)

def answer (luck : SiteLuck) (site : CutoverSite Business) :
    (op : CutoverOp) → op.Reply × CutoverSite Business
  | .getCutoverJournal =>
      (if luck.readable then some (latest site.db.journal) else none, site)
  | .advanceCutoverJournal call =>
      if !site.nativeExists then (false, site)
      else if !luck.waits then (false, { site with late := site.late ++ [call] })
      else
        let (result, db) := site.db.advanceCutoverJournal ownerId luck.works call
        (decide (result = .ok), { site with db := db })
  | .readMirror =>
      (match site.mirror with
        | none => MirrorRead.missing
        | some evidence => if luck.readable then .valid evidence else .corrupt, site)
  | .writeMirror evidence => site.writeMirror isBlank luck.mirror evidence
  | .freeze epoch updatedAt =>
      let reply : FreezeReply := luck.other (.freeze epoch updatedAt)
      (reply, if luck.stores || reply = .frozen then { site with fence := some epoch } else site)
  | .unfreeze epoch =>
      ((), if luck.stores ∧ site.fence = some epoch then { site with fence := none } else site)
  | .pendingRequest => (site.pending, site)
  | .clearRequest => ((), if luck.stores then { site with pending := none } else site)
  | .nativeExists => (site.nativeExists, site)
  | .openAccountDatabase =>
      let opened : Bool := luck.other .openAccountDatabase
      (opened, { site with nativeExists := site.nativeExists || luck.stores || opened })
  | op => (luck.other op, site)

def business (site : CutoverSite Business) (fn : Option (Business → WriteOutcome Business))
    (works : TransactionWorks) (now : Int) (mirror : MirrorWrite) : CutoverSite Business :=
  let (result, db) := site.db.submitBusinessSync works now fn
  if result ≠ .ok then site
  else
    let written := { site with db := db, wrote := true }
    match latest site.db.journal, latest db.journal with
    | some before, some row =>
        if before.state = .nativeCommittedNoWrite then
          (written.writeMirror isBlank mirror (CutoverEvidence.ofRow ownerId row)).2
        else written
    | _, _ => written

def step (site : CutoverSite Business) : SiteEvent Business → CutoverSite Business
  | .coldStart =>
      match site.process with
      | .dead => { site with process := .of (JitongApplication.onCreate ownerId) }
      | _ => site
  | .migrate pages =>
      match site.process with
      | .started (.migrating _) =>
          { site with process := .of (JitongApplication.completePendingCutover pages ownerId) }
      | _ => site
  | .advance luck =>
      match site.process with
      | .deciding (.ask op next) =>
          let (reply, after) := site.answer ownerId isBlank luck op
          { after with process := .of (next reply) }
      | _ => site
  | .land index works =>
      match site.late[index]? with
      | some call =>
          { site with
            db := (site.db.advanceCutoverJournal ownerId works call).2
            late := site.late.eraseIdx index }
      | none => site
  | .kill => { site with process := .dead, late := [] }
  | .schedule epoch =>
      match site.process with
      | .started .legacy =>
          if 0 < epoch ∧ site.pending = none ∧ site.nativeExists = false then
            { site with pending := some epoch }
          else site
      | _ => site
  | .business fn works now mirror =>
      match site.process with
      | .started .native => site.business ownerId isBlank fn works now mirror
      | _ => site

def run (site : CutoverSite Business) (events : List (SiteEvent Business)) : CutoverSite Business :=
  events.foldl (step ownerId isBlank) site

def opened (business : Business) : CutoverSite Business := { db := { business := business } }

def mirrorState (site : CutoverSite Business) : Int := (site.mirror.map (·.state)).getD (-1)

end CutoverSite

/-! ### What a program knows of the site -/

structure SiteKnown where
  requested : Option Bool := none
  journal : Option JournalRow := none
  journaled : Bool := false
  settled : Bool := true
  mirror : Option CutoverEvidence := none
  top : Option Int := none
  fenced : Bool := false

namespace SiteKnown

def atMost (known : SiteKnown) (state : Int) : Prop := ∃ top ∈ known.top, top ≤ state

def learn (known : SiteKnown) : (op : CutoverOp) → op.Reply → SiteKnown
  | .getCutoverJournal, (reply : Option (Option JournalRow)) =>
      match reply with
      | some (some row) => { known with journal := some row, journaled := true }
      | _ => known
  | .advanceCutoverJournal call, (reply : Bool) =>
      if reply then
        { known with
          journal := some call.row
          journaled := true
          top := if call.expectedState = -1 then some (-1) else known.top }
      else { known with settled := false, journal := none }
  | .readMirror, (reply : MirrorRead) =>
      match reply with
      | .missing => { known with mirror := none, top := some (-1) }
      | .corrupt => known
      | .valid evidence =>
          { known with
            mirror := some evidence
            top := some evidence.state
            fenced := known.fenced || decide (1 ≤ evidence.state) }
  | .writeMirror evidence, (reply : Bool) =>
      { known with mirror := if reply then some evidence else none, top := some evidence.state }
  | .freeze _ _, (reply : FreezeReply) => { known with fenced := known.fenced || reply = .frozen }
  | .unfreeze _, _ => { known with fenced := false }
  | .pendingRequest, (reply : Option Int) => { known with requested := some reply.isSome }
  | .clearRequest, _ => { known with requested := none }
  | _, _ => known

def clean (known : SiteKnown) (evidence : CutoverEvidence) : Prop :=
  (0 ∉ evidence.keyId ∧ 0 ∉ evidence.summary) ∨
    ∃ old ∈ known.mirror, evidence.keyId = old.keyId ∧ evidence.summary = old.summary

end SiteKnown

def siteMonitor (ownerId : Int) : Monitor CutoverOp.Reply SiteKnown where
  learn := SiteKnown.learn
  allows known
    | .advanceCutoverJournal _ => known.requested = some true ∨ known.journaled = true
    | .writeMirror evidence =>
        known.journaled = true ∧ known.atMost evidence.state ∧
          (1 ≤ evidence.state → known.fenced = true) ∧ known.clean evidence ∧
          evidence.ownerId = ownerId
    | .freeze _ _ => known.requested = some true
    | .unfreeze _ => known.atMost 0
    | .clearRequest => ∃ evidence ∈ known.mirror, 2 ≤ evidence.state
    | _ => True

def committedWith (row : JournalRow) (evidence : CutoverEvidence) : Prop :=
  2 ≤ row.state.toInt ∧ row.state.toInt = evidence.state ∧ row.epoch = evidence.epoch ∧
    row.highWater = evidence.highWater ∧ row.schemaVersion = evidence.schemaVersion ∧
    (row.keyId = evidence.keyId ∨ row.keyId = (cstr evidence.keyId).bytes) ∧
    (row.summary = evidence.summary ∨ row.summary = (cstr evidence.summary).bytes) ∧
    row.updatedAt = evidence.updatedAt

def Startup.ends (known : SiteKnown) : Startup → Prop
  | .legacy => known.requested = some false ∧ known.atMost 1
  | .migrating _ => known.settled = true ∧ known.atMost 1
  | .native => known.settled = true ∧
      ∃ row ∈ known.journal, ∃ evidence ∈ known.mirror, committedWith row evidence
  | .repair => True

/-! ### What the programs ask -/

def CutoverOp.Quiet : CutoverOp → Prop
  | .getCutoverJournal | .advanceCutoverJournal _ | .readMirror | .writeMirror _ | .freeze _ _
  | .unfreeze _ | .pendingRequest | .clearRequest => False
  | _ => True

section Programs

variable {ownerId : Int} {known : SiteKnown}

theorem quiet_learn {op : CutoverOp} (quiet : op.Quiet) (reply : op.Reply) :
    known.learn op reply = known := by
  cases op with
  | getCutoverJournal | advanceCutoverJournal | readMirror | writeMirror | freeze | unfreeze
  | pendingRequest | clearRequest => exact quiet.elim
  | _ => rfl

theorem quiet_allows {op : CutoverOp} (quiet : op.Quiet) : (siteMonitor ownerId).allows known op := by
  cases op with
  | advanceCutoverJournal | writeMirror | freeze | unfreeze | clearRequest => exact quiet.elim
  | _ => trivial

theorem quiet_obeys {Result : Type} {program : CutoverProgram Result}
    (all : program.All CutoverOp.Quiet) :
    program.Obeys (siteMonitor ownerId) (fun after _ => after = known) known := by
  refine Program.All.obeys (fun memory op same quiet => quiet_allows quiet) ?_ all rfl
  rintro _ op reply rfl quiet
  exact quiet_learn quiet reply

namespace CutoverMigrationCoordinator

theorem begin_quiet (checkpoint : Int) : (begin checkpoint).All CutoverOp.Quiet := by
  refine ⟨trivial, ?_⟩
  intro (begun : Bool)
  cases begun with
  | false => trivial
  | true =>
      refine ⟨trivial, ?_⟩
      rintro (text | seeded)
      · trivial
      · simp only
        split
        · trivial
        · trivial

theorem messagePages_quiet (pages : Nat) (cursor : Int) :
    (messagePages pages cursor).All CutoverOp.Quiet := by
  induction pages generalizing cursor with
  | zero => trivial
  | succ pages ih =>
      refine ⟨trivial, ?_⟩
      rintro (_ | batch)
      · trivial
      · simp only
        split
        · trivial
        · refine ⟨trivial, ?_⟩
          rintro (text | _)
          · trivial
          · simp only
            split
            · trivial
            · exact ih _

theorem conversationPages_quiet (pages : Nat) (cursor : Int) :
    (conversationPages pages cursor).All CutoverOp.Quiet := by
  induction pages generalizing cursor with
  | zero => trivial
  | succ pages ih =>
      refine ⟨trivial, ?_⟩
      rintro (_ | batch)
      · trivial
      · simp only
        split
        · trivial
        · refine ⟨trivial, ?_⟩
          rintro (text | _)
          · trivial
          · simp only
            split
            · trivial
            · exact ih _

theorem deltas_quiet (program : DeltaProgram) : (deltas program).All CutoverOp.Quiet := by
  induction program with
  | done result => cases result <;> trivial
  | ask op next ih =>
      rw [deltas]
      refine ⟨trivial, ?_⟩
      rintro (_ | reply)
      · trivial
      · exact ih reply

theorem verify_quiet : verify.All CutoverOp.Quiet := by
  refine (deltas_quiet _).bind ?_
  rintro (result | _)
  · trivial
  refine ⟨trivial, ?_⟩
  rintro (_ | final)
  · trivial
  refine ⟨trivial, ?_⟩
  rintro (_ | summary)
  · trivial
  refine ⟨trivial, ?_⟩
  rintro (text | _)
  · trivial
  · trivial

structure Ready (known : SiteKnown) : Prop where
  requested : known.requested = some true
  settled : known.settled = true

structure Resumed (known : SiteKnown) : Prop extends Ready known where
  journaled : known.journaled = true
  atMost : known.atMost 0

def Ends (known : SiteKnown) : CutoverResult → Prop
  | .committed _ _ => known.settled = true
  | _ => True

/-- A part of `execute` that goes on leaves what `holds`. -/
def Leaves {Value : Type} (holds : SiteKnown → Prop) (known : SiteKnown) :
    Except CutoverResult Value → Prop
  | .error result => Ends known result
  | .ok _ => holds known

theorem keyId_clean (known : SiteKnown) {evidence : CutoverEvidence}
    (key : evidence.keyId = keyId) (summary : 0 ∉ evidence.summary) : known.clean evidence := by
  refine .inl ⟨?_, summary⟩
  rw [key]
  decide +kernel

theorem baseline_obeys (ready : Ready known) (epoch now observed : Int) :
    (baseline ownerId epoch now observed).Obeys (siteMonitor ownerId) (Leaves Resumed) known := by
  refine ⟨trivial, ?_⟩
  rintro (_ | _ | journal)
  · trivial
  · refine ⟨.inl ready.requested, ?_⟩
    intro (advanced : Bool)
    cases advanced with
    | false => trivial
    | true =>
        have summary : 0 ∉ start := by decide +kernel
        have first : ¬ (1 : Int) ≤ 0 := by decide
        refine ⟨⟨rfl, ⟨-1, rfl, Int.neg_nonpos_of_nonneg Int.one_nonneg⟩, fun late => absurd late first,
          keyId_clean _ rfl summary, rfl⟩, ?_⟩
        intro (written : Bool)
        cases written with
        | false => trivial
        | true => exact ⟨⟨ready.requested, ready.settled⟩, rfl, 0, rfl, Int.le_refl _⟩
  · refine ⟨trivial, ?_⟩
    rintro (_ | _ | saved)
    · trivial
    · trivial
    · simp only
      split
      · trivial
      · rename_i same
        simp only [Bool.not_eq_true', Bool.not_eq_false, resumes, Bool.and_eq_true,
          decide_eq_true_eq] at same
        obtain ⟨⟨⟨⟨⟨⟨⟨⟨⟨legacy, _⟩, _⟩, _⟩, state⟩, _⟩, _⟩, _⟩, _⟩, _⟩ := same
        rw [legacy] at state
        exact ⟨⟨ready.requested, ready.settled⟩, rfl, saved.state, rfl, Int.le_of_eq state⟩

theorem leaves_quiet {Value : Type} {holds : SiteKnown → Prop} {program : CutoverStep Value}
    (all : program.All CutoverOp.Quiet) (start : holds known) (settled : known.settled = true) :
    program.Obeys (siteMonitor ownerId) (Leaves holds) known := by
  refine (quiet_obeys all).mono ?_
  rintro _ (result | value) rfl
  · cases result with
    | committed => exact settled
    | _ => trivial
  · exact start

theorem copy_obeys (ready : Ready known) (pages : Nat) (epoch : Int) :
    (copy pages ownerId epoch).Obeys (siteMonitor ownerId) (Leaves Resumed) known := by
  refine ⟨trivial, fun now => ⟨trivial, ?_⟩⟩
  rintro (_ | observed)
  · trivial
  refine (baseline_obeys ready epoch now observed).bind ?_
  rintro known (result | checkpoint) resumed
  · exact resumed
  refine (leaves_quiet (begin_quiet checkpoint) resumed resumed.settled).bind ?_
  rintro known (result | _) resumed
  · exact resumed
  refine (leaves_quiet (messagePages_quiet pages 0) resumed resumed.settled).bind ?_
  rintro known (result | _) resumed
  · exact resumed
  refine (leaves_quiet (conversationPages_quiet pages 0) resumed resumed.settled).bind ?_
  rintro known (result | _) resumed
  · exact resumed
  exact leaves_quiet (deltas_quiet _) resumed resumed.settled

structure Frozen (known : SiteKnown) : Prop extends Resumed known where
  fenced : known.fenced = true

theorem freeze_obeys (resumed : Resumed known) (epoch : Int) :
    (freeze epoch).Obeys (siteMonitor ownerId) (Leaves Frozen) known := by
  refine ⟨trivial, ?_⟩
  intro (quiet : Bool)
  cases quiet with
  | false => trivial
  | true =>
      refine ⟨trivial, fun now => ⟨resumed.requested, ?_⟩⟩
      rintro (_ | message | _)
      · exact ⟨⟨⟨resumed.requested, resumed.settled⟩, resumed.journaled, resumed.atMost⟩,
          Bool.or_true _⟩
      · trivial
      · trivial

theorem zero_notin_decimal (number : Int) : (0 : UInt8) ∉ decimal number := by
  have digits : (0 : UInt8) ∉
      (Nat.toDigits 10 number.natAbs).map fun digit => UInt8.ofNat digit.toNat := by
    intro member
    obtain ⟨digit, digits, zero⟩ := List.mem_map.mp member
    have isDigit := Nat.isDigit_of_mem_toDigits (by decide) (by decide) digits
    simp only [Char.isDigit, Bool.and_eq_true, decide_eq_true_eq] at isDigit
    have low : 48 ≤ digit.toNat := isDigit.1
    have high : digit.toNat ≤ 57 := isDigit.2
    have value := congrArg UInt8.toNat zero
    rw [UInt8.toNat_ofNat', Nat.mod_eq_of_lt (by omega)] at value
    change digit.toNat = 0 at value
    omega
  unfold decimal
  split
  · simpa using digits
  · exact digits

theorem text_clean (summary : MigrationSummary) : 0 ∉ summary.text := by
  have plain : (0 : UInt8) ∉ ascii "messages=" ∧ (0 : UInt8) ∉ ascii ",conversations=" ∧
      (0 : UInt8) ∉ ascii ",minSeq=" ∧ (0 : UInt8) ∉ ascii ",maxSeq=" ∧
      (0 : UInt8) ∉ ascii ",fts=" := by
    decide +kernel
  simp [MigrationSummary.text, plain, zero_notin_decimal]

theorem commit_obeys (frozen : Frozen known) (epoch final preparedAt : Int)
    {summary : Bytes} (clean : 0 ∉ summary) :
    (commit ownerId epoch final summary preparedAt).Obeys (siteMonitor ownerId) Ends known := by
  obtain ⟨top, bound, low⟩ := frozen.atMost
  refine ⟨⟨frozen.journaled, ⟨top, bound, Int.le_trans low Int.one_nonneg⟩, fun _ => frozen.fenced,
    keyId_clean _ rfl clean, rfl⟩, ?_⟩
  intro (mirrored : Bool)
  cases mirrored with
  | false => trivial
  | true =>
      refine ⟨trivial, fun committedAt => ⟨.inr frozen.journaled, ?_⟩⟩
      intro (advanced : Bool)
      cases advanced with
      | false => trivial
      | true =>
          have next : (1 : Int) ≤ 2 := by decide
          refine ⟨⟨rfl, ⟨1, rfl, next⟩, fun _ => frozen.fenced, keyId_clean _ rfl clean, rfl⟩, ?_⟩
          intro (mirrored : Bool)
          cases mirrored with
          | false => trivial
          | true => exact frozen.settled

theorem finishFrozen_obeys (frozen : Frozen known) (epoch : Int) :
    (finishFrozen ownerId epoch).Obeys (siteMonitor ownerId) Ends known := by
  refine (quiet_obeys verify_quiet).bind ?_
  rintro _ (result | ⟨final, summary⟩) rfl
  · refine ⟨frozen.atMost, fun _ => ?_⟩
    cases result with
    | committed => exact frozen.settled
    | _ => trivial
  refine ⟨trivial, fun preparedAt => ⟨.inr frozen.journaled, ?_⟩⟩
  intro (advanced : Bool)
  cases advanced with
  | false => exact ⟨frozen.atMost, fun _ => trivial⟩
  | true =>
      have prepared : Frozen (SiteKnown.learn _ (.advanceCutoverJournal (journalCall ownerId epoch 0
          .prepared final summary.text preparedAt)) true) :=
        ⟨⟨⟨frozen.requested, frozen.settled⟩, rfl, frozen.atMost⟩, frozen.fenced⟩
      exact commit_obeys prepared epoch final preparedAt (text_clean summary)

end CutoverMigrationCoordinator

namespace JitongApplication

open CutoverMigrationCoordinator CutoverRecoverySelector

theorem runnerChecks_quiet (checks : List RunnerCheck) :
    (runnerChecks checks).All CutoverOp.Quiet := by
  induction checks with
  | nil => trivial
  | cons check rest ih =>
      refine ⟨trivial, ?_⟩
      intro (passed : Bool)
      cases passed with
      | false => trivial
      | true => exact ih

theorem execute_obeys (ready : Ready known) (pages : Nat) (epoch : Int) :
    (execute pages ownerId epoch).Obeys (siteMonitor ownerId) Ends known := by
  unfold execute
  split
  · trivial
  refine (copy_obeys ready pages epoch).bind ?_
  rintro known (result | _) resumed
  · exact resumed
  refine (freeze_obeys resumed epoch).bind ?_
  rintro known (result | _) frozen
  · exact frozen
  exact finishFrozen_obeys frozen epoch

theorem runner_obeys (settled : known.settled = true) (pages : Nat) (epoch : Int) :
    (runner pages ownerId epoch).Obeys (siteMonitor ownerId)
      (fun after committed => committed = true → after.settled = true) known := by
  refine ⟨trivial, ?_⟩
  intro (pending : Option Int)
  refine ⟨trivial, ?_⟩
  intro (loggedIn : Bool)
  simp only
  split
  · exact nofun
  rename_i wanted
  simp only [not_or, not_not] at wanted
  refine (quiet_obeys (runnerChecks_quiet _)).bind ?_
  rintro _ (_ | _) rfl
  · exact nofun
  refine ⟨trivial, ?_⟩
  intro (opened : Bool)
  cases opened with
  | false => exact nofun
  | true =>
      have requested : pending.isSome = true := by rw [wanted.2.2.1]; rfl
      have ready : Ready (known.learn .pendingRequest pending) :=
        ⟨congrArg some requested, settled⟩
      refine (execute_obeys ready pages epoch).bind ?_
      rintro after (_ | _ | _ | _ | _) ends
      · exact fun _ => ends
      all_goals exact nofun

end JitongApplication

namespace CutoverRecoverySelector

structure Agrees (ownerId : Int) (row : JournalRow) (evidence : CutoverEvidence) : Prop where
  owner : evidence.ownerId = ownerId
  state : row.state.toInt = evidence.state
  epoch : row.epoch = evidence.epoch
  same : matchesMirror row evidence = true

theorem resolve_alone (ownerId : Int) {db : Option (Option JournalRow)} {mirror : MirrorRead}
    (selfTestOk : Bool)
    (alone : ¬ ∃ row evidence, db = some (some row) ∧ mirror = .valid evidence) :
    resolve ownerId db mirror true selfTestOk = .repair := by
  rcases db with _ | _ | row
  · simp [resolve, valid, dbState]
  · rcases mirror with _ | _ | evidence
    · simp [resolve, dbState, mirrorState]
    · simp [resolve, valid, dbState, mirrorState]
    · simp [resolve, dbState]
  · rcases mirror with _ | _ | evidence
    · have known : row.state.toInt ≠ -1 := by cases row.state <;> decide
      simp [resolve, dbState, mirrorState, known]
    · simp [resolve, valid, mirrorState]
    · exact absurd ⟨row, evidence, rfl, rfl⟩ alone

theorem resolve_cases (ownerId : Int) (db : Option (Option JournalRow)) (mirror : MirrorRead)
    (selfTestOk : Bool) :
    resolve ownerId db mirror true selfTestOk = .repair ∨
      ∃ row evidence, db = some (some row) ∧ mirror = .valid evidence ∧
        Agrees ownerId row evidence ∧
        (resolve ownerId db mirror true selfTestOk = .legacy ∧ evidence.state ≤ 1 ∨
          resolve ownerId db mirror true selfTestOk = .native ∧ 2 ≤ evidence.state) := by
  by_cases both : ∃ row evidence, db = some (some row) ∧ mirror = .valid evidence
  · obtain ⟨row, evidence, rfl, rfl⟩ := both
    have known : row.state.toInt ≠ -1 := by cases row.state <;> decide
    simp only [resolve, mirrorState]
    split
    · exact .inl rfl
    rename_i allowed
    split
    · exact .inl rfl
    split
    · exact .inl rfl
    rename_i agreed
    split
    · exact .inl rfl
    rename_i same
    simp only [dbState, not_or, not_not] at agreed
    obtain ⟨_, _, states, epochs⟩ := agreed
    have owner : evidence.ownerId = ownerId := by
      simp only [valid, dbState, Bool.or_eq_true, not_or, Bool.not_eq_true', Bool.not_eq_false,
        Bool.and_eq_true, decide_eq_true_eq] at allowed
      rcases allowed.2.2 with absent | owned
      · exact absurd (states.trans absent) known
      · exact owned.1
    have agrees : Agrees ownerId row evidence := ⟨owner, states, epochs, by simpa using same⟩
    have number : dbState (some (some row)) = evidence.state := states
    rw [number]
    split
    · rename_i low
      refine .inr ⟨row, evidence, rfl, rfl, agrees, .inl ⟨rfl, ?_⟩⟩
      omega
    · split
      · rename_i high
        refine .inr ⟨row, evidence, rfl, rfl, agrees, .inr ⟨rfl, ?_⟩⟩
        omega
      · exact .inl rfl
  · exact .inl (resolve_alone ownerId selfTestOk both)

end CutoverRecoverySelector

namespace JitongApplication

open CutoverRecoverySelector

structure Read (db : Option (Option JournalRow)) (mirror : MirrorRead) (known : SiteKnown) : Prop where
  settled : known.settled = true
  journal : ∀ row, db = some (some row) → known.journal = some row ∧ known.journaled = true
  mirror : ∀ evidence, mirror = .valid evidence →
    known.mirror = some evidence ∧ known.top = some evidence.state ∧
      (1 ≤ evidence.state → known.fenced = true)

theorem Read.learn {mirror : MirrorRead} (read : Read none mirror known)
    (journal : Option (Option JournalRow)) :
    Read (parseDb journal) mirror (known.learn .getCutoverJournal journal) := by
  refine ⟨?_, ?_, ?_⟩
  · rcases journal with _ | _ | row <;> exact read.settled
  · intro row parsed
    rcases journal with _ | _ | stored
    · exact nomatch parsed
    · exact nomatch parsed
    · simp only [parseDb] at parsed
      split at parsed
      · exact nomatch parsed
      · obtain rfl := Option.some.inj (Option.some.inj parsed)
        exact ⟨rfl, rfl⟩
  · intro evidence same
    rcases journal with _ | _ | row <;> exact read.mirror evidence same

def Decides (before known : SiteKnown) : Startup → Prop
  | .legacy => known.requested = before.requested ∧ known.settled = true ∧ known.atMost 1
  | .migrating _ => False
  | .native => Startup.ends known .native
  | .repair => True

theorem settle_obeys {db : Option (Option JournalRow)} {mirror : MirrorRead}
    (read : Read db mirror known) (selfTestOk : Bool) :
    (settle ownerId db mirror selfTestOk).Obeys (siteMonitor ownerId) (Decides known) known := by
  unfold settle
  obtain repair | ⟨row, old, rfl, rfl, agrees, ⟨legacy, low⟩ | ⟨native, high⟩⟩ :=
    resolve_cases ownerId db mirror selfTestOk
  · rw [repair]
    trivial
  · obtain ⟨mirrored, top, fenced⟩ := read.mirror old rfl
    obtain ⟨_, journaled⟩ := read.journal row rfl
    have below : known.atMost 1 := ⟨old.state, top, low⟩
    rw [legacy]
    simp only
    split
    · rename_i prepared
      have state : old.state = 1 := agrees.state.symm.trans prepared.1
      refine ⟨trivial, fun committedAt => ⟨.inr journaled, ?_⟩⟩
      intro (advanced : Bool)
      cases advanced with
      | false => trivial
      | true =>
          have next : old.state ≤ 2 := by omega
          refine ⟨⟨rfl, ⟨old.state, top, next⟩, fun _ => fenced (Int.le_of_eq state.symm),
            .inr ⟨old, mirrored, rfl, rfl⟩, agrees.owner⟩, ?_⟩
          intro (written : Bool)
          cases written with
          | false => trivial
          | true => exact ⟨read.settled, _, rfl, _, rfl, Int.le_refl _, rfl, rfl, rfl, rfl, .inr rfl,
              .inr rfl, rfl⟩
    · exact ⟨rfl, read.settled, below⟩
  · obtain ⟨mirrored, _, _⟩ := read.mirror old rfl
    obtain ⟨journal, _⟩ := read.journal row rfl
    have same := agrees.same
    simp only [matchesMirror, Bool.and_eq_true, decide_eq_true_eq] at same
    obtain ⟨⟨⟨⟨highWater, schema⟩, key⟩, summary⟩, updated⟩ := same
    rw [native]
    exact ⟨read.settled, row, journal, old, mirrored, agrees.state ▸ high, agrees.state,
      agrees.epoch, highWater, schema, .inl key, .inl summary, updated⟩

def openDatabase (ownerId : Int) (mirror : MirrorRead) : CutoverProgram Startup :=
  .ask .nativeExists fun (exists_ : Bool) =>
    if !exists_ then if mirror = .missing then .done .legacy else .done .repair
    else
      .ask (.check .kernelStarts) fun (starts : Bool) =>
        if !starts then .done .repair
        else
          .ask .openAccountDatabase fun (opened : Bool) =>
            if !opened then settle ownerId none mirror false
            else
              .ask .getCutoverJournal fun (journal : Option (Option JournalRow)) =>
                .ask .runDatabaseSelfTest fun (selfTestOk : Bool) =>
                  settle ownerId (parseDb journal) mirror selfTestOk

theorem openDatabase_obeys {mirror : MirrorRead} (read : Read none mirror known)
    (missing : mirror = .missing → known.atMost 1) :
    (openDatabase ownerId mirror).Obeys (siteMonitor ownerId) (Decides known) known := by
  refine ⟨trivial, ?_⟩
  intro (exists_ : Bool)
  cases exists_ with
  | false =>
      simp only [Bool.not_false, if_true]
      split
      · rename_i absent
        exact ⟨rfl, read.settled, missing absent⟩
      · trivial
  | true =>
      refine ⟨trivial, ?_⟩
      intro (starts : Bool)
      cases starts with
      | false => trivial
      | true =>
          refine ⟨trivial, ?_⟩
          intro (opened : Bool)
          cases opened with
          | false => exact settle_obeys read false
          | true =>
              refine ⟨trivial, ?_⟩
              intro (journal : Option (Option JournalRow))
              refine ⟨trivial, ?_⟩
              intro (selfTestOk : Bool)
              refine (settle_obeys (read.learn journal) selfTestOk).mono ?_
              rintro after (_ | _ | _ | _) decides
              · refine ⟨decides.1.trans ?_, decides.2⟩
                rcases journal with _ | _ | row <;> rfl
              all_goals exact decides

theorem decideBackend_obeys (settled : known.settled = true) :
    (decideBackend ownerId).Obeys (siteMonitor ownerId) (Decides known) known := by
  refine ⟨trivial, ?_⟩
  intro (mirror : MirrorRead)
  have kept : (known.learn .readMirror mirror).requested = known.requested := by
    cases mirror <;> rfl
  have unchanged (after : SiteKnown) (startup : Startup)
      (decides : Decides (known.learn .readMirror mirror) after startup) :
      Decides known after startup := by
    cases startup with
    | legacy => exact ⟨decides.1.trans kept, decides.2⟩
    | _ => exact decides
  have read : Read none mirror (known.learn .readMirror mirror) := by
    refine ⟨?_, nofun, ?_⟩
    · cases mirror <;> exact settled
    · rintro evidence rfl
      exact ⟨rfl, rfl, fun late => by simp [SiteKnown.learn, late]⟩
  have missing : mirror = .missing → (known.learn .readMirror mirror).atMost 1 := by
    rintro rfl
    exact ⟨-1, rfl, by decide⟩
  have goesOn : (openDatabase ownerId mirror).Obeys (siteMonitor ownerId) (Decides known)
      (known.learn .readMirror mirror) := (openDatabase_obeys read missing).mono unchanged
  have loggedIn : (Program.ask CutoverOp.loggedIn fun (loggedIn : Bool) =>
      if !loggedIn then if mirror = .missing then .done Startup.legacy else .done .repair
      else openDatabase ownerId mirror).Obeys (siteMonitor ownerId) (Decides known)
        (known.learn .readMirror mirror) := by
    refine ⟨trivial, ?_⟩
    intro (loggedIn : Bool)
    cases loggedIn with
    | false =>
        simp only [Bool.not_false, if_true]
        split
        · rename_i absent
          exact ⟨kept, read.settled, missing absent⟩
        · trivial
    | true => exact goesOn
  cases mirror with
  | missing => exact loggedIn
  | corrupt => exact loggedIn
  | valid evidence => exact goesOn

theorem clearRequest_obeys {before : SiteKnown} (decides : Decides before known .native) :
    (Program.ask CutoverOp.clearRequest fun _ => .done Startup.native).Obeys (siteMonitor ownerId)
      Startup.ends known := by
  obtain ⟨settled, row, journal, evidence, mirror, committed⟩ := decides
  refine ⟨⟨evidence, mirror, ?_⟩, fun _ => ⟨settled, row, journal, evidence, mirror, committed⟩⟩
  rw [← committed.2.1]
  exact committed.1

theorem onCreate_obeys :
    (onCreate ownerId).Obeys (siteMonitor ownerId) Startup.ends {} := by
  refine ⟨trivial, ?_⟩
  rintro (_ | epoch)
  · refine (decideBackend_obeys rfl).mono ?_
    rintro after (_ | _ | _ | _) decides
    · exact ⟨decides.1, decides.2.2⟩
    · exact decides.elim
    · exact decides
    · trivial
  · refine ⟨trivial, ?_⟩
    intro (loggedIn : Bool)
    cases loggedIn with
    | false => trivial
    | true =>
        refine (decideBackend_obeys rfl).bind ?_
        rintro after (_ | _ | _ | _) decides
        · exact decides.2
        · exact decides.elim
        · exact clearRequest_obeys decides
        · trivial

theorem completePendingCutover_obeys (pages : Nat) :
    (completePendingCutover pages ownerId).Obeys (siteMonitor ownerId) Startup.ends {} := by
  refine ⟨trivial, ?_⟩
  rintro (_ | epoch)
  · trivial
  refine (runner_obeys rfl pages epoch).bind ?_
  rintro known (_ | _) settled
  · trivial
  refine (decideBackend_obeys (settled rfl)).bind ?_
  rintro after (_ | _ | _ | _) decides
  · trivial
  · trivial
  · exact clearRequest_obeys decides
  · trivial

end JitongApplication

end Programs

/-! ### The site -/

namespace CutoverSite

variable {Business : Type} {ownerId : Int} {isBlank : Bytes → Bool} {site : CutoverSite Business}

structure Knows (site : CutoverSite Business) (known : SiteKnown) : Prop where
  requested : ∀ asked, known.requested = some asked → site.pending.isSome = asked
  journal : known.settled = true → ∀ row, known.journal = some row →
    latest site.db.journal = some row
  journaled : known.journaled = true → site.db.journal ≠ []
  settled : known.settled = true → site.late = []
  mirror : ∀ evidence, known.mirror = some evidence → site.mirror = some evidence
  top : ∀ state, known.top = some state → site.mirrorState ≤ state
  fenced : known.fenced = true → site.fence.isSome = true

structure Base (ownerId : Int) (isBlank : Bytes → Bool) (site : CutoverSite Business) : Prop where
  shaped : site.db.Shaped
  clean : ∀ row ∈ site.db.journal, 0 ∉ row.keyId ∧ 0 ∉ row.summary
  unrequested : site.pending = none →
    2 ≤ site.mirrorState ∨ site.db.journal = [] ∧ site.mirror = none ∧ site.fence = none
  fenced : 1 ≤ site.mirrorState → site.fence.isSome = true
  wrote : site.wrote = true → 2 ≤ site.mirrorState
  mirrored : ∀ evidence, site.mirror = some evidence → site.db.journal ≠ [] ∧
    evidence.ownerId = ownerId ∧ (0 ∉ evidence.keyId ∧ 0 ∉ evidence.summary) ∧
    evidence.valid isBlank = true
  late : site.late ≠ [] → site.pending.isSome = true ∨ 2 ≤ site.mirrorState
  housed : site.db.journal ≠ [] ∨ site.late ≠ [] → site.nativeExists = true

theorem Knows.atMost {known : SiteKnown} (knows : site.Knows known) {state : Int}
    (bound : known.atMost state) : site.mirrorState ≤ state := by
  obtain ⟨top, known, below⟩ := bound
  exact Int.le_trans (knows.top top known) below

theorem Base.requested (base : Base ownerId isBlank site) {known : SiteKnown}
    (knows : site.Knows known) (asked : known.requested = some true ∨ known.journaled = true) :
    site.pending.isSome = true ∨ 2 ≤ site.mirrorState := by
  rcases asked with asked | journaled
  · exact .inl (knows.requested true asked)
  · cases pending : site.pending with
    | some epoch => exact .inl rfl
    | none =>
        rcases base.unrequested pending with high | ⟨absent, _, _⟩
        · exact .inr high
        · exact absurd absent (knows.journaled journaled)

theorem advance_ok (shaped : site.db.Shaped) {works : TransactionWorks} {call : JournalAdvance}
    (done : (site.db.advanceCutoverJournal ownerId works call).1 = .ok) :
    (site.db.advanceCutoverJournal ownerId works call).2 = { site.db with journal := [call.row] } := by
  rcases JournaledDb.step_cases ownerId shaped (.advance call works) with ⟨failed, _⟩ | ⟨_, writes⟩
  · exact absurd done failed
  · simp only [JournaledDb.step] at writes
    generalize (site.db.advanceCutoverJournal ownerId works call).2 = after at writes ⊢
    cases writes with
    | created => rfl
    | repeated => rfl
    | advanced => rfl

theorem advance_failed (shaped : site.db.Shaped) {works : TransactionWorks} {call : JournalAdvance}
    (failed : (site.db.advanceCutoverJournal ownerId works call).1 ≠ .ok) :
    (site.db.advanceCutoverJournal ownerId works call).2 = site.db := by
  rcases JournaledDb.step_cases ownerId shaped (.advance call works) with ⟨_, same⟩ | ⟨done, _⟩
  · exact same
  · exact absurd done failed

theorem advance_first (shaped : site.db.Shaped) {works : TransactionWorks} {call : JournalAdvance}
    (done : (site.db.advanceCutoverJournal ownerId works call).1 = .ok)
    (first : call.expectedState = -1) : site.db.journal = [] := by
  unfold JournaledDb.advanceCutoverJournal at done
  split at done
  · obtain failed | ⟨written, returned, _⟩ :=
      JournaledDb.runTransaction_cases works site.db (JournaledDb.advance call)
    · rw [failed] at done
      cases done
    · unfold JournaledDb.advance at returned
      split at returned
      · rename_i passed
        have permitted := (Bool.and_eq_true_iff.mp passed).1
        obtain none | ⟨row, known, _⟩ := shaped
        · exact none
        · rw [known, JournaledDb.latest_single] at permitted
          simp only [JournalAdvance.permitted, JournalAdvance.current, Option.map_some,
            Option.getD_some, first, Bool.and_eq_true, decide_eq_true_eq] at permitted
          have state := permitted.1.1
          cases place : row.state <;> rw [place] at state <;> exact absurd state (by decide)
      · cases returned
  · cases done

theorem row_clean (call : JournalAdvance) : 0 ∉ call.row.keyId ∧ 0 ∉ call.row.summary :=
  ⟨(cstr call.keyId).noNul, (cstr call.summary).noNul⟩

theorem Base.journal (base : Base ownerId isBlank site) {db : JournaledDb Business}
    (shaped : db.Shaped) (clean : ∀ row ∈ db.journal, 0 ∉ row.keyId ∧ 0 ∉ row.summary)
    (there : db.journal ≠ []) (asked : site.pending.isSome = true ∨ 2 ≤ site.mirrorState)
    (housed : site.nativeExists = true) : Base ownerId isBlank { site with db := db } where
  shaped := shaped
  clean := clean
  unrequested pending := by
    rcases asked with asked | high
    · rw [pending] at asked
      exact nomatch asked
    · exact .inl high
  fenced := base.fenced
  wrote := base.wrote
  mirrored evidence known := by
    obtain ⟨_, rest⟩ := base.mirrored evidence known
    exact ⟨there, rest⟩
  late := base.late
  housed _ := housed

theorem Base.advance (base : Base ownerId isBlank site)
    (asked : site.pending.isSome = true ∨ 2 ≤ site.mirrorState)
    (housed : site.nativeExists = true) (works : TransactionWorks) (call : JournalAdvance) :
    Base ownerId isBlank
      { site with db := (site.db.advanceCutoverJournal ownerId works call).2 } := by
  by_cases done : (site.db.advanceCutoverJournal ownerId works call).1 = .ok
  · rw [advance_ok base.shaped done]
    refine base.journal (.inr ⟨_, rfl, JournaledDb.row_dirty _⟩) ?_ (List.cons_ne_nil _ _) asked housed
    intro row member
    obtain rfl := List.mem_singleton.mp member
    exact row_clean call
  · rw [advance_failed base.shaped done]
    exact base

structure Mirrors (ownerId : Int) (site : CutoverSite Business) (evidence : CutoverEvidence) :
    Prop where
  journaled : site.db.journal ≠ []
  above : site.mirrorState ≤ evidence.state
  fenced : 1 ≤ evidence.state → site.fence.isSome = true
  clean : 0 ∉ evidence.keyId ∧ 0 ∉ evidence.summary
  owner : evidence.ownerId = ownerId

theorem Base.store (base : Base ownerId isBlank site) {evidence : CutoverEvidence}
    (mirrors : Mirrors ownerId site evidence) (valid : evidence.valid isBlank = true) :
    Base ownerId isBlank { site with mirror := some evidence } := by
  have above : site.mirrorState ≤ evidence.state := mirrors.above
  exact {
    shaped := base.shaped
    clean := base.clean
    unrequested := fun pending => by
      rcases base.unrequested pending with high | ⟨absent, _, _⟩
      · exact .inl (Int.le_trans high above)
      · exact absurd absent mirrors.journaled
    fenced := mirrors.fenced
    wrote := fun wrote => Int.le_trans (base.wrote wrote) above
    mirrored := by
      rintro _ ⟨⟩
      exact ⟨mirrors.journaled, mirrors.owner, mirrors.clean, valid⟩
    late := fun late => (base.late late).imp_right fun high => Int.le_trans high above
    housed := base.housed }

theorem writeMirror_cases (write : MirrorWrite) (evidence : CutoverEvidence) :
    site.writeMirror isBlank write evidence = (false, site) ∨
      evidence.valid isBlank = true ∧ ∃ answered,
        site.writeMirror isBlank write evidence =
          (answered, { site with mirror := some evidence }) := by
  unfold writeMirror
  split
  · exact .inl rfl
  · rename_i valid
    cases write with
    | lost => exact .inl rfl
    | stored => exact .inr ⟨by simpa using valid, true, rfl⟩
    | storedUnknown => exact .inr ⟨by simpa using valid, false, rfl⟩

theorem Knows.mirrors (base : Base ownerId isBlank site) {known : SiteKnown}
    {evidence : CutoverEvidence} (knows : site.Knows known)
    (allowed : (siteMonitor ownerId).allows known (.writeMirror evidence)) :
    Mirrors ownerId site evidence := by
  obtain ⟨journaled, above, fenced, clean, owner⟩ := allowed
  refine ⟨knows.journaled journaled, knows.atMost above, fun late => knows.fenced (fenced late), ?_,
    owner⟩
  rcases clean with clean | ⟨old, remembered, key, summary⟩
  · exact clean
  · obtain ⟨_, _, plain, _⟩ := base.mirrored old (knows.mirror old remembered)
    rw [key, summary]
    exact plain

structure Answered (ownerId : Int) (isBlank : Bytes → Bool) (known : SiteKnown) (op : CutoverOp)
    (reply : op.Reply) (after : CutoverSite Business) : Prop where
  base : Base ownerId isBlank after
  knows : after.Knows (known.learn op reply)

variable {known : SiteKnown} {luck : SiteLuck}

theorem Base.getCutoverJournal (base : Base ownerId isBlank site) (knows : site.Knows known)
    (readable : Bool) : Answered ownerId isBlank known .getCutoverJournal
      (if readable then some (latest site.db.journal) else none) site := by
  refine ⟨base, ?_⟩
  cases readable with
  | false => exact knows
  | true =>
      cases there : latest site.db.journal with
      | none => exact knows
      | some row =>
          refine { knows with journal := ?_, journaled := ?_ }
          · rintro _ _ ⟨⟩
            exact there
          · intro _ absent
            rw [absent] at there
            exact nomatch there

theorem Base.advanceLate (base : Base ownerId isBlank site) (knows : site.Knows known)
    (call : JournalAdvance) (asked : site.pending.isSome = true ∨ 2 ≤ site.mirrorState)
    (housed : site.nativeExists = true) :
    Answered ownerId isBlank known (.advanceCutoverJournal call) false
      { site with late := site.late ++ [call] } :=
  ⟨{ base with late := fun _ => asked, housed := fun _ => housed },
    { knows with journal := nofun, settled := nofun }⟩

theorem Base.advanceCutoverJournal (base : Base ownerId isBlank site) (knows : site.Knows known)
    (works : TransactionWorks) (call : JournalAdvance)
    (asked : site.pending.isSome = true ∨ 2 ≤ site.mirrorState)
    (housed : site.nativeExists = true) :
    Answered ownerId isBlank known (.advanceCutoverJournal call)
      (decide ((site.db.advanceCutoverJournal ownerId works call).1 = .ok))
      { site with db := (site.db.advanceCutoverJournal ownerId works call).2 } := by
  by_cases done : (site.db.advanceCutoverJournal ownerId works call).1 = .ok
  · have written := advance_ok base.shaped done
    refine ⟨base.advance asked housed works call, ?_⟩
    rw [decide_eq_true done, written]
    refine { knows with journal := ?_, journaled := ?_, top := ?_ }
    · rintro _ _ ⟨⟩
      exact JournaledDb.latest_single _
    · exact fun _ => List.cons_ne_nil _ _
    · intro state bound
      change (if call.expectedState = -1 then some (-1) else known.top) = some state at bound
      split at bound
      · rename_i first
        have absent := advance_first base.shaped done first
        obtain rfl := Option.some.inj bound
        have unmirrored : site.mirror = none := by
          cases mirror : site.mirror with
          | none => rfl
          | some evidence => exact absurd absent (base.mirrored evidence mirror).1
        simp [mirrorState, unmirrored]
      · exact knows.top state bound
  · rw [decide_eq_false done, advance_failed base.shaped done]
    exact ⟨base, { knows with journal := nofun, settled := nofun }⟩

theorem Base.readMirror (base : Base ownerId isBlank site) (knows : site.Knows known)
    (readable : Bool) : Answered ownerId isBlank known .readMirror
      (match site.mirror with
        | none => MirrorRead.missing
        | some evidence => if readable then .valid evidence else .corrupt) site := by
  refine ⟨base, ?_⟩
  cases mirror : site.mirror with
  | none =>
      refine { knows with mirror := nofun, top := ?_ }
      rintro _ ⟨⟩
      simp [mirrorState, mirror]
  | some evidence =>
      cases readable with
      | false => exact knows
      | true =>
          have state : site.mirrorState = evidence.state := by simp [mirrorState, mirror]
          refine { knows with mirror := ?_, top := ?_, fenced := ?_ }
          · rintro _ ⟨⟩
            exact mirror
          · rintro _ ⟨⟩
            exact Int.le_of_eq state
          · intro fenced
            rcases Bool.or_eq_true_iff.mp fenced with fenced | late
            · exact knows.fenced fenced
            · exact base.fenced (state ▸ of_decide_eq_true late)

theorem Base.writeMirror (base : Base ownerId isBlank site) (knows : site.Knows known)
    (write : MirrorWrite) (evidence : CutoverEvidence)
    (allowed : (siteMonitor ownerId).allows known (.writeMirror evidence)) :
    Answered ownerId isBlank known (.writeMirror evidence)
      (site.writeMirror isBlank write evidence).1 (site.writeMirror isBlank write evidence).2 := by
  have mirrors := Knows.mirrors base knows allowed
  obtain same | ⟨valid, answered, same⟩ := @writeMirror_cases _ isBlank site write evidence
  · rw [same]
    refine ⟨base, { knows with mirror := nofun, top := ?_ }⟩
    rintro _ ⟨⟩
    exact mirrors.above
  · rw [same]
    refine ⟨base.store mirrors valid, { knows with mirror := ?_, top := ?_ }⟩
    · intro old remembered
      cases answered with
      | false => exact nomatch remembered
      | true => exact remembered
    · rintro _ ⟨⟩
      exact Int.le_refl _

theorem Base.freeze (base : Base ownerId isBlank site) (knows : site.Knows known)
    (epoch updatedAt : Int) (asked : known.requested = some true) (stores : Bool)
    (reply : FreezeReply) : Answered ownerId isBlank known (.freeze epoch updatedAt) reply
      (if stores || reply = .frozen then { site with fence := some epoch } else site) := by
  have pending : site.pending.isSome = true := knows.requested true asked
  split
  · refine ⟨{ base with unrequested := fun absent => ?_, fenced := fun _ => rfl },
      { knows with fenced := fun _ => rfl }⟩
    rw [absent] at pending
    exact nomatch pending
  · rename_i unstored
    refine ⟨base, { knows with fenced := fun fenced => ?_ }⟩
    rcases Bool.or_eq_true_iff.mp fenced with fenced | reply
    · exact knows.fenced fenced
    · exact absurd (Bool.or_eq_true_iff.mpr (.inr reply)) unstored

theorem Base.unfreeze (base : Base ownerId isBlank site) (knows : site.Knows known)
    (epoch : Int) (low : known.atMost 0) (stores : Bool) :
    Answered ownerId isBlank known (.unfreeze epoch) ()
      (if stores ∧ site.fence = some epoch then { site with fence := none } else site) := by
  have low := knows.atMost low
  split
  · refine ⟨{ base with unrequested := fun pending => ?_, fenced := fun high => ?_ },
      { knows with fenced := nofun }⟩
    · rcases base.unrequested pending with high | ⟨journal, mirror, _⟩
      · exact .inl high
      · exact .inr ⟨journal, mirror, rfl⟩
    · exact absurd (Int.le_trans high low) (by decide)
  · exact ⟨base, { knows with fenced := nofun }⟩

theorem Base.clearRequest (base : Base ownerId isBlank site) (knows : site.Knows known)
    (committed : ∃ evidence ∈ known.mirror, 2 ≤ evidence.state) (stores : Bool) :
    Answered ownerId isBlank known .clearRequest ()
      (if stores then { site with pending := none } else site) := by
  obtain ⟨evidence, remembered, high⟩ := committed
  have state : 2 ≤ site.mirrorState := by
    simpa [mirrorState, knows.mirror evidence remembered] using high
  split
  · exact ⟨{ base with unrequested := fun _ => .inl state, late := fun _ => .inr state },
      { knows with requested := nofun }⟩
  · exact ⟨base, { knows with requested := nofun }⟩

theorem answer_quiet (luck : SiteLuck) {op : CutoverOp} (quiet : op.Quiet) :
    (site.answer ownerId isBlank luck op).2 = site ∨ ∃ there,
      (site.nativeExists = true → there = true) ∧
      (site.answer ownerId isBlank luck op).2 = { site with nativeExists := there } := by
  cases op with
  | getCutoverJournal | advanceCutoverJournal | readMirror | writeMirror | freeze | unfreeze
  | pendingRequest | clearRequest => exact quiet.elim
  | openAccountDatabase =>
      refine .inr ⟨_, fun already => ?_, rfl⟩
      rw [already]
      rfl
  | _ => exact .inl rfl

theorem Base.quiet (base : Base ownerId isBlank site) (knows : site.Knows known) (luck : SiteLuck)
    {op : CutoverOp} (quiet : op.Quiet) :
    Answered ownerId isBlank known op (site.answer ownerId isBlank luck op).1
      (site.answer ownerId isBlank luck op).2 := by
  have same := @quiet_learn known op quiet (site.answer ownerId isBlank luck op).1
  obtain still | ⟨there, kept, still⟩ := @answer_quiet _ ownerId isBlank site luck op quiet
  · rw [still]
    exact ⟨base, same.symm ▸ knows⟩
  · rw [still]
    refine ⟨{ base with housed := fun there => kept (base.housed there) }, ?_⟩
    rw [same]
    exact { knows with }

theorem answer_advance (luck : SiteLuck) (call : JournalAdvance) :
    site.answer ownerId isBlank luck (.advanceCutoverJournal call) =
      if !site.nativeExists then (false, site)
      else if !luck.waits then (false, { site with late := site.late ++ [call] })
      else
        (decide ((site.db.advanceCutoverJournal ownerId luck.works call).1 = .ok),
          { site with db := (site.db.advanceCutoverJournal ownerId luck.works call).2 }) := rfl

theorem Base.answer (base : Base ownerId isBlank site) (knows : site.Knows known)
    (luck : SiteLuck) (op : CutoverOp) (allowed : (siteMonitor ownerId).allows known op) :
    Answered ownerId isBlank known op (site.answer ownerId isBlank luck op).1
      (site.answer ownerId isBlank luck op).2 := by
  cases op with
  | getCutoverJournal => exact base.getCutoverJournal knows luck.readable
  | advanceCutoverJournal call =>
      have asked := base.requested knows allowed
      rw [answer_advance]
      split
      · exact ⟨base, { knows with journal := nofun, settled := nofun }⟩
      · rename_i housed
        simp only [Bool.not_eq_true', Bool.not_eq_false] at housed
        split
        · exact base.advanceLate knows call asked housed
        · exact base.advanceCutoverJournal knows luck.works call asked housed
  | readMirror => exact base.readMirror knows luck.readable
  | writeMirror evidence => exact base.writeMirror knows luck.mirror evidence allowed
  | freeze epoch updatedAt => exact base.freeze knows epoch updatedAt allowed luck.stores _
  | unfreeze epoch => exact base.unfreeze knows epoch allowed luck.stores
  | pendingRequest =>
      refine ⟨base, { knows with requested := ?_ }⟩
      rintro _ ⟨⟩
      rfl
  | clearRequest => exact base.clearRequest knows allowed luck.stores
  | _ => exact base.quiet knows luck trivial

def Settled (site : CutoverSite Business) : Startup → Prop
  | .legacy => site.db.journal = [] ∧ site.mirror = none ∧ site.fence = none ∧ site.late = []
  | .migrating _ => site.mirrorState ≤ 1 ∧ site.late = []
  | .native => 2 ≤ site.mirrorState ∧ site.late = []
  | .repair => True

def Lives (ownerId : Int) (site : CutoverSite Business) : CutoverProcess → Prop
  | .dead => site.late = []
  | .deciding program => ∃ known,
      program.Obeys (siteMonitor ownerId) Startup.ends known ∧ site.Knows known
  | .started startup => site.Settled startup

structure Sound (ownerId : Int) (isBlank : Bytes → Bool) (site : CutoverSite Business) : Prop where
  base : Base ownerId isBlank site
  lives : site.Lives ownerId site.process

def Matched (ownerId : Int) (site : CutoverSite Business) : Prop :=
  ∃ row evidence, latest site.db.journal = some row ∧ site.mirror = some evidence ∧
    (row.state = .nativeCommittedNoWrite ∨ row.state = .nativeCommittedDirty) ∧
    CutoverRecoverySelector.Agrees ownerId row evidence

theorem Base.process (base : Base ownerId isBlank site) (process : CutoverProcess) :
    Base ownerId isBlank { site with process := process } := { base with }

theorem Knows.process (knows : site.Knows known) (process : CutoverProcess) :
    ({ site with process := process } : CutoverSite Business).Knows known := { knows with }

theorem Base.matched (base : Base ownerId isBlank site) (knows : site.Knows known)
    (ends : Startup.ends known .native) : site.Matched ownerId := by
  obtain ⟨settled, row, journal, evidence, mirror, committed, state, epoch, highWater, schema, key,
    summary, updated⟩ := ends
  have mirrored := knows.mirror evidence mirror
  obtain ⟨_, owner, ⟨keyPlain, summaryPlain⟩, _⟩ := base.mirrored evidence mirrored
  rw [cstr_bytes keyPlain, or_self] at key
  rw [cstr_bytes summaryPlain, or_self] at summary
  refine ⟨row, evidence, knows.journal settled row journal, mirrored, ?_, owner, state, epoch, ?_⟩
  · cases place : row.state <;> rw [place] at committed
    · exact absurd committed (by decide)
    · exact absurd committed (by decide)
    · exact .inl rfl
    · exact .inr rfl
  · simp [CutoverRecoverySelector.matchesMirror, highWater, schema, key, summary, updated]

theorem Base.settles (base : Base ownerId isBlank site) (knows : site.Knows known)
    {startup : Startup} (ends : Startup.ends known startup) : site.Settled startup := by
  cases startup with
  | repair => trivial
  | migrating epoch => exact ⟨knows.atMost ends.2, knows.settled ends.1⟩
  | native =>
      obtain ⟨row, evidence, _, mirrored, committed, agrees⟩ := base.matched knows ends
      refine ⟨?_, knows.settled ends.1⟩
      have state : site.mirrorState = row.state.toInt := by
        simp [mirrorState, mirrored, agrees.state]
      rw [state]
      rcases committed with committed | committed <;> rw [committed] <;> decide
  | legacy =>
      obtain ⟨asked, low⟩ := ends
      have pending := knows.requested false asked
      have low := knows.atMost low
      have absent : site.pending = none :=
        Option.isNone_iff_eq_none.mp (Option.isSome_eq_false_iff.mp pending)
      rcases base.unrequested absent with high | ⟨journal, mirror, fence⟩
      · omega
      · refine ⟨journal, mirror, fence, ?_⟩
        by_contra waiting
        rcases base.late waiting with asked | high
        · rw [pending] at asked
          exact nomatch asked
        · omega

theorem Base.lives (base : Base ownerId isBlank site) (knows : site.Knows known)
    {program : CutoverProgram Startup}
    (obeys : program.Obeys (siteMonitor ownerId) Startup.ends known) :
    Sound ownerId isBlank { site with process := .of program } ∧
      (CutoverProcess.of program = .started .native → site.Matched ownerId) := by
  cases program with
  | done startup =>
      refine ⟨⟨base.process _, base.settles knows obeys⟩, ?_⟩
      rintro ⟨⟩
      exact base.matched knows obeys
  | ask op next => exact ⟨⟨base.process _, known, obeys, knows.process _⟩, nofun⟩

theorem knows_nothing (settled : site.late = []) : site.Knows {} where
  requested := nofun
  journal _ _ := nofun
  journaled := nofun
  settled _ := settled
  mirror := nofun
  top := nofun
  fenced := nofun

/-! What one event does. -/

structure Steps (ownerId : Int) (isBlank : Bytes → Bool) (site after : CutoverSite Business) :
    Prop where
  sound : Sound ownerId isBlank after
  chosen : after.process = .started .native →
    site.process = .started .native ∨ after.Matched ownerId

theorem Sound.steps (sound : Sound ownerId isBlank site) : Steps ownerId isBlank site site :=
  ⟨sound, .inl⟩

theorem Base.goesOn (base : Base ownerId isBlank site) (knows : site.Knows known)
    {program : CutoverProgram Startup} (before : CutoverSite Business)
    (obeys : program.Obeys (siteMonitor ownerId) Startup.ends known) :
    Steps ownerId isBlank before { site with process := .of program } := by
  obtain ⟨sound, matched⟩ := base.lives knows obeys
  exact ⟨sound, fun native => .inr (matched native)⟩

theorem coldStart_steps (sound : Sound ownerId isBlank site) :
    Steps ownerId isBlank site (site.step ownerId isBlank .coldStart) := by
  obtain ⟨base, lives⟩ := sound
  simp only [step]
  split
  · rename_i dead
    rw [dead] at lives
    exact base.goesOn (knows_nothing lives) site JitongApplication.onCreate_obeys
  · exact Sound.steps ⟨base, lives⟩

theorem migrate_steps (sound : Sound ownerId isBlank site) (pages : Nat) :
    Steps ownerId isBlank site (site.step ownerId isBlank (.migrate pages)) := by
  obtain ⟨base, lives⟩ := sound
  simp only [step]
  split
  · rename_i epoch migrating
    rw [migrating] at lives
    exact base.goesOn (knows_nothing lives.2) site
      (JitongApplication.completePendingCutover_obeys pages)
  · exact Sound.steps ⟨base, lives⟩

theorem advance_steps (sound : Sound ownerId isBlank site) (luck : SiteLuck) :
    Steps ownerId isBlank site (site.step ownerId isBlank (.advance luck)) := by
  obtain ⟨base, lives⟩ := sound
  simp only [step]
  split
  · rename_i op next asking
    rw [asking] at lives
    obtain ⟨known, ⟨allowed, rest⟩, knows⟩ := lives
    have answered := base.answer knows luck op allowed
    exact answered.base.goesOn answered.knows site (rest _)
  · exact Sound.steps ⟨base, lives⟩

theorem advance_journaled (shaped : site.db.Shaped) (works : TransactionWorks)
    (call : JournalAdvance) (there : site.db.journal ≠ []) :
    (site.db.advanceCutoverJournal ownerId works call).2.journal ≠ [] := by
  by_cases done : (site.db.advanceCutoverJournal ownerId works call).1 = .ok
  · rw [advance_ok shaped done]
    exact List.cons_ne_nil _ _
  · rw [advance_failed shaped done]
    exact there

theorem land_steps (sound : Sound ownerId isBlank site) (index : Nat) (works : TransactionWorks) :
    Steps ownerId isBlank site (site.step ownerId isBlank (.land index works)) := by
  obtain ⟨base, lives⟩ := sound
  simp only [step]
  split
  · rename_i call found
    have waiting : site.late ≠ [] := by
      intro none
      rw [none] at found
      exact nomatch found
    have asked := base.late waiting
    have housed := base.housed (.inr waiting)
    have advanced := base.advance asked housed works call
    refine ⟨⟨{ advanced with late := fun _ => asked, housed := fun _ => housed }, ?_⟩, .inl⟩
    cases process : site.process with
    | dead =>
        rw [process] at lives
        exact absurd lives waiting
    | deciding program =>
        rw [process] at lives
        obtain ⟨known, obeys, knows⟩ := lives
        exact ⟨known, obeys, {
          requested := knows.requested
          journal := fun settled => absurd (knows.settled settled) waiting
          journaled := fun journaled =>
            advance_journaled base.shaped works call (knows.journaled journaled)
          settled := fun settled => absurd (knows.settled settled) waiting
          mirror := knows.mirror
          top := knows.top
          fenced := knows.fenced }⟩
    | started startup =>
        rw [process] at lives
        cases startup with
        | legacy => exact absurd lives.2.2.2 waiting
        | migrating epoch => exact absurd lives.2 waiting
        | native => exact absurd lives.2 waiting
        | repair => trivial
  · exact Sound.steps ⟨base, lives⟩

theorem kill_steps (sound : Sound ownerId isBlank site) :
    Steps ownerId isBlank site (site.step ownerId isBlank .kill) :=
  ⟨⟨{ sound.base with
      late := fun late => absurd rfl late
      housed := fun there => sound.base.housed (there.imp_right fun late => absurd rfl late) },
    rfl⟩, nofun⟩

theorem schedule_steps (sound : Sound ownerId isBlank site) (epoch : Int) :
    Steps ownerId isBlank site (site.step ownerId isBlank (.schedule epoch)) := by
  simp only [step]
  split
  · rename_i legacy
    split
    · obtain ⟨base, lives⟩ := sound
      rw [legacy] at lives
      refine ⟨⟨{ base with unrequested := nofun, late := fun _ => .inl rfl }, ?_⟩, .inl⟩
      rw [show ({ site with pending := some epoch } : CutoverSite Business).process = site.process
        from rfl, legacy]
      exact lives
    · exact sound.steps
  · exact sound.steps

theorem Base.mirrorState_le (base : Base ownerId isBlank site) : site.mirrorState ≤ 3 := by
  cases mirror : site.mirror with
  | none => simp [mirrorState, mirror]
  | some evidence =>
      obtain ⟨_, _, _, valid⟩ := base.mirrored evidence mirror
      simp only [CutoverEvidence.valid, Bool.and_eq_true, decide_eq_true_eq] at valid
      simp only [mirrorState, mirror, Option.map_some, Option.getD_some]
      omega

theorem Base.wrote_ok (base : Base ownerId isBlank site) (high : 2 ≤ site.mirrorState)
    {db : JournaledDb Business} (shaped : db.Shaped)
    (clean : ∀ row ∈ db.journal, 0 ∉ row.keyId ∧ 0 ∉ row.summary) (there : db.journal ≠ [])
    (housed : site.nativeExists = true) :
    Base ownerId isBlank { site with db := db, wrote := true } :=
  { base.journal shaped clean there (.inr high) housed with wrote := fun _ => high }

theorem Base.tells (base : Base ownerId isBlank site) {row : JournalRow}
    (known : site.db.journal = [row]) (dirty : row.state = .nativeCommittedDirty)
    (native : site.process = .started .native) (settled : site.Settled .native)
    (write : MirrorWrite) :
    Sound ownerId isBlank (site.writeMirror isBlank write (CutoverEvidence.ofRow ownerId row)).2 := by
  obtain ⟨high, landed⟩ := settled
  have state : (CutoverEvidence.ofRow ownerId row).state = 3 := by
    simp [CutoverEvidence.ofRow, dirty, CutoverJournalState.toInt]
  have mirrors : Mirrors ownerId site (CutoverEvidence.ofRow ownerId row) := {
    journaled := by
      rw [known]
      exact List.cons_ne_nil _ _
    above := by
      rw [state]
      exact base.mirrorState_le
    fenced := fun _ => base.fenced (by omega)
    clean := base.clean row (by rw [known]; exact List.mem_singleton_self row)
    owner := rfl }
  obtain same | ⟨valid, answered, same⟩ :=
    @writeMirror_cases _ isBlank site write (CutoverEvidence.ofRow ownerId row)
  · rw [same]
    refine ⟨base, ?_⟩
    rw [native]
    exact ⟨high, landed⟩
  · rw [same]
    refine ⟨base.store mirrors valid, (congrArg (Lives ownerId _) native).mpr ⟨?_, landed⟩⟩
    simp [mirrorState, state]

theorem business_steps (sound : Sound ownerId isBlank site)
    (fn : Option (Business → WriteOutcome Business)) (works : TransactionWorks) (now : Int)
    (mirror : MirrorWrite) (native : site.process = .started .native) :
    Steps ownerId isBlank site (site.business ownerId isBlank fn works now mirror) := by
  refine ⟨?_, fun _ => .inl native⟩
  have whole := sound
  obtain ⟨base, lives⟩ := sound
  rw [native] at lives
  obtain ⟨high, landed⟩ := lives
  have there : site.db.journal ≠ [] := by
    cases stored : site.mirror with
    | none => simp [mirrorState, stored] at high
    | some evidence => exact (base.mirrored evidence stored).1
  have housed := base.housed (.inl there)
  have settles := JournaledDb.step_cases ownerId base.shaped (.business fn works now)
  simp only [JournaledDb.step] at settles
  unfold business
  generalize site.db.submitBusinessSync works now fn = outcome at settles
  obtain ⟨result, db⟩ := outcome
  rcases settles with ⟨failed, same⟩ | ⟨done, writes⟩
  · simp only at failed
    simpa only [ne_eq, failed, not_false_eq_true, if_true] using whole
  simp only at done writes
  simp only [done, ne_eq, not_true, if_false]
  have shaped := writes.shaped base.shaped
  cases writes with
  | ungated none => exact absurd none there
  | @dirtied _ _ _ row written known unwritten =>
      have marked : JournaledDb.markDirty site.db.journal row.epoch now =
          [{ row with
              state := .nativeCommittedDirty
              dirty := true
              updatedAt := max (row.updatedAt + 1) now }] := by
        simp [known, JournaledDb.markDirty, unwritten]
      have clean := base.clean row (by rw [known]; exact List.mem_singleton_self row)
      have found : latest site.db.journal = some row := by rw [known, JournaledDb.latest_single]
      rw [marked] at shaped
      simp only [marked, found, JournaledDb.latest_single, unwritten, if_true]
      have wrote : Base ownerId isBlank _ := base.wrote_ok high shaped
        (fun later member => by
          obtain rfl := List.mem_singleton.mp member
          exact clean) (List.cons_ne_nil _ _) housed
      exact wrote.tells rfl rfl native ⟨high, landed⟩ mirror
  | @later _ _ _ row written known dirty =>
      have found : latest site.db.journal = some row := by rw [known, JournaledDb.latest_single]
      simp only [found, dirty, reduceCtorEq, if_false]
      refine ⟨base.wrote_ok high shaped base.clean there housed, ?_⟩
      rw [native]
      exact ⟨high, landed⟩

theorem Sound.step (sound : Sound ownerId isBlank site) (event : SiteEvent Business) :
    Steps ownerId isBlank site (site.step ownerId isBlank event) := by
  cases event with
  | coldStart => exact coldStart_steps sound
  | migrate pages => exact migrate_steps sound pages
  | advance luck => exact advance_steps sound luck
  | land index works => exact land_steps sound index works
  | kill => exact kill_steps sound
  | schedule epoch => exact schedule_steps sound epoch
  | business fn works now mirror =>
      simp only [CutoverSite.step]
      split
      · rename_i native
        exact business_steps sound fn works now mirror native
      · exact sound.steps

theorem opened_sound (business : Business) : Sound ownerId isBlank (opened business) where
  base := {
    shaped := .inl rfl
    clean := nofun
    unrequested := fun _ => .inr ⟨rfl, rfl, rfl⟩
    fenced := fun high => absurd high (show ¬(1 : Int) ≤ -1 by decide)
    wrote := nofun
    mirrored := nofun
    late := fun late => absurd rfl late
    housed := fun there => absurd there (by simp [opened]) }
  lives := rfl

theorem run_sound (business : Business) (events : List (SiteEvent Business)) :
    Sound ownerId isBlank ((opened business).run ownerId isBlank events) :=
  List.foldlRecOn events _ (opened_sound business) fun _ sound event _ => (sound.step event).sound

/-! A journal that is prepared. -/

def Reaches (ownerId : Int) (isBlank : Bytes → Bool) (luck : SiteLuck) (site : CutoverSite Business)
    (holds : CutoverSite Business → Prop) : Prop :=
  ∃ count, holds (site.run ownerId isBlank (List.replicate count (.advance luck)))

variable {holds : CutoverSite Business → Prop}

theorem reaches_ask {op : CutoverOp} {next : op.Reply → CutoverProgram Startup} {reply : op.Reply}
    {after : CutoverSite Business} (asking : site.process = .deciding (.ask op next))
    (answered : site.answer ownerId isBlank luck op = (reply, after))
    (rest : Reaches ownerId isBlank luck { after with process := .of (next reply) } holds) :
    Reaches ownerId isBlank luck site holds := by
  obtain ⟨count, there⟩ := rest
  have stepped : site.step ownerId isBlank (.advance luck) =
      { after with process := .of (next reply) } := by
    simp only [step, asking, answered]
  refine ⟨count + 1, ?_⟩
  rw [List.replicate_succ, run, List.foldl_cons, stepped]
  exact there

theorem reaches_as {program same : CutoverProgram Startup} (equal : program = same)
    (rest : Reaches ownerId isBlank luck { site with process := .of same } holds) :
    Reaches ownerId isBlank luck { site with process := .of program } holds := equal ▸ rest

def completes (old : CutoverEvidence) (ownerId committedAt : Int) : JournalAdvance where
  ownerId := ownerId
  epoch := old.epoch
  expectedState := 1
  target := .nativeCommittedNoWrite
  highWater := old.highWater
  schemaVersion := old.schemaVersion
  keyId := old.keyId
  summary := old.summary
  updatedAt := committedAt

theorem settle_prepared {row : JournalRow} {evidence : CutoverEvidence}
    (agrees : CutoverRecoverySelector.Agrees ownerId row evidence) (prepared : row.state = .prepared)
    (valid : evidence.valid isBlank = true) :
    JitongApplication.settle ownerId (some (some row)) (.valid evidence) true =
      .ask .now fun (committedAt : Int) =>
        .ask (.advanceCutoverJournal (completes evidence ownerId committedAt)) fun (advanced : Bool) =>
          if !advanced then .done .repair
          else
            .ask (.writeMirror { evidence with state := 2, updatedAt := committedAt })
              fun (written : Bool) => if !written then .done .repair else .done .native := by
  simp only [CutoverEvidence.valid, Bool.and_eq_true, decide_eq_true_eq] at valid
  obtain ⟨⟨⟨⟨⟨⟨⟨owned, epoch⟩, _⟩, _⟩, _⟩, _⟩, _⟩, _⟩ := valid
  rw [agrees.owner] at owned
  have state : evidence.state = 1 := by
    rw [← agrees.state, prepared]
    rfl
  have place : row.state.toInt = 1 := by rw [prepared]; rfl
  have legacy : CutoverRecoverySelector.resolve ownerId (some (some row)) (.valid evidence) true true =
      .legacy := by
    simp [CutoverRecoverySelector.resolve, CutoverRecoverySelector.valid,
      CutoverRecoverySelector.dbState, CutoverRecoverySelector.mirrorState, place, state, agrees.owner,
      agrees.epoch, epoch, agrees.same, Int.not_le.mpr owned]
  unfold JitongApplication.settle
  rw [legacy]
  simp only [CutoverRecoverySelector.dbState, place, true_and, if_true]
  rfl

theorem advance_prepared {row : JournalRow} {evidence : CutoverEvidence}
    (found : latest site.db.journal = some row) (prepared : row.state = .prepared)
    (agrees : CutoverRecoverySelector.Agrees ownerId row evidence)
    (valid : evidence.valid isBlank = true) {committedAt : Int} (later : 0 < committedAt) :
    (site.db.advanceCutoverJournal ownerId {} (completes evidence ownerId committedAt)).1 = .ok := by
  simp only [CutoverEvidence.valid, Bool.and_eq_true, decide_eq_true_eq] at valid
  obtain ⟨⟨⟨⟨⟨⟨⟨owned, epoch⟩, _⟩, _⟩, highWater⟩, schema⟩, ⟨key, _⟩⟩, _⟩ := valid
  rw [agrees.owner] at owned
  have allowed : (completes evidence ownerId committedAt).valid ownerId = true := by
    simp [JournalAdvance.valid, completes, owned, epoch, highWater, schema, later, key]
  have permitted :
      (completes evidence ownerId committedAt).permitted (latest site.db.journal) = true := by
    rw [found]
    simp [JournalAdvance.permitted, JournalAdvance.current, completes, prepared, agrees.epoch,
      CutoverJournalState.toInt]
  have agreed : (completes evidence ownerId committedAt).agrees (latest site.db.journal) = true := by
    rw [found]
    simp [JournalAdvance.agrees, completes, prepared]
  simp [JournaledDb.advanceCutoverJournal, allowed, runTransaction, JournaledDb.advance, permitted,
    agreed]

theorem answer_mirror (readable : luck.readable = true) {evidence : CutoverEvidence}
    (mirrored : site.mirror = some evidence) :
    site.answer ownerId isBlank luck .readMirror = (MirrorRead.valid evidence, site) := by
  change (match site.mirror with
    | none => MirrorRead.missing
    | some evidence => if luck.readable then .valid evidence else .corrupt, site) = _
  rw [mirrored]
  simp only [readable, if_true]

theorem answer_open (opens : luck.other .openAccountDatabase = true) :
    site.answer ownerId isBlank luck .openAccountDatabase =
      (true, { site with nativeExists := true }) := by
  change ((luck.other .openAccountDatabase : Bool), { site with
    nativeExists := site.nativeExists || luck.stores || (luck.other .openAccountDatabase : Bool) }) = _
  rw [opens, Bool.or_true]
  rfl

theorem answer_journal (readable : luck.readable = true) {row : JournalRow}
    (found : latest site.db.journal = some row) :
    site.answer ownerId isBlank luck .getCutoverJournal = (some (some row), site) := by
  change (if luck.readable then some (latest site.db.journal) else none, site) = _
  simp only [readable, if_true, found]

theorem answer_completes (works : luck.Works) (shaped : site.db.Shaped)
    (housed : site.nativeExists = true) {call : JournalAdvance}
    (done : (site.db.advanceCutoverJournal ownerId {} call).1 = .ok) :
    site.answer ownerId isBlank luck (.advanceCutoverJournal call) =
      (true, { site with db := { site.db with journal := [call.row] } }) := by
  rw [answer_advance, housed, works.waits, works.transaction, advance_ok shaped done, done]
  rfl

theorem answer_stores (works : luck.Works) {evidence : CutoverEvidence}
    (valid : evidence.valid isBlank = true) :
    site.answer ownerId isBlank luck (.writeMirror evidence) =
      (true, { site with mirror := some evidence }) := by
  change site.writeMirror isBlank luck.mirror evidence = _
  simp only [writeMirror, valid, Bool.not_true, Bool.false_eq_true, if_false, works.mirror]

theorem answer_clear (stores : luck.stores = true) :
    site.answer ownerId isBlank luck .clearRequest = ((), { site with pending := none }) := by
  change ((), if luck.stores then { site with pending := none } else site) = _
  rw [stores]
  rfl

theorem prepared_completed (base : Base ownerId isBlank site) (dead : site.process = .dead)
    {row : JournalRow} {evidence : CutoverEvidence} (found : latest site.db.journal = some row)
    (prepared : row.state = .prepared) (mirrored : site.mirror = some evidence)
    (agrees : CutoverRecoverySelector.Agrees ownerId row evidence) {luck : SiteLuck}
    (works : luck.Works) :
    Reaches ownerId isBlank luck (site.step ownerId isBlank .coldStart) fun after =>
      after.process = .started .native ∧ after.Matched ownerId ∧
        ∃ committed, latest after.db.journal = some committed ∧
          committed.state = .nativeCommittedNoWrite ∧ committed.epoch = row.epoch := by
  obtain ⟨there, _, ⟨keyPlain, summaryPlain⟩, valid⟩ := base.mirrored evidence mirrored
  have housed := base.housed (.inl there)
  have state : site.mirrorState = 1 := by
    simp only [mirrorState, mirrored, Option.map_some, Option.getD_some, ← agrees.state, prepared]
    rfl
  obtain ⟨epoch, pending⟩ : ∃ epoch, site.pending = some epoch := by
    cases pending : site.pending with
    | some epoch => exact ⟨epoch, rfl⟩
    | none =>
        rcases base.unrequested pending with high | ⟨absent, _, _⟩
        · omega
        · exact absurd absent there
  have done := advance_prepared found prepared agrees valid works.now
  have started : site.step ownerId isBlank .coldStart =
      { site with process := .of (JitongApplication.onCreate ownerId) } := by
    simp only [step, dead]
  have keyed : row.keyId ≠ [] := by
    have same := agrees.same
    simp only [CutoverRecoverySelector.matchesMirror, Bool.and_eq_true, decide_eq_true_eq] at same
    rw [same.1.1.2]
    simp only [CutoverEvidence.valid, Bool.and_eq_true, decide_eq_true_eq] at valid
    exact valid.1.2.1
  have parsed : CutoverRecoverySelector.parseDb (some (some row)) = some (some row) := if_neg keyed
  have settles := settle_prepared agrees prepared valid
  rw [← parsed] at settles
  have completed : ({ evidence with state := 2, updatedAt := luck.other .now } :
      CutoverEvidence).valid isBlank = true := by
    have now := works.now
    simp only [CutoverEvidence.valid, Bool.and_eq_true, decide_eq_true_eq] at valid ⊢
    exact ⟨⟨⟨⟨⟨⟨valid.1.1.1.1.1.1, by decide⟩, by decide⟩, valid.1.1.1.2⟩, valid.1.1.2⟩, valid.1.2⟩,
      now⟩
  have advanced (process : CutoverProcess) :
      ({ site with nativeExists := true, process := process } : CutoverSite Business).answer ownerId
          isBlank luck (.advanceCutoverJournal (completes evidence ownerId (luck.other .now))) =
        (true, { site with
          db := { site.db with journal := [(completes evidence ownerId (luck.other .now)).row] }
          nativeExists := true
          process := process }) :=
    @answer_completes _ _ _ { site with nativeExists := true, process := process } _ works base.shaped
      rfl _ done
  rw [started]
  refine reaches_ask rfl (congrArg (fun reply => (reply, _)) pending) ?_
  refine reaches_ask rfl (congrArg (fun reply => (reply, _)) works.loggedIn) ?_
  refine reaches_ask rfl (answer_mirror works.readable mirrored) ?_
  refine reaches_ask rfl (congrArg (fun reply => (reply, _)) housed) ?_
  refine reaches_ask rfl (congrArg (fun reply => (reply, _)) works.starts) ?_
  refine reaches_ask rfl (answer_open works.opens) ?_
  refine reaches_ask rfl (answer_journal works.readable found) ?_
  refine reaches_ask rfl (congrArg (fun reply => (reply, _)) works.selfTest) ?_
  refine reaches_as (congrArg (Program.bind · _) settles) ?_
  refine reaches_ask rfl rfl ?_
  refine reaches_ask rfl (advanced _) ?_
  refine reaches_ask rfl (answer_stores works completed) ?_
  refine reaches_ask rfl (answer_clear works.stores) ?_
  have key : (cstr evidence.keyId).bytes = evidence.keyId := cstr_bytes keyPlain
  have summary : (cstr evidence.summary).bytes = evidence.summary := cstr_bytes summaryPlain
  refine ⟨0, rfl, ⟨_, _, JournaledDb.latest_single _, rfl, .inl rfl, agrees.owner, rfl, rfl, ?_⟩, _,
    JournaledDb.latest_single _, rfl, agrees.epoch.symm⟩
  refine Bool.and_eq_true_iff.mpr ⟨?_, decide_eq_true_iff.mpr rfl⟩
  simp [completes, JournalAdvance.row, key, summary]

structure RecoverySafe (ownerId : Int) (isBlank : Bytes → Bool) (site : CutoverSite Business) :
    Prop where
  legacy : site.process = .started .legacy → site.wrote = false ∧ site.fence = none
  migrating : ∀ epoch, site.process = .started (.migrating epoch) → site.wrote = false
  native : ∀ event, site.process ≠ .started .native →
    (site.step ownerId isBlank event).process = .started .native →
      (site.step ownerId isBlank event).Matched ownerId
  exclusive : site.process = .started .native ∨ site.wrote = true → site.fence.isSome = true
  prepared : ∀ row evidence, site.process = .dead → latest site.db.journal = some row →
    row.state = .prepared → site.mirror = some evidence →
    CutoverRecoverySelector.Agrees ownerId row evidence → ∀ luck : SiteLuck, luck.Works →
      Reaches ownerId isBlank luck (site.step ownerId isBlank .coldStart) fun after =>
        after.process = .started .native ∧ after.Matched ownerId ∧
          ∃ committed, latest after.db.journal = some committed ∧
            committed.state = .nativeCommittedNoWrite ∧ committed.epoch = row.epoch

theorem Base.unwritten (base : Base ownerId isBlank site) (low : site.mirrorState ≤ 1) :
    site.wrote = false := by
  cases wrote : site.wrote with
  | false => rfl
  | true =>
      have high := base.wrote wrote
      omega

theorem recovery_safe (ownerId : Int) (isBlank : Bytes → Bool) (business : Business)
    (events : List (SiteEvent Business)) :
    RecoverySafe ownerId isBlank ((opened business).run ownerId isBlank events) := by
  have sound : Sound ownerId isBlank ((opened business).run ownerId isBlank events) :=
    run_sound business events
  generalize (opened business).run ownerId isBlank events = site at sound
  obtain ⟨base, lives⟩ := sound
  refine ⟨?_, ?_, ?_, ?_, ?_⟩
  · intro legacy
    rw [legacy] at lives
    obtain ⟨_, mirror, fence, _⟩ := lives
    refine ⟨base.unwritten ?_, fence⟩
    simp [mirrorState, mirror]
  · intro epoch migrating
    rw [migrating] at lives
    exact base.unwritten lives.1
  · intro event before after
    exact (Sound.step ⟨base, lives⟩ event).chosen after |>.resolve_left before
  · intro accepts
    refine base.fenced ?_
    rcases accepts with native | wrote
    · rw [native] at lives
      exact Int.le_trans (by decide) lives.1
    · exact Int.le_trans (by decide) (base.wrote wrote)
  · intro row evidence dead found prepared mirrored agrees luck works
    exact prepared_completed base dead found prepared mirrored agrees works

end CutoverSite

def CutoverProcess.startup : CutoverProcess → Option Startup
  | .started startup => some startup
  | _ => none

def calm : (op : CutoverOp) → op.Reply
  | .now => (1 : Int)
  | .highWater => some (0 : Int)
  | .getCutoverJournal => (none : Option (Option JournalRow))
  | .readMirror => MirrorRead.missing
  | .seedLegacyDeltaCheckpoint baseline => (.ok baseline : Except String Int)
  | .nextBatch _ => some ([] : List (Int × MigrationImporter.MigrationMessage))
  | .submitMigrationBatch _ => (.ok () : Except String Unit)
  | .nextConversationBatch _ => some ([] : List MigrationImporter.MigrationConversation)
  | .submitConversationBatch _ => (.ok () : Except String Unit)
  | .delta .getLegacyDeltaCheckpoint => some (some (0 : Int))
  | .delta (.nextChanges _ _) =>
      some (some ({ highWater := 0, changes := [], contiguous := true } : ChangePage))
  | .delta (.submitLegacyDeltaBatch after _) => some (DeltaResponse.ok after)
  | .delta (.deleteThrough _) => some ()
  | .freeze _ _ => FreezeReply.frozen
  | .unfreeze _ => ()
  | .summary => some ({} : MigrationSummary)
  | .finishMigration _ => (.ok () : Except String Unit)
  | .pendingRequest => (none : Option Int)
  | .clearRequest => ()
  | .advanceCutoverJournal _ | .writeMirror _ | .beginMigration | .stopAndDrain | .loggedIn
  | .nativeExists | .check _ | .openAccountDatabase | .runDatabaseSelfTest => true

def interrupted (questions : Nat) : List (SiteEvent Unit) :=
  let asked (count : Nat) : List (SiteEvent Unit) := List.replicate count (.advance { other := calm })
  .coldStart :: asked 4 ++ [.schedule 7, .kill, .coldStart] ++ asked 5 ++ [.migrate 1] ++
    asked questions ++ [.kill, .coldStart] ++ asked 12

namespace CutoverSite

/-- Stopped between the first journal and its mirror, the device is to be repaired; stopped behind
the fence, the migration is resumed with the fence as it is. -/
theorem recovery_not_binary :
    ((opened ()).run 1 (fun _ => false) (interrupted 12)).process.startup = some .repair ∧
      ((opened ()).run 1 (fun _ => false) (interrupted 25)).process.startup = some (.migrating 7) ∧
      ((opened ()).run 1 (fun _ => false) (interrupted 25)).fence = some 7 := by
  decide +kernel

end CutoverSite

end Jitong
