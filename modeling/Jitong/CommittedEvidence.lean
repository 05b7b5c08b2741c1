import Jitong.CutoverWorld

/-!
What a committed cutover says: its high water mark against the change log and the checkpoint, and
its counts against the native tables.
-/

namespace Jitong

open Lib MigrationImporter

/-- What `execute` knows of the two sides. `observed` is the high water mark that it read last,
`high` one that it read behind the fence after the last delta. -/
structure CopyKnown where
  delta : DeltaKnown := {}
  frozen : Bool := false
  observed : Option Int := none
  journal : Option Int := none
  high : Option Int := none
  summary : Option MigrationSummary := none
  finished : Option MigrationSummary := none

def CopyKnown.learn (known : CopyKnown) : (op : CutoverOp) → op.Reply → CopyKnown
  | .highWater, (reply : Option Int) =>
      match reply with
      | some mark =>
          { known with observed := some mark, high := if known.frozen then some mark else none }
      | none => known
  | .getCutoverJournal, (reply : Option (Option JournalRow)) =>
      match reply with
      | some (some row) => { known with journal := some row.highWater }
      | _ => known
  | .delta op, (reply : Option op.Reply) =>
      match reply with
      | some reply => { known with delta := known.delta.learn op reply, high := none }
      | none => known
  | .freeze _ _, (reply : FreezeReply) =>
      match reply with
      | .frozen => { known with frozen := true, delta := { known.delta with caught := false } }
      | _ => known
  | .unfreeze _, _ => { known with frozen := false, high := none }
  | .summary, (reply : Option MigrationSummary) =>
      match reply with
      | some summary => { known with summary := some summary }
      | none => known
  | .finishMigration expected, (reply : Except String Unit) =>
      match reply with
      | .ok _ => { known with finished := some expected }
      | .error _ => known
  | _, _ => known

def copyMonitor : Monitor CutoverOp.Reply CopyKnown where
  learn := CopyKnown.learn
  allows known
    | .advanceCutoverJournal call => known.observed = some call.highWater
    | .seedLegacyDeltaCheckpoint baseline =>
        known.observed = some baseline ∨ known.journal = some baseline
    | .delta op => deltaMonitor.allows known.delta op
    | .finishMigration expected => known.summary = some expected
    | _ => True

structure CopyKnown.Commits (known : CopyKnown) (mark : Int) : Prop where
  frozen : known.frozen = true
  caught : known.delta.caught = true
  high : known.high = some mark
  counted : ∃ summary, known.summary = some summary ∧ known.finished = some summary

def CopyKnown.Ends (known : CopyKnown) : CutoverResult → Prop
  | .committed _ mark => known.Commits mark
  | _ => True

/-! ### What `execute` asks -/

namespace CutoverMigrationCoordinator

variable {known : CopyKnown} {ownerId : Int}

/-- A part of `execute` that goes on leaves what `holds`, and does not commit. -/
def GoesOn {Value : Type} (holds : CopyKnown → Value → Prop) (known : CopyKnown) :
    Except CutoverResult Value → Prop
  | .error result => ∀ epoch mark, result ≠ .committed epoch mark
  | .ok value => holds known value

theorem uncommitted_ends {result : CutoverResult}
    (other : ∀ epoch mark, result ≠ .committed epoch mark) : known.Ends result := by
  cases result with
  | committed epoch mark => exact absurd rfl (other epoch mark)
  | _ => trivial

theorem baseline_tells (epoch now observed : Int) (read : known.observed = some observed) :
    (baseline ownerId epoch now observed).Obeys copyMonitor
      (GoesOn fun after value => after.observed = some value ∨ after.journal = some value) known := by
  refine ⟨trivial, ?_⟩
  rintro (_ | _ | journal)
  · exact nofun
  · refine ⟨read, ?_⟩
    intro (advanced : Bool)
    cases advanced with
    | false => exact nofun
    | true =>
        refine ⟨trivial, ?_⟩
        intro (written : Bool)
        cases written with
        | false => exact nofun
        | true => exact .inl read
  · refine ⟨trivial, ?_⟩
    rintro (_ | _ | saved)
    · exact nofun
    · exact nofun
    · simp only
      split
      · exact nofun
      · exact .inr rfl

theorem begin_tells (checkpoint : Int)
    (read : known.observed = some checkpoint ∨ known.journal = some checkpoint) :
    (begin checkpoint).Obeys copyMonitor (GoesOn fun _ _ => True) known := by
  refine ⟨trivial, ?_⟩
  intro (begun : Bool)
  cases begun with
  | false => exact nofun
  | true =>
      refine ⟨read, ?_⟩
      rintro (text | seeded)
      · exact nofun
      · simp only
        split
        · exact nofun
        · trivial

theorem messagePages_tells (pages : Nat) (cursor : Int) :
    (messagePages pages cursor).Obeys copyMonitor (GoesOn fun _ _ => True) known := by
  induction pages generalizing cursor with
  | zero => exact nofun
  | succ pages ih =>
      refine ⟨trivial, ?_⟩
      rintro (_ | batch)
      · exact nofun
      · simp only
        split
        · trivial
        · refine ⟨trivial, ?_⟩
          rintro (text | _)
          · exact nofun
          · simp only
            split
            · trivial
            · exact ih _

theorem conversationPages_tells (pages : Nat) (cursor : Int) :
    (conversationPages pages cursor).Obeys copyMonitor (GoesOn fun _ _ => True) known := by
  induction pages generalizing cursor with
  | zero => exact nofun
  | succ pages ih =>
      refine ⟨trivial, ?_⟩
      rintro (_ | batch)
      · exact nofun
      · simp only
        split
        · trivial
        · refine ⟨trivial, ?_⟩
          rintro (text | _)
          · exact nofun
          · simp only
            split
            · trivial
            · exact ih _

theorem deltas_tells {program : DeltaProgram}
    (obeys : program.Obeys deltaMonitor DeltaCall.catchUp.ends known.delta) :
    (deltas program).Obeys copyMonitor
      (GoesOn fun after _ => after.frozen = known.frozen ∧ after.delta.caught = true) known := by
  induction program generalizing known with
  | done result =>
      cases result with
      | caughtUp => exact ⟨rfl, obeys rfl rfl⟩
      | _ => exact nofun
  | ask op next ih =>
      obtain ⟨allowed, rest⟩ := obeys
      rw [deltas]
      refine ⟨allowed, ?_⟩
      rintro (_ | reply)
      · exact nofun
      · exact @ih reply (known.learn (.delta op) (some reply)) (rest reply)

theorem catchUp_tells : catchUp.Obeys copyMonitor
    (GoesOn fun after _ => after.frozen = known.frozen ∧ after.delta.caught = true) known :=
  deltas_tells (catchUpRounds_obeys 10000 known.delta)

theorem copy_tells (pages : Nat) (epoch : Int) :
    (copy pages ownerId epoch).Obeys copyMonitor (GoesOn fun _ _ => True) known := by
  refine ⟨trivial, fun now => ⟨trivial, ?_⟩⟩
  rintro (_ | observed)
  · exact nofun
  refine (baseline_tells epoch now observed rfl).bind ?_
  rintro known (result | checkpoint) goesOn
  · exact goesOn
  refine (begin_tells checkpoint goesOn).bind ?_
  rintro known (result | _) goesOn
  · exact goesOn
  refine (messagePages_tells pages 0).bind ?_
  rintro known (result | _) goesOn
  · exact goesOn
  refine (conversationPages_tells pages 0).bind ?_
  rintro known (result | _) goesOn
  · exact goesOn
  refine catchUp_tells.mono ?_
  rintro after (result | _) goesOn
  · exact goesOn
  · trivial

theorem freeze_tells (epoch : Int) : (freeze epoch).Obeys copyMonitor
    (GoesOn fun after _ => after.frozen = true) known := by
  refine ⟨trivial, ?_⟩
  intro (quiet : Bool)
  cases quiet with
  | false => exact nofun
  | true =>
      refine ⟨trivial, fun now => ⟨trivial, ?_⟩⟩
      rintro (_ | message | _)
      · rfl
      · exact nofun
      · exact nofun

theorem verify_tells (frozen : known.frozen = true) : verify.Obeys copyMonitor
    (GoesOn fun after value => after.Commits value.1 ∧ after.observed = some value.1) known := by
  refine catchUp_tells.bind ?_
  rintro known (result | _) goesOn
  · exact goesOn
  obtain ⟨same, caught⟩ := goesOn
  have frozen := same.trans frozen
  refine ⟨trivial, ?_⟩
  rintro (_ | final)
  · exact nofun
  refine ⟨trivial, ?_⟩
  rintro (_ | summary)
  · exact nofun
  refine ⟨rfl, ?_⟩
  rintro (text | _)
  · exact nofun
  · exact ⟨⟨frozen, caught, if_pos frozen, summary, rfl, rfl⟩, rfl⟩

theorem commit_tells (epoch preparedAt : Int) {final : Int} (summary : Bytes)
    (commits : known.Commits final) (read : known.observed = some final) :
    (commit ownerId epoch final summary preparedAt).Obeys copyMonitor CopyKnown.Ends known := by
  refine ⟨trivial, ?_⟩
  intro (mirrored : Bool)
  cases mirrored with
  | false => trivial
  | true =>
      refine ⟨trivial, fun committedAt => ⟨read, ?_⟩⟩
      intro (advanced : Bool)
      cases advanced with
      | false => trivial
      | true =>
          refine ⟨trivial, ?_⟩
          intro (mirrored : Bool)
          cases mirrored with
          | false => trivial
          | true => exact commits

theorem finishFrozen_tells (epoch : Int) (frozen : known.frozen = true) :
    (finishFrozen ownerId epoch).Obeys copyMonitor CopyKnown.Ends known := by
  refine (verify_tells frozen).bind ?_
  rintro known (result | ⟨final, summary⟩) goesOn
  · exact ⟨trivial, fun _ => uncommitted_ends goesOn⟩
  obtain ⟨commits, read⟩ := goesOn
  refine ⟨trivial, fun preparedAt => ⟨read, ?_⟩⟩
  intro (advanced : Bool)
  cases advanced with
  | false => exact ⟨trivial, fun _ => trivial⟩
  | true => exact commit_tells epoch preparedAt summary.text commits read

theorem execute_tells (pages : Nat) (epoch : Int) :
    (execute pages ownerId epoch).Obeys copyMonitor CopyKnown.Ends known := by
  unfold execute
  split
  · trivial
  refine (copy_tells pages epoch).bind ?_
  rintro known (result | _) goesOn
  · exact uncommitted_ends goesOn
  refine (freeze_tells epoch).bind ?_
  rintro known (result | _) frozen
  · exact uncommitted_ends frozen
  exact finishFrozen_tells epoch frozen

end CutoverMigrationCoordinator

def CutoverOp.Plain : CutoverOp → Prop
  | .advanceCutoverJournal _ | .freeze _ _ | .unfreeze _ => False
  | _ => True

/-! ### The two sides -/

def LoggedNumber (history : List LegacyDeltaChange) (number : Int) : Prop :=
  number = 0 ∨ ∃ c ∈ history, c.changeSeq = number

theorem LoggedNumber.mono {before after : List LegacyDeltaChange} {number : Int}
    (numbered : LoggedNumber before number) (grows : before <+: after) : LoggedNumber after number :=
  numbered.imp_right fun ⟨c, member, same⟩ => ⟨c, grows.subset member, same⟩

theorem ChangeLog.highWater_numbered {log : ChangeLog} {ownerId : Int}
    {history : List LegacyDeltaChange} (logged : ∀ c ∈ log.changesOf ownerId, c ∈ history) :
    LoggedNumber history (log.highWater ownerId) := by
  unfold highWater
  cases most : ((log.changesOf ownerId).map (·.changeSeq)).max? with
  | none => exact .inl rfl
  | some number =>
      obtain ⟨c, member, same⟩ := List.mem_map.mp (List.max?_mem most)
      exact .inr ⟨c, logged c member, same⟩

theorem ChangeLog.le_highWater {log : ChangeLog} {ownerId : Int} {c : LegacyDeltaChange}
    (member : c ∈ log.changesOf ownerId) : c.changeSeq ≤ log.highWater ownerId := by
  have listed : c.changeSeq ∈ (log.changesOf ownerId).map (·.changeSeq) :=
    List.mem_map.mpr ⟨c, member, rfl⟩
  unfold highWater
  cases most : ((log.changesOf ownerId).map (·.changeSeq)).max? with
  | none =>
      rw [List.max?_eq_none_iff] at most
      rw [most] at listed
      exact absurd listed List.not_mem_nil
  | some number => exact (List.max?_eq_some_iff.mp most).2 _ listed

namespace CutoverWorld

variable {ownerId : Int} {isBlank : Bytes → Bool} {world after : CutoverWorld} {known : CopyKnown}

/-- What holds of the two sides, whatever `execute` does. -/
structure Recorded (ownerId : Int) (world : CutoverWorld) : Prop where
  sound : DeltaWorld.Sound ownerId world.delta
  unnumbered : 0 ≤ world.delta.log.lastSeq
  positive : ∀ c ∈ world.delta.history, 0 < c.changeSeq
  checkpoint : LoggedNumber world.delta.history world.delta.checkpoint
  shaped : world.site.db.Shaped
  journal : ∀ row ∈ world.site.db.journal, LoggedNumber world.delta.history row.highWater
  lateJournal : ∀ call ∈ world.site.late, LoggedNumber world.delta.history call.highWater
  late : ∀ baseline, .seedLegacyDeltaCheckpoint baseline ∈ world.late →
    LoggedNumber world.delta.history baseline

structure Knows (ownerId : Int) (world : CutoverWorld) (known : CopyKnown) : Prop where
  delta : ∃ seen, world.delta.Knows seen known.delta ∧
    (known.frozen = true → known.delta.caught = true → world.delta.history.length ≤ seen)
  frozen : known.frozen = true → world.site.fence.isSome = true
  observed : ∀ mark, known.observed = some mark → LoggedNumber world.delta.history mark
  journal : ∀ mark, known.journal = some mark → LoggedNumber world.delta.history mark
  high : ∀ mark, known.high = some mark →
    known.frozen = true ∧ world.delta.log.highWater ownerId = mark
  summary : ∀ summary, known.summary = some summary → world.exported = some summary
  finished : ∀ summary, known.finished = some summary →
    world.delta.native.state = .verified ∧ world.delta.native.store.computeSummary = summary

/-- What everything leaves that is not a step of `execute`. -/
structure Still (world after : CutoverWorld) : Prop where
  grows : DeltaWorld.Grows world.delta after.delta
  fenced : world.site.fence.isSome = true → after.site.fence.isSome = true ∧
    after.delta.history = world.delta.history ∧ after.delta.log = world.delta.log
  exported : after.exported = world.exported
  run : after.run = world.run
  verified : world.delta.native.state = .verified →
    after.delta.native.state = .verified ∧ after.delta.native.store = world.delta.native.store

theorem Still.knows (still : Still world after) (knows : world.Knows ownerId known) :
    after.Knows ownerId known where
  delta := by
    obtain ⟨seen, delta, fresh⟩ := knows.delta
    refine ⟨seen, still.grows.knows delta, fun frozen caught => ?_⟩
    rw [(still.fenced (knows.frozen frozen)).2.1]
    exact fresh frozen caught
  frozen frozen := (still.fenced (knows.frozen frozen)).1
  observed mark read := (knows.observed mark read).mono still.grows.history
  journal mark read := (knows.journal mark read).mono still.grows.history
  high mark read := by
    obtain ⟨frozen, same⟩ := knows.high mark read
    rw [(still.fenced (knows.frozen frozen)).2.2]
    exact ⟨frozen, same⟩
  summary summary read := still.exported.trans (knows.summary summary read)
  finished summary done := by
    obtain ⟨verified, counted⟩ := knows.finished summary done
    obtain ⟨state, store⟩ := still.verified verified
    rw [store]
    exact ⟨state, counted⟩

theorem Recorded.withNative (recorded : Recorded ownerId world) {native : NativeDelta}
    (checkpoint : native.checkpoint = world.delta.native.checkpoint)
    (applied : native.applied = world.delta.native.applied) :
    Recorded ownerId (world.withNative native) ∧
      DeltaWorld.Grows world.delta (world.withNative native).delta := by
  have same : (world.withNative native).delta.checkpoint = world.delta.checkpoint := by
    change native.checkpoint.getD 0 = world.delta.native.checkpoint.getD 0
    rw [checkpoint]
  have grows : DeltaWorld.Grows world.delta (world.withNative native).delta :=
    ⟨List.prefix_refl _, Int.le_of_eq same.symm⟩
  refine ⟨{ recorded with sound := ?_, checkpoint := ?_ }, grows⟩
  · exact recorded.sound.frame grows rfl rfl checkpoint applied rfl (fun batch => .inl)
      fun thread => .inl
  · rw [same]
    exact recorded.checkpoint

theorem Still.refl (world : CutoverWorld) : Still world world :=
  ⟨.refl _, fun fenced => ⟨fenced, rfl, rfl⟩, rfl, rfl, fun verified => ⟨verified, rfl⟩⟩

theorem Recorded.seed (recorded : Recorded ownerId world) {baseline : Int}
    (shadow : world.delta.native.state = .shadowImport)
    (numbered : LoggedNumber world.delta.history baseline) :
    Recorded ownerId { world with delta := world.delta.step ownerId (.seed baseline) } ∧
      Still world { world with delta := world.delta.step ownerId (.seed baseline) } := by
  obtain ⟨sound, grows⟩ := recorded.sound.seed_step baseline
  have checkpoint :
      LoggedNumber world.delta.history (world.delta.step ownerId (.seed baseline)).checkpoint := by
    change LoggedNumber _ ((world.delta.native.seedLegacyDeltaCheckpoint baseline).checkpoint.getD 0)
    unfold NativeDelta.seedLegacyDeltaCheckpoint
    split
    · exact recorded.checkpoint
    · exact numbered
  refine ⟨{ recorded with sound := sound, checkpoint := checkpoint }, grows,
    fun fenced => ⟨fenced, rfl, rfl⟩, rfl, rfl, fun verified => ?_⟩
  rw [shadow] at verified
  exact nomatch verified

theorem Recorded.perform (recorded : Recorded ownerId world) {command : CopyCommand}
    (numbered : ∀ baseline, command = .seedLegacyDeltaCheckpoint baseline →
      LoggedNumber world.delta.history baseline)
    (performed : world.perform ownerId command = some after) :
    Recorded ownerId after ∧ Still world after := by
  cases command with
  | beginImport =>
      simp only [CutoverWorld.perform] at performed
      split at performed
      · exact nomatch performed
      · rename_i unverified
        obtain rfl := Option.some.inj performed
        obtain ⟨kept, grows⟩ := @Recorded.withNative _ _ recorded
          { world.delta.native with state := .shadowImport } rfl rfl
        exact ⟨{ kept with }, grows, fun fenced => ⟨fenced, rfl, rfl⟩, rfl, rfl,
          fun verified => absurd verified unverified⟩
  | seedLegacyDeltaCheckpoint baseline =>
      simp only [CutoverWorld.perform] at performed
      split at performed
      · exact nomatch performed
      · rename_i allowed
        rw [not_or, not_not] at allowed
        split at performed
        · split at performed
          · obtain rfl := Option.some.inj performed
            exact ⟨recorded, .refl _⟩
          · exact nomatch performed
        · obtain rfl := Option.some.inj performed
          exact recorded.seed allowed.1 (numbered baseline rfl)
  | importBatch batch =>
      simp only [CutoverWorld.perform] at performed
      split at performed
      · exact nomatch performed
      · rename_i shadow
        obtain ⟨store, _, rfl⟩ := Option.map_eq_some_iff.mp performed
        obtain ⟨kept, grows⟩ := @Recorded.withNative _ _ recorded
          { world.delta.native with store := store } rfl rfl
        refine ⟨{ kept with }, grows, fun fenced => ⟨fenced, rfl, rfl⟩, rfl, rfl, fun verified => ?_⟩
        rw [verified] at shadow
        exact absurd nofun shadow
  | importConversations batch =>
      simp only [CutoverWorld.perform] at performed
      split at performed
      · exact nomatch performed
      · rename_i shadow
        obtain ⟨store, _, rfl⟩ := Option.map_eq_some_iff.mp performed
        obtain ⟨kept, grows⟩ := @Recorded.withNative _ _ recorded
          { world.delta.native with store := store } rfl rfl
        refine ⟨{ kept with }, grows, fun fenced => ⟨fenced, rfl, rfl⟩, rfl, rfl, fun verified => ?_⟩
        rw [verified] at shadow
        exact absurd nofun shadow
  | finish expected =>
      simp only [CutoverWorld.perform] at performed
      split at performed
      · exact nomatch performed
      · split at performed
        · obtain rfl := Option.some.inj performed
          obtain ⟨kept, grows⟩ := @Recorded.withNative _ _ recorded
            { world.delta.native with state := .verified } rfl rfl
          exact ⟨kept, grows, fun fenced => ⟨fenced, rfl, rfl⟩, rfl, rfl, fun _ => ⟨rfl, rfl⟩⟩
        · exact nomatch performed

theorem perform_finish {expected : MigrationSummary}
    (performed : world.perform ownerId (.finish expected) = some after) :
    after.delta.native.state = .verified ∧
      after.delta.native.store.computeSummary = expected := by
  simp only [CutoverWorld.perform] at performed
  split at performed
  · exact nomatch performed
  · split at performed
    · rename_i finished
      obtain rfl := Option.some.inj performed
      simp only [MigrationImporter.finish, Bool.and_eq_true, decide_eq_true_eq] at finished
      exact ⟨rfl, finished.2⟩
    · exact nomatch performed

theorem command_cases (works : TransactionWorks) (command : CopyCommand) :
    world.command ownerId works command = (false, world) ∨
      ∃ after, world.perform ownerId command = some after ∧
        world.command ownerId works command = (true, after) := by
  unfold CutoverWorld.command
  split
  · cases performed : world.perform ownerId command with
    | none => exact .inl rfl
    | some after => exact .inr ⟨after, rfl, rfl⟩
  · exact .inl rfl

theorem Recorded.command (recorded : Recorded ownerId world) (works : TransactionWorks)
    {command : CopyCommand} (numbered : ∀ baseline, command = .seedLegacyDeltaCheckpoint baseline →
      LoggedNumber world.delta.history baseline) :
    Recorded ownerId (world.command ownerId works command).2 ∧
      Still world (world.command ownerId works command).2 := by
  obtain same | ⟨after, performed, same⟩ := @command_cases ownerId world works command
  · rw [same]
    exact ⟨recorded, .refl _⟩
  · rw [same]
    exact recorded.perform numbered performed

theorem Recorded.submit (recorded : Recorded ownerId world) (luck : CutoverLuck)
    {command : CopyCommand} (numbered : ∀ baseline, command = .seedLegacyDeltaCheckpoint baseline →
      LoggedNumber world.delta.history baseline) :
    Recorded ownerId (world.submit ownerId luck command).2 ∧
      Still world (world.submit ownerId luck command).2 ∧
      ((world.submit ownerId luck command).1 = true →
        world.perform ownerId command = some (world.submit ownerId luck command).2) := by
  unfold CutoverWorld.submit
  cases luck.submission with
  | refused => exact ⟨recorded, .refl _, nofun⟩
  | timesOut =>
      refine ⟨{ recorded with late := fun baseline member => ?_ },
        ⟨.refl _, fun fenced => ⟨fenced, rfl, rfl⟩, rfl, rfl, fun verified => ⟨verified, rfl⟩⟩, nofun⟩
      rcases List.mem_append.mp member with old | fresh
      · exact recorded.late baseline old
      · exact numbered baseline (List.mem_singleton.mp fresh).symm
  | runs =>
      obtain ⟨kept, still⟩ := recorded.command luck.works numbered
      refine ⟨kept, still, fun done => ?_⟩
      obtain same | ⟨after, performed, same⟩ := @command_cases ownerId world luck.works command
      · simp only [same] at done
        exact nomatch done
      · simp only [same]
        exact performed

/-! Deltas. -/

theorem commit_verified {delta : DeltaWorld} (verified : delta.native.state = .verified)
    (faults : BatchFaults) (expectedAfter : Int) (changes : List LegacyDeltaChange) :
    (delta.commit faults expectedAfter changes).2 = delta := by
  have same : (delta.native.submitLegacyDeltaBatch faults expectedAfter changes).2 = delta.native := by
    simp only [NativeDelta.submitLegacyDeltaBatch, verified, ne_eq, reduceCtorEq, not_false_eq_true,
      if_true, Option.isSome_none]
    cases ended : runTransaction faults.works delta.native fun _ => .returned false delta.native with
    | mk result written =>
        obtain failed | ⟨_, returned, _⟩ := JournaledDb.runTransaction_cases faults.works delta.native
          fun _ => .returned false delta.native
        · rw [failed] at ended
          obtain ⟨rfl, rfl⟩ := Prod.mk.inj ended
          rfl
        · exact absurd (WriteOutcome.returned.inj returned).1 (by decide)
  simp only [DeltaWorld.commit, same]

theorem Recorded.commit (recorded : Recorded ownerId world) (faults : BatchFaults)
    {expectedAfter : Int} {changes : List LegacyDeltaChange}
    (page : world.delta.Page expectedAfter changes) :
    Recorded ownerId { world with delta := (world.delta.commit faults expectedAfter changes).2 } ∧
      Still world { world with delta := (world.delta.commit faults expectedAfter changes).2 } := by
  obtain ⟨sound, grows, _⟩ := recorded.sound.commit faults page
  have checkpoint : LoggedNumber world.delta.history
      (world.delta.commit faults expectedAfter changes).2.checkpoint := by
    have submits := @NativeDelta.submit_submits world.delta.native faults expectedAfter changes
    unfold DeltaWorld.commit
    generalize world.delta.native.submitLegacyDeltaBatch faults expectedAfter changes = submitted
      at submits ⊢
    cases submits with
    | failed => exact recorded.checkpoint
    | known => exact recorded.checkpoint
    | applied last store ends expected later folded =>
        have front := page (Int.le_of_eq expected)
        exact .inr ⟨last, List.mem_of_mem_filter (front.subset (List.mem_of_getLast? ends)), rfl⟩
  refine ⟨{ recorded with sound := sound, checkpoint := checkpoint }, grows,
    fun fenced => ⟨fenced, rfl, rfl⟩, rfl, rfl, fun verified => ?_⟩
  rw [commit_verified verified]
  exact ⟨verified, rfl⟩

theorem learn_caught (known : DeltaKnown) {op : DeltaOp} (reply : op.Reply)
    (other : ∀ number limit, op ≠ .nextChanges number limit) :
    (known.learn op reply).caught = known.caught := by
  cases op with
  | nextChanges number limit => exact absurd rfl (other number limit)
  | getLegacyDeltaCheckpoint => rfl
  | deleteThrough checkpoint => rfl
  | submitLegacyDeltaBatch expectedAfter changes => cases reply <;> rfl

structure Passes (ownerId : Int) (world : CutoverWorld) (delta : DeltaWorld) : Prop where
  recorded : Recorded ownerId { world with delta := delta }
  history : delta.history = world.delta.history
  verified : world.delta.native.state = .verified →
    delta.native.state = .verified ∧ delta.native.store = world.delta.native.store

theorem Recorded.passes (recorded : Recorded ownerId world) (luck : DeltaLuck) {seen : Nat}
    {deltaKnown : DeltaKnown} (knows : world.delta.Knows seen deltaKnown) (op : DeltaOp)
    (allowed : deltaMonitor.allows deltaKnown op) :
    Passes ownerId world (world.delta.answer ownerId luck op).2 := by
  cases op with
  | getLegacyDeltaCheckpoint => exact ⟨recorded, rfl, fun verified => ⟨verified, rfl⟩⟩
  | nextChanges number limit => exact ⟨recorded, rfl, fun verified => ⟨verified, rfl⟩⟩
  | deleteThrough checkpoint =>
      obtain ⟨sound, _, _⟩ := recorded.sound.answer luck knows (.deleteThrough checkpoint) allowed
      exact ⟨{ recorded with sound := sound }, rfl, fun verified => ⟨verified, rfl⟩⟩
  | submitLegacyDeltaBatch expectedAfter changes =>
      obtain ⟨sound, _, _⟩ :=
        recorded.sound.answer luck knows (.submitLegacyDeltaBatch expectedAfter changes) allowed
      cases kind : luck.submission with
      | refused =>
          simp only [DeltaWorld.answer, kind]
          exact ⟨recorded, rfl, fun verified => ⟨verified, rfl⟩⟩
      | timesOut =>
          simp only [DeltaWorld.answer, kind] at sound ⊢
          exact ⟨{ recorded with sound := sound }, rfl, fun verified => ⟨verified, rfl⟩⟩
      | runs =>
          obtain ⟨kept, still⟩ := recorded.commit luck.faults (knows.page _ allowed)
          have committed : (world.delta.answer ownerId luck
              (.submitLegacyDeltaBatch expectedAfter changes)).2 =
                (world.delta.commit luck.faults expectedAfter changes).2 := by
            simp only [DeltaWorld.answer, kind]
            generalize world.delta.commit luck.faults expectedAfter changes = ended
            obtain ⟨_ | checkpoint, after⟩ := ended <;> rfl
          rw [committed]
          exact ⟨kept, rfl, still.verified⟩

/-! One question. -/

structure Answered (ownerId : Int) (known : CopyKnown) (op : CutoverOp) (reply : op.Reply)
    (after : CutoverWorld) : Prop where
  recorded : Recorded ownerId after
  knows : after.Knows ownerId (known.learn op reply)

theorem Still.answered (still : Still world after) (recorded : Recorded ownerId after)
    (knows : world.Knows ownerId known) {op : CutoverOp} {reply : op.Reply}
    (same : known.learn op reply = known) : Answered ownerId known op reply after := by
  refine ⟨recorded, ?_⟩
  rw [same]
  exact still.knows knows

theorem Recorded.site (recorded : Recorded ownerId world) {site : CutoverSite Unit}
    (db : site.db = world.site.db) (late : site.late = world.site.late)
    (fence : site.fence = world.site.fence) :
    Recorded ownerId { world with site := site } ∧ Still world { world with site := site } := by
  refine ⟨{ recorded with shaped := ?_, journal := ?_, lateJournal := ?_ }, .refl _, fun fenced => ?_,
    rfl, rfl, fun verified => ⟨verified, rfl⟩⟩
  · change site.db.Shaped
    rw [db]
    exact recorded.shaped
  · change ∀ row ∈ site.db.journal, _
    rw [db]
    exact recorded.journal
  · change ∀ call ∈ site.late, _
    rw [late]
    exact recorded.lateJournal
  · change site.fence.isSome = true ∧ _
    rw [fence]
    exact ⟨fenced, rfl, rfl⟩

theorem latest_mem {journal : List JournalRow} {row : JournalRow} (found : latest journal = some row) :
    row ∈ journal := List.mem_of_find?_eq_some found

theorem Recorded.getCutoverJournal (recorded : Recorded ownerId world)
    (knows : world.Knows ownerId known) (readable : Bool) :
    Answered ownerId known .getCutoverJournal
      (if readable then some (latest world.site.db.journal) else none) world := by
  refine ⟨recorded, ?_⟩
  cases readable with
  | false => exact knows
  | true =>
      cases there : latest world.site.db.journal with
      | none => exact knows
      | some row =>
          refine { knows with journal := ?_ }
          rintro _ ⟨⟩
          exact recorded.journal row (latest_mem there)

theorem Recorded.journaled (recorded : Recorded ownerId world) (works : TransactionWorks)
    {call : JournalAdvance} (numbered : LoggedNumber world.delta.history call.highWater) :
    Recorded ownerId { world with site := { world.site with
      db := (world.site.db.advanceCutoverJournal ownerId works call).2 } } := by
  by_cases done : (world.site.db.advanceCutoverJournal ownerId works call).1 = .ok
  · rw [CutoverSite.advance_ok recorded.shaped done]
    refine { recorded with shaped := .inr ⟨_, rfl, JournaledDb.row_dirty _⟩, journal := ?_ }
    intro row member
    obtain rfl := List.mem_singleton.mp member
    exact numbered
  · rw [CutoverSite.advance_failed recorded.shaped done]
    exact recorded

theorem Recorded.advanceCutoverJournal (recorded : Recorded ownerId world)
    (knows : world.Knows ownerId known) (luck : SiteLuck) {call : JournalAdvance}
    (allowed : known.observed = some call.highWater) :
    Answered ownerId known (.advanceCutoverJournal call)
      (world.site.answer ownerId isBlank luck (.advanceCutoverJournal call)).1
      { world with
        site := (world.site.answer ownerId isBlank luck (.advanceCutoverJournal call)).2 } := by
  have numbered := knows.observed _ allowed
  rw [CutoverSite.answer_advance]
  split
  · exact (Still.refl _).answered recorded knows rfl
  split
  · refine ⟨{ recorded with lateJournal := fun other member => ?_ }, { knows with }⟩
    rcases List.mem_append.mp member with old | fresh
    · exact recorded.lateJournal other old
    · obtain rfl := List.mem_singleton.mp fresh
      exact numbered
  · exact ⟨recorded.journaled luck.works numbered, { knows with }⟩

theorem Knows.freezes (knows : world.Knows ownerId known)
    (fenced : world.site.fence.isSome = true) : world.Knows ownerId
      { known with frozen := true, delta := { known.delta with caught := false } } := by
  obtain ⟨seen, delta, _⟩ := knows.delta
  exact { knows with
    delta := ⟨seen, ⟨delta.checkpoint, delta.page, delta.within, nofun⟩, nofun⟩
    frozen := fun _ => fenced
    high := fun mark read => ⟨rfl, (knows.high mark read).2⟩ }

theorem Recorded.freeze (recorded : Recorded ownerId world) (knows : world.Knows ownerId known)
    (epoch updatedAt : Int) (stores : Bool) (reply : FreezeReply) :
    Answered ownerId known (.freeze epoch updatedAt) reply
      { world with
        site := if stores || reply = .frozen then { world.site with fence := some epoch }
          else world.site } := by
  split
  · have stored : Knows ownerId { world with site := { world.site with fence := some epoch } }
        known := { knows with frozen := fun _ => rfl }
    refine ⟨{ recorded with }, ?_⟩
    cases reply with
    | frozen => exact stored.freezes rfl
    | failed message => exact stored
    | threw => exact stored
  · rename_i unstored
    refine ⟨recorded, ?_⟩
    cases reply with
    | frozen => simp at unstored
    | failed message => exact knows
    | threw => exact knows

theorem Recorded.unfreeze (recorded : Recorded ownerId world) (knows : world.Knows ownerId known)
    (epoch : Int) (stores : Bool) :
    Answered ownerId known (.unfreeze epoch) ()
      { world with
        site := if stores ∧ world.site.fence = some epoch then { world.site with fence := none }
          else world.site } := by
  obtain ⟨seen, delta, _⟩ := knows.delta
  split
  · exact ⟨{ recorded with },
      { knows with delta := ⟨seen, delta, nofun⟩, frozen := nofun, high := nofun }⟩
  · exact ⟨{ recorded with },
      { knows with delta := ⟨seen, delta, nofun⟩, frozen := nofun, high := nofun }⟩

theorem Recorded.highWater (recorded : Recorded ownerId world) (knows : world.Knows ownerId known)
    (reads : Bool) : Answered ownerId known .highWater
      (if reads then some (world.delta.log.highWater ownerId) else none) world := by
  refine ⟨recorded, ?_⟩
  cases reads with
  | false => exact knows
  | true =>
      refine { knows with observed := ?_, high := ?_ }
      · rintro _ ⟨⟩
        exact ChangeLog.highWater_numbered recorded.sound.logged
      · intro mark read
        change (if known.frozen then some (world.delta.log.highWater ownerId) else none) = some mark
          at read
        split at read
        · rename_i frozen
          exact ⟨frozen, Option.some.inj read⟩
        · exact nomatch read

theorem Recorded.deltaAnswer (recorded : Recorded ownerId world) (knows : world.Knows ownerId known)
    (luck : DeltaLuck) (op : DeltaOp) (allowed : deltaMonitor.allows known.delta op) :
    Answered ownerId known (.delta op) (some (world.delta.answer ownerId luck op).1)
      { world with delta := (world.delta.answer ownerId luck op).2 } := by
  obtain ⟨seen, delta, fresh⟩ := knows.delta
  have passes := recorded.passes luck delta op allowed
  obtain ⟨_, grows, learns⟩ := recorded.sound.answer luck delta op allowed
  refine ⟨passes.recorded, { knows with
    delta := ⟨_, learns, fun frozen caught => ?_⟩
    observed := fun mark read => (knows.observed mark read).mono grows.history
    journal := fun mark read => (knows.journal mark read).mono grows.history
    high := nofun
    finished := fun summary done => ?_ }⟩
  · change (world.delta.answer ownerId luck op).2.history.length ≤ _
    rw [passes.history]
    by_cases page : ∃ number limit, op = .nextChanges number limit
    · obtain ⟨number, limit, rfl⟩ := page
      exact Nat.le_refl _
    · have other : ∀ number limit, op ≠ .nextChanges number limit :=
        fun number limit same => page ⟨number, limit, same⟩
      have same := learn_caught known.delta (world.delta.answer ownerId luck op).1 other
      have kept : world.delta.seenAfter seen op = seen := by
        cases op with
        | nextChanges number limit => exact absurd rfl (other number limit)
        | _ => rfl
      rw [kept]
      exact fresh frozen (same.symm.trans caught)
  · obtain ⟨verified, counted⟩ := knows.finished summary done
    obtain ⟨state, store⟩ := passes.verified verified
    change _ ∧ (world.delta.answer ownerId luck op).2.native.store.computeSummary = summary
    rw [store]
    exact ⟨state, counted⟩

theorem Recorded.submitted (recorded : Recorded ownerId world) (knows : world.Knows ownerId known)
    (luck : CutoverLuck) {op : CutoverOp} {command : CopyCommand} {reply : op.Reply}
    (numbered : ∀ baseline, command = .seedLegacyDeltaCheckpoint baseline →
      LoggedNumber world.delta.history baseline)
    (same : known.learn op reply = known) :
    Answered ownerId known op reply (world.submit ownerId luck command).2 := by
  obtain ⟨kept, still, _⟩ := recorded.submit luck numbered
  exact still.answered kept knows same

theorem Recorded.finishMigration (recorded : Recorded ownerId world)
    (knows : world.Knows ownerId known) (luck : CutoverLuck) (expected : MigrationSummary) :
    Answered ownerId known (.finishMigration expected)
      (if (world.submit ownerId luck (.finish expected)).1 then .ok () else .error luck.text :
        Except String Unit)
      (world.submit ownerId luck (.finish expected)).2 := by
  obtain ⟨kept, still, done⟩ := @Recorded.submit ownerId world recorded luck (.finish expected) nofun
  refine ⟨kept, ?_⟩
  cases finished : (world.submit ownerId luck (.finish expected)).1 with
  | false => exact still.knows knows
  | true =>
      refine { still.knows knows with finished := ?_ }
      rintro _ ⟨⟩
      exact perform_finish (done finished)

theorem Recorded.summary (recorded : Recorded ownerId world) (knows : world.Knows ownerId known) :
    Answered ownerId known .summary (some (MigrationExporter.summary world.tables.store))
      { world with exported := some (MigrationExporter.summary world.tables.store) } := by
  refine ⟨{ recorded with }, { knows with summary := ?_ }⟩
  rintro _ ⟨⟩
  rfl

theorem site_kept (luck : SiteLuck) (site : CutoverSite Unit) {op : CutoverOp}
    (plain : op.Plain) :
    (site.answer ownerId isBlank luck op).2.db = site.db ∧
      (site.answer ownerId isBlank luck op).2.late = site.late ∧
      (site.answer ownerId isBlank luck op).2.fence = site.fence := by
  cases op with
  | advanceCutoverJournal | freeze | unfreeze => exact plain.elim
  | writeMirror evidence =>
      change (site.writeMirror isBlank luck.mirror evidence).2.db = _ ∧
        (site.writeMirror isBlank luck.mirror evidence).2.late = _ ∧
        (site.writeMirror isBlank luck.mirror evidence).2.fence = _
      obtain same | ⟨_, answered, same⟩ :=
        @CutoverSite.writeMirror_cases _ isBlank site luck.mirror evidence
      · rw [same]
        exact ⟨rfl, rfl, rfl⟩
      · rw [same]
        exact ⟨rfl, rfl, rfl⟩
  | clearRequest =>
      change (if luck.stores then { site with pending := none } else site).db = _ ∧
        (if luck.stores then { site with pending := none } else site).late = _ ∧
        (if luck.stores then { site with pending := none } else site).fence = _
      split <;> exact ⟨rfl, rfl, rfl⟩
  | _ => exact ⟨rfl, rfl, rfl⟩

theorem Recorded.siteAnswer (recorded : Recorded ownerId world) (knows : world.Knows ownerId known)
    (luck : SiteLuck) {op : CutoverOp} {reply : op.Reply}
    (plain : op.Plain) (same : known.learn op reply = known) :
    Answered ownerId known op reply
      { world with site := (world.site.answer ownerId isBlank luck op).2 } := by
  obtain ⟨db, late, fence⟩ := @site_kept ownerId isBlank luck world.site op plain
  obtain ⟨kept, still⟩ := recorded.site db late fence
  exact still.answered kept knows same

theorem Recorded.answer (recorded : Recorded ownerId world) (knows : world.Knows ownerId known)
    (luck : CutoverLuck) (op : CutoverOp) (allowed : copyMonitor.allows known op) :
    Answered ownerId known op (world.answer ownerId isBlank luck op).1
      (world.answer ownerId isBlank luck op).2 := by
  cases op with
  | highWater => exact recorded.highWater knows luck.reads
  | beginMigration => exact recorded.submitted knows luck nofun rfl
  | seedLegacyDeltaCheckpoint baseline =>
      refine recorded.submitted knows luck ?_ rfl
      rintro _ ⟨⟩
      rcases allowed with read | read
      · exact knows.observed baseline read
      · exact knows.journal baseline read
  | nextBatch cursor => exact (Still.refl world).answered recorded knows rfl
  | submitMigrationBatch batch => exact recorded.submitted knows luck nofun rfl
  | nextConversationBatch cursor => exact (Still.refl world).answered recorded knows rfl
  | submitConversationBatch batch => exact recorded.submitted knows luck nofun rfl
  | delta op =>
      have answered : world.answer ownerId isBlank luck (.delta op) =
          if luck.reads then
            (some (world.delta.answer ownerId luck.delta op).1,
              { world with delta := (world.delta.answer ownerId luck.delta op).2 })
          else (none, world) := rfl
      rw [answered]
      split
      · exact recorded.deltaAnswer knows luck.delta op allowed
      · exact (Still.refl world).answered recorded knows rfl
  | summary =>
      have answered : world.answer ownerId isBlank luck .summary =
          if luck.reads then
            (some (MigrationExporter.summary world.tables.store),
              { world with exported := some (MigrationExporter.summary world.tables.store) })
          else (none, world) := rfl
      rw [answered]
      split
      · exact recorded.summary knows
      · exact (Still.refl world).answered recorded knows rfl
  | finishMigration expected => exact recorded.finishMigration knows luck expected
  | getCutoverJournal => exact recorded.getCutoverJournal knows luck.site.readable
  | advanceCutoverJournal call =>
      exact @Recorded.advanceCutoverJournal _ isBlank _ _ recorded knows luck.site call allowed
  | freeze epoch updatedAt => exact recorded.freeze knows epoch updatedAt luck.site.stores _
  | unfreeze epoch => exact recorded.unfreeze knows epoch luck.site.stores
  | _ => exact @Recorded.siteAnswer _ isBlank _ _ recorded knows luck.site _ _ trivial rfl

/-! One event. -/

structure Honest (ownerId : Int) (world : CutoverWorld) : Prop where
  recorded : Recorded ownerId world
  runs : ∀ program, world.run = some program →
    ∃ known, program.Obeys copyMonitor CopyKnown.Ends known ∧ world.Knows ownerId known

theorem Honest.still (honest : Honest ownerId world) (recorded : Recorded ownerId after)
    (still : Still world after) : Honest ownerId after := by
  refine ⟨recorded, fun program running => ?_⟩
  obtain ⟨known, obeys, knows⟩ := honest.runs program (still.run.symm.trans running)
  exact ⟨known, obeys, still.knows knows⟩

theorem knows_nothing : world.Knows ownerId {} where
  delta := ⟨0, ⟨nofun, nofun, Nat.zero_le _, nofun⟩, nofun⟩
  frozen := nofun
  observed := nofun
  journal := nofun
  high := nofun
  summary := nofun
  finished := nofun

theorem Recorded.logged (recorded : Recorded ownerId world) (change : LegacyChange) :
    Recorded ownerId { world with delta := world.delta.step ownerId (.logged ownerId change) } ∧
      DeltaWorld.Grows world.delta (world.delta.step ownerId (.logged ownerId change)) := by
  obtain ⟨sound, grows⟩ := recorded.sound.logged_step ownerId change
  have history : (world.delta.step ownerId (.logged ownerId change)).history =
      world.delta.history ++ [⟨world.delta.log.lastSeq + 1, change⟩] := by
    simp [DeltaWorld.step]
  refine ⟨{
    sound := sound
    unnumbered := Int.le_add_one recorded.unnumbered
    positive := ?_
    checkpoint := recorded.checkpoint.mono grows.history
    shaped := recorded.shaped
    journal := fun row member => (recorded.journal row member).mono grows.history
    lateJournal := fun call member => (recorded.lateJournal call member).mono grows.history
    late := fun baseline member => (recorded.late baseline member).mono grows.history }, grows⟩
  intro c member
  rw [history] at member
  rcases List.mem_append.mp member with old | fresh
  · exact recorded.positive c old
  · obtain rfl := List.mem_singleton.mp fresh
    exact Int.lt_add_one_iff.mpr recorded.unnumbered

theorem Recorded.write (recorded : Recorded ownerId world) (changes : List LegacyChange) :
    Recorded ownerId { world with
      delta := changes.foldl (fun delta change => delta.step ownerId (.logged ownerId change))
        world.delta } ∧
      DeltaWorld.Grows world.delta (changes.foldl
        (fun delta change => delta.step ownerId (.logged ownerId change)) world.delta) := by
  induction changes generalizing world with
  | nil => exact ⟨recorded, .refl _⟩
  | cons change rest ih =>
      obtain ⟨logged, first⟩ := recorded.logged change
      obtain ⟨kept, later⟩ := ih logged
      exact ⟨kept, first.history.trans later.history, Int.le_trans first.checkpoint later.checkpoint⟩

theorem Honest.write (honest : Honest ownerId world) (unfenced : ¬ world.site.fence.isSome = true)
    (tables : RoomTables) (changes : List LegacyChange) :
    Honest ownerId { world with
      tables := tables
      delta := changes.foldl (fun delta change => delta.step ownerId (.logged ownerId change))
        world.delta } := by
  obtain ⟨kept, grows⟩ := honest.recorded.write changes
  have native : (changes.foldl (fun delta change => delta.step ownerId (.logged ownerId change))
      world.delta).native = world.delta.native :=
    foldl_view DeltaWorld.native
      (fun delta change => delta.step ownerId (.logged ownerId change)) (fun _ _ => rfl) changes
      world.delta
  refine honest.still { kept with } ⟨grows, fun fenced => absurd fenced unfenced, rfl, rfl, ?_⟩
  intro verified
  exact ⟨(congrArg NativeDelta.state native).trans verified, congrArg NativeDelta.store native⟩

theorem Honest.landDelta (honest : Honest ownerId world) (index : Nat) (faults : BatchFaults) :
    Honest ownerId { world with delta := world.delta.step ownerId (.land index faults) } := by
  simp only [DeltaWorld.step]
  split
  · rename_i expectedAfter changes found
    have waiting : Honest ownerId
        { world with delta := { world.delta with late := world.delta.late.eraseIdx index } } := by
      refine honest.still { honest.recorded with sound := ?_ }
        ⟨⟨List.prefix_refl _, Int.le_refl _⟩, fun fenced => ⟨fenced, rfl, rfl⟩, rfl, rfl,
          fun verified => ⟨verified, rfl⟩⟩
      exact honest.recorded.sound.frame ⟨List.prefix_refl _, Int.le_refl _⟩ rfl rfl rfl rfl rfl
        (fun batch member => .inl (List.mem_of_mem_eraseIdx member)) fun thread => .inl
    obtain ⟨kept, still⟩ := waiting.recorded.commit faults
      (honest.recorded.sound.late _ (List.mem_of_getElem? found))
    exact waiting.still kept still
  · exact honest

theorem Honest.landJournal (honest : Honest ownerId world) (index : Nat) (works : TransactionWorks) :
    Honest ownerId
      { world with site := world.site.step ownerId isBlank (.land index works) } := by
  simp only [CutoverSite.step]
  split
  · rename_i call found
    have journaled := honest.recorded.journaled works
      (honest.recorded.lateJournal call (List.mem_of_getElem? found))
    refine honest.still { journaled with
        lateJournal := fun other member =>
          honest.recorded.lateJournal other (List.mem_of_mem_eraseIdx member) }
      ⟨.refl _, fun fenced => ⟨fenced, rfl, rfl⟩, rfl, rfl, fun verified => ⟨verified, rfl⟩⟩
  · exact honest

theorem Honest.step (honest : Honest ownerId world) (event : CutoverWorldEvent) :
    Honest ownerId (world.step ownerId isBlank event) := by
  cases event with
  | start pages epoch =>
      simp only [CutoverWorld.step]
      split
      · exact honest
      · refine ⟨{ honest.recorded with }, ?_⟩
        rintro _ ⟨⟩
        exact ⟨{}, CutoverMigrationCoordinator.execute_tells pages epoch,
          { knows_nothing with }⟩
  | advance luck =>
      simp only [CutoverWorld.step, CutoverWorld.advance]
      split
      · rename_i op next running
        obtain ⟨known, ⟨allowed, rest⟩, knows⟩ := honest.runs _ running
        have answered := @Recorded.answer ownerId isBlank _ _ honest.recorded knows luck op allowed
        refine ⟨{ answered.recorded with }, ?_⟩
        rintro _ ⟨⟩
        exact ⟨_, rest _, { answered.knows with }⟩
      · exact honest
  | land index works =>
      simp only [CutoverWorld.step]
      split
      · rename_i command found
        have waiting : Honest ownerId { world with late := world.late.eraseIdx index } :=
          honest.still { honest.recorded with
            late := fun baseline member =>
              honest.recorded.late baseline (List.mem_of_mem_eraseIdx member) }
            ⟨.refl _, fun fenced => ⟨fenced, rfl, rfl⟩, rfl, rfl, fun verified => ⟨verified, rfl⟩⟩
        obtain ⟨kept, still⟩ := @Recorded.command ownerId _ waiting.recorded works command (by
          rintro baseline rfl
          exact honest.recorded.late baseline (List.mem_of_getElem? found))
        exact waiting.still kept still
      · exact honest
  | landDelta index faults => exact honest.landDelta index faults
  | landJournal index works => exact honest.landJournal index works
  | kill =>
      refine ⟨{ honest.recorded with sound := ?_, lateJournal := nofun, late := nofun }, nofun⟩
      exact honest.recorded.sound.frame ⟨List.prefix_refl _, Int.le_refl _⟩ rfl rfl rfl rfl rfl nofun
        fun thread => .inl
  | write change changes =>
      simp only [CutoverWorld.step]
      split
      · exact honest
      · rename_i unfenced
        exact honest.write unfenced (change world.tables) changes
  | index change =>
      exact honest.still { honest.recorded with }
        ⟨.refl _, fun fenced => ⟨fenced, rfl, rfl⟩, rfl, rfl, fun verified => ⟨verified, rfl⟩⟩

def lastLogged (history : List LegacyDeltaChange) : Int :=
  ((history.map (·.changeSeq)).max?).getD 0

theorem lastLogged_eq {history : List LegacyDeltaChange} {number : Int}
    (positive : ∀ c ∈ history, 0 < c.changeSeq) (numbered : LoggedNumber history number)
    (above : ∀ c ∈ history, c.changeSeq ≤ number) : lastLogged history = number := by
  unfold lastLogged
  rcases numbered with rfl | ⟨c, member, rfl⟩
  · have none : history = [] := by
      rw [List.eq_nil_iff_forall_not_mem]
      intro c member
      have low := above c member
      have high := positive c member
      omega
    rw [none]
    rfl
  · have most : (history.map (·.changeSeq)).max? = some c.changeSeq := by
      rw [List.max?_eq_some_iff]
      refine ⟨List.mem_map.mpr ⟨c, member, rfl⟩, fun other listed => ?_⟩
      obtain ⟨d, there, rfl⟩ := List.mem_map.mp listed
      exact above d there
    rw [most]
    rfl

structure Copied (ownerId : Int) (world : CutoverWorld) (mark : Int) : Prop where
  mark : mark = world.delta.log.highWater ownerId
  checkpoint : world.delta.checkpoint = lastLogged world.delta.history
  applied : ∀ c ∈ world.delta.history,
    c.changeSeq ≤ world.delta.baseline ∨ c ∈ world.delta.native.applied
  counted : world.exported = some world.delta.native.store.computeSummary

theorem Honest.copied (honest : Honest ownerId world) {epoch mark : Int}
    (committed : world.outcome = some (.committed epoch mark)) : Copied ownerId world mark := by
  have running : world.run = some (.done (.committed epoch mark)) := by
    unfold outcome at committed
    split at committed
    · rename_i result running
      rw [running, Option.some.inj committed]
    · exact nomatch committed
  obtain ⟨known, commits, knows⟩ := honest.runs _ running
  obtain ⟨seen, delta, fresh⟩ := knows.delta
  have above : ∀ c ∈ world.delta.history, c.changeSeq ≤ world.delta.checkpoint := by
    intro c member
    refine delta.caught commits.caught c ?_
    rwa [List.take_of_length_le (fresh commits.frozen commits.caught)]
  obtain ⟨summary, exported, finished⟩ := commits.counted
  refine ⟨(knows.high mark commits.high).2.symm,
    (lastLogged_eq honest.recorded.positive honest.recorded.checkpoint above).symm,
    fun c member => ?_, ?_⟩
  · by_cases early : c.changeSeq ≤ world.delta.baseline
    · exact .inl early
    · exact .inr (honest.recorded.sound.taken member (Int.not_le.mp early) (above c member))
  · rw [knows.summary summary exported, (knows.finished summary finished).2]

def cleans (ownerId : Int) (world : CutoverWorld) : CutoverWorldEvent → Bool
  | .advance luck =>
      match world.run with
      | some (.ask (.delta (.deleteThrough through)) _) =>
          luck.reads && (world.delta.log.changesOf ownerId).any (·.changeSeq ≤ through)
      | _ => false
  | _ => false

def Whole (ownerId : Int) (world : CutoverWorld) : Prop :=
  ∀ c ∈ world.delta.history, c ∈ world.delta.log.changesOf ownerId

def logView (world : CutoverWorld) : ChangeLog × List LegacyDeltaChange :=
  (world.delta.log, world.delta.history)

theorem Whole.same (whole : Whole ownerId world) (same : after.logView = world.logView) :
    Whole ownerId after := by
  obtain ⟨log, history⟩ := Prod.mk.inj same
  intro c member
  rw [history] at member
  rw [log]
  exact whole c member

theorem perform_view {command : CopyCommand}
    (performed : world.perform ownerId command = some after) : after.logView = world.logView := by
  cases command with
  | beginImport =>
      simp only [CutoverWorld.perform] at performed
      split at performed
      · exact nomatch performed
      · obtain rfl := Option.some.inj performed
        rfl
  | seedLegacyDeltaCheckpoint baseline =>
      simp only [CutoverWorld.perform] at performed
      split at performed
      · exact nomatch performed
      · split at performed
        · split at performed
          · obtain rfl := Option.some.inj performed
            rfl
          · exact nomatch performed
        · obtain rfl := Option.some.inj performed
          rfl
  | importBatch batch =>
      simp only [CutoverWorld.perform] at performed
      split at performed
      · exact nomatch performed
      · obtain ⟨store, _, rfl⟩ := Option.map_eq_some_iff.mp performed
        rfl
  | importConversations batch =>
      simp only [CutoverWorld.perform] at performed
      split at performed
      · exact nomatch performed
      · obtain ⟨store, _, rfl⟩ := Option.map_eq_some_iff.mp performed
        rfl
  | finish expected =>
      simp only [CutoverWorld.perform] at performed
      split at performed
      · exact nomatch performed
      · split at performed
        · obtain rfl := Option.some.inj performed
          rfl
        · exact nomatch performed

theorem command_view (works : TransactionWorks) (command : CopyCommand) :
    (world.command ownerId works command).2.logView = world.logView := by
  obtain same | ⟨after, performed, same⟩ := @command_cases ownerId world works command
  · rw [same]
  · rw [same]
    exact perform_view performed

theorem submit_view (luck : CutoverLuck) (command : CopyCommand) :
    (world.submit ownerId luck command).2.logView = world.logView := by
  unfold CutoverWorld.submit
  cases luck.submission with
  | refused => rfl
  | timesOut => rfl
  | runs => exact command_view luck.works command

theorem delta_view (luck : DeltaLuck) {op : DeltaOp}
    (other : ∀ through, op ≠ .deleteThrough through) :
    (world.delta.answer ownerId luck op).2.log = world.delta.log ∧
      (world.delta.answer ownerId luck op).2.history = world.delta.history := by
  cases op with
  | getLegacyDeltaCheckpoint => exact ⟨rfl, rfl⟩
  | nextChanges number limit => exact ⟨rfl, rfl⟩
  | deleteThrough through => exact absurd rfl (other through)
  | submitLegacyDeltaBatch expectedAfter changes =>
      cases kind : luck.submission with
      | refused => simp only [DeltaWorld.answer, kind, and_self]
      | timesOut => simp only [DeltaWorld.answer, kind, and_self]
      | runs =>
          have same : (world.delta.commit luck.faults expectedAfter changes).2.log = world.delta.log ∧
            (world.delta.commit luck.faults expectedAfter changes).2.history = world.delta.history :=
            ⟨rfl, rfl⟩
          simp only [DeltaWorld.answer, kind]
          generalize world.delta.commit luck.faults expectedAfter changes = ended at same ⊢
          obtain ⟨_ | checkpoint, after⟩ := ended <;> exact same

theorem answer_view (luck : CutoverLuck) {op : CutoverOp}
    (other : ∀ through, op ≠ .delta (.deleteThrough through)) :
    (world.answer ownerId isBlank luck op).2.logView = world.logView := by
  cases op with
  | beginMigration => exact submit_view luck _
  | seedLegacyDeltaCheckpoint baseline => exact submit_view luck _
  | submitMigrationBatch batch => exact submit_view luck _
  | submitConversationBatch batch => exact submit_view luck _
  | finishMigration expected => exact submit_view luck _
  | delta op =>
      have answered : (world.answer ownerId isBlank luck (.delta op)).2 =
          if luck.reads then { world with delta := (world.delta.answer ownerId luck.delta op).2 }
          else world :=
        apply_ite Prod.snd _ _ _
      rw [answered]
      split
      · obtain ⟨log, history⟩ := @delta_view ownerId world luck.delta op
          fun through same => other through (same ▸ rfl)
        exact Prod.ext log history
      · rfl
  | summary =>
      have answered : (world.answer ownerId isBlank luck .summary).2 =
          if luck.reads then
            { world with exported := some (MigrationExporter.summary world.tables.store) }
          else world :=
        apply_ite Prod.snd _ _ _
      rw [answered]
      split <;> rfl
  | _ => rfl

theorem Whole.advance (whole : Whole ownerId world) (luck : CutoverLuck)
    (keeps : cleans ownerId world (.advance luck) = false) :
    Whole ownerId (world.advance ownerId isBlank luck) := by
  unfold CutoverWorld.advance
  split
  · rename_i op next running
    by_cases deletes : ∃ through, op = .delta (.deleteThrough through)
    · obtain ⟨through, rfl⟩ := deletes
      have answered : (world.answer ownerId isBlank luck (.delta (.deleteThrough through))).2 =
          if luck.reads then { world with delta := { world.delta with
            log := world.delta.log.deleteThrough ownerId through } }
          else world :=
        apply_ite Prod.snd _ _ _
      intro c member
      simp only [answered] at member ⊢
      split
      · rename_i reads
        rw [if_pos reads] at member
        refine ChangeLog.mem_changesOf_deleteThrough.mpr ⟨whole c member, ?_⟩
        simp only [cleans, running, reads, Bool.true_and, List.any_eq_false, decide_eq_true_eq,
          Int.not_le] at keeps
        exact keeps c (whole c member)
      · rename_i fails
        rw [if_neg fails] at member
        exact whole c member
    · have other : ∀ through, op ≠ .delta (.deleteThrough through) :=
        fun through same => deletes ⟨through, same⟩
      exact whole.same (answer_view luck other)
  · exact whole

theorem logged_whole (changes : List LegacyChange) {delta : DeltaWorld}
    (whole : ∀ c ∈ delta.history, c ∈ delta.log.changesOf ownerId) :
    ∀ c ∈ (changes.foldl (fun delta change => delta.step ownerId (.logged ownerId change))
        delta).history,
      c ∈ (changes.foldl (fun delta change => delta.step ownerId (.logged ownerId change))
        delta).log.changesOf ownerId := by
  induction changes generalizing delta with
  | nil => exact whole
  | cons change rest ih =>
      refine ih fun c member => ChangeLog.mem_changesOf_append.mpr ?_
      have appended : c ∈ delta.history ++ [⟨delta.log.lastSeq + 1, change⟩] := by
        simpa [DeltaWorld.step] using member
      rcases List.mem_append.mp appended with old | fresh
      · exact .inl (whole c old)
      · exact .inr ⟨rfl, List.mem_singleton.mp fresh⟩

theorem Whole.step (whole : Whole ownerId world) (event : CutoverWorldEvent)
    (keeps : cleans ownerId world event = false) :
    Whole ownerId (world.step ownerId isBlank event) := by
  cases event with
  | start pages epoch =>
      simp only [CutoverWorld.step]
      split
      · exact whole
      · exact whole.same rfl
  | advance luck => exact whole.advance luck keeps
  | land index works =>
      simp only [CutoverWorld.step]
      split
      · exact whole.same (command_view works _)
      · exact whole
  | landDelta index faults =>
      simp only [CutoverWorld.step, DeltaWorld.step]
      split
      · exact whole.same rfl
      · exact whole
  | landJournal index works => exact whole.same rfl
  | kill => exact whole.same rfl
  | write change changes =>
      simp only [CutoverWorld.step]
      split
      · exact whole
      · exact fun c member => logged_whole changes whole c member
  | index change => exact whole.same rfl

end CutoverWorld

end Jitong
