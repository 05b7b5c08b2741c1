import Jitong.Lib.Run
import Jitong.MediaService

/-!
The cancel of a media message against the pumps that send it: the calls of the service as threads
whose questions are answered one at a time.
-/

namespace Jitong

open Lib NativeRepository MediaService

/-- What the service works on: the table of drafts and the tables of messages. `cards` are the
messages that its transactions have put in. -/
structure MediaWorld where
  drafts : UploadDrafts := {}
  db : NativeRepository := {}
  cards : List Bytes := []

/-- How a question turns out that the tables alone do not answer: whether the transaction fails or
the Writer is late with it, and what the server and the file system say. -/
structure Luck where
  fails : Bool := false
  late : Bool := false
  now : Int := 0
  result : UploadResult := {}
  info : UploadSessionInfo := {}
  bytes : Bytes := []
  file : Option Bytes := none
  active : List Bytes := []

inductive MediaCall
  | enqueue (msgId : Bytes) (drafts : Variants)
  | pumpMessage (msgId : Bytes)
  | resumeAll
  | cancel (msgId : Bytes)

/-- A call under way. `gone` tells which drafts were cancelled when it started, `allSent` whether
all drafts of the message were `Sent` when its cancel started. -/
inductive MediaThread
  | worker (gone : DraftKey → Bool) (program : MediaProgram Bool)
  | cancel (msgId : Bytes) (allSent : Bool) (program : MediaProgram Bool)

/-- `late` are the transactions whose callers stopped waiting, `cancelled` the cancels that
returned true. -/
structure CancelRace where
  world : MediaWorld := {}
  late : List MediaWrite := []
  threads : List MediaThread := []
  cancelled : List (Bytes × Bool) := []

inductive TransferEvent
  | start (call : MediaCall)
  | advance (thread : Nat) (luck : Luck)
  | land (index : Nat) (now : Int)

namespace MediaWorld

/-- A transaction that is refused or rolled back gives `none`. -/
def apply (world : MediaWorld) (now : Int) : MediaWrite → Option MediaWorld
  | .draft made => (world.drafts.tryCall made).map fun drafts => { world with drafts := drafts }
  | .commitOutgoingDraft m =>
      (world.db.commitOutgoingDraft m now).map fun stored =>
        { world with
          db := stored.2
          cards := if (world.db.message m.msgId).isSome then world.cards else m.msgId :: world.cards }

def draftIs (world : MediaWorld) (state : UploadDraftState → Bool) (key : DraftKey) : Bool :=
  (world.drafts.row key).any fun row => state row.state

def gone (world : MediaWorld) : DraftKey → Bool := world.draftIs (· = .cancelled)

def isCancelled (world : MediaWorld) (ownerId : Int) (msgId : Bytes) : Bool :=
  mediaVariants.any fun variant => world.gone ⟨ownerId, msgId, variant⟩

def allSent (world : MediaWorld) (ownerId : Int) (msgId : Bytes) : Bool :=
  mediaVariants.any (fun variant => world.draftIs (· = .sent) ⟨ownerId, msgId, variant⟩) &&
    mediaVariants.all fun variant => !world.draftIs (· ≠ .sent) ⟨ownerId, msgId, variant⟩

def hasEnded (world : MediaWorld) (ownerId : Int) (msgId : Bytes) : Bool :=
  mediaVariants.any fun variant => world.draftIs (·.isTerminal) ⟨ownerId, msgId, variant⟩

def isActive (world : MediaWorld) (ownerId : Int) (msgId : Bytes) : Bool :=
  mediaVariants.any fun variant => world.draftIs (!·.isTerminal) ⟨ownerId, msgId, variant⟩

end MediaWorld

namespace CancelRace

def answer (ownerId : Int) (luck : Luck) (race : CancelRace) : (op : MediaOp) → op.Reply × CancelRace
  | .getUploadDraft key =>
      (if luck.fails then none else race.world.drafts.getUploadDraft key, race)
  | .loadActiveUploadDrafts =>
      (if luck.fails then none else some (luck.active.filter (race.world.isActive ownerId)), race)
  | .findMessage msgId => (!luck.fails && (race.world.db.message msgId).isSome, race)
  | .write made =>
      if luck.fails then (false, race)
      else if luck.late then (false, { race with late := race.late ++ [made] })
      else
        match race.world.apply luck.now made with
        | none => (false, race)
        | some world => (true, { race with world := world })
  | .createSession _ => ((luck.result, luck.info), race)
  | .querySession _ => ((luck.result, luck.info), race)
  | .uploadChunk _ _ _ _ => (luck.result, race)
  | .prove _ _ => ((luck.result, luck.bytes), race)
  | .finalize _ => ((luck.result, luck.bytes), race)
  | .cancelSession _ => (luck.result, race)
  | .readFile _ _ _ => (luck.file, race)

def startThread (sha256Hex : Bytes → Bytes) (ownerId : Int) (race : CancelRace) :
    MediaCall → MediaThread
  | .enqueue msgId drafts => .worker race.world.gone (enqueue ownerId msgId drafts)
  | .pumpMessage msgId => .worker race.world.gone (pumpMessage sha256Hex ownerId msgId)
  | .resumeAll =>
      .worker race.world.gone
        (resumeAll sha256Hex ownerId >>= fun progressed => pure (0 < progressed))
  | .cancel msgId => .cancel msgId (race.world.allSent ownerId msgId) (cancel ownerId msgId)

def step (sha256Hex : Bytes → Bytes) (ownerId : Int) (race : CancelRace) : TransferEvent → CancelRace
  | .start call =>
      { race with threads := race.threads ++ [startThread sha256Hex ownerId race call] }
  | .advance index luck =>
      match race.threads[index]? with
      | none => race
      | some (.worker _ (.done _)) => { race with threads := race.threads.eraseIdx index }
      | some (.worker gone (.ask op next)) =>
          let (reply, after) := answer ownerId luck race op
          { after with threads := race.threads.set index (.worker gone (next reply)) }
      | some (.cancel msgId allSent (.done ok)) =>
          { race with
            threads := race.threads.eraseIdx index
            cancelled := if ok then (msgId, allSent) :: race.cancelled else race.cancelled }
      | some (.cancel msgId allSent (.ask op next)) =>
          let (reply, after) := answer ownerId luck race op
          { after with threads := race.threads.set index (.cancel msgId allSent (next reply)) }
  | .land index now =>
      match race.late[index]? with
      | none => race
      | some made =>
          { race with
            world := (race.world.apply now made).getD race.world
            late := race.late.eraseIdx index }

def cancelling (race : CancelRace) (msgId : Bytes) : Bool :=
  race.threads.any fun
    | .worker _ _ => false
    | .cancel other _ _ => other = msgId

def mayCommit (ownerId : Int) (race : CancelRace) : MediaWrite → Bool
  | .draft _ => true
  | .commitOutgoingDraft m => (race.world.db.message m.msgId).isSome ||
      !race.cancelling m.msgId && !race.world.isCancelled ownerId m.msgId

/-- A cancel of a message starts while its card is not stored or all its drafts are `Sent`; a pump
that was under way before a draft was cancelled stores the card while it may; and a later pump can
read the draft. -/
def orderly (ownerId : Int) (race : CancelRace) : TransferEvent → Bool
  | .start (.cancel msgId) =>
      (race.world.db.message msgId).isNone || race.world.allSent ownerId msgId
  | .start _ => true
  | .advance index luck =>
      match race.threads[index]? with
      | some (.worker gone (.ask (.getUploadDraft key) _)) => !luck.fails || !gone key
      | some (.worker gone (.ask (.write (.commitOutgoingDraft m)) _)) =>
          luck.fails || luck.late || race.mayCommit ownerId (.commitOutgoingDraft m) ||
            mediaVariants.any fun variant => gone ⟨ownerId, m.msgId, variant⟩
      | _ => true
  | .land index _ =>
      match race.late[index]? with
      | none => true
      | some made => race.mayCommit ownerId made

/-- Cancel has won: no card of the message is in the tables, unless all drafts were `Sent`. -/
def CancelWins (race : CancelRace) : Prop :=
  ∀ msgId, (msgId, false) ∈ race.cancelled →
    race.world.db.message msgId = none ∧ race.world.db.queued msgId = none

end CancelRace

namespace MediaService

def Quiet : MediaOp → Prop
  | .write (.draft (.setUploadDraftState _ state _)) => state = .failed ∨ state = .uploading
  | .write (.commitOutgoingDraft _) => False
  | _ => True

/-- The messages of which a pump knows that they are stored. A draft is marked `Sent` for such a
message only. -/
def workMonitor : Monitor MediaOp.Reply (List Bytes) where
  learn
    | known, .findMessage msgId, true => msgId :: known
    | known, .write (.commitOutgoingDraft m), true => m.msgId :: known
    | known, _, _ => known
  allows
    | known, .write (.draft (.setUploadDraftState key state _)) => state = .sent → key.msgId ∈ known
    | _, _ => True

def goneMonitor (key : DraftKey) : Monitor MediaOp.Reply Bool where
  learn
    | other, .getUploadDraft asked, some draft => other || asked = key && draft.state ≠ .cancelled
    | other, .getUploadDraft asked, none => other || asked = key
    | other, _, _ => other
  allows
    | other, .write (.commitOutgoingDraft m) => other = true ∨ m.msgId ≠ key.msgId
    | _, _ => True

def cancelMonitor (ownerId : Int) (msgId : Bytes) : Monitor MediaOp.Reply Bool where
  learn
    | seen, .getUploadDraft key, some draft =>
        seen || (key.ownerId = ownerId ∧ key.msgId = msgId) && draft.state.isTerminal
    | seen, .write (.draft (.setUploadDraftState key _ _)), true =>
        seen || key.ownerId = ownerId ∧ key.msgId = msgId
    | seen, _, _ => seen
  allows
    | _, .write (.draft (.setUploadDraftState _ state _)) => state = .cancelled
    | _, .write _ => False
    | _, _ => True

section Quiet

variable (sha256Hex : Bytes → Bytes) (key : DraftKey) (cur : UploadDraft (List Int32))

theorem failDraft_quiet (code : Int32) : (failDraft key code).All Quiet :=
  ⟨.inl rfl, fun _ => trivial⟩

theorem reread_quiet : (reread key).All Quiet := by
  refine ⟨trivial, fun found => ?_⟩
  cases found <;> exact trivial

theorem markAll_quiet (indices : List Int32) : (markAll key indices).All Quiet := by
  induction indices with
  | nil => exact trivial
  | cons index rest ih => exact ⟨trivial, fun _ => ih⟩

theorem failed_quiet {Result : Type} (code : Int32) (result : Result) :
    (failDraft key code >>= fun _ => pure result).All Quiet :=
  (failDraft_quiet key code).bind fun _ => trivial

theorem draftCall_quiet {Result : Type} {made : DraftCall} (quiet : Quiet (.write (.draft made)))
    {next : Bool → MediaProgram Result} (goesOn : ∀ ok, (next ok).All Quiet) :
    (draftCall made >>= next).All Quiet :=
  ⟨quiet, goesOn⟩

theorem proveInstant_quiet (session : UploadSessionInfo) :
    (proveInstant key cur session).All Quiet := by
  refine ⟨trivial, fun proof => ?_⟩
  cases proof with
  | none => exact failed_quiet key _ _
  | some bytes =>
      refine ⟨trivial, fun proved => ?_⟩
      obtain ⟨proved, fileId⟩ := proved
      simp only [Program.done_bind]
      split
      · exact draftCall_quiet (by exact trivial) fun _ => trivial
      · exact failed_quiet key _ _

theorem openSession_quiet : (openSession key cur).All Quiet := by
  refine ⟨trivial, fun created => ?_⟩
  obtain ⟨created, session⟩ := created
  simp only [Program.done_bind]
  split
  · exact failed_quiet key _ _
  · split
    · exact proveInstant_quiet key cur session
    · refine draftCall_quiet (by exact trivial) fun ok => ?_
      split
      · exact trivial
      · exact (markAll_quiet key _).bind fun _ => reread_quiet key

theorem renewSession_quiet (code : UploadResult → Int32) :
    (renewSession key cur code).All Quiet := by
  refine ⟨trivial, fun created => ?_⟩
  obtain ⟨created, fresh⟩ := created
  simp only [Program.done_bind]
  split
  · exact failed_quiet key _ _
  · refine draftCall_quiet (by exact trivial) fun ok => ?_
    split
    · exact trivial
    · exact reread_quiet key

theorem askServer_quiet : (askServer key cur).All Quiet := by
  refine ⟨trivial, fun asked => ?_⟩
  obtain ⟨asked, server⟩ := asked
  simp only [Program.done_bind]
  split
  · split
    · exact draftCall_quiet (by exact trivial) fun _ => trivial
    · split
      · exact renewSession_quiet key cur _
      · exact (markAll_quiet key _).bind fun _ => trivial
  · split
    · exact renewSession_quiet key cur _
    · exact failed_quiet key _ _

theorem revive_quiet : (revive key cur).All Quiet := by
  unfold revive
  split
  · refine draftCall_quiet (by exact Or.inr rfl) fun ok => ?_
    split
    · exact trivial
    · exact reread_quiet key
  · exact trivial

theorem readChunk_quiet (index : Int32) : (readChunk cur index).All Quiet := by
  unfold readChunk
  simp only
  split
  · exact trivial
  · exact ⟨trivial, fun _ => trivial⟩

theorem uploadChunks_quiet (indices : List Int32) :
    (uploadChunks sha256Hex key cur indices).All Quiet := by
  induction indices with
  | nil => exact trivial
  | cons index rest ih =>
      unfold uploadChunks
      split
      · exact ih
      · refine ⟨trivial, fun found => ?_⟩
        cases found with
        | none => exact trivial
        | some fresh =>
            simp only [Program.done_bind]
            split
            · exact trivial
            · refine (readChunk_quiet cur index).bind fun bytes => ?_
              cases bytes with
              | none => exact failed_quiet key _ _
              | some bytes =>
                  refine ⟨trivial, fun (sent : UploadResult) => ?_⟩
                  simp only [Program.done_bind]
                  split
                  · exact failed_quiet key _ _
                  · refine draftCall_quiet (by exact trivial) fun ok => ?_
                    split
                    · exact trivial
                    · exact ih

theorem uploadMissing_quiet : (uploadMissing sha256Hex key cur).All Quiet := by
  unfold uploadMissing
  split
  · refine (uploadChunks_quiet sha256Hex key cur _).bind fun goesOn => ?_
    split
    · exact reread_quiet key
    · exact trivial
  · exact trivial

theorem finish_quiet : (finish key cur).All Quiet := by
  unfold finish
  split
  · refine ⟨trivial, fun finalized => ?_⟩
    obtain ⟨finalized, fileId⟩ := finalized
    simp only [Program.done_bind]
    split
    · exact failed_quiet key _ _
    · exact ⟨trivial, fun _ => trivial⟩
  · exact trivial

theorem ensureSession_quiet : (ensureSession key cur).All Quiet := by
  unfold ensureSession
  split
  · exact openSession_quiet key cur
  · exact trivial

theorem goOn_quiet {next : UploadDraft (List Int32) → MediaProgram Stage}
    (quiet : ∀ cur, (next cur).All Quiet) (stage : Stage) : (Stage.goOn next stage).All Quiet := by
  cases stage with
  | error ended => exact trivial
  | ok cur => exact quiet cur

theorem processVariant_quiet (draft : UploadDraft (List Int32)) :
    (processVariant sha256Hex key draft).All Quiet := by
  unfold processVariant
  split
  · exact trivial
  · refine (ensureSession_quiet key draft).bind fun stage => ?_
    refine (goOn_quiet (askServer_quiet key) stage).bind fun stage => ?_
    refine (goOn_quiet (revive_quiet key) stage).bind fun stage => ?_
    refine (goOn_quiet (uploadMissing_quiet sha256Hex key) stage).bind fun stage => ?_
    cases stage with
    | error ended => exact trivial
    | ok cur => exact finish_quiet key cur

theorem loadVariants_quiet (ownerId : Int) (msgId : Bytes) (variants : List MediaVariant) :
    (loadVariants ownerId msgId variants).All Quiet := by
  induction variants with
  | nil => exact trivial
  | cons variant rest ih => exact ⟨trivial, fun found => ih.bind fun others => trivial⟩

theorem advance_quiet (ownerId : Int) (msgId : Bytes) (variants : Variants) :
    (advance sha256Hex ownerId msgId variants).All Quiet := by
  induction variants with
  | nil => exact trivial
  | cons entry rest ih =>
      obtain ⟨variant, draft⟩ := entry
      refine (processVariant_quiet sha256Hex _ draft).bind fun ok => ?_
      split
      · exact ih.bind fun _ => trivial
      · exact ⟨trivial, fun cur => ih.bind fun _ => trivial⟩

theorem enqueueAll_quiet (ownerId : Int) (msgId : Bytes) (variants : Variants) :
    (enqueueAll ownerId msgId variants).All Quiet := by
  induction variants with
  | nil => exact trivial
  | cons entry rest ih =>
      obtain ⟨variant, draft⟩ := entry
      refine draftCall_quiet (by exact trivial) fun ok => ?_
      split
      · exact trivial
      · exact ih

end Quiet

section Pump

variable {Memory : Type} {monitor : Monitor MediaOp.Reply Memory} {keeps : Memory → Prop}
  {memory : Memory} {sha256Hex : Bytes → Bytes} {ownerId : Int} {msgId : Bytes}

theorem pumpMessage_obeys
    (allowed : ∀ memory op, keeps memory → Quiet op → monitor.allows memory op)
    (kept : ∀ memory op reply, keeps memory → Quiet op → keeps (monitor.learn memory op reply))
    (card : ∀ memory variants, keeps memory →
      (sendMessageCard ownerId msgId variants).Obeys monitor (fun _ _ => True) memory)
    (loaded : (loadVariants ownerId msgId mediaVariants).Obeys monitor
      (fun memory variants => variants.any (·.2.state = .cancelled) = true ∨ keeps memory) memory) :
    (pumpMessage sha256Hex ownerId msgId).Obeys monitor (fun _ _ => True) memory := by
  unfold pumpMessage
  refine loaded.bind fun memory variants known => ?_
  split
  · exact trivial
  · split
    · exact trivial
    · rename_i lasting
      split
      · exact trivial
      · have holds := known.resolve_left lasting
        refine ((advance_quiet sha256Hex ownerId msgId variants).obeys allowed kept holds).bind
          fun memory result holds => ?_
        obtain ⟨allFinalized, latest⟩ := result
        simp only
        split
        · exact card memory latest holds
        · exact trivial

theorem resumeAll_obeys (pumps : ∀ msgId memory,
      (pumpMessage sha256Hex ownerId msgId).Obeys monitor (fun _ _ => True) memory)
    (loads : monitor.allows memory .loadActiveUploadDrafts) :
    (resumeAll sha256Hex ownerId).Obeys monitor (fun _ _ => True) memory := by
  have all (msgIds : List Bytes) (memory : Memory) :
      (pumpAll sha256Hex ownerId msgIds).Obeys monitor (fun _ _ => True) memory := by
    induction msgIds generalizing memory with
    | nil => exact trivial
    | cons first rest ih =>
        refine (pumps first memory).bind fun memory ok _ => ?_
        exact (ih memory).bind fun _ _ _ => trivial
  refine ⟨loads, fun (active : Option (List Bytes)) => ?_⟩
  cases active with
  | none => exact trivial
  | some msgIds => exact all msgIds _

theorem markSent_works {known : List Bytes} (member : msgId ∈ known)
    (variants : List MediaVariant) :
    (markSent ownerId msgId variants).Obeys workMonitor (fun _ _ => True) known := by
  induction variants with
  | nil => exact trivial
  | cons variant rest ih => exact ⟨fun _ => member, fun _ => ih⟩

theorem sendMessageCard_works (variants : Variants) (known : List Bytes) :
    (sendMessageCard ownerId msgId variants).Obeys workMonitor (fun _ _ => True) known := by
  refine ⟨trivial, fun (existing : Bool) => ?_⟩
  simp only [Program.done_bind]
  cases existing with
  | true => exact (markSent_works List.mem_cons_self _).bind fun _ _ _ => trivial
  | false =>
      rw [if_neg Bool.false_ne_true]
      split
      · exact trivial
      · split
        · exact trivial
        · refine ⟨trivial, fun (committed : Bool) => ?_⟩
          cases committed with
          | true => exact (markSent_works List.mem_cons_self _).bind fun _ _ _ => trivial
          | false => exact trivial

theorem quiet_works {known : List Bytes} {op : MediaOp} (quiet : Quiet op) :
    workMonitor.allows known op := by
  cases op with
  | write made =>
      cases made with
      | commitOutgoingDraft m => exact trivial
      | draft made =>
          cases made with
          | setUploadDraftState key state errorCode =>
              rintro rfl
              rcases quiet with named | named <;> exact nomatch named
          | _ => exact trivial
  | _ => exact trivial

theorem all_works {Result : Type} {program : MediaProgram Result} (quiet : program.All Quiet)
    (known : List Bytes) : program.Obeys workMonitor (fun _ _ => True) known :=
  quiet.obeys (fun _ _ _ asked => quiet_works asked) (fun _ _ _ _ _ => trivial) trivial

theorem pumpMessage_works (known : List Bytes) :
    (pumpMessage sha256Hex ownerId msgId).Obeys workMonitor (fun _ _ => True) known := by
  refine pumpMessage_obeys (fun _ _ (_ : True) quiet => quiet_works quiet)
    (fun _ _ _ _ _ => trivial) (fun known variants _ => sendMessageCard_works variants known) ?_
  exact (all_works (loadVariants_quiet ownerId msgId mediaVariants) known).mono
    fun _ _ holds => .inr holds

def Spares (key : DraftKey) (msgId : Bytes) (other : Bool) : Prop :=
  other = true ∨ msgId ≠ key.msgId

variable {key : DraftKey}

theorem goneMonitor_grows {other : Bool} {op : MediaOp} {reply : op.Reply}
    (known : other = true) : (goneMonitor key).learn other op reply = true := by
  cases op with
  | getUploadDraft asked =>
      cases reply with
      | none => simp [goneMonitor, known]
      | some draft => simp [goneMonitor, known]
  | _ => exact known

theorem goneMonitor_spares {other : Bool} {op : MediaOp} {reply : op.Reply}
    (spares : Spares key msgId other) : Spares key msgId ((goneMonitor key).learn other op reply) :=
  spares.imp goneMonitor_grows id

theorem quiet_gone {other : Bool} {op : MediaOp} (quiet : Quiet op) :
    (goneMonitor key).allows other op := by
  cases op with
  | write made =>
      cases made with
      | commitOutgoingDraft m => exact quiet.elim
      | draft made => exact trivial
  | _ => exact trivial

theorem markSent_gone (other : Bool) (variants : List MediaVariant) :
    (markSent ownerId msgId variants).Obeys (goneMonitor key) (fun _ _ => True) other := by
  induction variants with
  | nil => exact trivial
  | cons variant rest ih => exact ⟨trivial, fun _ => ih⟩

theorem sendMessageCard_gone {other : Bool} (spares : Spares key msgId other)
    (variants : Variants) :
    (sendMessageCard ownerId msgId variants).Obeys (goneMonitor key) (fun _ _ => True) other := by
  refine ⟨trivial, fun (existing : Bool) => ?_⟩
  simp only [Program.done_bind]
  split
  · exact (markSent_gone _ _).bind fun _ _ _ => trivial
  · split
    · exact trivial
    · split
      · exact trivial
      · refine ⟨spares, fun (committed : Bool) => ?_⟩
        simp only [Program.done_bind]
        split
        · exact (markSent_gone _ _).bind fun _ _ _ => trivial
        · exact trivial

theorem all_spares {Result : Type} {program : MediaProgram Result} (quiet : program.All Quiet)
    {other : Bool} (spares : Spares key msgId other) :
    program.Obeys (goneMonitor key) (fun other _ => Spares key msgId other) other :=
  quiet.obeys (fun _ _ _ asked => quiet_gone asked) (fun _ _ _ spares _ => goneMonitor_spares spares)
    spares

theorem loadVariants_gone {variant : MediaVariant} {variants : List MediaVariant}
    (member : variant ∈ variants) (other : Bool) :
    (loadVariants ownerId msgId variants).Obeys (goneMonitor ⟨ownerId, msgId, variant⟩)
      (fun other loaded => loaded.any (·.2.state = .cancelled) = true ∨
        Spares ⟨ownerId, msgId, variant⟩ msgId other) other := by
  induction variants generalizing other with
  | nil => exact absurd member List.not_mem_nil
  | cons first rest ih =>
      refine ⟨trivial, fun (found : Option (UploadDraft (List Int32))) => ?_⟩
      simp only [Program.done_bind]
      rcases List.mem_cons.mp member with rfl | later
      · have quiet := loadVariants_quiet ownerId msgId rest
        cases found with
        | none =>
            have known : Spares ⟨ownerId, msgId, variant⟩ msgId
                ((goneMonitor ⟨ownerId, msgId, variant⟩).learn other
                  (.getUploadDraft ⟨ownerId, msgId, variant⟩) none) := .inl (by simp [goneMonitor])
            exact (all_spares quiet known).bind fun _ _ spares => .inr spares
        | some draft =>
            by_cases cancelled : draft.state = .cancelled
            · have loaded : (loadVariants ownerId msgId rest).Obeys
                  (goneMonitor ⟨ownerId, msgId, variant⟩) (fun _ _ => True)
                  ((goneMonitor ⟨ownerId, msgId, variant⟩).learn other
                    (.getUploadDraft ⟨ownerId, msgId, variant⟩) (some draft)) :=
                quiet.obeys (fun _ _ _ asked => quiet_gone asked) (fun _ _ _ _ _ => trivial) trivial
              exact loaded.bind fun _ others _ => .inl (by simp [cancelled])
            · have known : Spares ⟨ownerId, msgId, variant⟩ msgId
                  ((goneMonitor ⟨ownerId, msgId, variant⟩).learn other
                    (.getUploadDraft ⟨ownerId, msgId, variant⟩) (some draft)) :=
                .inl (by simp [goneMonitor, cancelled])
              exact (all_spares quiet known).bind fun _ _ spares => .inr spares
      · refine (ih later _).bind fun other others known => ?_
        refine known.imp (fun shows => ?_) id
        cases found with
        | none => exact shows
        | some draft =>
            simp only [List.any_cons, Bool.or_eq_true]
            exact .inr shows

theorem pumpMessage_gone (owner : key.ownerId = ownerId) (other : Bool) :
    (pumpMessage sha256Hex ownerId msgId).Obeys (goneMonitor key) (fun _ _ => True) other := by
  refine pumpMessage_obeys (fun _ _ _ quiet => quiet_gone quiet)
    (fun _ _ _ spares _ => goneMonitor_spares spares)
    (fun other variants spares => sendMessageCard_gone spares variants) ?_
  by_cases same : msgId = key.msgId
  · obtain ⟨ownerId, _, variant⟩ := key
    subst owner same
    exact loadVariants_gone (by cases variant <;> decide) other
  · exact (all_spares (loadVariants_quiet ownerId msgId mediaVariants) (.inr same)).mono
      fun _ _ spares => .inr spares

theorem cancelVariants_seen (variants : List MediaVariant) {found seen : Bool}
    (known : found = true → seen = true) :
    (cancelVariants ownerId msgId found variants).Obeys (cancelMonitor ownerId msgId)
      (fun seen ok => ok = true → seen = true) seen := by
  induction variants generalizing found seen with
  | nil => exact known
  | cons variant rest ih =>
      refine ⟨trivial, fun (draft : Option (UploadDraft (List Int32))) => ?_⟩
      simp only [Program.done_bind]
      cases draft with
      | none => exact ih known
      | some draft =>
          simp only
          split
          · rename_i ended
            exact ih fun _ => by simp [cancelMonitor, ended]
          · refine ⟨rfl, fun (changed : Bool) => ?_⟩
            cases changed with
            | false => exact fun impossible => absurd impossible Bool.false_ne_true
            | true =>
                simp only [Program.done_bind, Bool.not_true, Bool.false_eq_true, if_false]
                split
                · refine ⟨trivial, fun _ => ih fun _ => ?_⟩
                  simp [cancelMonitor]
                · exact ih fun _ => by simp [cancelMonitor]

end Pump

end MediaService

namespace MediaWorld

/-- Drafts are `Sent` for stored messages only, and what waits in the outbox is stored. -/
structure Consistent (ownerId : Int) (world : MediaWorld) : Prop where
  sent : ∀ key, key.ownerId = ownerId → world.draftIs (· = .sent) key = true →
    (world.db.message key.msgId).isSome = true
  queued : ∀ msgId, world.db.message msgId = none → world.db.queued msgId = none

def Permits (world : MediaWorld) : MediaWrite → Prop
  | .draft (.setUploadDraftState key state _) =>
      state = .sent → (world.db.message key.msgId).isSome = true
  | _ => True

structure Extends (world after : MediaWorld) : Prop where
  stored : ∀ msgId, (world.db.message msgId).isSome = true → (after.db.message msgId).isSome = true
  ended : ∀ key row, world.drafts.row key = some row → row.state.isTerminal = true →
    after.drafts.row key = some row

variable {world after : MediaWorld} {now ownerId : Int} {made : MediaWrite} {msgId : Bytes}
  {key : DraftKey}

theorem apply_cases (applied : world.apply now made = some after) :
    (∃ call, made = .draft call ∧ after.db = world.db ∧ after.cards = world.cards ∧
      ∀ key, UploadDrafts.Moves key call (world.drafts.row key) (after.drafts.row key)) ∨
    ∃ m, made = .commitOutgoingDraft m ∧
      (after = world ∧ (world.db.message m.msgId).isSome = true ∨
        world.db.message m.msgId = none ∧ after.drafts = world.drafts ∧
          after.cards = m.msgId :: world.cards ∧ (after.db.message m.msgId).isSome = true ∧
          ∀ other, other ≠ m.msgId → after.db.message other = world.db.message other ∧
            after.db.queued other = world.db.queued other) := by
  cases made with
  | draft call =>
      obtain ⟨drafts, called, rfl⟩ := Option.map_eq_some_iff.mp applied
      exact .inl ⟨call, rfl, rfl, rfl, UploadDrafts.tryCall_moves called⟩
  | commitOutgoingDraft m =>
      obtain ⟨⟨order, db⟩, committed, rfl⟩ := Option.map_eq_some_iff.mp applied
      refine .inr ⟨m, rfl, ?_⟩
      obtain ⟨_, ⟨rfl, known⟩ | ⟨unknown, _, messages, outbox⟩⟩ := commitOutgoingDraft_rows committed
      · exact .inl ⟨by simp [known], known⟩
      · refine .inr ⟨unknown, rfl, by simp [unknown], ?_, fun other different => ⟨?_, ?_⟩⟩
        · rw [Option.isSome_iff_exists]
          refine ⟨.stored { m with localOrder := order }, message_eq_some.mpr ⟨?_, rfl⟩⟩
          rw [messages]
          exact List.mem_append_right _ (List.mem_singleton_self _)
        · unfold NativeRepository.message
          rw [messages, List.find?_append, List.find?_cons_of_neg, List.find?_nil, Option.or_none]
          exact fun same => different (of_decide_eq_true same).symm
        · unfold NativeRepository.queued
          rw [outbox, List.find?_append, List.find?_cons_of_neg, List.find?_nil, Option.or_none]
          exact fun same => different (of_decide_eq_true same).symm

theorem apply_extends (applied : world.apply now made = some after) : world.Extends after := by
  rcases apply_cases applied with ⟨call, rfl, sameDb, _, moves⟩ | ⟨m, rfl, ⟨rfl, _⟩ | new⟩
  · refine ⟨fun msgId stored => by rw [sameDb]; exact stored, fun key row stored terminal => ?_⟩
    have moved := moves key
    rw [stored] at moved
    exact UploadDrafts.moves_terminal moved terminal
  · exact ⟨fun _ stored => stored, fun _ _ stored _ => stored⟩
  · obtain ⟨_, sameDrafts, _, shown, others⟩ := new
    refine ⟨fun msgId stored => ?_, fun key row stored _ => by rw [sameDrafts]; exact stored⟩
    by_cases same : msgId = m.msgId
    · rw [same]
      exact shown
    · rw [(others msgId same).1]
      exact stored

theorem draftIs_iff {state : UploadDraftState → Bool} :
    world.draftIs state key = true ↔ ∃ row, world.drafts.row key = some row ∧ state row.state = true := by
  unfold draftIs
  rw [Option.any_eq_true]

theorem Extends.draftIs (extended : world.Extends after) {state : UploadDraftState → Bool}
    (terminal : ∀ found, state found = true → found.isTerminal = true)
    (holds : world.draftIs state key = true) : after.draftIs state key = true := by
  obtain ⟨row, stored, named⟩ := draftIs_iff.mp holds
  exact draftIs_iff.mpr ⟨row, extended.ended key row stored (terminal _ named), named⟩

theorem Extends.permits (extended : world.Extends after) (permitted : world.Permits made) :
    after.Permits made := by
  cases made with
  | commitOutgoingDraft m => exact trivial
  | draft call =>
      cases call with
      | setUploadDraftState key state errorCode =>
          exact fun sent => extended.stored _ (permitted sent)
      | _ => exact trivial

theorem Consistent.apply (consistent : world.Consistent ownerId) (permitted : world.Permits made)
    (applied : world.apply now made = some after) : after.Consistent ownerId := by
  have extended := apply_extends applied
  rcases apply_cases applied with ⟨call, rfl, sameDb, _, moves⟩ | ⟨m, rfl, ⟨rfl, _⟩ | new⟩
  · refine ⟨fun key owner sent => ?_, fun msgId => by rw [sameDb]; exact consistent.queued msgId⟩
    rw [sameDb]
    obtain ⟨row, stored, named⟩ := draftIs_iff.mp sent
    have kept (row : UploadDraft Bytes) (stored : world.drafts.row key = some row)
        (named : decide (row.state = .sent) = true) : (world.db.message key.msgId).isSome = true :=
      consistent.sent key owner (draftIs_iff.mpr ⟨row, stored, named⟩)
    have moved := moves key
    rw [stored] at moved
    generalize before : world.drafts.row key = found at moved
    cases moved with
    | still => exact kept row before named
    | state last state errorCode lasts => exact permitted (by simpa using named)
    | chunk last chunkIndex lasts => exact kept last before named
    | _ => simp [UploadDraft.stored] at named
  · exact consistent
  · obtain ⟨_, sameDrafts, _, shown, others⟩ := new
    refine ⟨fun key owner sent => extended.stored _ (consistent.sent key owner ?_),
      fun msgId absent => ?_⟩
    · unfold draftIs at sent ⊢
      rwa [sameDrafts] at sent
    · have different : msgId ≠ m.msgId := by
        rintro rfl
        rw [absent] at shown
        exact Bool.false_ne_true shown
      obtain ⟨sameMessage, sameQueued⟩ := others msgId different
      rw [sameQueued]
      exact consistent.queued msgId (sameMessage.symm.trans absent)

structure OnceEach (world : MediaWorld) : Prop where
  nodup : world.cards.Nodup
  stored : ∀ msgId ∈ world.cards, (world.db.message msgId).isSome = true

theorem OnceEach.apply (once : world.OnceEach) (applied : world.apply now made = some after) :
    after.OnceEach := by
  have extended := apply_extends applied
  rcases apply_cases applied with ⟨call, rfl, _, sameCards, _⟩ | ⟨m, rfl, ⟨rfl, _⟩ | new⟩
  · refine ⟨by rw [sameCards]; exact once.nodup, fun msgId member => ?_⟩
    exact extended.stored msgId (once.stored msgId (by rwa [sameCards] at member))
  · exact once
  · obtain ⟨unknown, _, cards, shown, _⟩ := new
    refine ⟨?_, fun msgId member => ?_⟩
    · rw [cards]
      refine List.nodup_cons.mpr ⟨fun member => ?_, once.nodup⟩
      have known := once.stored m.msgId member
      rw [unknown] at known
      exact Bool.false_ne_true known
    · rw [cards] at member
      rcases List.mem_cons.mp member with rfl | member
      · exact shown
      · exact extended.stored msgId (once.stored msgId member)

end MediaWorld

def MediaThread.Sound (ownerId : Int) (world : MediaWorld) : MediaThread → Prop
  | .worker gone program =>
      (∃ known, (∀ msgId ∈ known, (world.db.message msgId).isSome = true) ∧
        program.Obeys workMonitor (fun _ _ => True) known) ∧
        ∀ key, key.ownerId = ownerId → gone key = true →
          world.gone key = true ∧ program.Obeys (goneMonitor key) (fun _ _ => True) false
  | .cancel msgId allSent program =>
      (allSent = false → world.db.message msgId = none) ∧
        ∃ seen, (seen = true → world.hasEnded ownerId msgId = true) ∧
          program.Obeys (cancelMonitor ownerId msgId) (fun seen ok => ok = true → seen = true) seen

namespace CancelRace

structure Sound (ownerId : Int) (race : CancelRace) : Prop where
  world : race.world.Consistent ownerId
  late : ∀ made ∈ race.late, race.world.Permits made
  threads : ∀ thread ∈ race.threads, thread.Sound ownerId race.world
  cancelled : ∀ msgId, (msgId, false) ∈ race.cancelled →
    race.world.db.message msgId = none ∧ race.world.isCancelled ownerId msgId = true

variable {ownerId now : Int} {luck : Luck} {race : CancelRace} {made : MediaWrite}
  {after : MediaWorld} {msgId : Bytes}

theorem any_extends {world : MediaWorld} (extended : world.Extends after)
    {state : UploadDraftState → Bool}
    (terminal : ∀ found, state found = true → found.isTerminal = true)
    (holds : (mediaVariants.any fun variant => world.draftIs state ⟨ownerId, msgId, variant⟩) = true) :
    (mediaVariants.any fun variant => after.draftIs state ⟨ownerId, msgId, variant⟩) = true := by
  obtain ⟨variant, member, shows⟩ := List.any_eq_true.mp holds
  exact List.any_eq_true.mpr ⟨variant, member, extended.draftIs terminal shows⟩

theorem cancelled_terminal (found : UploadDraftState) (named : decide (found = .cancelled) = true) :
    found.isTerminal = true := by
  rw [of_decide_eq_true named]
  rfl

theorem absent_kept (applied : race.world.apply now made = some after)
    (absent : race.world.db.message msgId = none)
    (concerned : race.cancelling msgId = true ∨ race.world.isCancelled ownerId msgId = true)
    (may : race.mayCommit ownerId made = true) : after.db.message msgId = none := by
  rcases MediaWorld.apply_cases applied with ⟨call, rfl, sameDb, _⟩ | ⟨m, rfl, ⟨rfl, _⟩ | new⟩
  · rw [sameDb]
    exact absent
  · exact absent
  · obtain ⟨unknown, _, _, _, others⟩ := new
    refine (others msgId ?_).1.trans absent
    rintro rfl
    simp only [mayCommit, unknown, Option.isSome_none, Bool.false_or, Bool.and_eq_true,
      Bool.not_eq_true'] at may
    rcases concerned with cancelling | cancelled
    · rw [cancelling] at may
      exact absurd may.1 Bool.true_eq_false.mp
    · rw [cancelled] at may
      exact absurd may.2 Bool.true_eq_false.mp

theorem Sound.applied (sound : race.Sound ownerId) (applied : race.world.apply now made = some after)
    (permitted : race.world.Permits made) (may : race.mayCommit ownerId made = true) :
    ({ race with world := after } : CancelRace).Sound ownerId := by
  have extended := MediaWorld.apply_extends applied
  refine ⟨sound.world.apply permitted applied,
    fun other member => extended.permits (sound.late other member), fun thread member => ?_,
    fun msgId member => ?_⟩
  · have before := sound.threads thread member
    cases thread with
    | worker gone program =>
        obtain ⟨⟨known, stored, works⟩, spares⟩ := before
        refine ⟨⟨known, fun msgId member => extended.stored msgId (stored msgId member), works⟩,
          fun key owner named => ?_⟩
        obtain ⟨cancelled, obeys⟩ := spares key owner named
        exact ⟨extended.draftIs cancelled_terminal cancelled, obeys⟩
    | cancel msgId allSent program =>
        obtain ⟨absent, seen, ended, obeys⟩ := before
        have cancelling : race.cancelling msgId = true :=
          List.any_eq_true.mpr ⟨_, member, by simp⟩
        exact ⟨fun unsent => absent_kept applied (absent unsent) (.inl cancelling) may, seen,
          fun known => any_extends extended (fun _ terminal => terminal) (ended known), obeys⟩
  · obtain ⟨absent, cancelled⟩ := sound.cancelled msgId member
    exact ⟨absent_kept applied absent (.inr cancelled) may,
      any_extends extended cancelled_terminal cancelled⟩

theorem answer_cases (op : MediaOp) :
    (answer ownerId luck race op).2 = race ∨
    (∃ made, op = .write made ∧
      (answer ownerId luck race op).2 = { race with late := race.late ++ [made] }) ∨
    ∃ made after, op = .write made ∧ luck.fails = false ∧ luck.late = false ∧
      race.world.apply luck.now made = some after ∧
      (answer ownerId luck race op).2 = { race with world := after } := by
  cases op with
  | write made =>
      cases fails : luck.fails with
      | true => exact .inl (by simp [answer, fails])
      | false =>
          cases late : luck.late with
          | true => exact .inr (.inl ⟨made, rfl, by simp [answer, fails, late]⟩)
          | false =>
              cases applied : race.world.apply luck.now made with
              | none => exact .inl (by simp [answer, fails, late, applied])
              | some after =>
                  exact .inr (.inr ⟨made, after, rfl, rfl, rfl, applied,
                    by simp [answer, fails, late, applied]⟩)
  | _ => exact .inl rfl

theorem answer_extends (op : MediaOp) :
    race.world.Extends (answer ownerId luck race op).2.world := by
  rcases answer_cases op with same | ⟨made, rfl, same⟩ | ⟨made, after, rfl, _, _, applied, same⟩
  · rw [same]
    exact ⟨fun _ stored => stored, fun _ _ stored _ => stored⟩
  · rw [same]
    exact ⟨fun _ stored => stored, fun _ _ stored _ => stored⟩
  · rw [same]
    exact MediaWorld.apply_extends applied

theorem Sound.answered (sound : race.Sound ownerId) {op : MediaOp}
    (permitted : ∀ made, op = .write made → race.world.Permits made)
    (may : ∀ made, op = .write made → luck.fails = false → luck.late = false →
      race.mayCommit ownerId made = true) :
    (answer ownerId luck race op).2.Sound ownerId := by
  rcases answer_cases op with same | ⟨made, rfl, same⟩ | ⟨made, after, rfl, runs, timely, applied, same⟩
  · rw [same]
    exact sound
  · rw [same]
    refine ⟨sound.world, fun other member => ?_, sound.threads, sound.cancelled⟩
    rcases List.mem_append.mp member with before | last
    · exact sound.late other before
    · obtain rfl := List.mem_singleton.mp last
      exact permitted other rfl
  · rw [same]
    exact sound.applied applied (permitted made rfl) (may made rfl runs timely)

/-! What the monitors remember is true. -/

theorem answer_write_true {made : MediaWrite}
    (answered : (answer ownerId luck race (.write made)).1 = true) :
    ∃ after, race.world.apply luck.now made = some after ∧
      (answer ownerId luck race (.write made)).2 = { race with world := after } := by
  cases fails : luck.fails with
  | true => simp [answer, fails] at answered
  | false =>
      cases late : luck.late with
      | true => simp [answer, fails, late] at answered
      | false =>
          cases applied : race.world.apply luck.now made with
          | none => simp [answer, fails, late, applied] at answered
          | some after => exact ⟨after, rfl, by simp [answer, fails, late, applied]⟩

theorem answer_read_some {key : DraftKey} {draft : UploadDraft (List Int32)}
    (answered : (answer ownerId luck race (.getUploadDraft key)).1 = some draft) :
    race.world.drafts.getUploadDraft key = some draft := by
  cases fails : luck.fails with
  | true => simp [answer, fails] at answered
  | false =>
      simp only [answer, fails, Bool.false_eq_true] at answered
      exact answered

theorem known_stored {known : List Bytes}
    (stored : ∀ msgId ∈ known, (race.world.db.message msgId).isSome = true) (op : MediaOp) :
    ∀ msgId ∈ workMonitor.learn known op (answer ownerId luck race op).1,
      ((answer ownerId luck race op).2.world.db.message msgId).isSome = true := by
  intro msgId member
  have extended : race.world.Extends (answer ownerId luck race op).2.world := answer_extends op
  have old (member : msgId ∈ known) := extended.stored msgId (stored msgId member)
  cases op with
  | findMessage asked =>
      cases found : (answer ownerId luck race (.findMessage asked)).1 with
      | false =>
          rw [found] at member
          exact old member
      | true =>
          rw [found] at member
          rcases List.mem_cons.mp member with rfl | member
          · exact (Bool.and_eq_true _ _ ▸ found : _ ∧ _).2
          · exact old member
  | write made =>
      cases made with
      | draft call => exact old member
      | commitOutgoingDraft m =>
          cases committed : (answer ownerId luck race (.write (.commitOutgoingDraft m))).1 with
          | false =>
              rw [committed] at member
              exact old member
          | true =>
              rw [committed] at member
              rcases List.mem_cons.mp member with rfl | member
              · obtain ⟨after, applied, same⟩ := answer_write_true committed
                rw [same]
                rcases MediaWorld.apply_cases applied with ⟨call, named, _⟩ | ⟨_, named, stores⟩
                · exact nomatch named
                · cases named
                  rcases stores with ⟨rfl, known⟩ | ⟨_, _, _, shown, _⟩
                  · exact known
                  · exact shown
              · exact old member
  | _ => exact old member

theorem gone_learn {key : DraftKey} (gone : race.world.gone key = true) {op : MediaOp}
    (reads : op = .getUploadDraft key → luck.fails = false) :
    (goneMonitor key).learn false op (answer ownerId luck race op).1 = false := by
  cases op with
  | getUploadDraft asked =>
      by_cases same : asked = key
      · subst same
        obtain ⟨row, stored, named⟩ := MediaWorld.draftIs_iff.mp gone
        have cancelled := of_decide_eq_true named
        simp [answer, reads rfl, UploadDrafts.getUploadDraft, stored, goneMonitor, UploadDrafts.read,
          cancelled]
      · cases (answer ownerId luck race (.getUploadDraft asked)).1 <;> simp [goneMonitor, same]
  | _ => rfl

theorem mem_mediaVariants (variant : MediaVariant) : variant ∈ mediaVariants := by
  cases variant <;> decide

theorem seen_ended {seen : Bool} (known : seen = true → race.world.hasEnded ownerId msgId = true)
    {op : MediaOp} (allowed : (cancelMonitor ownerId msgId).allows seen op)
    (learnt : (cancelMonitor ownerId msgId).learn seen op (answer ownerId luck race op).1 = true) :
    (answer ownerId luck race op).2.world.hasEnded ownerId msgId = true := by
  have extended : race.world.Extends (answer ownerId luck race op).2.world := answer_extends op
  have old (before : seen = true) :=
    any_extends extended (fun _ terminal => terminal) (known before)
  cases op with
  | getUploadDraft key =>
      cases found : (answer ownerId luck race (.getUploadDraft key)).1 with
      | none =>
          rw [found] at learnt
          exact old learnt
      | some draft =>
          rw [found] at learnt
          simp only [cancelMonitor, Bool.or_eq_true, Bool.and_eq_true, decide_eq_true_eq] at learnt
          rcases learnt with before | ⟨⟨rfl, rfl⟩, terminal⟩
          · exact old before
          · refine List.any_eq_true.mpr ⟨key.variant, mem_mediaVariants _, ?_⟩
            obtain ⟨row, stored, rfl⟩ := Option.map_eq_some_iff.mp (answer_read_some found)
            exact MediaWorld.draftIs_iff.mpr ⟨row, stored, terminal⟩
  | write made =>
      cases made with
      | commitOutgoingDraft m => exact allowed.elim
      | draft call =>
          cases call with
          | setUploadDraftState key state errorCode =>
              obtain rfl : state = .cancelled := allowed
              cases changed :
                  (answer ownerId luck race (.write (.draft (.setUploadDraftState key _ errorCode)))).1 with
              | false =>
                  rw [changed] at learnt
                  exact old learnt
              | true =>
                  rw [changed] at learnt
                  simp only [cancelMonitor, Bool.or_eq_true, decide_eq_true_eq] at learnt
                  rcases learnt with before | ⟨rfl, rfl⟩
                  · exact old before
                  · obtain ⟨after, applied, same⟩ := answer_write_true changed
                    rw [same]
                    refine List.any_eq_true.mpr ⟨key.variant, mem_mediaVariants _, ?_⟩
                    obtain ⟨drafts, called, rfl⟩ := Option.map_eq_some_iff.mp applied
                    simp only [UploadDrafts.tryCall, UploadDrafts.setUploadDraftState,
                      Option.ite_none_left_eq_some] at called
                    obtain ⟨row, _, _, rfl⟩ := UploadDrafts.update_eq_some.mp called.2
                    exact MediaWorld.draftIs_iff.mpr ⟨_, UploadDrafts.put_same _, rfl⟩
          | _ => exact allowed.elim
  | _ => exact old learnt

/-! One event, and whole runs. -/

theorem Sound.set (sound : race.Sound ownerId) {thread : MediaThread} (index : Nat)
    (next : thread.Sound ownerId race.world) :
    ({ race with threads := race.threads.set index thread } : CancelRace).Sound ownerId := by
  refine ⟨sound.world, sound.late, fun other member => ?_, sound.cancelled⟩
  rcases List.mem_or_eq_of_mem_set member with old | rfl
  · exact sound.threads other old
  · exact next

theorem answer_threads (op : MediaOp) : (answer ownerId luck race op).2.threads = race.threads := by
  rcases answer_cases op with same | ⟨made, rfl, same⟩ | ⟨made, after, rfl, _, _, _, same⟩ <;>
    rw [same]

theorem startThread_sound (sha256Hex : Bytes → Bytes) {call : MediaCall}
    (passed : race.orderly ownerId (.start call) = true) :
    (startThread sha256Hex ownerId race call).Sound ownerId race.world := by
  have worker {program : MediaProgram Bool}
      (works : program.Obeys workMonitor (fun _ _ => True) [])
      (spares : ∀ key, key.ownerId = ownerId → program.Obeys (goneMonitor key) (fun _ _ => True) false) :
      (MediaThread.worker race.world.gone program).Sound ownerId race.world :=
    ⟨⟨[], fun _ member => absurd member List.not_mem_nil, works⟩,
      fun key owner gone => ⟨gone, spares key owner⟩⟩
  cases call with
  | enqueue msgId drafts =>
      have quiet : (enqueue ownerId msgId drafts).All MediaService.Quiet := by
        unfold enqueue
        split
        · exact trivial
        · exact enqueueAll_quiet ownerId msgId drafts
      refine worker (all_works quiet []) fun key _ => ?_
      exact quiet.obeys (fun _ _ _ asked => quiet_gone asked) (fun _ _ _ _ _ => trivial) trivial
  | pumpMessage msgId =>
      exact worker (pumpMessage_works []) fun key owner => pumpMessage_gone owner false
  | resumeAll =>
      refine worker ?_ fun key owner => ?_
      · exact (resumeAll_obeys (fun _ known => pumpMessage_works known) trivial).bind
          fun _ _ _ => trivial
      · exact (resumeAll_obeys (fun _ other => pumpMessage_gone owner other) trivial).bind
          fun _ _ _ => trivial
  | cancel msgId =>
      refine ⟨fun unsent => ?_, false, fun impossible => absurd impossible Bool.false_ne_true,
        cancelVariants_seen mediaVariants fun impossible => impossible⟩
      simpa [orderly, unsent] using passed

theorem Sound.erase (sound : race.Sound ownerId) (index : Nat) :
    ({ race with threads := race.threads.eraseIdx index } : CancelRace).Sound ownerId :=
  ⟨sound.world, sound.late,
    fun other member => sound.threads other (List.mem_of_mem_eraseIdx member), sound.cancelled⟩

theorem Sound.ask_worker (sound : race.Sound ownerId) {gone : DraftKey → Bool} {op : MediaOp}
    {next : op.Reply → MediaProgram Bool} {index : Nat}
    (current : (MediaThread.worker gone (.ask op next)).Sound ownerId race.world)
    (passed : ∀ m, op = .write (.commitOutgoingDraft m) → luck.fails = false → luck.late = false →
      (race.mayCommit ownerId (.commitOutgoingDraft m) ||
        mediaVariants.any fun variant => gone ⟨ownerId, m.msgId, variant⟩) = true)
    (reads : ∀ key, op = .getUploadDraft key → gone key = true → luck.fails = false) :
    ({ (answer ownerId luck race op).2 with
      threads := race.threads.set index
        (.worker gone (next (answer ownerId luck race op).1)) } : CancelRace).Sound ownerId := by
  obtain ⟨⟨known, stored, allowed, works⟩, spares⟩ := current
  have permitted (made : MediaWrite) (same : op = .write made) : race.world.Permits made := by
    subst same
    cases made with
    | commitOutgoingDraft m => exact trivial
    | draft call =>
        cases call with
        | setUploadDraftState key state errorCode => exact fun sent => stored _ (allowed sent)
        | _ => exact trivial
  have may (made : MediaWrite) (same : op = .write made) (runs : luck.fails = false)
      (timely : luck.late = false) : race.mayCommit ownerId made = true := by
    cases made with
    | draft call => rfl
    | commitOutgoingDraft m =>
        refine (Bool.or_eq_true _ _ ▸ passed m same runs timely).resolve_right fun earlier => ?_
        obtain ⟨variant, _, named⟩ := List.any_eq_true.mp earlier
        obtain ⟨_, spared, _⟩ := spares _ rfl named
        subst same
        rcases spared with impossible | different
        · exact Bool.false_ne_true impossible
        · exact different rfl
  have answered := sound.answered permitted may
  have thread : (MediaThread.worker gone (next (answer ownerId luck race op).1)).Sound ownerId
      (answer ownerId luck race op).2.world := by
    refine ⟨⟨_, known_stored stored op, works _⟩, fun key owner named => ?_⟩
    obtain ⟨cancelled, _, obeys⟩ := spares key owner named
    refine ⟨(answer_extends op).draftIs cancelled_terminal cancelled, ?_⟩
    have onward := obeys (answer ownerId luck race op).1
    rwa [gone_learn cancelled fun same => reads key same named] at onward
  have final := answered.set index thread
  rwa [answer_threads] at final

theorem Sound.ask_cancel (sound : race.Sound ownerId) {allSent : Bool} {op : MediaOp}
    {next : op.Reply → MediaProgram Bool} {index : Nat}
    (current : (MediaThread.cancel msgId allSent (.ask op next)).Sound ownerId race.world) :
    ({ (answer ownerId luck race op).2 with
      threads := race.threads.set index
        (.cancel msgId allSent (next (answer ownerId luck race op).1)) } : CancelRace).Sound ownerId := by
  obtain ⟨absent, seen, ended, allowed, obeys⟩ := current
  have writes (made : MediaWrite) (same : op = .write made) :
      ∃ key errorCode, made = .draft (.setUploadDraftState key .cancelled errorCode) := by
    subst same
    cases made with
    | commitOutgoingDraft m => exact allowed.elim
    | draft call =>
        cases call with
        | setUploadDraftState key state errorCode =>
            obtain rfl : state = .cancelled := allowed
            exact ⟨key, errorCode, rfl⟩
        | _ => exact allowed.elim
  have answered : (answer ownerId luck race op).2.Sound ownerId := by
    refine sound.answered (fun made same => ?_) fun made same _ _ => ?_
    · obtain ⟨key, errorCode, rfl⟩ := writes made same
      exact fun sent => nomatch sent
    · obtain ⟨key, errorCode, rfl⟩ := writes made same
      rfl
  have sameDb : (answer ownerId luck race op).2.world.db = race.world.db := by
    rcases answer_cases op with same | ⟨made, rfl, same⟩ | ⟨made, after, asked, _, _, applied, same⟩
    · rw [same]
    · rw [same]
    · rw [same]
      obtain ⟨key, errorCode, rfl⟩ := writes made asked
      obtain ⟨drafts, _, rfl⟩ := Option.map_eq_some_iff.mp applied
      rfl
  have thread : (MediaThread.cancel msgId allSent (next (answer ownerId luck race op).1)).Sound
      ownerId (answer ownerId luck race op).2.world :=
    ⟨fun unsent => by rw [sameDb]; exact absent unsent, _, seen_ended ended allowed, obeys _⟩
  have final := answered.set index thread
  rwa [answer_threads] at final

theorem Sound.done_cancel (sound : race.Sound ownerId) {allSent ok : Bool} (index : Nat)
    (current : (MediaThread.cancel msgId allSent (.done ok)).Sound ownerId race.world) :
    ({ race with
      threads := race.threads.eraseIdx index
      cancelled := if ok then (msgId, allSent) :: race.cancelled else race.cancelled } :
        CancelRace).Sound ownerId := by
  obtain ⟨absent, seen, ended, known⟩ := current
  refine ⟨sound.world, sound.late,
    fun other member => sound.threads other (List.mem_of_mem_eraseIdx member), fun other member => ?_⟩
  cases ok with
  | false => exact sound.cancelled other member
  | true =>
      rcases List.mem_cons.mp member with same | before
      · obtain ⟨rfl, unsent⟩ := Prod.mk.inj same
        have missing := absent unsent.symm
        refine ⟨missing, ?_⟩
        obtain ⟨variant, member, terminal⟩ := List.any_eq_true.mp (ended (known rfl))
        refine List.any_eq_true.mpr ⟨variant, member, ?_⟩
        obtain ⟨row, stored, named⟩ := MediaWorld.draftIs_iff.mp terminal
        refine MediaWorld.draftIs_iff.mpr ⟨row, stored, ?_⟩
        cases state : row.state with
        | cancelled => rfl
        | sent =>
            have shown := sound.world.sent ⟨ownerId, other, variant⟩ rfl
              (MediaWorld.draftIs_iff.mpr ⟨row, stored, decide_eq_true state⟩)
            rw [missing] at shown
            exact absurd shown Bool.false_ne_true
        | _ => simp [state, UploadDraftState.isTerminal] at named
      · exact sound.cancelled other before

theorem Sound.stepped (sound : race.Sound ownerId) (sha256Hex : Bytes → Bytes) {event : TransferEvent}
    (passed : race.orderly ownerId event = true) :
    (step sha256Hex ownerId race event).Sound ownerId := by
  cases event with
  | start call =>
      refine ⟨sound.world, sound.late, fun thread member => ?_, sound.cancelled⟩
      rcases List.mem_append.mp member with before | last
      · exact sound.threads thread before
      · obtain rfl := List.mem_singleton.mp last
        have started := startThread_sound sha256Hex passed
        exact started
  | advance index luck =>
      cases found : race.threads[index]? with
      | none => simpa only [step, found] using sound
      | some thread =>
          have current := sound.threads thread (List.mem_of_getElem? found)
          cases thread with
          | worker gone program =>
              cases program with
              | done result => simpa only [step, found] using sound.erase index
              | ask op next =>
                  simp only [step, found]
                  refine sound.ask_worker current ?_ ?_
                  · rintro m rfl runs timely
                    simpa [orderly, found, runs, timely] using passed
                  · rintro key rfl named
                    simpa [orderly, found, named] using passed
          | cancel msgId allSent program =>
              cases program with
              | done ok => simpa only [step, found] using sound.done_cancel index current
              | ask op next =>
                  simp only [step, found]
                  exact sound.ask_cancel current
  | land index now =>
      cases found : race.late[index]? with
      | none => simpa only [step, found] using sound
      | some made =>
          have permitted := sound.late made (List.mem_of_getElem? found)
          have may : race.mayCommit ownerId made = true := by simpa [orderly, found] using passed
          have fewer {race : CancelRace} (sound : race.Sound ownerId) :
              ({ race with late := race.late.eraseIdx index } : CancelRace).Sound ownerId :=
            ⟨sound.world, fun other member => sound.late other (List.mem_of_mem_eraseIdx member),
              sound.threads, sound.cancelled⟩
          simp only [step, found]
          cases applied : race.world.apply now made with
          | none => exact fewer sound
          | some after => exact fewer (sound.applied applied permitted may)

theorem step_world (sha256Hex : Bytes → Bytes) (event : TransferEvent) :
    (step sha256Hex ownerId race event).world = race.world ∨
      ∃ now made, race.world.apply now made = some (step sha256Hex ownerId race event).world := by
  have answered (luck : Luck) (op : MediaOp) :
      (answer ownerId luck race op).2.world = race.world ∨
        ∃ now made, race.world.apply now made = some (answer ownerId luck race op).2.world := by
    rcases answer_cases op with same | ⟨made, rfl, same⟩ | ⟨made, after, rfl, _, _, applied, same⟩
    · exact .inl (by rw [same])
    · exact .inl (by rw [same])
    · exact .inr ⟨luck.now, made, by rw [same]; exact applied⟩
  cases event with
  | start call => exact .inl rfl
  | advance index luck =>
      simp only [step]
      split
      · exact .inl rfl
      · exact .inl rfl
      · exact answered luck _
      · exact .inl rfl
      · exact answered luck _
  | land index now =>
      simp only [step]
      split
      · exact .inl rfl
      · rename_i made _
        cases applied : race.world.apply now made with
        | none => exact .inl rfl
        | some after => exact .inr ⟨now, made, applied⟩

/-- Over any calls whatever at most one card of a message is put in, and cancel wins in every run
whose pumps look at the drafts before they store the card. -/
theorem cancel_wins (sha256Hex : Bytes → Bytes) (ownerId : Int) (world : MediaWorld)
    (consistent : world.Consistent ownerId) (fresh : world.cards = []) (events : List TransferEvent) :
    (events.foldl (step sha256Hex ownerId) { world := world }).world.cards.Nodup ∧
      (guarded (step sha256Hex ownerId) (orderly ownerId) { world := world } events = true →
        ∀ front back, front ++ back = events →
          (front.foldl (step sha256Hex ownerId) { world := world }).CancelWins) := by
  constructor
  · have once : (events.foldl (step sha256Hex ownerId) { world := world }).world.OnceEach := by
      induction events using List.reverseRecOn with
      | nil =>
          refine ⟨?_, fun msgId member => ?_⟩
          · simp [fresh]
          · simp [fresh] at member
      | append_singleton front event ih =>
          rw [List.foldl_append, List.foldl_cons, List.foldl_nil]
          rcases step_world sha256Hex event with same | ⟨now, made, applied⟩
          · rw [same]
            exact ih
          · exact ih.apply applied
    exact once.nodup
  · intro passed front back split
    have sound : (front.foldl (step sha256Hex ownerId) { world := world }).Sound ownerId :=
      prefixes_of_guarded (Sound ownerId) (fun _ => True)
        (fun race event _ sound passed => sound.stepped sha256Hex passed) { world := world }
        ⟨consistent, by simp, by simp, by simp⟩ events (fun _ _ => trivial) passed front back split
    intro msgId member
    have absent := (sound.cancelled msgId member).1
    exact ⟨absent, sound.world.queued msgId absent⟩

/-! A photo that the server knows already. -/

def knownPhoto : UploadDraft (List Int32) where
  conversationId := 2
  peerId := 2
  localPath := ascii "photo"
  fileSize := 3
  sha256 := List.replicate 64 0x61
  contentType := ascii "image/png"
  chunksDone := []

def instantly : Luck where
  result := { ok := true }
  info := { instant := true, proofLength := 3 }
  bytes := ascii "f-1"
  file := some (ascii "abc")

def pumped (answers : Nat) : List TransferEvent :=
  [.start (.enqueue (ascii "m-1") [(.origin, knownPhoto)]), .advance 0 {}, .advance 0 {},
    .start (.pumpMessage (ascii "m-1"))] ++ List.replicate answers (.advance 0 instantly)

def cancels (thread : Nat) : List TransferEvent :=
  .start (.cancel (ascii "m-1")) :: List.replicate 5 (.advance thread {})

def cancelledInTime : List TransferEvent :=
  pumped 3 ++ cancels 1 ++ List.replicate 5 (.advance 0 instantly) ++
    .start (.pumpMessage (ascii "m-1")) :: List.replicate 4 (.advance 0 {})

def cancelledBetween : List TransferEvent :=
  pumped 9 ++ cancels 1 ++ List.replicate 3 (.advance 0 {})

theorem empty_consistent (ownerId : Int) : ({} : MediaWorld).Consistent ownerId :=
  ⟨fun _ _ sent => absurd sent Bool.false_ne_true, fun _ _ => rfl⟩

theorem cancel_wins_inTime :
    (ascii "m-1", false) ∈ (cancelledInTime.foldl (step id 1) {}).cancelled ∧
      (cancelledInTime.foldl (step id 1) {}).world.cards.Nodup ∧
      (cancelledInTime.foldl (step id 1) {}).CancelWins := by
  have wins := cancel_wins id 1 {} (empty_consistent 1) rfl cancelledInTime
  exact ⟨by decide +kernel, wins.1,
    wins.2 (by decide +kernel) cancelledInTime [] (List.append_nil _)⟩

theorem cancel_loses : ¬(cancelledBetween.foldl (step id 1) {}).CancelWins := by
  intro wins
  have absent := (wins (ascii "m-1") (by decide +kernel)).1
  have stored : ((cancelledBetween.foldl (step id 1) {}).world.db.message (ascii "m-1")).isSome =
      true := by
    decide +kernel
  rw [absent] at stored
  exact Bool.false_ne_true stored

end CancelRace

end Jitong
