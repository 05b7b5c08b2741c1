import Jitong.HttpFileServer
import Jitong.Lib.Run

/-!
`handleFinalizeUpload` cut into its steps: several requests of a session's owner
read the session, check its chunks and its file, move the file and mark the
session, in any order, and a request can stop between two steps.
-/

namespace Jitong

open Lib

inductive FinalizePhase
  | read (session : UploadSession Bytes)
  | checked (session : UploadSession Bytes)
  | moved (session : UploadSession Bytes) (finalPath : Bytes)
  deriving DecidableEq

structure FinalizeState where
  fs : HttpFileServer
  pending : List FinalizePhase
  answers : List FileReply

inductive FinalizeEvent
  | read
  | check (session : UploadSession Bytes)
  | move (session : UploadSession Bytes)
  | mark (now : Int) (writes : Nat → Bool) (session : UploadSession Bytes) (finalPath : Bytes)
  | stop (phase : FinalizePhase)

namespace FinalizeState

def start (fs : HttpFileServer) : FinalizeState := ⟨fs, [], []⟩

def step (crypto : Crypto) (user : HttpUser) (uploadId : Bytes) (state : FinalizeState) :
    FinalizeEvent → Option FinalizeState
  | .read =>
      match state.fs.readFinalize user uploadId with
      | .error reply => some { state with answers := reply :: state.answers }
      | .ok session => some { state with pending := .read session :: state.pending }
  | .check session =>
      if .read session ∉ state.pending then none else
      let pending := state.pending.erase (.read session)
      match state.fs.checkFinalize crypto uploadId session with
      | some reply => some { state with pending, answers := reply :: state.answers }
      | none => some { state with pending := .checked session :: pending }
  | .move session =>
      if .checked session ∉ state.pending then none else
      let (finalPath, fs) := state.fs.moveFinalize crypto uploadId session
      some { state with
        fs, pending := .moved session finalPath :: state.pending.erase (.checked session) }
  | .mark now writes session finalPath =>
      if .moved session finalPath ∉ state.pending then none else
      let (reply, fs) := state.fs.markFinalize crypto now writes user uploadId session finalPath
      some {
        fs
        pending := state.pending.erase (.moved session finalPath)
        answers := reply :: state.answers }
  | .stop phase =>
      if phase ∉ state.pending then none else
      some { state with pending := state.pending.erase phase }

end FinalizeState

def FinalizeStep (crypto : Crypto) (user : HttpUser) (uploadId : Bytes) (before : FinalizeState)
    (event : FinalizeEvent) (after : FinalizeState) : Prop :=
  before.step crypto user uploadId event = some after

def FinalizeEvent.Safe (state : FinalizeState) : FinalizeEvent → Prop
  | .check session => (state.fs.files (cstr session.tmpPath)).isSome
  | .mark _ writes _ _ => writes 0 = true
  | _ => True

namespace HttpFileServer

structure Complete (crypto : Crypto) (fs : HttpFileServer) (user : HttpUser) (uploadId : Bytes)
    (row : UploadSession Text) : Prop where
  named : uploadId ≠ []
  found : fs.uploadDb.session (cstr uploadId) = some row
  opened : row.state = .opened
  uploader : row.uploaderId = user.userId
  device : row.deviceId.bytes = user.deviceId
  checks : fs.checkFinalize crypto uploadId (row.map Text.bytes) = none

end HttpFileServer

def finalizeReply (crypto : Crypto) (uploadId : Bytes) (row : UploadSession Text) : FileReply :=
  HttpFileServer.fileReply (row.map Text.bytes) (HttpFileServer.finalizedId crypto uploadId)

def UploadSession.marked (crypto : Crypto) (uploadId : Bytes) (row : UploadSession Text) :
    UploadSession Text :=
  { row with
    state := .finalized
    fileId := cstr (HttpFileServer.finalizedId crypto uploadId) }

structure FinalizeState.Kept (crypto : Crypto) (start : HttpFileServer) (uploadId : Bytes)
    (row : UploadSession Text) (state : FinalizeState) : Prop where
  session : state.fs.uploadDb.session (cstr uploadId) = some row ∨
    state.fs.uploadDb.session (cstr uploadId) = some (row.marked crypto uploadId)
  chunks : state.fs.uploadDb.chunks = start.uploadDb.chunks
  file : state.fs.files row.tmpPath = none ∨
    state.fs.files row.tmpPath = start.files row.tmpPath
  pending : ∀ phase ∈ state.pending, phase = .read (row.map Text.bytes) ∨
    phase = .checked (row.map Text.bytes) ∨ ∃ path, phase = .moved (row.map Text.bytes) path
  answers : ∀ reply ∈ state.answers, reply = finalizeReply crypto uploadId row

theorem finalizedId_ne_nil {crypto : Crypto} (digests : ∀ input, crypto.sha256 input ≠ [])
    (uploadId : Bytes) : HttpFileServer.finalizedId crypto uploadId ≠ [] := by
  intro empty
  have same : toHex (crypto.sha256 (uploadId ++ ascii "|finalize")) = toHex [] := empty
  exact digests _ (toHex_injective same)

@[simp] theorem registerMediaObject_uploadDb (written : Bool) (fs : HttpFileServer)
    (sha256 : Bytes) (size : Int) (path contentType : Bytes) :
    (fs.registerMediaObject written sha256 size path contentType).uploadDb = fs.uploadDb := by
  unfold HttpFileServer.registerMediaObject
  split <;> rfl

@[simp] theorem registerMediaObject_files (written : Bool) (fs : HttpFileServer) (sha256 : Bytes)
    (size : Int) (path contentType : Bytes) :
    (fs.registerMediaObject written sha256 size path contentType).files = fs.files := by
  unfold HttpFileServer.registerMediaObject
  split <;> rfl

section Mark

variable {crypto : Crypto} {fs : HttpFileServer} {uploadId : Bytes} {row : UploadSession Text}

theorem markFinalize_opened (now : Int) {writes : Nat → Bool} (user : HttpUser)
    (finalPath : Bytes) (given : HttpFileServer.finalizedId crypto uploadId ≠ [])
    (named : uploadId ≠ []) (found : fs.uploadDb.session (cstr uploadId) = some row)
    (opened : row.state = .opened) (through : writes 0 = true) :
    let marked := fs.markFinalize crypto now writes user uploadId (row.map Text.bytes) finalPath
    marked.1 = finalizeReply crypto uploadId row ∧ marked.2.files = fs.files ∧
      marked.2.uploadDb.chunks = fs.uploadDb.chunks ∧
      marked.2.uploadDb.session (cstr uploadId) = some (row.marked crypto uploadId) := by
  have finalized := UploadTables.finalizeUploadSession_opened named given found opened
  have sameId := (UploadTables.session_eq_some found).2
  unfold HttpFileServer.markFinalize
  simp only [through, finalized, ne_eq, not_true_eq_false, if_false, HttpFileServer.registerUpload,
    registerMediaObject_files, registerMediaObject_uploadDb, UploadTables.updateOpen_session, found,
    Option.map_some, sameId, opened, and_self, if_true, UploadSession.marked]
  exact ⟨rfl, trivial, rfl, trivial⟩

theorem markFinalize_marked (now : Int) (writes : Nat → Bool) (user : HttpUser)
    (finalPath : Bytes) (given : HttpFileServer.finalizedId crypto uploadId ≠ [])
    (named : uploadId ≠ [])
    (found : fs.uploadDb.session (cstr uploadId) = some (row.marked crypto uploadId)) :
    fs.markFinalize crypto now writes user uploadId (row.map Text.bytes) finalPath =
      (finalizeReply crypto uploadId row, fs) := by
  have stored : (row.marked crypto uploadId).fileId.bytes =
      HttpFileServer.finalizedId crypto uploadId := cstr_toHex _
  have finalized := (UploadTables.finalized_answers named found rfl (writes 0)).1 _ given
  unfold HttpFileServer.markFinalize
  simp only [finalized, stored]
  rw [if_pos given]
  rfl

end Mark

namespace FinalizeStep

variable {crypto : Crypto} {user : HttpUser} {uploadId : Bytes} {row : UploadSession Text}
  {start : HttpFileServer} {before after : FinalizeState}

theorem read_kept (complete : start.Complete crypto user uploadId row)
    (kept : before.Kept crypto start uploadId row)
    (taken : FinalizeStep crypto user uploadId before .read after) :
    after.Kept crypto start uploadId row := by
  have reads : before.fs.readFinalize user uploadId = .ok (row.map Text.bytes) ∨
      before.fs.readFinalize user uploadId = .error (finalizeReply crypto uploadId row) := by
    unfold HttpFileServer.readFinalize UploadTables.getUploadSession
    rw [if_neg complete.named]
    rcases kept.session with found | found
    · left
      simp [found, UploadSession.map, complete.uploader, complete.device, complete.opened]
    · right
      simp [found, UploadSession.map, UploadSession.marked, complete.uploader, complete.device,
        finalizeReply, HttpFileServer.fileReply, HttpFileServer.finalizedId, Crypto.tokenHash]
  rcases reads with read | read
  · simp only [FinalizeStep, FinalizeState.step, read, Option.some.injEq] at taken
    subst after
    refine ⟨kept.session, kept.chunks, kept.file, fun phase member => ?_, kept.answers⟩
    rcases List.mem_cons.mp member with rfl | old
    · exact .inl rfl
    · exact kept.pending phase old
  · simp only [FinalizeStep, FinalizeState.step, read, Option.some.injEq] at taken
    subst after
    refine ⟨kept.session, kept.chunks, kept.file, kept.pending, fun reply member => ?_⟩
    rcases List.mem_cons.mp member with rfl | old
    · rfl
    · exact kept.answers reply old

theorem check_kept (complete : start.Complete crypto user uploadId row)
    (kept : before.Kept crypto start uploadId row) {session : UploadSession Bytes}
    (safe : (FinalizeEvent.check session).Safe before)
    (taken : FinalizeStep crypto user uploadId before (.check session) after) :
    after.Kept crypto start uploadId row := by
  simp only [FinalizeStep, FinalizeState.step] at taken
  split at taken
  · simp at taken
  · rename_i member
    rw [not_not] at member
    obtain rfl : session = row.map Text.bytes := by
      simpa using kept.pending _ member
    have path : cstr (row.map Text.bytes).tmpPath = row.tmpPath := cstr_text row.tmpPath
    have file : before.fs.files row.tmpPath = start.files row.tmpPath := by
      rcases kept.file with gone | there
      · rw [FinalizeEvent.Safe, path, gone] at safe
        simp at safe
      · exact there
    have checks : before.fs.checkFinalize crypto uploadId (row.map Text.bytes) = none := by
      have same := complete.checks
      unfold HttpFileServer.checkFinalize UploadTables.listUploadChunkIndices at same ⊢
      rwa [kept.chunks, path, file, ← path]
    rw [checks, Option.some.injEq] at taken
    subst after
    refine ⟨kept.session, kept.chunks, kept.file, fun phase pending => ?_, kept.answers⟩
    rcases List.mem_cons.mp pending with rfl | old
    · exact .inr (.inl rfl)
    · exact kept.pending phase (List.mem_of_mem_erase old)

theorem move_kept (kept : before.Kept crypto start uploadId row) {session : UploadSession Bytes}
    (taken : FinalizeStep crypto user uploadId before (.move session) after) :
    after.Kept crypto start uploadId row := by
  simp only [FinalizeStep, FinalizeState.step] at taken
  split at taken
  · simp at taken
  · rename_i member
    rw [not_not] at member
    obtain rfl : session = row.map Text.bytes := by
      simpa using kept.pending _ member
    have path : cstr (row.map Text.bytes).tmpPath = row.tmpPath := cstr_text row.tmpPath
    rw [Option.some.injEq] at taken
    subst after
    refine ⟨kept.session, kept.chunks, ?_, fun phase pending => ?_, kept.answers⟩
    · have moved : ∀ target, before.fs.files.rename row.tmpPath target row.tmpPath = none ∨
          before.fs.files.rename row.tmpPath target row.tmpPath = start.files row.tmpPath := by
        intro target
        rcases before.fs.files.rename_source row.tmpPath target with gone | same
        · exact .inl gone
        · exact kept.file.imp same.trans same.trans
      dsimp only [HttpFileServer.moveFinalize]
      rw [path]
      split
      · unfold HttpFileServer.moveImage
        split
        · exact .inl (Files.remove_self ..)
        · exact moved _
      · exact moved _
    · rcases List.mem_cons.mp pending with rfl | old
      · exact .inr (.inr ⟨_, rfl⟩)
      · exact kept.pending phase (List.mem_of_mem_erase old)

theorem mark_kept (digests : ∀ input, crypto.sha256 input ≠ [])
    (complete : start.Complete crypto user uploadId row)
    (kept : before.Kept crypto start uploadId row) {now : Int} {writes : Nat → Bool}
    {session : UploadSession Bytes} {finalPath : Bytes}
    (safe : (FinalizeEvent.mark now writes session finalPath).Safe before)
    (taken : FinalizeStep crypto user uploadId before (.mark now writes session finalPath) after) :
    after.Kept crypto start uploadId row := by
  simp only [FinalizeStep, FinalizeState.step] at taken
  split at taken
  · simp at taken
  · rename_i member
    rw [not_not] at member
    obtain rfl : session = row.map Text.bytes := by
      simpa using kept.pending _ member
    rw [Option.some.injEq] at taken
    subst after
    have given := finalizedId_ne_nil digests uploadId
    have answers (reply : FileReply) (made : reply = finalizeReply crypto uploadId row)
        (other : FileReply) (member : other ∈ reply :: before.answers) :
        other = finalizeReply crypto uploadId row := by
      rcases List.mem_cons.mp member with rfl | old
      · exact made
      · exact kept.answers other old
    have pending (phase : FinalizePhase) (member : phase ∈ before.pending.erase
        (.moved (row.map Text.bytes) finalPath)) := kept.pending phase (List.mem_of_mem_erase member)
    rcases kept.session with found | found
    · obtain ⟨reply, files, chunks, session⟩ :=
        markFinalize_opened now user finalPath given complete.named found complete.opened safe
      refine ⟨.inr session, chunks.trans kept.chunks, ?_, pending, answers _ reply⟩
      rw [files]
      exact kept.file
    · rw [markFinalize_marked now writes user finalPath given complete.named found]
      exact ⟨.inr found, kept.chunks, kept.file, pending, answers _ rfl⟩

theorem kept (digests : ∀ input, crypto.sha256 input ≠ [])
    (complete : start.Complete crypto user uploadId row) {event : FinalizeEvent}
    (taken : FinalizeStep crypto user uploadId before event after) (safe : event.Safe before)
    (kept : before.Kept crypto start uploadId row) : after.Kept crypto start uploadId row := by
  cases event with
  | read => exact read_kept complete kept taken
  | check session => exact check_kept complete kept safe taken
  | move session => exact move_kept kept taken
  | mark now writes session finalPath => exact mark_kept digests complete kept safe taken
  | stop phase =>
      simp only [FinalizeStep, FinalizeState.step] at taken
      split at taken
      · simp at taken
      · rw [Option.some.injEq] at taken
        subst after
        exact ⟨kept.session, kept.chunks, kept.file,
          fun phase pending => kept.pending phase (List.mem_of_mem_erase pending), kept.answers⟩

end FinalizeStep

/-- If no request moves the file before another has checked it, and the marks go
through, every request that ends is answered with the one file id. -/
theorem finalizeRace_answers {crypto : Crypto} {user : HttpUser} {uploadId : Bytes}
    {row : UploadSession Text} {fs : HttpFileServer} {events : List FinalizeEvent}
    {state : FinalizeState} (digests : ∀ input, crypto.sha256 input ≠ [])
    (complete : fs.Complete crypto user uploadId row)
    (run : Run (fun before event after => FinalizeStep crypto user uploadId before event after ∧
      event.Safe before) (.start fs) events state) :
    ∀ reply ∈ state.answers, reply = finalizeReply crypto uploadId row := by
  have initial : (FinalizeState.start fs).Kept crypto fs uploadId row :=
    ⟨.inl complete.found, rfl, .inr rfl, by simp [FinalizeState.start],
      by simp [FinalizeState.start]⟩
  have kept : state.Kept crypto fs uploadId row := run.invariant initial
    fun _ _ _ kept taken => FinalizeStep.kept digests complete taken.1 taken.2 kept
  exact kept.answers

instance FinalizeEvent.decidableSafe (event : FinalizeEvent) (state : FinalizeState) :
    Decidable (event.Safe state) :=
  match event with
  | .check _ => inferInstanceAs (Decidable (_ = true))
  | .mark .. => inferInstanceAs (Decidable (_ = true))
  | .read => isTrue trivial
  | .move _ => isTrue trivial
  | .stop _ => isTrue trivial

theorem helloUploaded_complete :
    helloUploaded.Complete helloCrypto helloUser helloUploadId (helloRow.map cstr) where
  named := by decide +kernel
  found := by decide +kernel
  opened := by decide +kernel
  uploader := by decide +kernel
  device := by decide +kernel
  checks := by decide +kernel

def helloSession : UploadSession Bytes := (helloRow.map cstr).map Text.bytes

def helloFinalPath : Bytes := ascii "uploads/file/" ++ helloFileId ++ ascii "_hello.txt"

def helloTwice : List FinalizeEvent :=
  [.read, .read, .check helloSession, .check helloSession, .move helloSession, .move helloSession,
    .mark 1700000002 (fun _ => true) helloSession helloFinalPath,
    .mark 1700000002 (fun _ => true) helloSession helloFinalPath]

def helloStopped : List FinalizeEvent :=
  [.read, .check helloSession, .move helloSession, .stop (.moved helloSession helloFinalPath),
    .read, .check helloSession]

theorem finalizeRace_answers_hello : ∃ state : FinalizeState,
    (state.pending = [] ∧ state.answers.length = 2) ∧
    ∀ reply ∈ state.answers, reply = finalizeReply helloCrypto helloUploadId (helloRow.map cstr) := by
  have found : (helloTwice.foldlM (restricted (FinalizeState.step helloCrypto helloUser
      helloUploadId) fun state event => event.Safe state) (.start helloUploaded)).any (fun state =>
        state.pending = [] ∧ state.answers.length = 2) = true := by
    decide +kernel
  obtain ⟨state, reached, holds⟩ := (Option.any_eq_true _ _).mp found
  exact ⟨state, of_decide_eq_true holds, finalizeRace_answers helloCrypto_digests
    helloUploaded_complete (Run.of_restricted reached)⟩

theorem helloStopped_mismatch :
    ¬∀ crypto user uploadId row fs, (∀ input, crypto.sha256 input ≠ []) →
      HttpFileServer.Complete crypto fs user uploadId row → ∀ events state,
      Run (FinalizeStep crypto user uploadId) (.start fs) events state →
      ∀ reply ∈ state.answers, reply = finalizeReply crypto uploadId row := by
  intro answered
  have found : (helloStopped.foldlM (FinalizeState.step helloCrypto helloUser helloUploadId)
      (.start helloUploaded)).any (fun state => .sizeMismatch ∈ state.answers) = true := by
    decide +kernel
  obtain ⟨state, reached, member⟩ := (Option.any_eq_true _ _).mp found
  have reply := answered helloCrypto helloUser helloUploadId _ helloUploaded helloCrypto_digests
    helloUploaded_complete _ state (Run.of_foldlM reached) _ (of_decide_eq_true member)
  simp [finalizeReply, HttpFileServer.fileReply] at reply

end Jitong

