import Jitong.HttpFileServer
import Jitong.Lib.Run

/-!
`handleUploadChunk` cut where it leaves the database and the disk: the requests
of one or several sessions take their steps in any order, and each opening and
each write can fail.
-/

namespace Jitong

open Lib

/-- How far a request has come: it has passed its checks, its row is stored, the
file was not there to be opened, the file is open. -/
inductive ChunkPhase
  | checked
  | committed
  | missing
  | opened
  deriving DecidableEq

structure ChunkState where
  fs : HttpFileServer
  pending : List (ChunkPhase × ChunkUpload)
  answers : List FileReply

inductive ChunkEvent
  | create (now : Int) (pick : Nat) (written : Bool) (user : HttpUser) (rawName : Bytes)
      (receiverId : Option Int32) (size : Option Int) (sha contentType : Bytes)
  | receive (now : Int) (user : HttpUser) (uploadId : Bytes) (index : Option Int32)
      (contentLength : Option Int) (chunkSha body : Bytes)
  | store (written : Bool) (now : Int) (upload : ChunkUpload)
  | openExisting (usable : Bool) (upload : ChunkUpload)
  | openTruncating (usable : Bool) (upload : ChunkUpload)
  | write (count : Nat) (upload : ChunkUpload)

namespace ChunkState

def start (server : Server) (uploadDir : Text) : ChunkState where
  fs := .fresh server uploadDir
  pending := []
  answers := []

def advance (state : ChunkState) (before after : ChunkPhase) (upload : ChunkUpload) : ChunkState :=
  { state with pending := (after, upload) :: state.pending.erase (before, upload) }

def finish (state : ChunkState) (phase : ChunkPhase) (upload : ChunkUpload) (reply : FileReply) :
    ChunkState :=
  { state with pending := state.pending.erase (phase, upload), answers := reply :: state.answers }

def step (crypto : Crypto) (state : ChunkState) : ChunkEvent → Option ChunkState
  | .create now pick written user rawName receiverId size sha contentType =>
      let (reply, fs) := state.fs.handleCreateUpload crypto now pick written user rawName
        receiverId size sha contentType
      some { state with fs, answers := reply :: state.answers }
  | .receive now user uploadId index contentLength chunkSha body =>
      match state.fs.checkChunk crypto now user uploadId index contentLength chunkSha body with
      | .error code => some { state with answers := .status code :: state.answers }
      | .ok upload => some { state with pending := (.checked, upload) :: state.pending }
  | .store written now upload =>
      if (.checked, upload) ∉ state.pending then none else
      match state.fs.storeChunk written now upload with
      | (.stored, fs) => some ({ state with fs }.advance .checked .committed upload)
      | (.duplicate, fs) => some ({ state with fs }.finish .checked upload .stored)
      | (_, fs) => some ({ state with fs }.finish .checked upload (.status 409))
  | .openExisting usable upload =>
      if (.committed, upload) ∉ state.pending then none else
      some (state.advance .committed
        (if state.fs.openExisting usable upload then .opened else .missing) upload)
  | .openTruncating usable upload =>
      if (.missing, upload) ∉ state.pending then none else
      if usable then
        some ({ state with fs := state.fs.openTruncating upload }.advance .missing .opened upload)
      else some (state.finish .missing upload (.status 500))
  | .write count upload =>
      if (.opened, upload) ∉ state.pending then none else
      some ({ state with fs := state.fs.writeChunk count upload }.finish .opened upload
        (if upload.body.length ≤ count then .stored else .status 500))

end ChunkState

def ChunkStep (crypto : Crypto) (before : ChunkState) (event : ChunkEvent) (after : ChunkState) :
    Prop := before.step crypto event = some after

namespace HttpFileServer

def OnDisk (crypto : Crypto) (fs : HttpFileServer) (session : UploadSession Text)
    (chunk : UploadChunk) : Prop :=
  ∃ file, fs.files session.tmpPath = some file ∧
    ((region file (session.offset chunk.index) chunk.size.toNat).length : Int) = chunk.size ∧
    cstr (crypto.tokenHash (region file (session.offset chunk.index) chunk.size.toNat)) =
      chunk.sha256

def Recorded (crypto : Crypto) (fs : HttpFileServer) : Prop :=
  ∀ chunk ∈ fs.uploadDb.chunks.rows, ∀ session,
    fs.uploadDb.session chunk.uploadId = some session → session.state = .opened →
    fs.OnDisk crypto session chunk

end HttpFileServer

structure UploadSession.WellFormed (uploadDir : Text) (row : UploadSession Text) : Prop where
  opened : row.state = .opened
  chunkSize : row.chunkSize = uploadChunkSize
  positive : 0 < row.fileSize
  bounded : row.fileSize ≤ fileMaxSize
  chunkCount : row.chunkCount =
    Int32.ofInt ((row.fileSize + uploadChunkSize - 1) / uploadChunkSize)
  tmpPath : row.tmpPath.bytes =
    uploadDir.bytes ++ ascii "/chunks/" ++ row.uploadId.bytes ++ ascii ".part"

def UploadSession.HasIndex {Str : Type} (row : UploadSession Str) (index : Int32) : Prop :=
  0 ≤ index ∧ index < row.chunkCount

namespace UploadSession.WellFormed

variable {uploadDir : Text} {row other : UploadSession Text} {index : Int32}

theorem count_toInt (formed : row.WellFormed uploadDir) :
    row.chunkCount.toInt = (row.fileSize + uploadChunkSize - 1) / uploadChunkSize := by
  have positive := formed.positive
  have bounded := formed.bounded
  unfold fileMaxSize at bounded
  rw [formed.chunkCount, Int32.toInt_ofInt_of_le]
  · unfold uploadChunkSize
    omega
  · unfold uploadChunkSize
    omega

theorem place (formed : row.WellFormed uploadDir) (inside : row.HasIndex index) :
    (row.offset index : Int) = index.toInt * uploadChunkSize ∧ 0 ≤ index.toInt ∧
      0 < row.expectedSize index ∧ row.expectedSize index ≤ uploadChunkSize ∧
      row.offset index + row.expectedSize index ≤ row.fileSize := by
  obtain ⟨low, high⟩ := inside
  have lower : 0 ≤ index.toInt := by
    simpa using Int32.le_iff_toInt_le.mp low
  have upper := Int32.lt_iff_toInt_lt.mp high
  rw [formed.count_toInt] at upper
  simp only [UploadSession.offset, UploadSession.expectedSize, formed.chunkSize,
    uploadChunkSize] at upper ⊢
  omega

theorem tmpPath_injective (formed : row.WellFormed uploadDir)
    (otherFormed : other.WellFormed uploadDir)
    (same : row.tmpPath = other.tmpPath) : row.uploadId = other.uploadId := by
  have bytes := congrArg Text.bytes same
  rw [formed.tmpPath, otherFormed.tmpPath] at bytes
  exact Text.ext (List.append_cancel_left (List.append_cancel_right bytes))

theorem apart {second : Int32} (formed : row.WellFormed uploadDir) (inside : row.HasIndex index)
    (secondInside : row.HasIndex second) (different : index ≠ second) :
    (row.offset index : Int) + row.expectedSize index ≤ row.offset second ∨
      (row.offset second : Int) + row.expectedSize second ≤ row.offset index := by
  obtain ⟨start, low, _, size, _⟩ := formed.place inside
  obtain ⟨secondStart, secondLow, _, secondSize, _⟩ := formed.place secondInside
  have numbers : index.toInt ≠ second.toInt := fun same => different (Int32.toInt_inj.mp same)
  simp only [uploadChunkSize] at start size secondStart secondSize
  omega

theorem written (formed : row.WellFormed uploadDir) (inside : row.HasIndex index) {data : Bytes}
    (length : (data.length : Int) = row.expectedSize index) (file : Bytes) :
    region (overwrite 0 file (row.offset index) data) (row.offset index)
        (row.expectedSize index).toNat = data ∧
      ((file.length : Int) ≤ row.fileSize →
        ((overwrite 0 file (row.offset index) data).length : Int) ≤ row.fileSize) := by
  obtain ⟨_, _, positive, _, inFile⟩ := formed.place inside
  have nonempty : data ≠ [] := by
    intro empty
    rw [empty, List.length_nil, Int.natCast_zero] at length
    omega
  constructor
  · rw [show (row.expectedSize index).toNat = data.length by omega]
    exact region_overwrite_self nonempty
  · intro bound
    rw [length_overwrite nonempty]
    omega

theorem undisturbed {second : Int32} (formed : row.WellFormed uploadDir)
    (inside : row.HasIndex index) (secondInside : row.HasIndex second) (different : second ≠ index)
    {data file : Bytes} (length : (data.length : Int) = row.expectedSize index)
    (there : ((region file (row.offset second) (row.expectedSize second).toNat).length : Int) =
      row.expectedSize second) :
    region (overwrite 0 file (row.offset index) data) (row.offset second)
        (row.expectedSize second).toNat =
      region file (row.offset second) (row.expectedSize second).toNat := by
  have apart := formed.apart secondInside inside different
  have place := formed.place secondInside
  refine region_overwrite_apart ?_ ?_
  · simp only [region, List.length_take, List.length_drop] at there
    omega
  · omega

end UploadSession.WellFormed

def ChunkUpload.Accepted (crypto : Crypto) (db : UploadTables) (upload : ChunkUpload) : Prop :=
  ∃ row, db.session (cstr upload.uploadId) = some row ∧ upload.session = row.map Text.bytes ∧
    row.HasIndex upload.index ∧ (upload.body.length : Int) = row.expectedSize upload.index ∧
    crypto.tokenHash upload.body = upload.chunkSha

def ChunkUpload.chunk (upload : ChunkUpload) : UploadChunk :=
  ⟨cstr upload.uploadId, upload.index, upload.session.expectedSize upload.index,
    cstr upload.chunkSha⟩

def ChunkState.Underway (state : ChunkState) (chunk : UploadChunk) : Prop :=
  ∃ entry ∈ state.pending, entry.1 ≠ .checked ∧ entry.2.chunk = chunk

structure ChunkState.Kept (crypto : Crypto) (uploadDir : Text) (state : ChunkState) : Prop where
  dir : state.fs.uploadDir = uploadDir
  sessions : ∀ row ∈ state.fs.uploadDb.sessions.rows, row.WellFormed uploadDir
  chunks : ∀ chunk ∈ state.fs.uploadDb.chunks.rows, ∃ row,
    state.fs.uploadDb.session chunk.uploadId = some row ∧ row.HasIndex chunk.index ∧
      chunk.size = row.expectedSize chunk.index
  accepted : ∀ entry ∈ state.pending, entry.2.Accepted crypto state.fs.uploadDb
  stored : ∀ entry ∈ state.pending, entry.1 ≠ .checked →
    entry.2.chunk ∈ state.fs.uploadDb.chunks.rows
  files : ∀ path file, state.fs.files path = some file →
    ∃ row ∈ state.fs.uploadDb.sessions.rows, row.tmpPath = path ∧ (file.length : Int) ≤ row.fileSize
  opened : ∀ upload, (.opened, upload) ∈ state.pending →
    (state.fs.files (HttpFileServer.tmpPath upload)).isSome
  disk : ∀ chunk ∈ state.fs.uploadDb.chunks.rows, ∀ row,
    state.fs.uploadDb.session chunk.uploadId = some row →
    state.fs.OnDisk crypto row chunk ∨ state.Underway chunk

def ChunkEvent.Safe (state : ChunkState) : ChunkEvent → Prop
  | .openTruncating usable upload =>
      usable = true ∧ (state.fs.files (HttpFileServer.tmpPath upload)).getD [] = []
  | .write count upload => upload.body.length ≤ count
  | _ => True

namespace HttpFileServer

variable {crypto : Crypto} {fs : HttpFileServer}

theorem issueInstantChallenge_frame (crypto : Crypto) (now : Int) (pick : Nat)
    (fs : HttpFileServer) (userId receiverId : Int32) (sha : Bytes) (size : Int) :
    (fs.issueInstantChallenge crypto now pick userId receiverId sha size).2.files = fs.files ∧
    (fs.issueInstantChallenge crypto now pick userId receiverId sha size).2.uploadDir =
      fs.uploadDir ∧
    (fs.issueInstantChallenge crypto now pick userId receiverId sha size).2.uploadDb =
      fs.uploadDb := by
  unfold issueInstantChallenge
  split
  · exact ⟨rfl, rfl, rfl⟩
  · exact ⟨rfl, rfl, rfl⟩

theorem chunksPath_noNul (fs : HttpFileServer) (data : Bytes) :
    (0 : UInt8) ∉ fs.chunksPath (toHex data) := by
  simp only [chunksPath, List.mem_append, not_or]
  exact ⟨⟨⟨fs.uploadDir.noNul, by decide +kernel⟩, toHex_noNul data⟩, by decide +kernel⟩

theorem newUploadSession_wellFormed (crypto : Crypto) (now : Int) (fs : HttpFileServer)
    (user : HttpUser) (receiverId : Int32) (safeName sha contentType : Bytes) {size : Int}
    (positive : 0 < size) (bounded : size ≤ fileMaxSize) :
    UploadSession.WellFormed fs.uploadDir
      { (fs.newUploadSession crypto now user receiverId safeName sha contentType size).map cstr with
        state := .opened, fileId := cstr [] } where
  opened := rfl
  chunkSize := rfl
  positive := positive
  bounded := bounded
  chunkCount := rfl
  tmpPath := by
    simp only [newUploadSession, UploadSession.map, Crypto.tokenHash, cstr_toHex]
    rw [cstr_bytes (chunksPath_noNul fs _)]
    rfl

theorem handleCreateUpload_cases (crypto : Crypto) (now : Int) (pick : Nat) (written : Bool)
    (fs : HttpFileServer) (user : HttpUser) (rawName : Bytes) (receiverId : Option Int32)
    (size : Option Int) (sha contentType : Bytes) :
    let after := (fs.handleCreateUpload crypto now pick written user rawName receiverId size sha
      contentType).2
    after.files = fs.files ∧ after.uploadDir = fs.uploadDir ∧
      (after.uploadDb = fs.uploadDb ∨
        ∃ row sessions, row.WellFormed fs.uploadDir ∧
          fs.uploadDb.sessions.insert row = some sessions ∧
          after.uploadDb = { fs.uploadDb with sessions }) := by
  have same : fs.files = fs.files ∧ fs.uploadDir = fs.uploadDir ∧
      (fs.uploadDb = fs.uploadDb ∨ ∃ row sessions, row.WellFormed fs.uploadDir ∧
        fs.uploadDb.sessions.insert row = some sessions ∧
        fs.uploadDb = { fs.uploadDb with sessions }) := ⟨rfl, rfl, .inl rfl⟩
  dsimp only
  unfold handleCreateUpload
  dsimp only
  split
  · rename_i receiver size
    split
    · exact same
    · rename_i valid
      simp only [not_or, not_lt, not_le] at valid
      split
      · exact same
      · obtain ⟨files, dir, db⟩ :=
          issueInstantChallenge_frame crypto now pick fs user.userId receiver sha size
        split
        · rename_i issued
          rw [issued] at files dir db
          exact ⟨files, dir, .inl db⟩
        · rename_i middle issued
          rw [issued] at files dir db
          dsimp only at files dir db
          split
          · exact ⟨files, dir, .inl db⟩
          · split
            · exact ⟨files, dir, .inl db⟩
            · rename_i uploadDb created
              refine ⟨files, dir, .inr ?_⟩
              rcases UploadTables.createUploadSession_cases written middle.uploadDb
                  (middle.newUploadSession crypto now user receiver (fileNameOf rawName) sha
                    contentType size) with refused | ⟨sessions, made, inserted⟩
              · rw [refused] at created
                simp at created
              · rw [made] at created
                simp only [Prod.mk.injEq, true_and] at created
                rw [db] at inserted
                refine ⟨_, sessions, ?_, inserted, by rw [← created, db]⟩
                rw [← dir]
                exact newUploadSession_wellFormed crypto now middle user receiver _ sha
                  contentType valid.2.2.2.1 valid.2.2.2.2
  · exact same

theorem ite_error_eq_ok {Result : Type} {refused : Prop} [Decidable refused] {code : Nat}
    {rest : Except Nat Result} {result : Result} :
    (if refused then .error code else rest) = .ok result ↔ ¬refused ∧ rest = .ok result := by
  split <;> simp_all

theorem checkChunk_accepted {now : Int} {user : HttpUser} {uploadId chunkSha body : Bytes}
    {index : Option Int32} {contentLength : Option Int} {upload : ChunkUpload}
    (checked : fs.checkChunk crypto now user uploadId index contentLength chunkSha body =
      .ok upload) : upload.Accepted crypto fs.uploadDb := by
  unfold checkChunk at checked
  split at checked
  · simp at checked
  · rename_i index
    split at checked
    · simp at checked
    · rename_i session found
      simp only [ite_error_eq_ok, Except.ok.injEq] at checked
      obtain ⟨_, _, _, _, outside, _, _, size, digest, rfl⟩ := checked
      simp only [not_or, Int32.not_lt, Int32.not_le, ne_eq, Decidable.not_not] at outside size digest
      unfold UploadTables.getUploadSession at found
      split at found
      · simp at found
      · obtain ⟨row, rowFound, rfl⟩ := Option.map_eq_some_iff.mp found
        exact ⟨row, rowFound, rfl, outside, size, digest⟩

theorem writeChunk_whole {count : Nat} {upload : ChunkUpload} {file : Bytes}
    (found : fs.files (tmpPath upload) = some file) (whole : upload.body.length ≤ count) :
    fs.writeChunk count upload =
      let written := overwrite 0 file (upload.session.offset upload.index) upload.body
      { fs with files := fs.files.put (tmpPath upload) written } := by
  unfold writeChunk
  rw [found]
  dsimp only
  rw [List.take_of_length_le whole]

end HttpFileServer

namespace ChunkState

variable {crypto : Crypto} {uploadDir : Text} {state : ChunkState} {upload : ChunkUpload}
  {chunk : UploadChunk}

theorem mem_advance {before after : ChunkPhase} {entry : ChunkPhase × ChunkUpload}
    (member : entry ∈ (state.advance before after upload).pending) :
    entry = (after, upload) ∨ entry ∈ state.pending := by
  rcases List.mem_cons.mp member with new | old
  · exact .inl new
  · exact .inr (List.mem_of_mem_erase old)

theorem underway_advance {before after : ChunkPhase} (later : after ≠ .checked)
    (underway : state.Underway chunk) : (state.advance before after upload).Underway chunk := by
  obtain ⟨entry, member, past, same⟩ := underway
  by_cases moved : entry = (before, upload)
  · exact ⟨(after, upload), List.mem_cons_self, later, by rw [← same, moved]⟩
  · exact ⟨entry, List.mem_cons_of_mem _ ((List.mem_erase_of_ne moved).mpr member), past, same⟩

theorem underway_finish {phase : ChunkPhase} {reply : FileReply}
    (underway : state.Underway chunk) :
    (state.finish phase upload reply).Underway chunk ∨
      (phase ≠ .checked ∧ upload.chunk = chunk) := by
  obtain ⟨entry, member, past, same⟩ := underway
  by_cases ended : entry = (phase, upload)
  · rw [ended] at past same
    exact .inr ⟨past, same⟩
  · exact .inl ⟨entry, (List.mem_erase_of_ne ended).mpr member, past, same⟩

theorem start_kept (crypto : Crypto) (server : Server) (uploadDir : Text) :
    (start server uploadDir).Kept crypto uploadDir where
  dir := rfl
  sessions := by simp [start, HttpFileServer.fresh, UploadTables.empty]
  chunks := by simp [start, HttpFileServer.fresh, UploadTables.empty]
  accepted := by simp [start]
  stored := by simp [start]
  files := by simp [start, HttpFileServer.fresh]
  opened := by simp [start]
  disk := by simp [start, HttpFileServer.fresh, UploadTables.empty]

theorem accepted_tmpPath {row : UploadSession Text} (same : upload.session = row.map Text.bytes) :
    HttpFileServer.tmpPath upload = row.tmpPath := by
  rw [HttpFileServer.tmpPath, same]
  exact cstr_text row.tmpPath

theorem Kept.narrow (kept : state.Kept crypto uploadDir)
    {pending : List (ChunkPhase × ChunkUpload)} {answers : List FileReply}
    (old : ∀ entry ∈ pending, entry ∈ state.pending)
    (disk : ∀ chunk ∈ state.fs.uploadDb.chunks.rows, ∀ row,
      state.fs.uploadDb.session chunk.uploadId = some row →
      state.fs.OnDisk crypto row chunk ∨
        ({ state with pending, answers } : ChunkState).Underway chunk) :
    ({ state with pending, answers } : ChunkState).Kept crypto uploadDir where
  dir := kept.dir
  sessions := kept.sessions
  chunks := kept.chunks
  accepted entry member := kept.accepted entry (old entry member)
  stored entry member := kept.stored entry (old entry member)
  files := kept.files
  opened upload member := kept.opened upload (old _ member)
  disk := disk

theorem Kept.create (kept : state.Kept crypto uploadDir) {fs : HttpFileServer}
    {answers : List FileReply} (files : fs.files = state.fs.files)
    (dir : fs.uploadDir = state.fs.uploadDir)
    (tables : fs.uploadDb = state.fs.uploadDb ∨ ∃ row sessions, row.WellFormed state.fs.uploadDir ∧
      state.fs.uploadDb.sessions.insert row = some sessions ∧
      fs.uploadDb = { state.fs.uploadDb with sessions }) :
    ({ state with fs, answers } : ChunkState).Kept crypto uploadDir := by
  -- Old rows stay and are found as before.
  have grown : (∀ row ∈ fs.uploadDb.sessions.rows, row.WellFormed uploadDir) ∧
      (∀ row ∈ state.fs.uploadDb.sessions.rows, row ∈ fs.uploadDb.sessions.rows) ∧
      fs.uploadDb.chunks = state.fs.uploadDb.chunks ∧
      ∀ uploadId row, state.fs.uploadDb.session uploadId = some row →
        fs.uploadDb.session uploadId = some row := by
    rcases tables with same | ⟨row, sessions, formed, inserted, same⟩
    · rw [same]
      exact ⟨kept.sessions, fun _ stored => stored, rfl, fun _ _ found => found⟩
    · rw [same]
      have rows := (Table.insert_eq_some inserted).1
      refine ⟨fun other stored => ?_, fun other stored => ?_, rfl, fun _ _ found =>
        UploadTables.session_of_insert inserted found⟩
      · rcases List.mem_append.mp (rows ▸ stored : other ∈ _ ++ [row]) with old | new
        · exact kept.sessions other old
        · rw [List.mem_singleton.mp new, ← kept.dir]
          exact formed
      · exact rows ▸ List.mem_append_left _ stored
  obtain ⟨formed, stays, chunks, found⟩ := grown
  have lookup (chunk : UploadChunk) (stored : chunk ∈ state.fs.uploadDb.chunks.rows)
      (row : UploadSession Text) (now : fs.uploadDb.session chunk.uploadId = some row) :
      state.fs.uploadDb.session chunk.uploadId = some row := by
    obtain ⟨old, oldFound, _⟩ := kept.chunks chunk stored
    rw [oldFound, ← found _ _ oldFound, now]
  exact {
    dir := dir.trans kept.dir
    sessions := formed
    chunks := by
      intro chunk stored
      obtain ⟨row, rowFound, place⟩ := kept.chunks chunk (chunks ▸ stored)
      exact ⟨row, found _ _ rowFound, place⟩
    accepted := by
      intro entry member
      obtain ⟨row, rowFound, rest⟩ := kept.accepted entry member
      exact ⟨row, found _ _ rowFound, rest⟩
    stored := fun entry member past => chunks.symm ▸ kept.stored entry member past
    files := by
      intro path file there
      obtain ⟨row, stored, rest⟩ := kept.files path file (files ▸ there)
      exact ⟨row, stays row stored, rest⟩
    opened := fun upload member => files.symm ▸ kept.opened upload member
    disk := by
      intro chunk stored row rowFound
      rcases kept.disk chunk (chunks ▸ stored) row (lookup chunk (chunks ▸ stored) row rowFound)
        with ⟨file, there, rest⟩ | underway
      · exact .inl ⟨file, files.symm ▸ there, rest⟩
      · exact .inr underway }

theorem Kept.receive (kept : state.Kept crypto uploadDir)
    (accepted : upload.Accepted crypto state.fs.uploadDb) :
    ({ state with pending := (.checked, upload) :: state.pending } : ChunkState).Kept
      crypto uploadDir where
  dir := kept.dir
  sessions := kept.sessions
  chunks := kept.chunks
  accepted entry member := by
    rcases List.mem_cons.mp member with rfl | old
    · exact accepted
    · exact kept.accepted entry old
  stored entry member past := by
    rcases List.mem_cons.mp member with rfl | old
    · exact absurd rfl past
    · exact kept.stored entry old past
  files := kept.files
  opened other member := by
    rcases List.mem_cons.mp member with new | old
    · simp at new
    · exact kept.opened other old
  disk chunk stored row found := by
    rcases kept.disk chunk stored row found with there | ⟨entry, member, rest⟩
    · exact .inl there
    · exact .inr ⟨entry, List.mem_cons_of_mem _ member, rest⟩

theorem accepted_row {db : UploadTables} (passed : upload.Accepted crypto db) :
    ∃ row, db.session (cstr upload.uploadId) = some row ∧ upload.session = row.map Text.bytes ∧
      row.HasIndex upload.index ∧ (upload.body.length : Int) = row.expectedSize upload.index ∧
      upload.chunk.size = row.expectedSize upload.index ∧
      upload.session.offset upload.index = row.offset upload.index ∧
      crypto.tokenHash upload.body = upload.chunkSha := by
  obtain ⟨row, found, session, inside, length, digest⟩ := passed
  refine ⟨row, found, session, inside, length, ?_, ?_, digest⟩
  · rw [ChunkUpload.chunk, session]
    rfl
  · rw [session]
    rfl

theorem Kept.commit (kept : state.Kept crypto uploadDir)
    (pending : (.checked, upload) ∈ state.pending)
    {chunks : Table UploadChunk uploadChunkClash}
    (rows : chunks.rows = state.fs.uploadDb.chunks.rows ++ [upload.chunk]) :
    let fs := { state.fs with uploadDb := { state.fs.uploadDb with chunks } }
    (({ state with fs } : ChunkState).advance .checked .committed upload).Kept crypto uploadDir := by
  have passed := kept.accepted _ pending
  have stays (chunk : UploadChunk) (stored : chunk ∈ state.fs.uploadDb.chunks.rows) :
      chunk ∈ chunks.rows := rows ▸ List.mem_append_left _ stored
  have new : upload.chunk ∈ chunks.rows := rows ▸ by simp
  dsimp only
  exact {
    dir := kept.dir
    sessions := kept.sessions
    chunks := by
      intro chunk stored
      rcases List.mem_append.mp (rows ▸ stored : chunk ∈ _ ++ [upload.chunk]) with old | added
      · exact kept.chunks chunk old
      · rw [List.mem_singleton.mp added]
        obtain ⟨row, found, _, inside, _, size, _⟩ := accepted_row passed
        exact ⟨row, found, inside, size⟩
    accepted := by
      intro entry member
      rcases mem_advance member with rfl | old
      · exact passed
      · exact kept.accepted entry old
    stored := by
      intro entry member past
      rcases mem_advance member with rfl | old
      · exact new
      · exact stays _ (kept.stored entry old past)
    files := kept.files
    opened := by
      intro other member
      rcases mem_advance member with same | old
      · simp at same
      · exact kept.opened other old
    disk := by
      intro chunk stored row found
      rcases List.mem_append.mp (rows ▸ stored : chunk ∈ _ ++ [upload.chunk]) with old | added
      · rcases kept.disk chunk old row found with there | underway
        · exact .inl there
        · exact .inr (@underway_advance { state with fs := _ } _ _ _ _ (by simp) underway)
      · rw [List.mem_singleton.mp added]
        exact .inr ⟨(.committed, upload), List.mem_cons_self, by simp, rfl⟩ }

theorem Kept.open (kept : state.Kept crypto uploadDir) {before after : ChunkPhase}
    (pending : (before, upload) ∈ state.pending) (past : before ≠ .checked)
    (later : after ≠ .checked) {files : Files Text UInt8}
    (grown : ∀ path, files path = state.fs.files path ∨
      (path = HttpFileServer.tmpPath upload ∧ (state.fs.files path).getD [] = [] ∧
        files path = some []))
    (there : after = .opened → (files (HttpFileServer.tmpPath upload)).isSome) :
    (({ state with fs := { state.fs with files } } : ChunkState).advance before after upload).Kept
      crypto uploadDir where
  dir := kept.dir
  sessions := kept.sessions
  chunks := kept.chunks
  accepted entry member := by
    rcases mem_advance member with rfl | old
    · exact kept.accepted (before, upload) pending
    · exact kept.accepted entry old
  stored entry member now := by
    rcases mem_advance member with rfl | old
    · exact kept.stored (before, upload) pending past
    · exact kept.stored entry old now
  files path file found := by
    rcases grown path with same | ⟨rfl, _, empty⟩
    · exact kept.files path file (same ▸ found)
    · obtain ⟨row, rowFound, session, _⟩ := kept.accepted _ pending
      have stored := (UploadTables.session_eq_some rowFound).1
      refine ⟨row, stored, (accepted_tmpPath session).symm, ?_⟩
      obtain rfl := Option.some.inj (empty.symm.trans found)
      exact (kept.sessions row stored).positive.le
  opened other member := by
    rcases mem_advance member with same | old
    · obtain ⟨rfl, rfl⟩ := Prod.mk.inj same
      exact there rfl
    · change (files (HttpFileServer.tmpPath other)).isSome
      rcases grown (HttpFileServer.tmpPath other) with same | ⟨_, _, empty⟩
      · rw [same]
        exact kept.opened other old
      · rw [empty]
        rfl
  disk chunk stored row found := by
    rcases kept.disk chunk stored row found with ⟨file, present, length, digest⟩ | underway
    · rcases grown row.tmpPath with same | ⟨_, empty, _⟩
      · exact .inl ⟨file, same.trans present, length, digest⟩
      · -- A chunk that is on disk has bytes in the file.
        obtain ⟨other, otherFound, inside, size⟩ := kept.chunks chunk stored
        obtain rfl := Option.some.inj (found.symm.trans otherFound)
        have formed := kept.sessions row (UploadTables.session_eq_some found).1
        have positive := (formed.place inside).2.2.1
        rw [present, Option.getD_some] at empty
        rw [empty, size] at length
        simp only [region, List.drop_nil, List.take_nil, List.length_nil, Int.natCast_zero] at length
        omega
    · exact .inr (@underway_advance { state with fs := _ } _ _ _ _ later underway)

theorem Kept.write (kept : state.Kept crypto uploadDir)
    (pending : (.opened, upload) ∈ state.pending)
    {count : Nat} {reply : FileReply} (whole : upload.body.length ≤ count) :
    (({ state with fs := state.fs.writeChunk count upload } : ChunkState).finish .opened upload
      reply).Kept crypto uploadDir := by
  obtain ⟨file, present⟩ := Option.isSome_iff_exists.mp (kept.opened upload pending)
  have passed : upload.Accepted crypto state.fs.uploadDb := kept.accepted _ pending
  have recorded : upload.chunk ∈ state.fs.uploadDb.chunks.rows := kept.stored _ pending (by simp)
  obtain ⟨row, rowFound, session, inside, length, size, offset, digest⟩ := accepted_row passed
  have rowStored := (UploadTables.session_eq_some rowFound).1
  have formed := kept.sessions row rowStored
  have path : HttpFileServer.tmpPath upload = row.tmpPath := accepted_tmpPath session
  rw [HttpFileServer.writeChunk_whole present whole, path, offset]
  rw [path] at present
  have only (other : UploadSession Text) (stored : other ∈ state.fs.uploadDb.sessions.rows)
      (same : other.tmpPath = row.tmpPath) : other = row := by
    have sameId := (kept.sessions other stored).tmpPath_injective formed same
    have otherFound := UploadTables.session_of_stored stored
    rw [sameId, UploadTables.session_of_stored rowStored] at otherFound
    exact (Option.some.inj otherFound).symm
  obtain ⟨written, bounded⟩ := formed.written inside length file
  -- The chunk of the request, once it is written.
  have onDisk (fs : HttpFileServer) (content : fs.files row.tmpPath =
      some (overwrite 0 file (row.offset upload.index) upload.body)) :
      fs.OnDisk crypto row upload.chunk := by
    refine ⟨_, content, ?_, ?_⟩
    · rw [size, show upload.chunk.index = upload.index from rfl, written]
      exact length
    · rw [size, show upload.chunk.index = upload.index from rfl, written, digest]
      rfl
  refine ⟨kept.dir, kept.sessions, kept.chunks, fun entry member => ?_, fun entry member => ?_,
    fun other content found => ?_, fun other member => ?_, fun chunk stored session found => ?_⟩
  · exact kept.accepted entry (List.mem_of_mem_erase member)
  · exact kept.stored entry (List.mem_of_mem_erase member)
  · change state.fs.files.put row.tmpPath _ other = some content at found
    by_cases same : other = row.tmpPath
    · rw [same, Files.put_self] at found
      obtain ⟨owner, ownerStored, ownerPath, bound⟩ := kept.files row.tmpPath file present
      rw [only owner ownerStored ownerPath] at bound
      refine ⟨row, rowStored, same.symm, ?_⟩
      rw [← Option.some.inj found]
      exact bounded bound
    · rw [Files.put_other _ _ same] at found
      exact kept.files other content found
  · change (state.fs.files.put row.tmpPath _ (HttpFileServer.tmpPath other)).isSome
    by_cases same : HttpFileServer.tmpPath other = row.tmpPath
    · rw [same, Files.put_self]
      rfl
    · rw [Files.put_other _ _ same]
      exact kept.opened other (List.mem_of_mem_erase member)
  · rcases kept.disk chunk stored session found with ⟨old, there, chunkLength, chunkDigest⟩ | underway
    · left
      by_cases same : session.tmpPath = row.tmpPath
      · obtain rfl := only session (UploadTables.session_eq_some found).1 same
        obtain rfl := Option.some.inj (present.symm.trans there)
        obtain ⟨other, otherFound, chunkInside, chunkSize⟩ := kept.chunks chunk stored
        obtain rfl := Option.some.inj (found.symm.trans otherFound)
        by_cases sameIndex : chunk.index = upload.index
        · have sameId : chunk.uploadId = cstr upload.uploadId :=
            (UploadTables.session_eq_some found).2.symm.trans
              (UploadTables.session_eq_some rowFound).2
          have sameChunk : chunk = upload.chunk :=
            state.fs.uploadDb.chunks.eq_of_clash uploadChunkClash_comm stored recorded
              (by simp [uploadChunkClash, ChunkUpload.chunk, sameId, sameIndex])
          rw [sameChunk]
          exact onDisk _ (Files.put_self ..)
        · rw [chunkSize] at chunkLength chunkDigest
          have stays := formed.undisturbed inside chunkInside sameIndex length chunkLength
          refine ⟨_, Files.put_self .., ?_, ?_⟩
          · rw [chunkSize, stays]
            exact chunkLength
          · rw [chunkSize, stays]
            exact chunkDigest
      · exact ⟨old, (Files.put_other _ _ same).trans there, chunkLength, chunkDigest⟩
    · rcases @underway_finish _ upload _ .opened reply underway with
        still | ⟨_, rfl⟩
      · exact .inr still
      · obtain rfl := Option.some.inj (found.symm.trans rowFound)
        exact .inl (onDisk _ (Files.put_self ..))

theorem Kept.refuse (kept : state.Kept crypto uploadDir) (upload : ChunkUpload)
    (reply : FileReply) : (state.finish .checked upload reply).Kept crypto uploadDir := by
  refine kept.narrow (fun entry member => List.mem_of_mem_erase member) ?_
  intro chunk stored row found
  rcases kept.disk chunk stored row found with there | underway
  · exact .inl there
  · rcases @underway_finish _ upload _ .checked reply underway with
      still | ⟨past, _⟩
    · exact .inr still
    · exact absurd rfl past

theorem Kept.store (kept : state.Kept crypto uploadDir) {after : ChunkState} {written : Bool}
    {now : Int} (taken : ChunkStep crypto state (.store written now upload) after) :
    after.Kept crypto uploadDir := by
  simp only [ChunkStep, step, HttpFileServer.storeChunk] at taken
  split at taken
  · simp at taken
  · rename_i pending
    rw [not_not] at pending
    rcases UploadTables.storeUploadChunk_cases written now state.fs.uploadDb upload.uploadId
        upload.index (upload.session.expectedSize upload.index) upload.chunkSha with
      ⟨notStored, same⟩ | ⟨_, chunks, rows, stored⟩
    · split at taken
      · rename_i fs result
        exact absurd (congrArg Prod.fst result) notStored
      · rename_i fs result
        rw [same] at result
        obtain rfl := (Prod.mk.inj result).2
        obtain rfl := Option.some.inj taken
        exact kept.refuse upload .stored
      · rename_i fs _ _ result
        rw [same] at result
        obtain rfl := (Prod.mk.inj result).2
        obtain rfl := Option.some.inj taken
        exact kept.refuse upload (.status 409)
    · rw [stored] at taken
      obtain rfl := Option.some.inj taken
      exact kept.commit pending rows

theorem Kept.openExisting (kept : state.Kept crypto uploadDir) {after : ChunkState} {usable : Bool}
    (taken : ChunkStep crypto state (.openExisting usable upload) after) :
    after.Kept crypto uploadDir := by
  simp only [ChunkStep, step] at taken
  split at taken
  · simp at taken
  · rename_i pending
    rw [not_not] at pending
    obtain rfl := Option.some.inj taken
    refine kept.open pending (by simp) ?_ (fun _ => .inl rfl) ?_
    · split <;> simp
    · intro found
      split at found
      · rename_i there
        exact (Bool.and_eq_true_iff.mp there).2
      · simp at found

theorem Kept.openTruncating (kept : state.Kept crypto uploadDir) {after : ChunkState}
    {usable : Bool} (taken : ChunkStep crypto state (.openTruncating usable upload) after)
    (safe : (ChunkEvent.openTruncating usable upload).Safe state) : after.Kept crypto uploadDir := by
  obtain ⟨rfl, empty⟩ := safe
  simp only [ChunkStep, step, if_true] at taken
  split at taken
  · simp at taken
  · rename_i pending
    rw [not_not] at pending
    obtain rfl := Option.some.inj taken
    refine kept.open pending (by simp) (by simp) (fun path => ?_) fun _ => by simp
    by_cases same : path = HttpFileServer.tmpPath upload
    · subst path
      exact .inr ⟨rfl, empty, Files.put_self ..⟩
    · exact .inl (Files.put_other _ _ same)

end ChunkState

theorem ChunkStep.kept {crypto : Crypto} {uploadDir : Text} {before after : ChunkState}
    {event : ChunkEvent} (taken : ChunkStep crypto before event after) (safe : event.Safe before)
    (kept : before.Kept crypto uploadDir) : after.Kept crypto uploadDir := by
  cases event with
  | create now pick written user rawName receiverId size sha contentType =>
      obtain ⟨files, dir, tables⟩ := before.fs.handleCreateUpload_cases crypto now pick written user
        rawName receiverId size sha contentType
      obtain rfl := Option.some.inj taken
      exact kept.create files dir tables
  | receive now user uploadId index contentLength chunkSha body =>
      simp only [ChunkStep, ChunkState.step] at taken
      split at taken
      · obtain rfl := Option.some.inj taken
        exact kept.narrow (fun _ member => member) kept.disk
      · rename_i upload checked
        obtain rfl := Option.some.inj taken
        exact kept.receive (HttpFileServer.checkChunk_accepted checked)
  | store written now upload => exact kept.store taken
  | openExisting usable upload => exact kept.openExisting taken
  | openTruncating usable upload => exact kept.openTruncating taken safe
  | write count upload =>
      simp only [ChunkStep, ChunkState.step] at taken
      split at taken
      · simp at taken
      · rename_i pending
        rw [not_not] at pending
        obtain rfl := Option.some.inj taken
        exact kept.write pending safe

theorem chunkWrites_kept {crypto : Crypto} {server : Server} {uploadDir : Text}
    {events : List ChunkEvent} {state : ChunkState}
    (run : Run (fun before event after => ChunkStep crypto before event after ∧
      event.Safe before) (.start server uploadDir) events state) :
    state.Kept crypto uploadDir := by
  have initial : (ChunkState.start server uploadDir).Kept crypto uploadDir :=
    ChunkState.start_kept crypto server uploadDir
  exact run.invariant initial fun _ _ _ kept taken => ChunkStep.kept taken.1 taken.2 kept

def ChunkState.Declared (crypto : Crypto) (state : ChunkState) (session : UploadSession Text)
    (content : Bytes) : Prop :=
  ∀ index, session.HasIndex index → ∃ chunk ∈ state.fs.uploadDb.chunks.rows,
    ¬state.Underway chunk ∧ chunk.uploadId = session.uploadId ∧ chunk.index = index ∧
      chunk.sha256 = cstr (crypto.tokenHash
        (region content (session.offset index) (session.expectedSize index).toNat))

theorem UploadSession.WellFormed.indices {uploadDir : Text} {row : UploadSession Text}
    (formed : row.WellFormed uploadDir) :
    (∀ number : Nat, (number : Int) < row.chunkCount.toInt →
      row.HasIndex (Int32.ofNat number) ∧ (Int32.ofNat number).toInt = number) ∧
    (0 : Int) < row.chunkCount.toInt ∧
    (row.chunkCount.toInt - 1) * uploadChunkSize < row.fileSize ∧
    row.fileSize ≤ row.chunkCount.toInt * uploadChunkSize := by
  have positive := formed.positive
  have bounded := formed.bounded
  have count := formed.count_toInt
  simp only [fileMaxSize, uploadChunkSize] at bounded count ⊢
  refine ⟨fun number below => ?_, by omega, by omega, by omega⟩
  have value : (Int32.ofNat number).toInt = number := Int32.toInt_ofNat_of_lt (by omega)
  refine ⟨⟨Int32.le_iff_toInt_le.mpr ?_, Int32.lt_iff_toInt_lt.mpr (by omega)⟩, value⟩
  rw [value]
  simp

theorem declared_file {crypto : Crypto} (collisionFree : Function.Injective crypto.sha256)
    {uploadDir : Text} {state : ChunkState} (kept : state.Kept crypto uploadDir)
    {session : UploadSession Text} (stored : session ∈ state.fs.uploadDb.sessions.rows)
    {content : Bytes} (size : (content.length : Int) = session.fileSize)
    (declared : state.Declared crypto session content) :
    state.fs.files session.tmpPath = some content := by
  have formed := kept.sessions session stored
  have found := UploadTables.session_of_stored stored
  obtain ⟨indices, some_, last, whole⟩ := formed.indices
  have onDisk (index : Int32) (inside : session.HasIndex index) :
      ∃ file, state.fs.files session.tmpPath = some file ∧
        ((region file (session.offset index) (session.expectedSize index).toNat).length : Int) =
          session.expectedSize index ∧
        region file (session.offset index) (session.expectedSize index).toNat =
          region content (session.offset index) (session.expectedSize index).toNat := by
    obtain ⟨chunk, chunkStored, settled, sameId, sameIndex, digest⟩ := declared index inside
    rw [← sameId] at found
    obtain ⟨row, rowFound, _, chunkSize⟩ := kept.chunks chunk chunkStored
    obtain rfl := Option.some.inj (found.symm.trans rowFound)
    obtain ⟨file, there, length, hashed⟩ :=
      (kept.disk chunk chunkStored session found).resolve_right settled
    rw [chunkSize, sameIndex] at length hashed
    exact ⟨file, there, length, Crypto.hashText_injective collisionFree (hashed.trans digest)⟩
  obtain ⟨file, there, _⟩ := onDisk _ (indices 0 (by simpa using some_)).1
  rw [there, Option.some.injEq]
  rw [← formed.chunkSize] at last whole
  obtain ⟨width, chunkSize, positive⟩ : ∃ size : Nat, session.chunkSize = size ∧ 0 < size :=
    ⟨1048576, formed.chunkSize, by decide⟩
  rw [chunkSize] at last whole
  have chunk (number : Nat) (below : (number : Int) < session.chunkCount.toInt) :
      (region file (number * width) (min width (content.length - number * width))).length =
          min width (content.length - number * width) ∧
      region file (number * width) (min width (content.length - number * width)) =
        region content (number * width) (min width (content.length - number * width)) := by
    obtain ⟨inside, value⟩ := indices number below
    obtain ⟨other, otherThere, length, same⟩ := onDisk _ inside
    obtain rfl := Option.some.inj (there.symm.trans otherThere)
    have start : session.offset (Int32.ofNat number) = number * width := by
      rw [UploadSession.offset, value, chunkSize, ← Int.natCast_mul, Int.toNat_natCast]
    have count : (session.expectedSize (Int32.ofNat number)).toNat =
        min width (content.length - number * width) := by
      rw [UploadSession.expectedSize, chunkSize, value, ← size, ← Int.natCast_mul]
      omega
    have some_ := (formed.place inside).2.2.1
    rw [start, count] at length same
    exact ⟨by omega, same⟩
  have length : content.length = file.length := by
    obtain ⟨owner, ownerStored, ownerPath, bound⟩ := kept.files _ file there
    have sameId := (kept.sessions owner ownerStored).tmpPath_injective formed ownerPath
    have sameOwner := UploadTables.session_of_stored ownerStored
    rw [sameId, found, Option.some.injEq] at sameOwner
    rw [← sameOwner] at bound
    obtain ⟨count, counted⟩ : ∃ count : Nat, session.chunkCount.toInt = count + 1 :=
      ⟨(session.chunkCount.toInt - 1).toNat, by omega⟩
    have final := (chunk count (by omega)).1
    rw [counted, Int.add_sub_cancel, ← Int.natCast_mul] at last
    rw [counted, Int.add_mul, Int.one_mul, ← Int.natCast_mul] at whole
    simp only [region, List.length_take, List.length_drop] at final
    omega
  have covered : file.length ≤ session.chunkCount.toInt.toNat * width := by
    have count : (session.chunkCount.toInt.toNat : Int) = session.chunkCount.toInt := by omega
    rw [← count, ← Int.natCast_mul] at whole
    omega
  refine eq_of_regions positive covered length fun number below => ?_
  have clipped := (chunk number (by omega)).2
  rw [region_clip content] at clipped
  rwa [length, region_clip file] at clipped

theorem declared_count {crypto : Crypto} {uploadDir : Text} {state : ChunkState}
    (kept : state.Kept crypto uploadDir) {uploadId : Bytes} (named : uploadId ≠ [])
    {session : UploadSession Text}
    (found : state.fs.uploadDb.session (cstr uploadId) = some session) {content : Bytes}
    (declared : state.Declared crypto session content) :
    Int32.ofNat (state.fs.uploadDb.listUploadChunkIndices uploadId).length =
      session.chunkCount := by
  obtain ⟨stored, sameId⟩ := UploadTables.session_eq_some found
  have formed := kept.sessions session stored
  obtain ⟨indices, positive, _⟩ := formed.indices
  let own := state.fs.uploadDb.chunks.rows.filter fun row => row.uploadId = cstr uploadId
  have inside (chunk : UploadChunk) (member : chunk ∈ own) :
      chunk ∈ state.fs.uploadDb.chunks.rows ∧ chunk.uploadId = cstr uploadId ∧
        0 ≤ chunk.index.toInt ∧ chunk.index.toInt < session.chunkCount.toInt := by
    obtain ⟨chunkStored, ownId⟩ := List.mem_filter.mp member
    have ownId : chunk.uploadId = cstr uploadId := of_decide_eq_true ownId
    obtain ⟨row, rowFound, hasIndex, _⟩ := kept.chunks chunk chunkStored
    rw [ownId, found, Option.some.injEq] at rowFound
    subst row
    exact ⟨chunkStored, ownId, (formed.place hasIndex).2.1, Int32.lt_iff_toInt_lt.mp hasIndex.2⟩
  have distinct : (own.map fun chunk => chunk.index.toInt.toNat).Nodup := by
    refine List.pairwise_map.mpr ((state.fs.uploadDb.chunks.unique.filter _).imp_of_mem ?_)
    intro first second firstMember secondMember apart same
    have firstInside := inside first firstMember
    have secondInside := inside second secondMember
    have sameIndex : first.index = second.index := Int32.toInt_inj.mp (by omega)
    simp [uploadChunkClash, firstInside.2.1, secondInside.2.1, sameIndex] at apart
  have all : (own.map fun chunk => chunk.index.toInt.toNat).Perm
      (List.range session.chunkCount.toInt.toNat) := by
    refine (List.perm_ext_iff_of_nodup distinct List.nodup_range).mpr fun number => ?_
    rw [List.mem_map, List.mem_range]
    constructor
    · rintro ⟨chunk, member, rfl⟩
      have bounds := inside chunk member
      omega
    · intro below
      obtain ⟨hasIndex, value⟩ := indices number (by omega)
      obtain ⟨chunk, chunkStored, _, chunkId, chunkIndex, _⟩ := declared _ hasIndex
      refine ⟨chunk, List.mem_filter.mpr ⟨chunkStored, by simp [chunkId, sameId]⟩, ?_⟩
      rw [chunkIndex, value]
      omega
  have length : (state.fs.uploadDb.listUploadChunkIndices uploadId).length =
      session.chunkCount.toInt.toNat := by
    rw [UploadTables.listUploadChunkIndices, if_neg named, List.length_insertionSort,
      List.length_map]
    simpa using all.length_eq
  have count := formed.count_toInt
  have bounded := formed.bounded
  simp only [fileMaxSize, uploadChunkSize] at count bounded
  refine Int32.toInt_inj.mp ?_
  rw [length, Int32.toInt_ofNat_of_lt (by omega)]
  omega

/-- As long as nothing fails and no file is emptied, a recorded chunk whose
request has done its write is on disk; and a session with all the chunks of the
file that it declares passes the checks of `handleFinalizeUpload`. -/
theorem chunkWrites_recorded {crypto : Crypto} {server : Server} {uploadDir : Text}
    {events : List ChunkEvent} {state : ChunkState}
    (run : Run (fun before event after => ChunkStep crypto before event after ∧
      event.Safe before) (.start server uploadDir) events state) :
    (∀ chunk ∈ state.fs.uploadDb.chunks.rows, ¬state.Underway chunk → ∀ session,
      state.fs.uploadDb.session chunk.uploadId = some session → session.state = .opened →
      state.fs.OnDisk crypto session chunk) ∧
    (Function.Injective crypto.sha256 → ∀ uploadId session content, uploadId ≠ [] →
      state.fs.uploadDb.session (cstr uploadId) = some session →
      (content.length : Int) = session.fileSize →
      crypto.tokenHash content = session.sha256.bytes →
      state.Declared crypto session content →
      state.fs.checkFinalize crypto uploadId (session.map Text.bytes) = none) := by
  have kept := chunkWrites_kept run
  constructor
  · intro chunk stored settled session found _
    exact (kept.disk chunk stored session found).resolve_right settled
  · intro collisionFree uploadId session content named found size digest declared
    have stored := (UploadTables.session_eq_some found).1
    have file := declared_file collisionFree kept stored size declared
    have count := declared_count kept named found declared
    unfold HttpFileServer.checkFinalize
    rw [if_neg (by simpa [UploadSession.map] using count)]
    simp only [UploadSession.map, cstr_text, file, size, digest, ne_eq, not_true_eq_false, if_false]

instance ChunkEvent.decidableSafe (event : ChunkEvent) (state : ChunkState) :
    Decidable (event.Safe state) :=
  match event with
  | .openTruncating _ _ => inferInstanceAs (Decidable (_ ∧ _))
  | .write _ _ => inferInstanceAs (Decidable (_ ≤ _))
  | .create .. => isTrue trivial
  | .receive .. => isTrue trivial
  | .store .. => isTrue trivial
  | .openExisting .. => isTrue trivial

def helloChunk : ChunkUpload := ⟨helloUploadId, helloRow, 0, helloSha, ascii "hello"⟩

def helloSent : List ChunkEvent :=
  [.create 1700000000 0 true helloUser (ascii "hello.txt") (some 2) (some 5) helloSha
      (ascii "text/plain"),
    .receive 1700000001 helloUser helloUploadId (some 0) (some 5) helloSha (ascii "hello"),
    .store true 1700000001 helloChunk]

def helloWritten : List ChunkEvent :=
  helloSent ++ [.openExisting true helloChunk, .openTruncating true helloChunk,
    .write 5 helloChunk]

def helloRefused : List ChunkEvent :=
  helloSent ++ [.openExisting true helloChunk, .openTruncating false helloChunk]

theorem chunkWrites_recorded_hello : ∃ state : ChunkState,
    state.fs.uploadDb.chunks.rows = [helloChunk.chunk] ∧ ¬state.Underway helloChunk.chunk ∧
    ∃ session, state.fs.OnDisk helloCrypto session helloChunk.chunk := by
  have found : (helloWritten.foldlM
      (restricted (ChunkState.step helloCrypto) fun state event => event.Safe state)
      (ChunkState.start helloServer helloDir)).any (fun state =>
        state.fs.uploadDb.chunks.rows = [helloChunk.chunk] ∧ state.pending = [] ∧
        state.fs.uploadDb.session helloChunk.chunk.uploadId = some (helloRow.map cstr)) = true := by
    decide +kernel
  obtain ⟨state, reached, holds⟩ := (Option.any_eq_true _ _).mp found
  obtain ⟨rows, idle, session⟩ := of_decide_eq_true holds
  have settled : ¬state.Underway helloChunk.chunk := by
    rintro ⟨entry, member, _⟩
    simp [idle] at member
  exact ⟨state, rows, settled, _, (chunkWrites_recorded (Run.of_restricted reached)).1 _
    (rows ▸ List.mem_singleton_self _) settled _ session rfl⟩

theorem helloRefused_unrecorded :
    ¬∀ crypto server uploadDir events state,
      Run (ChunkStep crypto) (.start server uploadDir) events state → state.fs.Recorded crypto := by
  intro recorded
  have found : (helloRefused.foldlM (ChunkState.step helloCrypto)
      (ChunkState.start helloServer helloDir)).any (fun state =>
        state.fs.uploadDb.chunks.rows = [helloChunk.chunk] ∧ state.pending = [] ∧
        state.fs.uploadDb.session helloChunk.chunk.uploadId = some (helloRow.map cstr) ∧
        state.fs.files (helloRow.map cstr).tmpPath = none) = true := by
    decide +kernel
  obtain ⟨state, reached, holds⟩ := (Option.any_eq_true _ _).mp found
  obtain ⟨rows, _, session, absent⟩ := of_decide_eq_true holds
  obtain ⟨file, there, _⟩ := recorded helloCrypto helloServer helloDir _ state
    (Run.of_foldlM reached) _ (rows ▸ List.mem_singleton_self _) _ session rfl
  rw [absent] at there
  simp at there

end Jitong
