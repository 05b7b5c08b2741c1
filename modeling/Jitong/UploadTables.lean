import Jitong.Lib.Sql
import Jitong.Protocol

/-!
The tables `upload_sessions` and `upload_chunks` and the `Database` calls on them.
-/

namespace Jitong

open Lib

inductive UploadState
  | opened
  | finalized
  | cancelled
  deriving DecidableEq

/-- `Database::UploadSession`, with `std::string`s or with columns for its texts. -/
structure UploadSession (Str : Type) where
  uploadId : Str
  uploaderId : Int32
  deviceId : Str
  receiverId : Int32
  fileName : Str
  fileSize : Int
  sha256 : Str
  contentType : Str
  isImage : Bool
  chunkSize : Int
  chunkCount : Int32
  expiresAt : Int
  state : UploadState
  fileId : Str
  tmpPath : Str
  createdAt : Int
  deriving DecidableEq

def UploadSession.map {Str Other : Type} (change : Str → Other) (s : UploadSession Str) :
    UploadSession Other where
  uploadId := change s.uploadId
  uploaderId := s.uploaderId
  deviceId := change s.deviceId
  receiverId := s.receiverId
  fileName := change s.fileName
  fileSize := s.fileSize
  sha256 := change s.sha256
  contentType := change s.contentType
  isImage := s.isImage
  chunkSize := s.chunkSize
  chunkCount := s.chunkCount
  expiresAt := s.expiresAt
  state := s.state
  fileId := change s.fileId
  tmpPath := change s.tmpPath
  createdAt := s.createdAt

structure UploadChunk where
  uploadId : Text
  index : Int32
  size : Int
  sha256 : Text
  deriving DecidableEq

inductive ChunkStoreResult
  | stored
  | duplicate
  | conflict
  | rejected
  deriving DecidableEq

def uploadSessionClash (first second : UploadSession Text) : Bool :=
  first.uploadId = second.uploadId

def uploadChunkClash (first second : UploadChunk) : Bool :=
  first.uploadId = second.uploadId ∧ first.index = second.index

theorem uploadSessionClash_comm (first second : UploadSession Text) :
    uploadSessionClash first second = uploadSessionClash second first := by
  simp only [uploadSessionClash, eq_comm]

theorem uploadChunkClash_comm (first second : UploadChunk) :
    uploadChunkClash first second = uploadChunkClash second first := by
  simp only [uploadChunkClash, eq_comm]

structure UploadTables where
  sessions : Table (UploadSession Text) uploadSessionClash
  chunks : Table UploadChunk uploadChunkClash

namespace UploadTables

def empty : UploadTables := ⟨.empty, .empty⟩

def session (db : UploadTables) (uploadId : Text) : Option (UploadSession Text) :=
  db.sessions.rows.find? fun row => row.uploadId = uploadId

/-- `SELECT sha256 FROM upload_chunks WHERE upload_id=? AND chunk_index=?`. -/
def chunk (db : UploadTables) (uploadId : Text) (index : Int32) : Option UploadChunk :=
  db.chunks.rows.find? fun row => row.uploadId = uploadId ∧ row.index = index

def createUploadSession (written : Bool) (db : UploadTables) (s : UploadSession Bytes) :
    Bool × UploadTables :=
  if s.uploadId = [] ∨ s.uploaderId ≤ 0 ∨ s.receiverId ≤ 0 ∨ s.fileSize ≤ 0 ∨ s.chunkSize ≤ 0 ∨
      s.chunkCount ≤ 0 ∨ s.sha256.length ≠ 64 ∨ written = false then (false, db) else
  match db.sessions.insert { s.map cstr with state := .opened, fileId := cstr [] } with
  | some sessions => (true, { db with sessions })
  | none => (false, db)

def findOpenUploadSession (db : UploadTables) (uploaderId : Int32) (deviceId : Bytes)
    (receiverId : Int32) (sha256 : Bytes) (size : Int) : Option (UploadSession Bytes) :=
  if uploaderId ≤ 0 ∨ receiverId ≤ 0 ∨ sha256.length ≠ 64 ∨ size ≤ 0 then none else
  let matching := db.sessions.rows.filter fun row =>
    row.uploaderId = uploaderId ∧ row.deviceId = cstr deviceId ∧ row.receiverId = receiverId ∧
      row.sha256 = cstr sha256 ∧ row.fileSize = size ∧ row.state = .opened
  let newest := matching.find? fun row =>
    matching.all fun other => other.createdAt ≤ row.createdAt
  newest.map (·.map Text.bytes)

def getUploadSession (db : UploadTables) (uploadId : Bytes) : Option (UploadSession Bytes) :=
  if uploadId = [] then none else (db.session (cstr uploadId)).map (·.map Text.bytes)

def storeUploadChunk (written : Bool) (now : Int) (db : UploadTables) (uploadId : Bytes)
    (index : Int32) (size : Int) (sha256 : Bytes) : ChunkStoreResult × UploadTables :=
  if uploadId = [] ∨ index < 0 ∨ size ≤ 0 ∨ sha256.length ≠ 64 then (.rejected, db) else
  match db.session (cstr uploadId) with
  | none => (.rejected, db)
  | some session =>
      if session.state ≠ .opened ∨ session.expiresAt < now then (.rejected, db) else
      match db.chunk (cstr uploadId) index with
      | some existing => (if existing.sha256.bytes = sha256 then .duplicate else .conflict, db)
      | none =>
          match db.chunks.insert ⟨cstr uploadId, index, size, cstr sha256⟩ with
          | some chunks => if written then (.stored, { db with chunks }) else (.rejected, db)
          | none => (.rejected, db)

def listUploadChunkIndices (db : UploadTables) (uploadId : Bytes) : List Int32 :=
  if uploadId = [] then [] else
  ((db.chunks.rows.filter fun row => row.uploadId = cstr uploadId).map (·.index)).insertionSort
    (· ≤ ·)

def updateOpen (db : UploadTables) (uploadId : Text)
    (change : UploadSession Text → UploadSession Text)
    (keeps : ∀ row, (change row).uploadId = row.uploadId) : UploadTables :=
  let sessions := db.sessions.rewrite
    (fun row => if row.uploadId = uploadId ∧ row.state = .opened then change row else row)
    (by intro first second; unfold uploadSessionClash; split <;> split <;> simp only [keeps])
  { db with sessions }

def openCount (db : UploadTables) (uploadId : Text) : Nat :=
  db.sessions.rows.countP fun row => row.uploadId = uploadId ∧ row.state = .opened

def finalizeUploadSession (written : Bool) (db : UploadTables) (uploadId fileId : Bytes) :
    Bool × Bytes × UploadTables :=
  if uploadId = [] ∨ fileId = [] then (false, [], db) else
  match db.session (cstr uploadId) with
  | none => (false, [], db)
  | some session =>
      if session.state = .finalized then (true, session.fileId.bytes, db)
      else if session.state ≠ .opened ∨ written = false then (false, [], db)
      else (db.openCount (cstr uploadId) = 1, [],
        db.updateOpen (cstr uploadId)
          (fun row => { row with state := .finalized, fileId := cstr fileId }) fun _ => rfl)

def cancelUploadSession (written : Bool) (db : UploadTables) (uploadId : Bytes) :
    Bool × UploadTables :=
  if uploadId = [] then (false, db) else
  match db.session (cstr uploadId) with
  | none => (false, db)
  | some session =>
      if session.state = .cancelled then (true, db)
      else if session.state ≠ .opened ∨ written = false then (false, db)
      else (db.openCount (cstr uploadId) = 1,
        db.updateOpen (cstr uploadId) (fun row => { row with state := .cancelled }) fun _ => rfl)

def listExpiredUploadSessions (now : Int) (db : UploadTables) : List (UploadSession Bytes) :=
  (db.sessions.rows.filter fun row => row.expiresAt < now ∧ row.state ≠ .finalized).map
    (·.map Text.bytes)

/-- `writes 0` and `writes 1` are the two `DELETE`s, which are not one transaction. -/
def deleteUploadSession (writes : Nat → Bool) (db : UploadTables) (uploadId : Bytes) :
    Bool × UploadTables :=
  if uploadId = [] ∨ writes 0 = false then (false, db) else
  let db := { db with chunks := db.chunks.delete fun row => row.uploadId = cstr uploadId }
  if !writes 1 then (false, db) else
  (true, { db with sessions := db.sessions.delete fun row => row.uploadId = cstr uploadId })

theorem session_eq_some {db : UploadTables} {uploadId : Text} {row : UploadSession Text}
    (found : db.session uploadId = some row) : row ∈ db.sessions.rows ∧ row.uploadId = uploadId :=
  ⟨List.mem_of_find?_eq_some found, of_decide_eq_true (List.find?_some found :)⟩

theorem session_of_stored {db : UploadTables} {row : UploadSession Text}
    (stored : row ∈ db.sessions.rows) : db.session row.uploadId = some row :=
  db.sessions.find?_eq_some_of_unique uploadSessionClash_comm stored (by simp) fun _ same => same

theorem chunk_eq_some {db : UploadTables} {uploadId : Text} {index : Int32} {row : UploadChunk}
    (found : db.chunk uploadId index = some row) :
    row ∈ db.chunks.rows ∧ row.uploadId = uploadId ∧ row.index = index :=
  ⟨List.mem_of_find?_eq_some found, of_decide_eq_true (List.find?_some found :)⟩

theorem chunk_of_stored {db : UploadTables} {row : UploadChunk} (stored : row ∈ db.chunks.rows) :
    db.chunk row.uploadId row.index = some row :=
  db.chunks.find?_eq_some_of_unique uploadChunkClash_comm stored (by simp) fun _ same => same

theorem updateOpen_session (db : UploadTables) (uploadId other : Text)
    {change : UploadSession Text → UploadSession Text}
    (keeps : ∀ row, (change row).uploadId = row.uploadId) :
    (db.updateOpen uploadId change keeps).session other = (db.session other).map fun row =>
      if row.uploadId = uploadId ∧ row.state = .opened then change row else row := by
  unfold session updateOpen
  rw [Table.rewrite_rows, List.find?_map]
  congr 2
  funext row
  simp only [Function.comp_apply]
  split
  · rw [keeps]
  · rfl

theorem openCount_eq_one {db : UploadTables} {uploadId : Text} {row : UploadSession Text}
    (found : db.session uploadId = some row) (opened : row.state = .opened) :
    db.openCount uploadId = 1 := by
  obtain ⟨stored, same⟩ := session_eq_some found
  refine db.sessions.countP_eq_one uploadSessionClash_comm stored (by simp [same, opened]) ?_
  intro other matching
  simp only [decide_eq_true_eq] at matching
  simp [uploadSessionClash, matching.1, same]

variable {db : UploadTables}

def Writable (db : UploadTables) (now : Int) (uploadId : Text) : Prop :=
  ∃ session, db.session uploadId = some session ∧ session.state = .opened ∧
    now ≤ session.expiresAt

theorem createUploadSession_cases (written : Bool) (db : UploadTables) (s : UploadSession Bytes) :
    db.createUploadSession written s = (false, db) ∨
    ∃ sessions, db.createUploadSession written s = (true, { db with sessions }) ∧
      db.sessions.insert { s.map cstr with state := .opened, fileId := cstr [] } =
        some sessions := by
  unfold createUploadSession
  split
  · exact .inl rfl
  · split
    · rename_i sessions inserted
      exact .inr ⟨sessions, rfl, inserted⟩
    · exact .inl rfl

theorem insert_session {sessions : Table (UploadSession Text) uploadSessionClash}
    {row : UploadSession Text} (inserted : db.sessions.insert row = some sessions)
    (uploadId : Text) :
    ({ db with sessions } : UploadTables).session uploadId =
      (db.session uploadId).or (if row.uploadId = uploadId then some row else none) := by
  unfold session
  rw [(Table.insert_eq_some inserted).1, List.find?_append]
  congr 1
  by_cases same : row.uploadId = uploadId <;> simp [same]

theorem session_of_insert {sessions : Table (UploadSession Text) uploadSessionClash}
    {row other : UploadSession Text} (inserted : db.sessions.insert row = some sessions)
    {uploadId : Text} (found : db.session uploadId = some other) :
    ({ db with sessions } : UploadTables).session uploadId = some other := by
  rw [insert_session inserted, found, Option.some_or]

def ChunkArguments (uploadId : Bytes) (index : Int32) (size : Int) (sha256 : Bytes) : Prop :=
  uploadId ≠ [] ∧ 0 ≤ index ∧ 0 < size ∧ sha256.length = 64

theorem storeUploadChunk_rejected {written : Bool} {now size : Int} {uploadId sha256 : Bytes}
    {index : Int32} (refused : ¬(ChunkArguments uploadId index size sha256 ∧
      db.Writable now (cstr uploadId))) :
    db.storeUploadChunk written now uploadId index size sha256 = (.rejected, db) := by
  unfold storeUploadChunk
  split
  · rfl
  · rename_i accepted
    simp only [not_or, Int32.not_lt, Int.not_le, ne_eq, Decidable.not_not] at accepted
    split
    · rfl
    · rename_i session found
      rw [if_pos]
      by_contra writable
      simp only [not_or, ne_eq, Decidable.not_not, Int.not_lt] at writable
      exact refused ⟨accepted, session, found, writable⟩

theorem storeUploadChunk_accepted {written : Bool} {now size : Int} {uploadId sha256 : Bytes}
    {index : Int32} (arguments : ChunkArguments uploadId index size sha256)
    (writable : db.Writable now (cstr uploadId)) :
    (∃ row ∈ db.chunks.rows, row.uploadId = cstr uploadId ∧ row.index = index ∧
      db.storeUploadChunk written now uploadId index size sha256 =
        (if row.sha256.bytes = sha256 then .duplicate else .conflict, db)) ∨
    ((∀ row ∈ db.chunks.rows, row.uploadId = cstr uploadId → row.index ≠ index) ∧
      ∃ chunks, chunks.rows = db.chunks.rows ++ [⟨cstr uploadId, index, size, cstr sha256⟩] ∧
        db.storeUploadChunk written now uploadId index size sha256 =
          if written then (.stored, { db with chunks }) else (.rejected, db)) := by
  obtain ⟨named, inside, sized, digest⟩ := arguments
  obtain ⟨session, found, opened, unexpired⟩ := writable
  unfold storeUploadChunk
  rw [if_neg (by simp [named, digest, sized, Int32.not_lt.mpr inside]), found]
  dsimp only
  rw [if_neg (by simp [opened, unexpired])]
  cases present : db.chunk (cstr uploadId) index with
  | some existing =>
      obtain ⟨stored, sameId, sameIndex⟩ := chunk_eq_some present
      exact .inl ⟨existing, stored, sameId, sameIndex, rfl⟩
  | none =>
      have absent (row : UploadChunk) (stored : row ∈ db.chunks.rows)
          (sameId : row.uploadId = cstr uploadId) : row.index ≠ index := by
        rintro rfl
        rw [← sameId, chunk_of_stored stored] at present
        simp at present
      refine .inr ⟨absent, ?_⟩
      cases inserted : db.chunks.insert ⟨cstr uploadId, index, size, cstr sha256⟩ with
      | some chunks => exact ⟨chunks, (Table.insert_eq_some inserted).1, rfl⟩
      | none =>
          obtain ⟨row, stored, clashing⟩ := Table.insert_eq_none.mp inserted
          simp only [uploadChunkClash, decide_eq_true_eq] at clashing
          exact absurd clashing.2 (absent row stored clashing.1)

theorem storeUploadChunk_cases (written : Bool) (now : Int) (db : UploadTables) (uploadId : Bytes)
    (index : Int32) (size : Int) (sha256 : Bytes) :
    ((db.storeUploadChunk written now uploadId index size sha256).1 ≠ .stored ∧
      (db.storeUploadChunk written now uploadId index size sha256).2 = db) ∨
    (db.Writable now (cstr uploadId) ∧
      ∃ chunks, chunks.rows = db.chunks.rows ++ [⟨cstr uploadId, index, size, cstr sha256⟩] ∧
        db.storeUploadChunk written now uploadId index size sha256 =
          (.stored, { db with chunks })) := by
  by_cases accepted : ChunkArguments uploadId index size sha256 ∧ db.Writable now (cstr uploadId)
  · rcases storeUploadChunk_accepted accepted.1 accepted.2 with
      ⟨row, _, _, _, compared⟩ | ⟨_, chunks, rows, stored⟩
    · rw [compared]
      refine .inl ⟨?_, rfl⟩
      dsimp only
      split <;> simp
    · rw [stored]
      cases written with
      | false => exact .inl ⟨by simp, rfl⟩
      | true => exact .inr ⟨accepted.2, chunks, rows, rfl⟩
  · rw [storeUploadChunk_rejected accepted]
    exact .inl ⟨by simp, rfl⟩

theorem finalizeUploadSession_cases (written : Bool) (db : UploadTables)
    (uploadId fileId : Bytes) :
    (db.finalizeUploadSession written uploadId fileId).2.2 = db ∨
    (db.finalizeUploadSession written uploadId fileId).2.2 = db.updateOpen (cstr uploadId)
      (fun row => { row with state := .finalized, fileId := cstr fileId }) fun _ => rfl := by
  unfold finalizeUploadSession
  split
  · exact .inl rfl
  · split
    · exact .inl rfl
    · split
      · exact .inl rfl
      · split
        · exact .inl rfl
        · exact .inr rfl

theorem finalizeUploadSession_opened {uploadId fileId : Bytes} {session : UploadSession Text}
    (named : uploadId ≠ []) (given : fileId ≠ [])
    (found : db.session (cstr uploadId) = some session) (opened : session.state = .opened) :
    db.finalizeUploadSession true uploadId fileId = (true, [], db.updateOpen (cstr uploadId)
      (fun row => { row with state := .finalized, fileId := cstr fileId }) fun _ => rfl) := by
  simp [finalizeUploadSession, named, given, found, opened, openCount_eq_one found opened]

theorem cancelUploadSession_cases (written : Bool) (db : UploadTables) (uploadId : Bytes) :
    (db.cancelUploadSession written uploadId).2 = db ∨
    (db.cancelUploadSession written uploadId).2 = db.updateOpen (cstr uploadId)
      (fun row => { row with state := .cancelled }) fun _ => rfl := by
  unfold cancelUploadSession
  split
  · exact .inl rfl
  · split
    · exact .inl rfl
    · split
      · exact .inl rfl
      · split
        · exact .inl rfl
        · exact .inr rfl

theorem finalized_answers {uploadId : Bytes} {session : UploadSession Text} (named : uploadId ≠ [])
    (found : db.session (cstr uploadId) = some session) (finalized : session.state = .finalized)
    (written : Bool) :
    (∀ fileId, fileId ≠ [] →
      db.finalizeUploadSession written uploadId fileId = (true, session.fileId.bytes, db)) ∧
    db.cancelUploadSession written uploadId = (false, db) := by
  constructor
  · intro fileId given
    simp [finalizeUploadSession, named, given, found, finalized]
  · simp [cancelUploadSession, named, found, finalized]

end UploadTables

end Jitong
