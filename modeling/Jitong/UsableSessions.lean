import Jitong.ChunkTiling
import Jitong.ChunkWrites
import Jitong.MediaRuns
import Jitong.UploadSessions

/-!
Whether a session that `handleCreateUpload` hands out takes chunks. What the service does to the
tables of uploads is a run of the `Database` calls.
-/

namespace Jitong

open Lib UploadTables

def Issued (s : UploadSession Bytes) : Prop :=
  ∃ crypto now fs user receiverId safeName sha contentType size, 0 < size ∧ size ≤ fileMaxSize ∧
    s = HttpFileServer.newUploadSession crypto now fs user receiverId safeName sha contentType size

def Follows (db after : UploadTables) : Prop :=
  ∃ calls : List UploadCall, after = calls.foldl UploadTables.perform db ∧
    ∀ written s, .create written s ∈ calls → Issued s

namespace Follows

variable {db middle after : UploadTables}

theorem refl (db : UploadTables) : Follows db db :=
  ⟨[], rfl, fun _ _ none => absurd none List.not_mem_nil⟩

theorem trans (first : Follows db middle) (second : Follows middle after) : Follows db after := by
  obtain ⟨calls, rfl, issued⟩ := first
  obtain ⟨later, rfl, laterIssued⟩ := second
  refine ⟨calls ++ later, List.foldl_append.symm, fun written s member => ?_⟩
  rcases List.mem_append.mp member with early | late
  · exact issued written s early
  · exact laterIssued written s late

theorem single (db : UploadTables) (call : UploadCall)
    (issued : ∀ written s, call = .create written s → Issued s) :
    Follows db (db.perform call) :=
  ⟨[call], rfl, fun written s member => issued written s (List.mem_singleton.mp member).symm⟩

end Follows

/-- What is the same in every row of `upload_sessions`. -/
structure UploadSession.Regular (row : UploadSession Text) : Prop where
  named : row.uploadId.bytes ≠ []
  divided : Divided row.fileSize row.chunkSize row.chunkCount
  lifetime : row.expiresAt = row.createdAt + uploadTtlSeconds

namespace UploadTables

theorem perform_row {db : UploadTables} {call : UploadCall} {row : UploadSession Text}
    (stored : row ∈ (db.perform call).sessions.rows) :
    (∃ old ∈ db.sessions.rows, old.Becomes row) ∨
      ∃ written s, call = .create written s ∧ s.uploadId ≠ [] ∧
        row = { s.map cstr with state := .opened, fileId := cstr [] } := by
  cases call with
  | create written s =>
      simp only [perform, createUploadSession] at stored
      split at stored
      · exact .inl ⟨row, stored, .inl rfl⟩
      · rename_i accepted
        split at stored
        · rename_i sessions inserted
          rw [(Table.insert_eq_some inserted).1] at stored
          rcases List.mem_append.mp stored with old | new
          · exact .inl ⟨row, old, .inl rfl⟩
          · exact .inr ⟨written, s, rfl, fun empty => accepted (.inl empty),
              List.mem_singleton.mp new⟩
        · exact .inl ⟨row, stored, .inl rfl⟩
  | store written now target index size sha256 =>
      refine .inl ⟨row, ?_, .inl rfl⟩
      rcases storeUploadChunk_cases written now db target index size sha256 with
        ⟨_, refused⟩ | ⟨_, chunks, _, added⟩
      · rwa [perform, refused] at stored
      · rwa [perform, added] at stored
  | finalize written target fileId =>
      rcases finalizeUploadSession_cases written db target fileId with refused | changed
      · exact .inl ⟨row, by rwa [perform, refused] at stored, .inl rfl⟩
      · rw [perform, changed] at stored
        obtain ⟨old, oldStored, rfl⟩ := List.mem_map.mp stored
        refine .inl ⟨old, oldStored, ?_⟩
        dsimp only
        split
        · rename_i opened
          exact .inr ⟨opened.2, .inr ⟨cstr fileId, rfl⟩⟩
        · exact .inl rfl
  | cancel written target =>
      rcases cancelUploadSession_cases written db target with refused | changed
      · exact .inl ⟨row, by rwa [perform, refused] at stored, .inl rfl⟩
      · rw [perform, changed] at stored
        obtain ⟨old, oldStored, rfl⟩ := List.mem_map.mp stored
        refine .inl ⟨old, oldStored, ?_⟩
        dsimp only
        split
        · rename_i opened
          exact .inr ⟨opened.2, .inl rfl⟩
        · exact .inl rfl
  | delete writes target =>
      refine .inl ⟨row, ?_, .inl rfl⟩
      simp only [perform, deleteUploadSession] at stored
      split_ifs at stored
      · exact stored
      · exact stored
      · exact List.mem_of_mem_filter stored

theorem perform_regular {db : UploadTables} {call : UploadCall}
    (issued : ∀ written s, call = .create written s → Issued s)
    (regular : ∀ row ∈ db.sessions.rows, row.Regular) :
    ∀ row ∈ (db.perform call).sessions.rows, row.Regular := by
  intro row stored
  rcases perform_row stored with ⟨old, kept, becomes⟩ | ⟨written, s, rfl, named, rfl⟩
  · obtain ⟨named, divided, lifetime⟩ := regular old kept
    rcases becomes with rfl | ⟨_, rfl | ⟨fileId, rfl⟩⟩
    · exact ⟨named, divided, lifetime⟩
    · exact ⟨named, divided, lifetime⟩
    · exact ⟨named, divided, lifetime⟩
  · obtain ⟨crypto, now, fs, user, receiverId, safeName, sha, contentType, size, positive, bounded,
      rfl⟩ := issued written s rfl
    refine ⟨?_, (HttpFileServer.newUploadSession_divided crypto now fs user receiverId safeName sha
      contentType positive bounded).2, rfl⟩
    change (cstr (crypto.tokenHash _)).bytes ≠ []
    rw [Crypto.tokenHash, cstr_toHex]
    exact named

theorem follows_regular {db after : UploadTables} (follows : Follows db after)
    (regular : ∀ row ∈ db.sessions.rows, row.Regular) :
    ∀ row ∈ after.sessions.rows, row.Regular := by
  obtain ⟨calls, rfl, issued⟩ := follows
  refine List.foldlRecOn (motive := fun db : UploadTables => ∀ row ∈ db.sessions.rows, row.Regular)
    calls UploadTables.perform regular fun db kept call member => ?_
  exact perform_regular (fun written s same => issued written s (same ▸ member)) kept

end UploadTables

namespace HttpFileServer

variable {crypto : Crypto} {fs : HttpFileServer}

/-! What the requests do to the tables. -/

theorem handleUpload_uploadDb (now : Int) (usable : Bool) (user : HttpUser) (rawName : Bytes)
    (receiverId : Option Int32) (contentLength : Option Int) (contentType body : Bytes) :
    (fs.handleUpload crypto now usable user rawName receiverId contentLength contentType
      body).2.uploadDb = fs.uploadDb := by
  unfold handleUpload
  dsimp only
  repeat' split
  all_goals rfl

theorem handlePreflight_uploadDb (now : Int) (pick : Nat) (user : HttpUser)
    (receiverId : Option Int32) (size : Option Int) (sha : Bytes) :
    (fs.handlePreflight crypto now pick user receiverId size sha).2.uploadDb = fs.uploadDb := by
  unfold handlePreflight
  split
  · split
    · rfl
    · exact (issueInstantChallenge_frame crypto now pick fs _ _ sha _).2.2
  · rfl

theorem handleProof_uploadDb (now : Int) (user : HttpUser) (challengeId body : Bytes) :
    (fs.handleProof crypto now user challengeId body).2.uploadDb = fs.uploadDb := by
  unfold handleProof
  dsimp only
  repeat' split
  all_goals rfl

theorem issueInstantChallenge_challenge {now size : Int} {pick : Nat} {userId receiverId : Int32}
    {sha : Bytes} {instant : FileReply} {after : HttpFileServer}
    (issued : fs.issueInstantChallenge crypto now pick userId receiverId sha size =
      (some instant, after)) : ∃ id offset length, instant = .challenge id offset length := by
  unfold issueInstantChallenge at issued
  split at issued
  · exact nomatch issued
  · rw [Prod.mk.injEq, Option.some.injEq] at issued
    exact ⟨_, _, _, issued.1.symm⟩

theorem handleCreateUpload_session {now : Int} {pick : Nat} {written : Bool} {user : HttpUser}
    {rawName sha contentType uploadId : Bytes} {receiverId : Option Int32} {size : Option Int}
    {expiresAt chunkSize : Int} {chunkCount : Int32} {received : List Int32} {after : HttpFileServer}
    (created : fs.handleCreateUpload crypto now pick written user rawName receiverId size sha
      contentType = (.session uploadId chunkSize chunkCount expiresAt received, after)) :
    ∃ receiver bytes session, receiverId = some receiver ∧ size = some bytes ∧ 0 < bytes ∧
      bytes ≤ fileMaxSize ∧ sha.length = 64 ∧ uploadId = session.uploadId ∧
      chunkSize = session.chunkSize ∧ chunkCount = session.chunkCount ∧
      (fs.uploadDb.findOpenUploadSession user.userId user.deviceId receiver sha bytes =
          some session ∧ after.uploadDb = fs.uploadDb ∨
        fs.uploadDb.findOpenUploadSession user.userId user.deviceId receiver sha bytes = none ∧
        (∃ middle, session = newUploadSession crypto now middle user receiver (fileNameOf rawName)
          sha contentType bytes) ∧
        fs.uploadDb.createUploadSession written session = (true, after.uploadDb)) := by
  unfold handleCreateUpload at created
  dsimp only at created
  split at created
  · rename_i receiver bytes
    split at created
    · exact nomatch created
    · rename_i valid
      simp only [not_or, not_lt, not_le, ne_eq, not_not] at valid
      obtain ⟨_, _, digest, positive, bounded⟩ := valid
      split at created
      · exact nomatch created
      · obtain ⟨_, _, db⟩ :=
          issueInstantChallenge_frame crypto now pick fs user.userId receiver sha bytes
        split at created
        · rename_i instant middle issued
          obtain ⟨id, offset, length, rfl⟩ := issueInstantChallenge_challenge issued
          exact nomatch created
        · rename_i middle issued
          rw [issued] at db
          dsimp only at db
          rw [db] at created
          split at created
          · rename_i session found
            simp only [sessionReply, Prod.mk.injEq, FileReply.session.injEq] at created
            obtain ⟨⟨rfl, rfl, rfl, _, _⟩, rfl⟩ := created
            exact ⟨receiver, bytes, session, rfl, rfl, positive, bounded, digest, rfl, rfl, rfl,
              .inl ⟨found, db⟩⟩
          · rename_i missing
            split at created
            · exact nomatch created
            · rename_i uploadDb made
              simp only [sessionReply, Prod.mk.injEq, FileReply.session.injEq] at created
              obtain ⟨⟨rfl, rfl, rfl, _, _⟩, rfl⟩ := created
              exact ⟨receiver, bytes, _, rfl, rfl, positive, bounded, digest, rfl, rfl, rfl,
                .inr ⟨missing, ⟨middle, rfl⟩, db ▸ made⟩⟩
  · exact nomatch created

theorem handleCreateUpload_follows (now : Int) (pick : Nat) (written : Bool) (user : HttpUser)
    (rawName sha contentType : Bytes) (receiverId : Option Int32) (size : Option Int) :
    Follows fs.uploadDb (fs.handleCreateUpload crypto now pick written user rawName receiverId size sha
      contentType).2.uploadDb := by
  unfold handleCreateUpload
  dsimp only
  split
  · rename_i receiver bytes
    split
    · exact .refl _
    · rename_i valid
      simp only [not_or, not_lt, not_le, ne_eq, not_not] at valid
      split
      · exact .refl _
      · obtain ⟨_, _, db⟩ :=
          issueInstantChallenge_frame crypto now pick fs user.userId receiver sha bytes
        split
        · rename_i issued
          rw [issued] at db
          exact db ▸ .refl _
        · rename_i middle issued
          rw [issued] at db
          dsimp only at db
          split
          · exact db ▸ .refl _
          · split
            · exact db ▸ .refl _
            · rename_i uploadDb made
              have call := Follows.single fs.uploadDb
                (.create written (middle.newUploadSession crypto now user receiver (fileNameOf rawName)
                  sha contentType bytes)) fun written s same => by
                    obtain ⟨_, rfl⟩ := UploadCall.create.inj same
                    exact ⟨_, _, _, _, _, _, _, _, _, valid.2.2.2.1, valid.2.2.2.2, rfl⟩
              rw [UploadTables.perform, ← db, made] at call
              exact db ▸ call
  · exact .refl _

theorem handleUploadChunk_follows (now : Int) (written : Bool) (usable : Nat → Bool) (count : Nat)
    (user : HttpUser) (uploadId chunkSha body : Bytes) (index : Option Int32)
    (contentLength : Option Int) :
    Follows fs.uploadDb (fs.handleUploadChunk crypto now written usable count user uploadId index
      contentLength chunkSha body).2.uploadDb := by
  unfold handleUploadChunk
  cases checked : fs.checkChunk crypto now user uploadId index contentLength chunkSha body with
  | error code => exact .refl _
  | ok upload =>
      dsimp only
      have call := Follows.single fs.uploadDb (.store written now upload.uploadId upload.index
        (upload.session.expectedSize upload.index) upload.chunkSha) fun _ _ same => nomatch same
      have stored : (fs.storeChunk written now upload).2.uploadDb = fs.uploadDb.perform
          (.store written now upload.uploadId upload.index
            (upload.session.expectedSize upload.index) upload.chunkSha) := rfl
      rw [← stored] at call
      have wrote (state : HttpFileServer) :
          (state.writeChunk count upload).uploadDb = state.uploadDb := by
        unfold writeChunk
        split
        · rfl
        · rfl
      generalize fs.storeChunk written now upload = made at call
      obtain ⟨_ | _ | _ | _, after⟩ := made
      · dsimp only
        split
        · exact call
        · rw [wrote]
          split
          · exact call
          · exact call
      · exact call
      · exact call
      · exact call

theorem registerMediaObject_uploadDb (written : Bool) (state : HttpFileServer) (sha256 : Bytes)
    (size : Int) (path contentType : Bytes) :
    (state.registerMediaObject written sha256 size path contentType).uploadDb = state.uploadDb := by
  unfold registerMediaObject
  split
  · rfl
  · rfl

theorem handleFinalizeUpload_follows (now : Int) (writes : Nat → Bool) (user : HttpUser)
    (uploadId : Bytes) :
    Follows fs.uploadDb (fs.handleFinalizeUpload crypto now writes user uploadId).2.uploadDb := by
  unfold handleFinalizeUpload
  cases fs.readFinalize user uploadId with
  | error reply => exact .refl _
  | ok session =>
      dsimp only
      cases fs.checkFinalize crypto uploadId session with
      | some reply => exact .refl _
      | none =>
          dsimp only
          have call := Follows.single fs.uploadDb
            (.finalize (writes 0) uploadId (finalizedId crypto uploadId)) fun _ _ same => nomatch same
          unfold markFinalize
          dsimp only
          rw [show (fs.moveFinalize crypto uploadId session).2.uploadDb = fs.uploadDb from rfl]
          rw [UploadTables.perform] at call
          generalize fs.uploadDb.finalizeUploadSession (writes 0) uploadId
            (finalizedId crypto uploadId) = made at call
          obtain ⟨_ | _, existing, uploadDb⟩ := made
          · exact call
          · dsimp only
            split
            · exact call
            · exact (registerMediaObject_uploadDb ..).symm ▸ call

theorem handleCancelUpload_follows (written : Bool) (user : HttpUser) (uploadId : Bytes) :
    Follows fs.uploadDb (fs.handleCancelUpload written user uploadId).2.uploadDb := by
  unfold handleCancelUpload
  split
  · exact .refl _
  · split
    · exact .refl _
    · split
      · exact .refl _
      · have call := Follows.single fs.uploadDb (.cancel written uploadId)
          fun _ _ same => by cases same
        rw [UploadTables.perform] at call
        generalize fs.uploadDb.cancelUploadSession written uploadId = made at call
        obtain ⟨_ | _, uploadDb⟩ := made
        · exact .refl _
        · exact call

theorem gcPass_follows (now : Int) (writes : Nat → Bool) :
    Follows fs.uploadDb (fs.gcPass now writes).uploadDb := by
  unfold gcPass
  dsimp only
  refine foldl_related
    (fun before after : HttpFileServer => Follows before.uploadDb after.uploadDb)
    (fun state => .refl _) (fun _ _ _ early late => early.trans late) _ ?_ _ _
  exact fun state entry => .single _ (.delete _ entry.1.uploadId) fun _ _ same => nomatch same

theorem handle_follows (event : MediaEvent) :
    Follows fs.uploadDb (fs.handle crypto event).uploadDb := by
  cases event with
  | upload now usable user rawName receiverId contentLength contentType body =>
      exact (handleUpload_uploadDb ..).symm ▸ .refl _
  | create now pick written user rawName receiverId size sha contentType =>
      exact handleCreateUpload_follows ..
  | chunk now written usable count user uploadId index contentLength chunkSha body =>
      exact handleUploadChunk_follows ..
  | finalize now writes user uploadId => exact handleFinalizeUpload_follows ..
  | cancel written user uploadId => exact handleCancelUpload_follows ..
  | preflight now pick user receiverId size sha => exact (handlePreflight_uploadDb ..).symm ▸ .refl _
  | proof now user challengeId body => exact (handleProof_uploadDb ..).symm ▸ .refl _
  | chat env conn rq => exact .refl _
  | collect now writes => exact gcPass_follows now writes
  | elsewhere server writes msgIds => exact .refl _

theorem handled_regular (server : Server) (uploadDir : Text) (events : List MediaEvent) :
    ∀ row ∈ (events.foldl (handle crypto) (.fresh server uploadDir)).uploadDb.sessions.rows,
      row.Regular := by
  refine List.foldlRecOn (motive := fun fs : HttpFileServer =>
    ∀ row ∈ fs.uploadDb.sessions.rows, row.Regular) events _ ?_ fun fs kept event _ => ?_
  · exact fun _ none => absurd none List.not_mem_nil
  · exact follows_regular (handle_follows event) kept

/-! Chunks for a session that was handed out. -/

def SameUpload (userId : Int32) (device : Text) (receiverId : Option Int32) (sha : Bytes)
    (size : Option Int) (row : UploadSession Text) : Prop :=
  row.uploaderId = userId ∧ row.deviceId = device ∧ some row.receiverId = receiverId ∧
    row.sha256 = cstr sha ∧ some row.fileSize = size ∧ row.state = .opened

structure AskedChunk (crypto : Crypto) (fs : HttpFileServer) (uploadId : Bytes) (size chunkSize : Int)
    (chunkCount index : Int32) (body : Bytes) : Prop where
  low : 0 ≤ index
  below : index < chunkCount
  length : (body.length : Int) = min chunkSize (size - index.toInt * chunkSize)
  stored : ∀ row ∈ fs.uploadDb.chunks.rows, row.uploadId = cstr uploadId → row.index = index →
    row.sha256.bytes = crypto.tokenHash body

def refuses (reply : FileReply) : Prop := reply = .status 410 ∨ reply = .status 409

theorem handleUploadChunk_expired {now : Int} {written : Bool} {usable : Nat → Bool} {count : Nat}
    {userId index : Int32} {contentLength : Option Int} {chunkSha body : Bytes}
    {row : UploadSession Text} (stored : row ∈ fs.uploadDb.sessions.rows)
    (named : row.uploadId.bytes ≠ []) (own : row.uploaderId = userId) (opened : row.state = .opened)
    (expired : row.expiresAt < now) :
    (fs.handleUploadChunk crypto now written usable count ⟨userId, row.deviceId.bytes⟩
      row.uploadId.bytes (some index) contentLength chunkSha body).1 = .status 410 := by
  have found : fs.uploadDb.getUploadSession row.uploadId.bytes = some (row.map Text.bytes) := by
    rw [getUploadSession, if_neg named, cstr_text, session_of_stored stored]
    rfl
  have checked : fs.checkChunk crypto now ⟨userId, row.deviceId.bytes⟩ row.uploadId.bytes (some index)
      contentLength chunkSha body = .error 410 := by
    unfold checkChunk
    rw [found]
    simp [UploadSession.map, own, opened, expired]
  rw [handleUploadChunk, checked]

theorem checkChunk_opened {now : Int} {user : HttpUser} {uploadId chunkSha body : Bytes}
    {index : Int32} {contentLength : Option Int} {session : UploadSession Bytes}
    (found : fs.uploadDb.getUploadSession uploadId = some session)
    (own : session.uploaderId = user.userId ∧ session.deviceId = user.deviceId)
    (opened : session.state = .opened) (unexpired : now ≤ session.expiresAt) :
    fs.checkChunk crypto now user uploadId (some index) contentLength chunkSha body = .error 400 ∨
      fs.checkChunk crypto now user uploadId (some index) contentLength chunkSha body =
        .ok ⟨uploadId, session, index, chunkSha, body⟩ ∧ chunkSha.length = 64 := by
  unfold checkChunk
  rw [found]
  dsimp only
  rw [if_neg (by simp [own]), if_neg (by simp [opened]), if_neg (by simp [opened]),
    if_neg (Int.not_lt.mpr unexpired)]
  split
  · exact .inl rfl
  · split
    · exact .inl rfl
    · split
      · exact .inl rfl
      · rename_i digest
        split
        · exact .inl rfl
        · split
          · exact .inl rfl
          · exact .inr ⟨rfl, not_not.mp digest⟩

theorem handleUploadChunk_taken {now size : Int} {usable : Nat → Bool} {count : Nat}
    {userId index : Int32} {body : Bytes} {row : UploadSession Text}
    (stored : row ∈ fs.uploadDb.sessions.rows) (regular : row.Regular) (own : row.uploaderId = userId)
    (opened : row.state = .opened) (unexpired : now ≤ row.expiresAt)
    (asked : AskedChunk crypto fs row.uploadId.bytes size row.chunkSize row.chunkCount index body) :
    ¬refuses (fs.handleUploadChunk crypto now true usable count ⟨userId, row.deviceId.bytes⟩
      row.uploadId.bytes (some index) (some body.length) (crypto.tokenHash body) body).1 := by
  have session := session_of_stored stored
  have found : fs.uploadDb.getUploadSession row.uploadId.bytes = some (row.map Text.bytes) := by
    rw [getUploadSession, if_neg regular.named, cstr_text, session]
    rfl
  have inside : row.HasIndex index := ⟨asked.low, asked.below⟩
  have positive := (regular.divided.place inside).2.1
  rcases @checkChunk_opened crypto fs now ⟨userId, row.deviceId.bytes⟩ _ (crypto.tokenHash body) body
    index (some body.length) _ found ⟨own, rfl⟩ opened unexpired with refused | ⟨passed, digest⟩
  · rw [handleUploadChunk, refused]
    simp [refuses]
  · have arguments : ChunkArguments row.uploadId.bytes index (row.expectedSize index)
        (crypto.tokenHash body) := ⟨regular.named, asked.low, positive, digest⟩
    have writable : fs.uploadDb.Writable now (cstr row.uploadId.bytes) := by
      rw [cstr_text]
      exact ⟨row, session, opened, unexpired⟩
    rw [handleUploadChunk, passed]
    dsimp only
    rcases @storeUploadChunk_accepted _ true _ _ _ _ _ arguments writable with
      ⟨known, listed, sameId, sameIndex, answer⟩ | ⟨_, chunks, _, answer⟩
    · rw [if_pos (asked.stored known listed sameId sameIndex)] at answer
      have stored : fs.storeChunk true now ⟨row.uploadId.bytes, row.map Text.bytes, index,
          crypto.tokenHash body, body⟩ = (.duplicate, { fs with uploadDb := fs.uploadDb }) :=
        congrArg (fun made : ChunkStoreResult × UploadTables =>
          (made.1, { fs with uploadDb := made.2 })) answer
      rw [stored]
      simp [refuses]
    · rw [if_pos rfl] at answer
      have stored : fs.storeChunk true now ⟨row.uploadId.bytes, row.map Text.bytes, index,
          crypto.tokenHash body, body⟩ =
            (.stored, { fs with uploadDb := { fs.uploadDb with chunks } }) :=
        congrArg (fun made : ChunkStoreResult × UploadTables =>
          (made.1, { fs with uploadDb := made.2 })) answer
      rw [stored]
      dsimp only
      split
      · simp [refuses]
      · dsimp only
        split
        · simp [refuses]
        · simp [refuses]

theorem findOpenUploadSession_newest {db : UploadTables} {userId receiverId : Int32} {device : Text}
    {sha : Bytes} {size : Int} (regular : ∀ row ∈ db.sessions.rows, row.Regular)
    {session : UploadSession Bytes}
    (found : db.findOpenUploadSession userId device.bytes receiverId sha size = some session) :
    ∃ row ∈ db.sessions.rows, session = row.map Text.bytes ∧
      SameUpload userId device (some receiverId) sha (some size) row ∧
      ∀ other ∈ db.sessions.rows, SameUpload userId device (some receiverId) sha (some size) other →
        other.expiresAt ≤ row.expiresAt := by
  unfold findOpenUploadSession at found
  split at found
  · exact nomatch found
  · dsimp only at found
    obtain ⟨row, newest, rfl⟩ := Option.map_eq_some_iff.mp found
    have most := List.find?_some newest
    obtain ⟨stored, matching⟩ := List.mem_filter.mp (List.mem_of_find?_eq_some newest)
    rw [cstr_text, decide_eq_true_eq] at matching
    refine ⟨row, stored, rfl, by simpa [SameUpload] using matching, fun other listed same => ?_⟩
    have older := List.all_eq_true.mp most other (List.mem_filter.mpr ⟨listed, by
      rw [cstr_text, decide_eq_true_eq]
      simpa [SameUpload] using same⟩)
    rw [(regular row stored).lifetime, (regular other listed).lifetime]
    have order := of_decide_eq_true older
    omega

theorem findOpenUploadSession_none {db : UploadTables} {userId receiverId : Int32} {device : Text}
    {sha : Bytes} {size : Int} (positive : 0 < userId ∧ 0 < receiverId ∧ sha.length = 64 ∧ 0 < size)
    (missing : db.findOpenUploadSession userId device.bytes receiverId sha size = none) :
    ∀ row ∈ db.sessions.rows, ¬SameUpload userId device (some receiverId) sha (some size) row := by
  intro row stored same
  unfold findOpenUploadSession at missing
  rw [if_neg (by simp [positive]), cstr_text] at missing
  dsimp only at missing
  rw [Option.map_eq_none_iff, List.find?_eq_none] at missing
  generalize matched : db.sessions.rows.filter _ = matching at missing
  have member : row ∈ matching := by
    rw [← matched, List.mem_filter, decide_eq_true_eq]
    exact ⟨stored, by simpa [SameUpload] using same⟩
  obtain ⟨newest, listed, most⟩ :=
    matching.toFinset.exists_max_image (·.createdAt) ⟨row, List.mem_toFinset.mpr member⟩
  refine missing newest (List.mem_toFinset.mp listed) (List.all_eq_true.mpr fun other there => ?_)
  exact decide_eq_true (most other (List.mem_toFinset.mpr there))

theorem createUploadSession_made {db after : UploadTables} {written : Bool} {s : UploadSession Bytes}
    (made : db.createUploadSession written s = (true, after)) :
    (0 < s.uploaderId ∧ 0 < s.receiverId ∧ s.sha256.length = 64 ∧ 0 < s.fileSize) ∧
      ({ s.map cstr with state := .opened, fileId := cstr [] } : UploadSession Text) ∈
        after.sessions.rows := by
  unfold createUploadSession at made
  split at made
  · exact nomatch made
  · rename_i valid
    simp only [not_or, Int32.not_le, Int.not_le, ne_eq, not_not] at valid
    split at made
    · rename_i sessions inserted
      obtain rfl := (Prod.mk.inj made).2
      refine ⟨⟨valid.2.1, valid.2.2.1, valid.2.2.2.2.2.2.1, valid.2.2.2.1⟩, ?_⟩
      rw [(Table.insert_eq_some inserted).1]
      exact List.mem_append_right _ (List.mem_singleton_self _)
    · exact nomatch made

/-- A session that is handed out takes chunks just when there was none to hand out again, or one that
has not expired. -/
theorem handedOut_takes_iff (crypto : Crypto) (server : Server) (uploadDir : Text)
    (events : List MediaEvent) {now : Int} {pick : Nat} {written : Bool} {userId : Int32}
    {device : Text} {rawName sha contentType uploadId : Bytes} {receiverId : Option Int32}
    {size : Option Int} {expiresAt chunkSize : Int} {chunkCount : Int32} {received : List Int32}
    {after : HttpFileServer}
    (created : (events.foldl (handle crypto) (.fresh server uploadDir)).handleCreateUpload crypto now
      pick written ⟨userId, device.bytes⟩ rawName receiverId size sha contentType =
        (.session uploadId chunkSize chunkCount expiresAt received, after))
    {index : Int32} {body : Bytes} (usable : Nat → Bool) (count : Nat)
    (asked : AskedChunk crypto after uploadId (size.getD 0) chunkSize chunkCount index body) :
    ¬refuses (after.handleUploadChunk crypto now true usable count ⟨userId, device.bytes⟩ uploadId
      (some index) (some body.length) (crypto.tokenHash body) body).1 ↔
    let sessions := (events.foldl (handle crypto) (.fresh server uploadDir)).uploadDb.sessions.rows
    (∀ row ∈ sessions, ¬SameUpload userId device receiverId sha size row) ∨
      ∃ row ∈ sessions, SameUpload userId device receiverId sha size row ∧ now ≤ row.expiresAt := by
  have regular := @handled_regular crypto server uploadDir events
  generalize events.foldl (handle crypto) (.fresh server uploadDir) = fs at created regular
  dsimp only
  obtain ⟨receiver, bytes, session, rfl, rfl, positive, bounded, digest, rfl, rfl, rfl, source⟩ :=
    handleCreateUpload_session created
  rcases source with ⟨found, same⟩ | ⟨missing, ⟨middle, rfl⟩, made⟩
  · obtain ⟨row, stored, rfl, matching, newest⟩ := findOpenUploadSession_newest regular found
    have own := matching.1
    have opened := matching.2.2.2.2.2
    obtain rfl : row.deviceId = device := matching.2.1
    have kept : row ∈ after.uploadDb.sessions.rows := same ▸ stored
    by_cases unexpired : now ≤ row.expiresAt
    · refine ⟨fun _ => .inr ⟨row, stored, matching, unexpired⟩, fun _ => ?_⟩
      exact handleUploadChunk_taken kept (regular row stored) own opened unexpired asked
    · have expired := @handleUploadChunk_expired crypto after now true usable count userId index
        (some body.length) (crypto.tokenHash body) body row kept (regular row stored).named own opened
        (Int.not_le.mp unexpired)
      refine ⟨fun taken => absurd (.inl expired) taken, ?_⟩
      rintro (none | ⟨other, listed, also, later⟩)
      · exact absurd matching (none row stored)
      · have order := newest other listed also
        omega
  · have call := Follows.single fs.uploadDb
      (.create written (newUploadSession crypto now middle ⟨userId, device.bytes⟩ receiver
        (fileNameOf rawName) sha contentType bytes)) fun _ _ same => by
          obtain ⟨_, rfl⟩ := UploadCall.create.inj same
          exact ⟨_, _, _, _, _, _, _, _, _, positive, bounded, rfl⟩
    rw [UploadTables.perform, made] at call
    obtain ⟨valid, stored⟩ := createUploadSession_made made
    refine ⟨fun _ => .inl (findOpenUploadSession_none valid missing), fun _ => ?_⟩
    have id : (cstr (newUploadSession crypto now middle ⟨userId, device.bytes⟩ receiver
        (fileNameOf rawName) sha contentType bytes).uploadId).bytes =
          (newUploadSession crypto now middle ⟨userId, device.bytes⟩ receiver (fileNameOf rawName) sha
            contentType bytes).uploadId := by
      simp only [newUploadSession, Crypto.tokenHash, cstr_toHex]
    have lifetime : now ≤ (newUploadSession crypto now middle ⟨userId, device.bytes⟩ receiver
        (fileNameOf rawName) sha contentType bytes).expiresAt := by
      simp only [newUploadSession, uploadTtlSeconds]
      omega
    have taken := @handleUploadChunk_taken crypto after now bytes usable count userId index body _
      stored (follows_regular call regular _ stored) rfl rfl lifetime (by
        dsimp only [UploadSession.map]
        rw [id]
        exact asked)
    dsimp only [UploadSession.map] at taken
    rw [id] at taken
    have same : (cstr (newUploadSession crypto now middle ⟨userId, device.bytes⟩ receiver
        (fileNameOf rawName) sha contentType bytes).deviceId).bytes = device.bytes := by
      simp only [newUploadSession, cstr_text]
    rw [same] at taken
    exact taken

def helloAnnounced : List MediaEvent :=
  [.create 1700000000 0 true helloUser (ascii "hello.txt") (some 2) (some 5) helloSha
    (ascii "text/plain")]

def helloAgain (now : Int) : FileReply × HttpFileServer :=
  (helloAnnounced.foldl (handle helloCrypto) (.fresh helloServer helloDir)).handleCreateUpload
    helloCrypto now 0 true helloUser (ascii "hello.txt") (some 2) (some 5) helloSha (ascii "text/plain")

theorem helloAgain_asked {now : Int} (none : (helloAgain now).2.uploadDb.chunks.rows = []) :
    AskedChunk helloCrypto (helloAgain now).2 helloUploadId 5 1048576 1 0 (ascii "hello") where
  low := by decide
  below := by decide
  length := by decide
  stored row listed := by
    rw [none] at listed
    exact absurd listed List.not_mem_nil

theorem handedOut_takes_iff_hello :
    ¬refuses ((helloAgain 1700000060).2.handleUploadChunk helloCrypto 1700000060 true (fun _ => true) 5
      ⟨1, (cstr (ascii "dev-a")).bytes⟩ helloUploadId (some 0) (some (ascii "hello").length)
      (helloCrypto.tokenHash (ascii "hello")) (ascii "hello")).1 ↔
    let sessions := (helloAnnounced.foldl (handle helloCrypto)
      (.fresh helloServer helloDir)).uploadDb.sessions.rows
    (∀ row ∈ sessions, ¬SameUpload 1 (cstr (ascii "dev-a")) (some 2) helloSha (some 5) row) ∨
      ∃ row ∈ sessions, SameUpload 1 (cstr (ascii "dev-a")) (some 2) helloSha (some 5) row ∧
        1700000060 ≤ row.expiresAt := by
  have reply : (helloAgain 1700000060).1 = .session helloUploadId 1048576 1 1700086400 [] := by
    decide +kernel
  have none : (helloAgain 1700000060).2.uploadDb.chunks.rows = [] := by decide +kernel
  have user : helloUser = ⟨1, (cstr (ascii "dev-a")).bytes⟩ := by decide +kernel
  have created : helloAgain 1700000060 =
      (.session helloUploadId 1048576 1 1700086400 [], (helloAgain 1700000060).2) := by
    rw [← reply]
  unfold helloAgain at created
  rw [user] at created
  exact handedOut_takes_iff helloCrypto helloServer helloDir helloAnnounced created (fun _ => true) 5
    (helloAgain_asked none)

/-- A session that has expired is handed out again, and takes no chunk. -/
theorem helloExpired_refused :
    (helloAgain 1700086401).1 = .session helloUploadId 1048576 1 1700086400 [] ∧
      AskedChunk helloCrypto (helloAgain 1700086401).2 helloUploadId 5 1048576 1 0 (ascii "hello") ∧
      ((helloAgain 1700086401).2.handleUploadChunk helloCrypto 1700086401 true (fun _ => true) 5
        helloUser helloUploadId (some 0) (some 5) (helloCrypto.tokenHash (ascii "hello"))
        (ascii "hello")).1 = .status 410 :=
  ⟨by decide +kernel, helloAgain_asked (by decide +kernel), by decide +kernel⟩

end HttpFileServer

end Jitong
