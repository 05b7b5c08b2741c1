import Jitong.MediaRuns

/-!
What one step of the file service can do to the paths it keeps: a new one is that
of a file which is there, or it was kept elsewhere before.
-/

namespace Jitong

open Lib

def MediaPath (uploadDir path : Text) : Prop :=
  ∃ rest, path = cstr (uploadDir.bytes ++ (ascii "/img/" ++ rest)) ∨
    path = cstr (uploadDir.bytes ++ (ascii "/file/" ++ rest))

def ChunkPath (uploadDir path : Text) : Prop :=
  ∃ rest, path = cstr (uploadDir.bytes ++ (ascii "/chunks/" ++ rest))

theorem cstr_append {head : Bytes} (noNul : (0 : UInt8) ∉ head) (rest : Bytes) :
    (cstr (head ++ rest)).bytes = head ++ (cstr rest).bytes := by
  refine List.takeWhile_append_of_pos fun byte member => ?_
  have different : byte ≠ 0 := fun zero => noNul (zero ▸ member)
  simpa using different

theorem cstr_append_left_cancel {text : Text} {first second : Bytes}
    (same : cstr (text.bytes ++ first) = cstr (text.bytes ++ second)) :
    (cstr first).bytes = (cstr second).bytes := by
  have bytes := congrArg Text.bytes same
  rw [cstr_append text.noNul, cstr_append text.noNul] at bytes
  exact List.append_cancel_left bytes

theorem MediaPath.ne_chunk {uploadDir path chunk : Text} (media : MediaPath uploadDir path)
    (temporary : ChunkPath uploadDir chunk) : path ≠ chunk := by
  obtain ⟨rest, form⟩ := media
  obtain ⟨part, rfl⟩ := temporary
  intro same
  have chunks : (cstr (ascii "/chunks/" ++ part)).bytes[1]? = some 0x63 := by
    rw [cstr_append (by decide +kernel)]
    rfl
  rcases form with rfl | rfl
  · have bytes := cstr_append_left_cancel same
    have image : (cstr (ascii "/img/" ++ rest)).bytes[1]? = some 0x69 := by
      rw [cstr_append (by decide +kernel)]
      rfl
    rw [bytes, chunks] at image
    simp at image
  · have bytes := cstr_append_left_cancel same
    have file : (cstr (ascii "/file/" ++ rest)).bytes[1]? = some 0x66 := by
      rw [cstr_append (by decide +kernel)]
      rfl
    rw [bytes, chunks] at file
    simp at file

namespace UploadTables

def SameTmp (before after : UploadTables) : Prop :=
  ∀ row ∈ after.sessions.rows, ∃ old ∈ before.sessions.rows, old.tmpPath = row.tmpPath

theorem SameTmp.of_eq {before after : UploadTables} (same : after.sessions = before.sessions) :
    before.SameTmp after := fun row stored => ⟨row, same ▸ stored, rfl⟩

theorem updateOpen_sameTmp (db : UploadTables) (uploadId : Text)
    {change : UploadSession Text → UploadSession Text}
    (keeps : ∀ row, (change row).uploadId = row.uploadId)
    (keepsTmp : ∀ row, (change row).tmpPath = row.tmpPath) :
    db.SameTmp (db.updateOpen uploadId change keeps) := by
  intro row stored
  obtain ⟨old, oldStored, rfl⟩ := List.mem_map.mp stored
  refine ⟨old, oldStored, ?_⟩
  split
  · exact (keepsTmp old).symm
  · rfl

theorem finalizeUploadSession_sameTmp (written : Bool) (db : UploadTables)
    (uploadId fileId : Bytes) :
    db.SameTmp (db.finalizeUploadSession written uploadId fileId).2.2 := by
  rcases finalizeUploadSession_cases written db uploadId fileId with same | updated
  · exact .of_eq (congrArg sessions same)
  · rw [updated]
    exact updateOpen_sameTmp db _ _ fun _ => rfl

theorem cancelUploadSession_sameTmp (written : Bool) (db : UploadTables) (uploadId : Bytes) :
    db.SameTmp (db.cancelUploadSession written uploadId).2 := by
  rcases cancelUploadSession_cases written db uploadId with same | updated
  · exact .of_eq (congrArg sessions same)
  · rw [updated]
    exact updateOpen_sameTmp db _ _ fun _ => rfl

theorem storeUploadChunk_sessions (written : Bool) (now : Int) (db : UploadTables)
    (uploadId : Bytes) (index : Int32) (size : Int) (sha256 : Bytes) :
    (db.storeUploadChunk written now uploadId index size sha256).2.sessions = db.sessions := by
  rcases storeUploadChunk_cases written now db uploadId index size sha256 with
    ⟨_, same⟩ | ⟨_, chunks, _, stored⟩
  · rw [same]
  · rw [stored]

theorem deleteUploadSession_sameTmp (writes : Nat → Bool) (db : UploadTables) (uploadId : Bytes) :
    db.SameTmp (db.deleteUploadSession writes uploadId).2 := by
  unfold deleteUploadSession
  split
  · exact .of_eq rfl
  · dsimp only
    split
    · exact .of_eq rfl
    · exact fun row stored => ⟨row, (List.mem_filter.mp stored).1, rfl⟩

end UploadTables

namespace HttpFileServer

structure Formed (fs : HttpFileServer) : Prop where
  rows : ∀ row ∈ fs.server.messages.rows, ∀ entry ∈ row.columns.media, entry.2.bytes ≠ [] →
    MediaPath fs.uploadDir entry.2
  records : ∀ fileId record, fs.server.uploads fileId = some record →
    (0 : UInt8) ∉ fileId ∧ MediaPath fs.uploadDir (cstr record.mediaPath)
  objects : ∀ row ∈ fs.mediaObjects.rows, MediaPath fs.uploadDir row.path
  challenges : ∀ entry ∈ fs.challenges, MediaPath fs.uploadDir (cstr entry.2.path)
  sessions : ∀ row ∈ fs.uploadDb.sessions.rows, ChunkPath fs.uploadDir row.tmpPath

structure Grown (before after : HttpFileServer) : Prop where
  dir : after.uploadDir = before.uploadDir
  rows : ∀ row ∈ after.server.messages.rows,
    (∃ old ∈ before.server.messages.rows, old.columns = row.columns) ∨
      before.server.Claimed row.columns
  records : ∀ fileId record, after.server.uploads fileId = some record →
    before.server.uploads fileId = some record ∨
      ((0 : UInt8) ∉ fileId ∧ MediaPath before.uploadDir (cstr record.mediaPath) ∧
        (after.files (cstr record.mediaPath)).isSome)
  objects : ∀ row ∈ after.mediaObjects.rows,
    row ∈ before.mediaObjects.rows ∨ MediaPath before.uploadDir row.path
  challenges : ∀ entry ∈ after.challenges,
    entry ∈ before.challenges ∨ MediaPath before.uploadDir (cstr entry.2.path)
  sessions : ∀ row ∈ after.uploadDb.sessions.rows,
    (∃ old ∈ before.uploadDb.sessions.rows, old.tmpPath = row.tmpPath) ∨
      ChunkPath before.uploadDir row.tmpPath

variable {before middle after : HttpFileServer}

theorem Formed.grow (formed : before.Formed) (grown : before.Grown after) : after.Formed where
  rows := by
    intro row stored entry member named
    rw [grown.dir]
    rcases grown.rows row stored with ⟨old, oldStored, same⟩ | claimed
    · rw [← same] at member
      exact formed.rows old oldStored entry member named
    · obtain ⟨fileId, record, found, _, path, _⟩ := claimed entry member named
      rw [← path]
      exact (formed.records fileId record found).2
  records := by
    intro fileId record found
    rw [grown.dir]
    rcases grown.records fileId record found with old | ⟨noNul, media, _⟩
    · exact formed.records fileId record old
    · exact ⟨noNul, media⟩
  objects := by
    intro row stored
    rw [grown.dir]
    exact (grown.objects row stored).elim (formed.objects row) id
  challenges := by
    intro entry member
    rw [grown.dir]
    exact (grown.challenges entry member).elim (formed.challenges entry) id
  sessions := by
    intro row stored
    rw [grown.dir]
    rcases grown.sessions row stored with ⟨old, oldStored, same⟩ | temporary
    · rw [← same]
      exact formed.sessions old oldStored
    · exact temporary

namespace Grown

theorem of_same (dir : after.uploadDir = before.uploadDir) (server : after.server = before.server)
    (objects : after.mediaObjects = before.mediaObjects)
    (challenges : after.challenges ⊆ before.challenges)
    (sessions : before.uploadDb.SameTmp after.uploadDb) : before.Grown after where
  dir := dir
  rows := fun row stored => .inl ⟨row, by rwa [← server], rfl⟩
  records := fun fileId record found => .inl (by rwa [← server])
  objects := fun row stored => .inl (by rwa [← objects])
  challenges := fun entry member => .inl (challenges member)
  sessions := fun row stored => .inl (sessions row stored)

theorem refl (fs : HttpFileServer) : fs.Grown fs :=
  of_same rfl rfl rfl (List.Subset.refl _) (.of_eq rfl)

theorem register (grown : before.Grown middle) {fileId : Bytes} {record : UploadRecord}
    (noNul : (0 : UInt8) ∉ fileId) (media : MediaPath before.uploadDir (cstr record.mediaPath))
    (there : (middle.files (cstr record.mediaPath)).isSome) (now : Int) :
    before.Grown (middle.registerUpload now fileId record) where
  dir := grown.dir
  rows := grown.rows
  records := by
    intro other found registered
    simp only [registerUpload, Function.update_apply] at registered
    split at registered
    · rename_i same
      obtain rfl := Option.some.inj registered
      subst other
      exact .inr ⟨noNul, media, there⟩
    · exact grown.records other found registered
  objects := grown.objects
  challenges := grown.challenges
  sessions := grown.sessions

theorem object (grown : before.Grown middle) {path : Bytes}
    (media : MediaPath before.uploadDir (cstr path)) (written : Bool) (sha256 : Bytes) (size : Int)
    (contentType : Bytes) :
    before.Grown (middle.registerMediaObject written sha256 size path contentType) := by
  unfold registerMediaObject
  split
  · exact grown
  · refine { grown with objects := fun row stored => ?_ }
    rcases Table.of_mem_insertOrIgnore stored with old | new
    · exact grown.objects row old
    · rw [new]
      exact .inr media

end Grown

theorem Crypto.tokenHash_noNul (crypto : Crypto) (input : Bytes) :
    (0 : UInt8) ∉ crypto.tokenHash input := toHex_noNul _

theorem imagePath_media (fs : HttpFileServer) (sha ext : Bytes) :
    MediaPath fs.uploadDir (cstr (fs.imagePath sha ext)) :=
  ⟨sha ++ ext, .inl (by simp only [imagePath, List.append_assoc])⟩

theorem filePath_media (fs : HttpFileServer) (fileId fileName : Bytes) :
    MediaPath fs.uploadDir (cstr (fs.filePath fileId fileName)) :=
  ⟨fileId ++ (ascii "_" ++ fileName), .inr (by simp only [filePath, List.append_assoc])⟩

theorem cstr_head {value : Bytes} {first : UInt8} (found : value.head? = some first)
    (nonzero : first ≠ 0) : (cstr value).bytes.head? = some first := by
  obtain ⟨rest, rfl⟩ := List.head?_eq_some_iff.mp found
  simp [cstr, nonzero]

theorem imageName_head (data bytes : Bytes) :
    (cstr (toHex data ++ imageExtForBytes bytes)).bytes.head? ≠ some 0x74 := by
  cases data with
  | nil =>
      have dot : (imageExtForBytes bytes).head? = some 0x2E := by
        unfold imageExtForBytes
        split_ifs <;> rfl
      have name : toHex [] ++ imageExtForBytes bytes = imageExtForBytes bytes := rfl
      rw [name, cstr_head dot (by decide)]
      decide
  | cons byte rest =>
      have digit : hexDigit (byte >>> 4) ≠ 0 ∧ hexDigit (byte >>> 4) ≠ 0x74 := by
        clear rest
        revert byte
        decide +kernel
      have first : (toHex (byte :: rest) ++ imageExtForBytes bytes).head? =
          some (hexDigit (byte >>> 4)) := by
        simp [toHex]
      rw [cstr_head first digit.1]
      simpa using digit.2

theorem imagePath_ne_tmp (fs : HttpFileServer) (data bytes name : Bytes) :
    cstr (fs.imagePath (toHex data) (imageExtForBytes bytes)) ≠
      cstr (fs.uploadDir.bytes ++ ascii "/img/tmp" ++ ascii "/" ++ name ++ ascii ".part") := by
  intro same
  simp only [imagePath, List.append_assoc] at same
  have paths := cstr_append_left_cancel same
  have split : ascii "/img/tmp" = ascii "/img/" ++ ascii "tmp" := by decide +kernel
  have inside := cstr_append (show (0 : UInt8) ∉ ascii "/img/" by decide +kernel)
  rw [split, List.append_assoc, inside, inside] at paths
  have names := congrArg List.head? (List.append_cancel_left paths)
  have first (rest : Bytes) : (ascii "tmp" ++ rest).head? = some 0x74 := rfl
  rw [cstr_head (first _) (by decide)] at names
  exact imageName_head data bytes names

theorem moveImage_target {files : Files Text UInt8} {tmpPath finalPath : Text} {content : Bytes}
    (found : files tmpPath = some content) (different : finalPath ≠ tmpPath) :
    (moveImage files tmpPath finalPath finalPath).isSome := by
  unfold moveImage
  split
  · rename_i present
    rwa [Files.remove_other _ different]
  · rw [Files.rename_target found]
    rfl

theorem handleUpload_grown (crypto : Crypto) (now : Int) (usable : Bool) (fs : HttpFileServer)
    (user : HttpUser) (rawName : Bytes) (receiverId : Option Int32) (contentLength : Option Int)
    (contentType body : Bytes) :
    fs.Grown (fs.handleUpload crypto now usable user rawName receiverId contentLength contentType
      body).2 := by
  unfold handleUpload
  dsimp only
  split
  · exact .refl fs
  · split
    · exact .refl fs
    · rename_i receiver
      split
      · exact .refl fs
      · split
        · exact .refl fs
        · have counted (files : Files Text UInt8) :
              fs.Grown { fs with uploadCounter := fs.uploadCounter + 1, files } :=
            .of_same rfl rfl rfl (List.Subset.refl _) (.of_eq rfl)
          split
          · exact counted fs.files
          · split
            · exact counted _
            · refine (counted _).register (Crypto.tokenHash_noNul crypto _) ?_ ?_ now
              · split
                · exact imagePath_media fs _ _
                · exact filePath_media fs _ _
              · by_cases image : isImageType contentType = true
                · simp only [image, if_true]
                  refine moveImage_target (Files.put_self ..) ?_
                  exact imagePath_ne_tmp fs _ _ _
                · simp only [image, Bool.false_eq_true, if_false]
                  rw [Files.rename_target (Files.put_self ..)]
                  rfl

theorem findMediaObject_media {fs : HttpFileServer} (formed : fs.Formed) {pick : Nat}
    {sha256 : Bytes} {size : Int} {object : MediaObject}
    (found : fs.findMediaObject pick sha256 size = some object) :
    MediaPath fs.uploadDir (cstr object.path) := by
  unfold findMediaObject at found
  split at found
  · simp at found
  · dsimp only at found
    split at found
    · rename_i row indexed
      obtain rfl := Option.some.inj found
      rw [Option.filter_eq_some_iff] at indexed
      rw [cstr_text]
      exact formed.objects row (List.mem_of_find?_eq_some indexed.1)
    · split at found
      · simp at found
      · rename_i columns picked
        have stored := List.mem_filter.mp (List.mem_of_getElem? picked)
        obtain ⟨row, member, rfl⟩ := List.mem_map.mp stored.1
        rw [Option.ite_none_right_eq_some] at found
        obtain ⟨⟨named, _⟩, same⟩ := found
        obtain rfl := Option.some.inj same
        dsimp only
        rw [cstr_text]
        have paths (entry : Text × Text) (inside : entry ∈ row.columns.media) :=
          formed.rows row member entry inside
        split_ifs at named ⊢
        · exact paths _ row.columns.mem_media.1 named
        · exact paths _ row.columns.mem_media.2.1 named
        · exact paths _ row.columns.mem_media.2.2 named

theorem issueInstantChallenge_grown (crypto : Crypto) (now : Int) (pick : Nat)
    {fs : HttpFileServer} (formed : fs.Formed) (userId receiverId : Int32) (sha : Bytes)
    (size : Int) :
    fs.Grown (fs.issueInstantChallenge crypto now pick userId receiverId sha size).2 := by
  unfold issueInstantChallenge
  split
  · exact .refl fs
  · rename_i object found
    refine { Grown.refl fs with challenges := fun entry member => ?_ }
    rcases List.mem_cons.mp member with rfl | old
    · exact .inr (findMediaObject_media formed found)
    · exact .inl (List.mem_of_mem_filter old)

theorem handlePreflight_grown (crypto : Crypto) (now : Int) (pick : Nat) {fs : HttpFileServer}
    (formed : fs.Formed) (user : HttpUser) (receiverId : Option Int32) (size : Option Int)
    (sha : Bytes) : fs.Grown (fs.handlePreflight crypto now pick user receiverId size sha).2 := by
  unfold handlePreflight
  split
  · split
    · exact .refl fs
    · exact issueInstantChallenge_grown crypto now pick formed _ _ sha _
  · exact .refl fs

theorem handleProof_grown (crypto : Crypto) (now : Int) {fs : HttpFileServer} (formed : fs.Formed)
    (user : HttpUser) (challengeId body : Bytes) :
    fs.Grown (fs.handleProof crypto now user challengeId body).2 := by
  unfold handleProof
  split
  · exact .refl fs
  · rename_i challenge found
    have used (proofCounter : UInt64) : fs.Grown { fs with
        challenges := fs.challenges.filter fun entry => entry.1 ≠ challengeId, proofCounter } :=
      .of_same rfl rfl rfl (List.filter_subset_self _) (.of_eq rfl)
    dsimp only
    split
    · exact used fs.proofCounter
    · split
      · exact used fs.proofCounter
      · rename_i compared
        refine (used _).register (Crypto.tokenHash_noNul crypto _) ?_ ?_ now
        · exact formed.challenges (challengeId, challenge) (mem_of_lookup found)
        · simp only [not_or, Decidable.not_not] at compared
          have whole := compared.2
          rw [Option.map_eq_some_iff] at whole
          obtain ⟨file, present, _⟩ := whole
          simp [present]

theorem handleCreateUpload_grown (crypto : Crypto) (now : Int) (pick : Nat) (written : Bool)
    {fs : HttpFileServer} (formed : fs.Formed) (user : HttpUser) (rawName : Bytes)
    (receiverId : Option Int32) (size : Option Int) (sha contentType : Bytes) :
    fs.Grown (fs.handleCreateUpload crypto now pick written user rawName receiverId size sha
      contentType).2 := by
  unfold handleCreateUpload
  dsimp only
  split
  · rename_i receiver size
    split
    · exact .refl fs
    · split
      · exact .refl fs
      · have issued := issueInstantChallenge_grown crypto now pick formed user.userId receiver sha size
        split
        · rename_i challenged
          rwa [challenged] at issued
        · rename_i middle challenged
          rw [challenged] at issued
          split
          · exact issued
          · split
            · exact { issued with }
            · rename_i uploadDb created
              refine { issued with sessions := fun row stored => ?_ }
              rcases UploadTables.createUploadSession_cases written middle.uploadDb
                  (middle.newUploadSession crypto now user receiver (fileNameOf rawName) sha
                    contentType size) with refused | ⟨sessions, made, inserted⟩
              · rw [refused] at created
                simp at created
              · rw [made] at created
                simp only [Prod.mk.injEq, true_and] at created
                rw [← created] at stored
                dsimp only at stored
                rw [(Table.insert_eq_some inserted).1] at stored
                rcases List.mem_append.mp stored with old | new
                · exact issued.sessions row old
                · rw [List.mem_singleton.mp new, ← issued.dir]
                  have form : middle.chunksPath = fun id =>
                      middle.uploadDir.bytes ++ (ascii "/chunks/" ++ (id ++ ascii ".part")) := by
                    funext id
                    simp only [chunksPath, List.append_assoc]
                  exact .inr ⟨_, congrArg cstr (congrFun form _)⟩
  · exact .refl fs

theorem writeChunk_files (count : Nat) (fs : HttpFileServer) (upload : ChunkUpload) :
    ∃ files, fs.writeChunk count upload = { fs with files } := by
  unfold writeChunk
  split
  · exact ⟨fs.files, rfl⟩
  · exact ⟨_, rfl⟩

theorem handleUploadChunk_grown (crypto : Crypto) (now : Int) (written : Bool)
    (usable : Nat → Bool) (count : Nat) (fs : HttpFileServer) (user : HttpUser) (uploadId : Bytes)
    (index : Option Int32) (contentLength : Option Int) (chunkSha body : Bytes) :
    fs.Grown (fs.handleUploadChunk crypto now written usable count user uploadId index
      contentLength chunkSha body).2 := by
  unfold handleUploadChunk
  split
  · exact .refl fs
  · rename_i upload checked
    have stored (files : Files Text UInt8) :
        fs.Grown { (fs.storeChunk written now upload).2 with files } :=
      .of_same rfl rfl rfl (List.Subset.refl _)
        (.of_eq (UploadTables.storeUploadChunk_sessions written now ..))
    split
    · rename_i next outcome
      rw [outcome] at stored
      exact stored next.files
    · rename_i next outcome
      rw [outcome] at stored
      exact stored next.files
    · rename_i next outcome
      rw [outcome] at stored
      exact stored next.files
    · rename_i next outcome
      rw [outcome] at stored
      dsimp only
      split
      · exact stored next.files
      · have opened : ∃ files, (if next.openExisting (usable 0) upload then next
            else next.openTruncating upload) = { next with files } := by
          split
          · exact ⟨next.files, rfl⟩
          · exact ⟨_, rfl⟩
        obtain ⟨opened, same⟩ := opened
        rw [same]
        obtain ⟨files, written⟩ := writeChunk_files count { next with files := opened } upload
        rw [written]
        exact stored files

theorem handleCancelUpload_grown (written : Bool) (fs : HttpFileServer) (user : HttpUser)
    (uploadId : Bytes) : fs.Grown (fs.handleCancelUpload written user uploadId).2 := by
  unfold handleCancelUpload
  split
  · exact .refl fs
  · split_ifs
    · exact .refl fs
    · exact .refl fs
    · split
      · exact .refl fs
      · rename_i uploadDb cancelled
        have kept := UploadTables.cancelUploadSession_sameTmp written fs.uploadDb uploadId
        rw [cancelled] at kept
        exact .of_same rfl rfl rfl (List.Subset.refl _) kept

theorem checkFinalize_file {crypto : Crypto} {fs : HttpFileServer} {uploadId : Bytes}
    {session : UploadSession Bytes} (passed : fs.checkFinalize crypto uploadId session = none) :
    ∃ file, fs.files (cstr session.tmpPath) = some file := by
  unfold checkFinalize at passed
  dsimp only at passed
  split at passed
  · simp at passed
  · split at passed
    · simp at passed
    · rename_i file found
      exact ⟨file, found⟩

theorem readFinalize_tmpPath {fs : HttpFileServer} (formed : fs.Formed) {user : HttpUser}
    {uploadId : Bytes} {session : UploadSession Bytes}
    (read : fs.readFinalize user uploadId = .ok session) :
    ChunkPath fs.uploadDir (cstr session.tmpPath) := by
  unfold readFinalize at read
  split at read
  · simp at read
  · rename_i stored found
    split_ifs at read
    obtain rfl := Except.ok.inj read
    unfold UploadTables.getUploadSession at found
    split at found
    · simp at found
    · obtain ⟨row, lookup, rfl⟩ := Option.map_eq_some_iff.mp found
      have member := (UploadTables.session_eq_some lookup).1
      simpa [UploadSession.map] using formed.sessions row member

theorem finalPath_media (crypto : Crypto) (fs : HttpFileServer) (uploadId : Bytes)
    (session : UploadSession Bytes) :
    MediaPath fs.uploadDir (cstr (fs.finalPath crypto uploadId session)) := by
  unfold finalPath
  split
  · exact imagePath_media fs _ _
  · exact filePath_media fs _ _

theorem moveFinalize_there {crypto : Crypto} {fs : HttpFileServer} {uploadId : Bytes}
    {session : UploadSession Bytes} {file : Bytes}
    (found : fs.files (cstr session.tmpPath) = some file)
    (different : cstr (fs.finalPath crypto uploadId session) ≠ cstr session.tmpPath) :
    ((fs.moveFinalize crypto uploadId session).2.files
      (cstr (fs.finalPath crypto uploadId session))).isSome := by
  unfold moveFinalize
  dsimp only
  split
  · exact moveImage_target found different
  · rw [Files.rename_target found]
    rfl

theorem markFinalize_grown {crypto : Crypto} {now : Int} {writes : Nat → Bool}
    (grown : before.Grown middle) {finalPath : Bytes}
    (media : MediaPath before.uploadDir (cstr finalPath))
    (there : (middle.files (cstr finalPath)).isSome) (user : HttpUser) (uploadId : Bytes)
    (session : UploadSession Bytes) :
    before.Grown (middle.markFinalize crypto now writes user uploadId session finalPath).2 := by
  have kept := UploadTables.finalizeUploadSession_sameTmp (writes 0) middle.uploadDb uploadId
    (finalizedId crypto uploadId)
  have marked (uploadDb : UploadTables) (kept : middle.uploadDb.SameTmp uploadDb) :
      before.Grown { middle with uploadDb } := by
    refine { grown with sessions := fun row stored => ?_ }
    obtain ⟨old, oldStored, same⟩ := kept row stored
    rw [← same]
    exact grown.sessions old oldStored
  unfold markFinalize
  dsimp only
  split
  · rename_i uploadDb refused
    rw [refused] at kept
    exact marked uploadDb kept
  · rename_i existing uploadDb finalized
    rw [finalized] at kept
    split
    · exact marked uploadDb kept
    · refine ((marked uploadDb kept).object media (writes 1) session.sha256 session.fileSize
        session.contentType).register (Crypto.tokenHash_noNul crypto _) media ?_ now
      unfold registerMediaObject
      split <;> exact there

theorem handleFinalizeUpload_grown (crypto : Crypto) (now : Int) (writes : Nat → Bool)
    {fs : HttpFileServer} (formed : fs.Formed) (user : HttpUser) (uploadId : Bytes) :
    fs.Grown (fs.handleFinalizeUpload crypto now writes user uploadId).2 := by
  unfold handleFinalizeUpload
  split
  · exact .refl fs
  · rename_i session read
    split
    · exact .refl fs
    · rename_i passed
      obtain ⟨file, found⟩ := checkFinalize_file passed
      have media := finalPath_media crypto fs uploadId session
      have moved : fs.Grown (fs.moveFinalize crypto uploadId session).2 :=
        .of_same rfl rfl rfl (List.Subset.refl _) (.of_eq rfl)
      exact markFinalize_grown moved media
        (moveFinalize_there found (media.ne_chunk (readFinalize_tmpPath formed read)))
        user uploadId session

theorem dropExpired_uploads {now : Int} {fs : HttpFileServer} {fileId : Bytes}
    {record : UploadRecord} (kept : (fs.dropExpired now).server.uploads fileId = some record) :
    fs.server.uploads fileId = some record := by
  simp only [dropExpired] at kept
  split at kept
  · simp at kept
  · exact kept

theorem gcPass_view {View : Type} (view : HttpFileServer → View)
    (files : ∀ (fs : HttpFileServer) (files : Files Text UInt8), view { fs with files } = view fs)
    (sessions : ∀ (fs : HttpFileServer) (writes : Nat → Bool) (session : UploadSession Bytes),
      view (fs.dropSession writes session) = view fs)
    (now : Int) (writes : Nat → Bool) (fs : HttpFileServer) :
    view (fs.gcPass now writes) = view (fs.dropExpired now) := by
  unfold gcPass
  dsimp only
  rw [foldl_view view _ (fun state _ => sessions state _ _), files]

theorem gcPass_server (now : Int) (writes : Nat → Bool) (fs : HttpFileServer) :
    (fs.gcPass now writes).server = (fs.dropExpired now).server :=
  gcPass_view (fun fs => fs.server) (fun _ _ => rfl) (fun _ _ _ => rfl) now writes fs

theorem gcPass_sameTmp (now : Int) (writes : Nat → Bool) (fs : HttpFileServer) :
    fs.uploadDb.SameTmp (fs.gcPass now writes).uploadDb := by
  unfold gcPass
  dsimp only
  refine foldl_related
    (fun before after : HttpFileServer => before.uploadDb.SameTmp after.uploadDb)
    (fun state => .of_eq rfl) ?_ _ ?_ _ _
  · intro first second third early late row stored
    obtain ⟨middle, middleStored, same⟩ := late row stored
    obtain ⟨old, oldStored, older⟩ := early middle middleStored
    exact ⟨old, oldStored, older.trans same⟩
  · exact fun state entry => UploadTables.deleteUploadSession_sameTmp _ state.uploadDb _

theorem gcPass_grown (now : Int) (writes : Nat → Bool) (fs : HttpFileServer) :
    fs.Grown (fs.gcPass now writes) where
  dir := gcPass_view (fun fs => fs.uploadDir) (fun _ _ => rfl) (fun _ _ _ => rfl) now writes fs
  rows := fun row stored => .inl ⟨row, by rwa [gcPass_server] at stored, rfl⟩
  records := fun fileId record found =>
    have kept : (fs.dropExpired now).server.uploads fileId = some record :=
      gcPass_server now writes fs ▸ found
    .inl (dropExpired_uploads kept)
  objects := by
    have same : (fs.gcPass now writes).mediaObjects = fs.mediaObjects :=
      gcPass_view (fun fs => fs.mediaObjects) (fun _ _ => rfl) (fun _ _ _ => rfl) now writes fs
    exact fun row stored => .inl (same ▸ stored)
  challenges := by
    have same : (fs.gcPass now writes).challenges = (fs.dropExpired now).challenges :=
      gcPass_view (fun fs => fs.challenges) (fun _ _ => rfl) (fun _ _ _ => rfl) now writes fs
    exact fun entry member => .inl (List.mem_of_mem_filter (same ▸ member))
  sessions := fun row stored => .inl (gcPass_sameTmp now writes fs row stored)

theorem markDelivered_columns {writes : Nat → Bool} {messages : MessageTable}
    {msgIds : List Bytes} {row : MessageRow}
    (stored : row ∈ (messages.markDelivered writes msgIds).rows) :
    ∃ old ∈ messages.rows, old.columns = row.columns := by
  have same : (messages.markDelivered writes msgIds).rows.map (·.columns) =
      messages.rows.map (·.columns) := by
    unfold MessageTable.markDelivered
    split
    · refine foldl_view (fun messages : MessageTable => messages.rows.map (·.columns)) _ ?_ _ _
      intro messages entry
      split
      · simp only [MessageTable.rows, MessageTable.setDelivered, Table.rewrite_rows, List.map_map]
        refine List.map_congr_left fun row _ => ?_
        simp only [Function.comp_apply]
        split <;> rfl
      · rfl
    · rfl
  have member : row.columns ∈ messages.rows.map (·.columns) :=
    same ▸ List.mem_map_of_mem stored
  simpa using member

theorem handle_grown (crypto : Crypto) {fs : HttpFileServer} (formed : fs.Formed)
    (event : MediaEvent) : fs.Grown (fs.handle crypto event) := by
  cases event with
  | upload => exact handleUpload_grown ..
  | create now pick written user rawName receiverId size sha contentType =>
      exact handleCreateUpload_grown crypto now pick written formed user rawName receiverId size
        sha contentType
  | chunk => exact handleUploadChunk_grown ..
  | finalize now writes user uploadId =>
      exact handleFinalizeUpload_grown crypto now writes formed user uploadId
  | cancel => exact handleCancelUpload_grown ..
  | preflight now pick user receiverId size sha =>
      exact handlePreflight_grown crypto now pick formed user receiverId size sha
  | proof now user challengeId body => exact handleProof_grown crypto now formed user challengeId body
  | chat env conn rq =>
      obtain ⟨records, rows⟩ := Server.onChat_media crypto env fs.server conn rq
      refine { Grown.refl fs with
        records := fun fileId record found => .inl (records fileId record found)
        rows := fun row stored => ?_ }
      rcases rows with same | ⟨session, new, _, _, _, claimed, grown⟩
      · exact .inl ⟨row, same ▸ stored, rfl⟩
      · rcases List.mem_append.mp (grown ▸ stored) with old | added
        · exact .inl ⟨row, old, rfl⟩
        · rw [List.mem_singleton.mp added]
          exact .inr claimed
  | collect now writes => exact gcPass_grown now writes fs
  | elsewhere server writes msgIds =>
      exact { Grown.refl fs with rows := fun row stored => .inl (markDelivered_columns stored) }

end HttpFileServer

structure MediaState.Kept (state : MediaState) : Prop where
  formed : state.fs.Formed
  records : ∀ fileId record, state.fs.server.uploads fileId = some record →
    state.registered fileId record
  noNul : ∀ fileId record, state.registered fileId record → (0 : UInt8) ∉ fileId
  claimed : ∀ row ∈ state.fs.server.messages.rows, ∀ entry ∈ row.columns.media,
    entry.2.bytes ≠ [] → ∃ fileId record, state.registered fileId record ∧
      cstr fileId = entry.1 ∧ cstr record.mediaPath = entry.2 ∧
      record.uploaderId = row.columns.senderId ∧ record.receiverId = row.columns.receiverId

namespace MediaState

theorem start_kept (server : Server) (uploadDir : Text) : (start server uploadDir).Kept := by
  constructor <;> simp [start, HttpFileServer.fresh, MessageTable.empty, MessageTable.rows,
    UploadTables.empty]
  constructor <;> simp [MessageTable.rows]

theorem step_kept (crypto : Crypto) {state : MediaState} (kept : state.Kept) (event : MediaEvent) :
    (state.step crypto event).Kept := by
  have grown := HttpFileServer.handle_grown crypto kept.formed event
  have formed := kept.formed.grow grown
  exact {
    formed
    records := fun fileId record found => .inr found
    noNul := fun fileId record registered => registered.elim (kept.noNul fileId record)
      fun found => (formed.records fileId record found).1
    claimed := by
      intro row stored entry member named
      rcases grown.rows row stored with ⟨old, oldStored, same⟩ | claimed
      · rw [← same] at member ⊢
        obtain ⟨fileId, record, registered, rest⟩ :=
          kept.claimed old oldStored entry member named
        exact ⟨fileId, record, .inl registered, rest⟩
      · obtain ⟨fileId, record, found, rest⟩ := claimed entry member named
        exact ⟨fileId, record, .inl (kept.records fileId record found), rest⟩ }

end MediaState

end Jitong
