import Jitong.MediaGrowth

/-!
Downloads: a file id opens the file of an upload to the two users that the upload
was between, through a message that its uploader sent.
-/

namespace Jitong

open Lib

theorem isSafeFileId_noNul {id : Bytes} (safe : isSafeFileId id = true) : (0 : UInt8) ∉ id := by
  intro member
  simp only [isSafeFileId, Bool.decide_and, Bool.and_eq_true, decide_eq_true_eq] at safe
  exact absurd (safe.2.1 0 member) (by decide)

namespace HttpFileServer

variable {fs other : HttpFileServer} {pick : Nat} {userId : Int32} {fileId bytes : Bytes}
  {attachment : Option Bytes}

theorem handleDownload_content
    (served : fs.handleDownload pick userId fileId = .content bytes attachment) :
    (0 : UInt8) ∉ fileId ∧ ∃ m, fs.getMessageByFileId pick fileId = some m ∧ m.mediaPath ≠ [] ∧
      (userId = m.senderId ∨ userId = m.receiverId) ∧ fs.files (cstr m.mediaPath) = some bytes := by
  unfold handleDownload at served
  split at served
  · simp at served
  · rename_i checked
    refine ⟨isSafeFileId_noNul (by simpa using checked), ?_⟩
    split at served
    · simp at served
    · rename_i m found
      split at served
      · simp at served
      · rename_i nonempty
        split at served
        · simp at served
        · rename_i participant
          split at served
          · simp at served
          · rename_i content present
            simp only [FileReply.content.injEq] at served
            obtain ⟨rfl, _⟩ := served
            exact ⟨m, found, nonempty, by simpa only [not_and_or, ne_eq, not_not] using participant,
              present⟩

theorem getMessageByFileId_row {m : StoredMessage Bytes} (noNul : (0 : UInt8) ∉ fileId)
    (found : fs.getMessageByFileId pick fileId = some m) :
    ∃ row ∈ fs.server.messages.rows,
      anyRow pick (fs.messagesByFileId (cstr fileId)) = some row.columns ∧
      m.senderId = row.columns.senderId ∧ m.receiverId = row.columns.receiverId ∧
      ∃ path, m.mediaPath = path.bytes ∧ (cstr fileId, path) ∈ row.columns.media := by
  obtain ⟨columns, picked, rfl⟩ := Option.map_eq_some_iff.mp found
  obtain ⟨listed, matching⟩ := List.mem_filter.mp (List.mem_of_getElem? picked)
  obtain ⟨row, stored, rfl⟩ := List.mem_map.mp listed
  simp only [decide_eq_true_eq] at matching
  have bytes := cstr_bytes noNul
  obtain ⟨main, small, large⟩ := row.columns.mem_media
  have named {id : Text} (same : fileId = id.bytes) : cstr fileId = id := by
    rw [same, cstr_text]
  refine ⟨row, stored, picked, ?_, ?_, ?_⟩
  obtain ⟨main, small, large⟩ := row.columns.mem_media
  have named {id : Text} (same : fileId = id.bytes) : cstr fileId = id := by
    rw [same, cstr_text]
  · dsimp only
    split_ifs <;> rfl
  · dsimp only
    split_ifs <;> rfl
  · by_cases isSmall : fileId = row.columns.thumbnailFileId.bytes
    · by_cases isLarge : fileId = row.columns.largeThumbnailFileId.bytes
      · rw [named isLarge]
        exact ⟨_, by simp [StoredMessage.map, ← isSmall, ← isLarge], large⟩
      · rw [named isSmall]
        exact ⟨_, by simp [StoredMessage.map, ← isSmall, isLarge], small⟩
    · by_cases isLarge : fileId = row.columns.largeThumbnailFileId.bytes
      · rw [named isLarge]
        exact ⟨_, by simp [StoredMessage.map, isSmall, ← isLarge], large⟩
      · have own : row.columns.fileId = cstr fileId := by
          rcases matching with own | same | same
          · exact own
          · exact absurd (by rw [same, bytes]) isSmall
          · exact absurd (by rw [same, bytes]) isLarge
        rw [← own]
        exact ⟨_, by simp [StoredMessage.map, isSmall, isLarge], main⟩

theorem messagesByFileId_append (before after : HttpFileServer) {row : MessageRow} (id : Text)
    (grown : after.server.messages.rows = before.server.messages.rows ++ [row]) :
    after.messagesByFileId id = before.messagesByFileId id ∨
      after.messagesByFileId id = before.messagesByFileId id ++ [row.columns] := by
  unfold messagesByFileId
  rw [grown, List.map_append, List.filter_append]
  simp only [List.map_cons, List.map_nil, List.filter_cons, List.filter_nil]
  split
  · exact .inr rfl
  · exact .inl (List.append_nil _)

theorem anyRow_of_mem {Row : Type} {rows : List Row} {row : Row} (member : row ∈ rows) :
    ∃ pick, anyRow pick rows = some row := by
  obtain ⟨index, found⟩ := List.mem_iff_getElem?.mp member
  have inside : index < rows.length := by
    by_contra outside
    rw [List.getElem?_eq_none (Nat.le_of_not_lt outside)] at found
    simp at found
  exact ⟨index, by rw [anyRow, Nat.mod_eq_of_lt inside, found]⟩

theorem handleDownload_congr {otherPick : Nat}
    (picked : anyRow pick (fs.messagesByFileId (cstr fileId)) =
      anyRow otherPick (other.messagesByFileId (cstr fileId)))
    (files : fs.files = other.files) :
    fs.handleDownload pick userId fileId = other.handleDownload otherPick userId fileId := by
  have same : fs.getMessageByFileId pick fileId = other.getMessageByFileId otherPick fileId :=
    congrArg (Option.map _) picked
  unfold handleDownload
  rw [same, files]

end HttpFileServer

namespace MediaState

variable {state : MediaState} {pick : Nat} {userId : Int32} {fileId bytes : Bytes}
  {attachment : Option Bytes}

theorem download_registered (kept : state.Kept)
    (served : state.fs.handleDownload pick userId fileId = .content bytes attachment) :
    ∃ m record, state.fs.getMessageByFileId pick fileId = some m ∧
      state.registered fileId record ∧ record.uploaderId = m.senderId ∧
      record.receiverId = m.receiverId ∧
      (userId = record.uploaderId ∨ userId = record.receiverId) ∧
      state.fs.files (cstr record.mediaPath) = some bytes := by
  obtain ⟨noNul, m, found, nonempty, participant, present⟩ :=
    HttpFileServer.handleDownload_content served
  obtain ⟨row, stored, _, sender, receiver, path, same, member⟩ :=
    HttpFileServer.getMessageByFileId_row noNul found
  obtain ⟨id, record, registered, sameId, sameFile, uploader, owner⟩ :=
    kept.claimed row stored _ member (by rwa [← same])
  dsimp only at sameId sameFile
  have opened : id = fileId := by
    rw [← cstr_bytes noNul, ← sameId, cstr_bytes (kept.noNul id record registered)]
  subst id
  rw [same, cstr_text, ← sameFile] at present
  rw [sender, receiver, ← uploader, ← owner] at participant
  exact ⟨m, record, found, registered, uploader.trans sender.symm, owner.trans receiver.symm,
    participant, present⟩

theorem download_before_chat (kept : state.Kept) {crypto : Crypto} {env : Env} {conn : ConnId}
    {rq : ChatInfoRq} {session : Session} (live : state.fs.server.sessions conn = some session)
    (foreign : state.fs.server.ownUpload session.userId rq.friid fileId = none)
    (served : (state.step crypto (.chat env conn rq)).fs.handleDownload pick userId fileId =
      .content bytes attachment) :
    ∃ other, state.fs.handleDownload other userId fileId = .content bytes attachment := by
  obtain ⟨noNul, m, found, nonempty, _, _⟩ := HttpFileServer.handleDownload_content served
  obtain ⟨row, stored, picked, _, _, path, same, member⟩ :=
    HttpFileServer.getMessageByFileId_row noNul found
  have formed := kept.formed
  have files : (state.step crypto (.chat env conn rq)).fs.files = state.fs.files := rfl
  have listed := List.mem_of_getElem? picked
  obtain ⟨_, rows⟩ := Server.onChat_media crypto env state.fs.server conn rq
  have old (before : row.columns ∈ state.fs.messagesByFileId (cstr fileId)) :
      ∃ other, state.fs.handleDownload other userId fileId = .content bytes attachment := by
    obtain ⟨other, chosen⟩ := HttpFileServer.anyRow_of_mem before
    refine ⟨other, ?_⟩
    rw [← served]
    exact (HttpFileServer.handleDownload_congr (picked.trans chosen.symm) files).symm
  rcases rows with unchanged | ⟨sender, new, online, senderId, receiverId, claimed, grown⟩
  · refine old ?_
    unfold HttpFileServer.messagesByFileId at listed ⊢
    rwa [← unchanged]
  · obtain rfl : sender = session := Option.some.inj (online.symm.trans live)
    rcases HttpFileServer.messagesByFileId_append state.fs
        (state.step crypto (.chat env conn rq)).fs (cstr fileId) grown with before | added
    · exact old (before ▸ listed)
    · rcases List.mem_append.mp (added ▸ listed) with before | last
      · exact old before
      · rw [List.mem_singleton.mp last] at member
        obtain ⟨id, record, registered, sameId, _, uploader, receiver⟩ :=
          claimed _ member (by rwa [← same])
        have opened : id = fileId := by
          have plain := (formed.records id record registered).1
          rw [← cstr_bytes noNul, ← cstr_bytes plain, sameId]
        subst id
        have owned := Server.ownUpload_eq_some.mpr
          ⟨registered, uploader.trans senderId, receiver.trans receiverId⟩
        simp [owned] at foreign

end MediaState

/-- In any state that can be reached, a download serves the file of an upload to its
two users, and a message of somebody else opens nothing. -/
theorem fileAccess_registered (crypto : Crypto) (server : Server) (uploadDir : Text)
    (events : List MediaEvent) :
    let state := events.foldl (fun state event => state.step crypto event)
      (MediaState.start server uploadDir)
    (∀ pick userId fileId bytes attachment,
      state.fs.handleDownload pick userId fileId = .content bytes attachment →
      ∃ m record, state.fs.getMessageByFileId pick fileId = some m ∧
        state.registered fileId record ∧ record.uploaderId = m.senderId ∧
        record.receiverId = m.receiverId ∧
        (userId = record.uploaderId ∨ userId = record.receiverId) ∧
        state.fs.files (cstr record.mediaPath) = some bytes) ∧
    (∀ env conn rq session fileId, state.fs.server.sessions conn = some session →
      state.fs.server.ownUpload session.userId rq.friid fileId = none →
      ∀ pick userId bytes attachment,
        (state.step crypto (.chat env conn rq)).fs.handleDownload pick userId fileId =
          .content bytes attachment →
        ∃ other, state.fs.handleDownload other userId fileId = .content bytes attachment) := by
  intro state
  have kept : state.Kept := by
    refine (Run.of_foldl (fun state event => state.step crypto event) events
      (MediaState.start server uploadDir)).invariant (MediaState.start_kept server uploadDir) ?_
    rintro before event _ held rfl
    exact MediaState.step_kept crypto held event
  exact ⟨fun _ _ _ _ _ served => MediaState.download_registered kept served,
    fun _ _ _ _ _ live foreign _ _ _ _ served =>
      MediaState.download_before_chat kept live foreign served⟩

end Jitong
