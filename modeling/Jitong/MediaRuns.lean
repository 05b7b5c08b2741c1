import Jitong.ChatStored
import Jitong.HttpFileServer
import Jitong.Lib.Run

/-!
Runs of the file service among the other parts of the server. A state also knows
which files the collector took away, and which upload records there have been.
-/

namespace Jitong

open Lib

def StoredMessage.media {Str : Type} (m : StoredMessage Str) : List (Str × Str) :=
  [(m.fileId, m.mediaPath), (m.thumbnailFileId, m.thumbnailPath),
    (m.largeThumbnailFileId, m.largeThumbnailPath)]

theorem StoredMessage.mem_media {Str : Type} (m : StoredMessage Str) :
    (m.fileId, m.mediaPath) ∈ m.media ∧ (m.thumbnailFileId, m.thumbnailPath) ∈ m.media ∧
      (m.largeThumbnailFileId, m.largeThumbnailPath) ∈ m.media := by
  simp [media]

/-- `elsewhere` stands for what else the server does: it leaves the upload records
alone, and of the messages it changes which are delivered. -/
inductive MediaEvent
  | upload (now : Int) (usable : Bool) (user : HttpUser) (rawName : Bytes)
      (receiverId : Option Int32) (contentLength : Option Int) (contentType body : Bytes)
  | create (now : Int) (pick : Nat) (written : Bool) (user : HttpUser) (rawName : Bytes)
      (receiverId : Option Int32) (size : Option Int) (sha contentType : Bytes)
  | chunk (now : Int) (written : Bool) (usable : Nat → Bool) (count : Nat) (user : HttpUser)
      (uploadId : Bytes) (index : Option Int32) (contentLength : Option Int)
      (chunkSha body : Bytes)
  | finalize (now : Int) (writes : Nat → Bool) (user : HttpUser) (uploadId : Bytes)
  | cancel (written : Bool) (user : HttpUser) (uploadId : Bytes)
  | preflight (now : Int) (pick : Nat) (user : HttpUser) (receiverId : Option Int32)
      (size : Option Int) (sha : Bytes)
  | proof (now : Int) (user : HttpUser) (challengeId body : Bytes)
  | chat (env : Env) (conn : ConnId) (rq : ChatInfoRq)
  | collect (now : Int) (writes : Nat → Bool)
  | elsewhere (server : Server) (writes : Nat → Bool) (msgIds : List Bytes)

def MediaEvent.collects : MediaEvent → Bool
  | .collect .. => true
  | _ => false

namespace HttpFileServer

def handle (crypto : Crypto) (fs : HttpFileServer) : MediaEvent → HttpFileServer
  | .upload now usable user rawName receiverId contentLength contentType body =>
      (fs.handleUpload crypto now usable user rawName receiverId contentLength contentType body).2
  | .create now pick written user rawName receiverId size sha contentType =>
      (fs.handleCreateUpload crypto now pick written user rawName receiverId size sha contentType).2
  | .chunk now written usable count user uploadId index contentLength chunkSha body =>
      (fs.handleUploadChunk crypto now written usable count user uploadId index contentLength
        chunkSha body).2
  | .finalize now writes user uploadId =>
      (fs.handleFinalizeUpload crypto now writes user uploadId).2
  | .cancel written user uploadId => (fs.handleCancelUpload written user uploadId).2
  | .preflight now pick user receiverId size sha =>
      (fs.handlePreflight crypto now pick user receiverId size sha).2
  | .proof now user challengeId body => (fs.handleProof crypto now user challengeId body).2
  | .chat env conn rq => { fs with server := fs.server.onChat crypto env conn rq }
  | .collect now writes => fs.gcPass now writes
  | .elsewhere server writes msgIds =>
      { fs with
        server := {
          server with
          uploads := fs.server.uploads
          messages := fs.server.messages.markDelivered writes msgIds } }

end HttpFileServer

/-- `removed` is what the collector took away and nothing put back; `registered`
are the records that `m_uploads` has held. -/
structure MediaState where
  fs : HttpFileServer
  removed : Text → Bool
  registered : Bytes → UploadRecord → Prop

namespace MediaState

def start (server : Server) (uploadDir : Text) : MediaState where
  fs := .fresh { server with messages := .empty, uploads := fun _ => none } uploadDir
  removed := fun _ => false
  registered := fun _ _ => False

def step (crypto : Crypto) (state : MediaState) (event : MediaEvent) : MediaState :=
  let fs := state.fs.handle crypto event
  { fs
    removed := fun path => (fs.files path).isNone &&
      (state.removed path || (event.collects && (state.fs.files path).isSome))
    registered := fun fileId record =>
      state.registered fileId record ∨ fs.server.uploads fileId = some record }

end MediaState

namespace Server

variable {server : Server} {rq : ChatInfoRq}

def Claimed (server : Server) (m : StoredMessage Text) : Prop :=
  ∀ entry ∈ m.media, entry.2.bytes ≠ [] → ∃ fileId record,
    server.uploads fileId = some record ∧ cstr fileId = entry.1 ∧
    cstr record.mediaPath = entry.2 ∧ record.uploaderId = m.senderId ∧
    record.receiverId = m.receiverId

theorem ownUpload_eq_some {userId friid : Int32} {fileId : Bytes} {record : UploadRecord} :
    server.ownUpload userId friid fileId = some record ↔
      server.uploads fileId = some record ∧ record.uploaderId = userId ∧
        record.receiverId = friid := by
  simp [ownUpload, Option.filter_eq_some_iff]

theorem ownThumbnail_owned {fileId : Bytes} {image : UploadRecord}
    (owned : server.ownThumbnail rq fileId = some (some image)) :
    server.ownUpload rq.myid rq.friid fileId = some image := by
  unfold ownThumbnail at owned
  split at owned
  · simp only [Option.map_eq_some_iff, Option.some.injEq, exists_eq_right,
      Option.filter_eq_some_iff] at owned
    exact owned.1
  · simp at owned

theorem claimMedia_owned {media : ChatMedia} (claimed : server.claimMedia rq = some media) :
    (media.mediaPath ≠ [] → ∃ record, server.ownUpload rq.myid rq.friid rq.fileId = some record ∧
      record.mediaPath = media.mediaPath) ∧
    (∀ image, media.thumbnail = some image →
      server.ownUpload rq.myid rq.friid rq.thumbnailFileId = some image) ∧
    (∀ image, media.largeThumbnail = some image →
      server.ownUpload rq.myid rq.friid rq.largeThumbnailFileId = some image) ∧
    media.rq.fileId = rq.fileId ∧ media.rq.thumbnailFileId = rq.thumbnailFileId ∧
    media.rq.largeThumbnailFileId = rq.largeThumbnailFileId := by
  unfold claimMedia at claimed
  split at claimed
  · simp only [bind, Option.bind_eq_some_iff, pure, Option.some.injEq] at claimed
    obtain ⟨record, owned, thumbnail, small, largeThumbnail, large, rfl⟩ := claimed
    refine ⟨fun _ => ⟨record, owned, rfl⟩, ?_, ?_, ?_⟩
    · rintro image rfl
      exact ownThumbnail_owned small
    · rintro image rfl
      exact ownThumbnail_owned large
    · cases thumbnail <;> cases largeThumbnail <;> exact ⟨rfl, rfl, rfl⟩
  · simp only [Option.some.injEq] at claimed
    subst media
    simp

theorem chatMessage_claimed {crypto : Crypto} {now : Int} {counter : UInt64} {media : ChatMedia}
    (claimed : server.claimMedia rq = some media) (seq : Int) :
    server.Claimed (((chatMessage crypto now counter media).setSeq seq).map cstr) := by
  obtain ⟨main, small, large, fileId, smallId, largeId⟩ := claimMedia_owned claimed
  obtain ⟨myid, friid, _⟩ := claimMedia_fields claimed
  have claims {fileId path : Bytes} {record : UploadRecord}
      (owned : server.ownUpload rq.myid rq.friid fileId = some record)
      (same : record.mediaPath = path) :
      ∃ id record, server.uploads id = some record ∧ cstr id = cstr fileId ∧
        cstr record.mediaPath = cstr path ∧ record.uploaderId = media.rq.myid ∧
        record.receiverId = media.rq.friid := by
    obtain ⟨found, uploader, receiver⟩ := ownUpload_eq_some.mp owned
    exact ⟨fileId, record, found, rfl, congrArg cstr same, uploader.trans myid.symm,
      receiver.trans friid.symm⟩
  have emptyPath : (cstr []).bytes = [] := rfl
  intro entry member named
  simp only [StoredMessage.media, StoredMessage.map, StoredMessage.setSeq, chatMessage,
    List.mem_cons, List.not_mem_nil, or_false] at member
  rcases member with rfl | rfl | rfl
  · have nonempty : media.mediaPath ≠ [] := fun empty => named (by simp only [empty, emptyPath])
    obtain ⟨record, owned, same⟩ := main nonempty
    simp only [fileId]
    exact claims owned same
  · cases image : media.thumbnail with
    | none => simp [image, emptyPath] at named
    | some record =>
        simp only [smallId]
        exact claims (small record image) rfl
  · cases image : media.largeThumbnail with
    | none => simp [image, emptyPath] at named
    | some record =>
        simp only [largeId]
        exact claims (large record image) rfl

theorem eraseUploads_uploads {draft : ChatDraft} {fileId : Bytes} {record : UploadRecord}
    (kept : (server.eraseUploads draft).uploads fileId = some record) :
    server.uploads fileId = some record := by
  have erased (server : Server) (other : Bytes)
      (kept : (server.eraseUploadRecord other).uploads fileId = some record) :
      server.uploads fileId = some record := by
    unfold eraseUploadRecord at kept
    by_cases same : fileId = other
    · simp [same] at kept
    · simpa [same] using kept
  unfold eraseUploads at kept
  split at kept
  · dsimp only at kept
    refine erased server draft.message.fileId ?_
    split at kept
    · have first := erased _ _ kept
      split at first
      · exact erased _ _ first
      · exact first
    · split at kept
      · exact erased _ _ kept
      · exact kept
  · exact kept

theorem answerChat_uploads (server : Server) (conn : ConnId) (draft : ChatDraft)
    (message : StoredMessage Bytes) (target : Option ConnId) :
    (server.answerChat conn draft message target).uploads =
    (server.eraseUploads draft).uploads := by
  cases target <;> rfl

theorem onChat_media (crypto : Crypto) (env : Env) (server : Server) (conn : ConnId)
    (rq : ChatInfoRq) :
    (∀ fileId record, (server.onChat crypto env conn rq).uploads fileId = some record →
      server.uploads fileId = some record) ∧
    ((server.onChat crypto env conn rq).messages.rows = server.messages.rows ∨
      ∃ session row, server.sessions conn = some session ∧
        row.columns.senderId = session.userId ∧ row.columns.receiverId = rq.friid ∧
        server.Claimed row.columns ∧
        (server.onChat crypto env conn rq).messages.rows = server.messages.rows ++ [row]) := by
  constructor
  · unfold onChat
    split
    · exact fun _ _ found => found
    · split
      · exact fun _ _ found => found
      · exact fun _ _ found => found
      · rename_i draft chatCounter accepted
        dsimp only
        split
        · rename_i after failing
          rw [saveChat_eq_false failing]
          exact fun _ _ found => found
        · rename_i message after saved
          obtain ⟨messages, _, rfl⟩ := saveChat_eq_true saved
          rw [answerChat_uploads]
          exact fun fileId record kept =>
            @eraseUploads_uploads { server with chatCounter, messages } _ _ _ kept
  · rcases server.onChat_rows crypto env conn rq with
      same | ⟨session, draft, chatCounter, row, live, accepted, columns, rows⟩
    · exact .inl same
    · obtain ⟨_, _, media, claimed, _, sent⟩ := prepareChat_accepted accepted
      obtain ⟨_, sender, receiver, _⟩ := prepareChat_message accepted
      refine .inr ⟨session, row, live, by rw [columns]; exact sender,
        by rw [columns]; exact receiver, ?_, rows⟩
      rw [columns, sent]
      exact chatMessage_claimed claimed _

end Server

/-! A picture, and its uploads by user 1 for user 2. -/

def catSha : Bytes :=
  toHex (bigEndian 32 0x610f5ae4d76e332636a17bd357fd6ce99029316a99d320280d4d77a746bf29e8)

def catId : Bytes :=
  toHex (bigEndian 32 0x051eaef0b9d3953ab5144186a3b6375635337e35c7a114b65c8cc943ed3917dd)

def catCrypto : Crypto :=
  .recorded [
    (ascii "GIF89a", bigEndian 32
      0x610f5ae4d76e332636a17bd357fd6ce99029316a99d320280d4d77a746bf29e8),
    (ascii "1|2|cat.gif|1700000000|0", bigEndian 32
      0x051eaef0b9d3953ab5144186a3b6375635337e35c7a114b65c8cc943ed3917dd),
    (ascii "1|2|cat.gif|1700000001|1", bigEndian 32
      0x10088b4b7f5a52d295ad02baf38d512dbf1836237e92821e12d1824e80fcfb14)] []

def uploadCat (now : Int) : MediaEvent :=
  .upload now true helloUser (ascii "cat.gif") (some 2) (some 6) (ascii "image/gif")
    (ascii "GIF89a")

def sendCat (fileId : Bytes) : MediaEvent :=
  .chat Server.chatEnv 10 { friid := 2, type := .image, msgId := ascii "m-1", fileId }

def catPath : Text := cstr (ascii "uploads/img/" ++ catSha ++ ascii ".gif")

def catStart : MediaState := .start Server.twoPairs helloDir

end Jitong
