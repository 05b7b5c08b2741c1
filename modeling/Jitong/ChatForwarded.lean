import Jitong.ChatStored

/-!
What the receiver is handed live against what a replay would build from the
stored row.
-/

namespace Jitong

def ChatInfoRq.ofType (rq : ChatInfoRq) : ChatInfoRq :=
  let common : ChatInfoRq := {
    myid := rq.myid, friid := rq.friid, msgId := rq.msgId, ts := rq.ts, seq := rq.seq
    type := rq.type }
  match rq.type with
  | .image =>
      { common with
        imageWidth := rq.imageWidth
        imageHeight := rq.imageHeight
        fileId := rq.fileId
        fileSize := rq.fileSize
        contentType := rq.contentType
        sha256 := rq.sha256
        thumbnailFileId := rq.thumbnailFileId
        thumbnailSize := rq.thumbnailSize
        thumbnailSha256 := rq.thumbnailSha256
        thumbnailWidth := rq.thumbnailWidth
        thumbnailHeight := rq.thumbnailHeight
        largeThumbnailFileId := rq.largeThumbnailFileId
        largeThumbnailSize := rq.largeThumbnailSize
        largeThumbnailSha256 := rq.largeThumbnailSha256
        largeThumbnailWidth := rq.largeThumbnailWidth
        largeThumbnailHeight := rq.largeThumbnailHeight }
  | .file =>
      { common with
        fileId := rq.fileId
        fileName := rq.fileName
        fileSize := rq.fileSize
        contentType := rq.contentType
        sha256 := rq.sha256 }
  | _ => { common with msg := rq.msg }

def ChatInfoRq.stamp (rq : ChatInfoRq) (myid : Int32) (msgId : Bytes) (ts seq : Int) :
    ChatInfoRq :=
  { rq with myid, msgId, ts, seq }

theorem ChatInfoRq.stamp_msgId (rq : ChatInfoRq) (myid : Int32) (msgId : Bytes) (ts seq : Int) :
    (rq.stamp myid msgId ts seq).msgId = msgId := rfl

def ChatInfoRq.Plain (rq : ChatInfoRq) : Prop :=
  match rq.type with
  | .image =>
      (0 : UInt8) ∉ rq.fileId ∧ (0 : UInt8) ∉ rq.contentType ∧ (0 : UInt8) ∉ rq.sha256 ∧
      (0 : UInt8) ∉ rq.thumbnailFileId ∧ (0 : UInt8) ∉ rq.thumbnailSha256 ∧
      (0 : UInt8) ∉ rq.largeThumbnailFileId ∧ (0 : UInt8) ∉ rq.largeThumbnailSha256
  | .file =>
      (0 : UInt8) ∉ rq.fileId ∧ (0 : UInt8) ∉ rq.fileName ∧ (0 : UInt8) ∉ rq.contentType ∧
      (0 : UInt8) ∉ rq.sha256
  | _ => (0 : UInt8) ∉ rq.msg

def ChatInfoRq.Matches (rq : ChatInfoRq) (columns : StoredMessage Text) : Prop :=
  match rq.type with
  | .image =>
      columns.type = 1 ∧ columns.imgW = rq.imageWidth ∧ columns.imgH = rq.imageHeight ∧
      columns.fileId.bytes = rq.fileId ∧ columns.fileSize = rq.fileSize ∧
      columns.contentType.bytes = rq.contentType ∧ columns.sha256.bytes = rq.sha256 ∧
      columns.thumbnailFileId.bytes = rq.thumbnailFileId ∧
      columns.thumbnailSize = rq.thumbnailSize ∧
      columns.thumbnailSha256.bytes = rq.thumbnailSha256 ∧
      columns.thumbnailW = rq.thumbnailWidth ∧ columns.thumbnailH = rq.thumbnailHeight ∧
      columns.largeThumbnailFileId.bytes = rq.largeThumbnailFileId ∧
      columns.largeThumbnailSize = rq.largeThumbnailSize ∧
      columns.largeThumbnailSha256.bytes = rq.largeThumbnailSha256 ∧
      columns.largeThumbnailW = rq.largeThumbnailWidth ∧
      columns.largeThumbnailH = rq.largeThumbnailHeight
  | .file =>
      columns.type = 2 ∧ columns.fileId.bytes = rq.fileId ∧
      columns.content.bytes = rq.fileName ∧ columns.fileSize = rq.fileSize ∧
      columns.contentType.bytes = rq.contentType ∧ columns.sha256.bytes = rq.sha256
  | _ => columns.type ≠ 1 ∧ columns.type ≠ 2 ∧ columns.content.bytes = rq.msg

namespace Server

def described (server : Server) (rq : ChatInfoRq) : ChatInfoRq :=
  let image (fileId : Bytes) : Option UploadRecord :=
    if rq.type = .image ∧ fileId ≠ [] then server.uploads fileId else none
  match (if rq.type = .image ∨ rq.type = .file then server.uploads rq.fileId else none) with
  | some record =>
      withMedia rq record (image rq.thumbnailFileId) (image rq.largeThumbnailFileId)
  | none => rq

theorem ownThumbnail_eq_some {server : Server} {rq : ChatInfoRq} {fileId : Bytes}
    {thumbnail : Option UploadRecord}
    (owned : server.ownThumbnail rq fileId = some thumbnail) :
    thumbnail = if rq.type = .image ∧ fileId ≠ [] then server.uploads fileId else none := by
  unfold ownThumbnail ownUpload at owned
  split at owned
  · rename_i asked
    rw [if_pos asked]
    simp only [Option.map_eq_some_iff, Option.filter_eq_some_iff] at owned
    obtain ⟨record, ⟨⟨found, _⟩, _⟩, rfl⟩ := owned
    exact found.symm
  · rename_i skipped
    rw [if_neg skipped]
    exact (Option.some.inj owned).symm

theorem claimMedia_described {server : Server} {userId : Int32} {rq : ChatInfoRq}
    {media : ChatMedia}
    (claimed : server.claimMedia { rq with myid := userId } = some media) :
    media.rq = { server.described rq with myid := userId } ∧
      (rq.type = .image ∨ rq.type = .file → media.fileSize = (server.described rq).fileSize) := by
  unfold claimMedia at claimed
  dsimp only at claimed
  split at claimed
  · rename_i media
    simp only [bind, Option.bind_eq_some_iff, pure, Option.some.injEq] at claimed
    obtain ⟨record, owned, thumbnail, small, largeThumbnail, large, rfl⟩ := claimed
    have found : server.uploads rq.fileId = some record :=
      (Option.filter_eq_some_iff.mp owned).1
    have smallSame := ownThumbnail_eq_some small
    have largeSame := ownThumbnail_eq_some large
    dsimp only at smallSame largeSame
    unfold described
    rw [if_pos media, found]
    dsimp only
    rw [← smallSame, ← largeSame]
    cases thumbnail <;> cases largeThumbnail <;> exact ⟨rfl, fun _ => rfl⟩
  · rename_i plain
    simp only [Option.some.injEq] at claimed
    subst media
    unfold described
    rw [if_neg plain]
    exact ⟨rfl, fun asked => absurd asked plain⟩

theorem described_fields (server : Server) (rq : ChatInfoRq) :
    (server.described rq).type = rq.type ∧ (server.described rq).friid = rq.friid := by
  unfold described
  dsimp only
  split
  · have fields := withMedia_fields rq
    exact ⟨(fields _ _ _).2.2.2.1, (fields _ _ _).2.1⟩
  · exact ⟨rfl, rfl⟩

theorem described_ofType (server : Server) (rq : ChatInfoRq) :
    (server.described rq).ofType = server.described rq ↔ rq.ofType = rq := by
  unfold described
  dsimp only
  split
  · rename_i record found
    split at found
    · rename_i media
      rcases media with image | file
      · simp only [image, true_and]
        generalize (if rq.thumbnailFileId ≠ [] then server.uploads rq.thumbnailFileId else none) =
          thumbnail
        generalize (if rq.largeThumbnailFileId ≠ [] then server.uploads rq.largeThumbnailFileId
          else none) = largeThumbnail
        cases rq
        cases thumbnail <;> cases largeThumbnail <;> simp_all [withMedia, ChatInfoRq.ofType]
      · cases rq
        simp_all [withMedia, ChatInfoRq.ofType]
    · simp at found
  · rfl

end Server

theorem eq_fillChatInfo_iff {rq : ChatInfoRq} (named : rq.type.named = true) (userId : Int32)
    (msgId : Bytes) (ts seq : Int) (columns : StoredMessage Text) :
    rq.stamp userId msgId ts seq = fillChatInfo (columns.map Text.bytes) ↔
      rq.ofType = rq ∧ columns.senderId = userId ∧ columns.receiverId = rq.friid ∧
        columns.msgId.bytes = msgId ∧ columns.ts = ts ∧ columns.seq = seq ∧
        rq.Matches columns := by
  obtain ⟨myid, friid, msg, type, _⟩ := rq
  unfold ChatInfoRq.stamp fillChatInfo ChatInfoRq.ofType ChatInfoRq.Matches StoredMessage.map
  cases type with
  | text =>
      by_cases image : columns.type = 1
      · simp [image]
      · by_cases file : columns.type = 2
        · simp [file]
        · simp only [image, file, if_false, ChatInfoRq.mk.injEq]
          grind
  | image =>
      by_cases image : columns.type = 1
      · simp only [image, if_true, ChatInfoRq.mk.injEq]
        grind
      · by_cases file : columns.type = 2
        · simp [file]
        · simp [image, file]
  | file =>
      by_cases image : columns.type = 1
      · simp [image]
      · by_cases file : columns.type = 2
        · simp only [file, if_true, ChatInfoRq.mk.injEq]
          grind
        · simp [image, file]
  | unrecognized number => simp [MsgType.named] at named

namespace Server

theorem matches_chatMessage_iff {media : ChatMedia} {rq : ChatInfoRq} {userId : Int32}
    (named : rq.type.named = true) (described : media.rq = { rq with myid := userId })
    (size : rq.type = .image ∨ rq.type = .file → media.fileSize = rq.fileSize) (crypto : Crypto)
    (now seq : Int) (counter : UInt64) :
    rq.Matches (((chatMessage crypto now counter media).setSeq seq).map cstr) ↔ rq.Plain := by
  obtain ⟨myid, friid, msg, type, _⟩ := rq
  unfold ChatInfoRq.Matches ChatInfoRq.Plain StoredMessage.setSeq chatMessage StoredMessage.map
  rw [described]
  cases type with
  | text => simp [chatType, cstr_bytes_iff]
  | image => simp [chatType, cstr_bytes_iff, size (.inl rfl)]
  | file => simp [chatType, cstr_bytes_iff, size (.inr rfl)]
  | unrecognized number => simp [MsgType.named] at named

def ForwardedAsStored (after : Server) (packet : ChatInfoRq) : Prop :=
  ∃ row, after.messages.findByMsgId packet.msgId = some row ∧
    packet = fillChatInfo (readMessageRow row)

/-- The request has no field of another type; its texts fit into their columns;
and a row that has its message id already was stored in this very second with
the same sender, receiver and contents. -/
def ReplaysAlike (crypto : Crypto) (now : Int) (before : Server) (userId : Int32)
    (rq : ChatInfoRq) : Prop :=
  let msgId := before.chosenMsgId crypto now userId rq
  rq.ofType = rq ∧ (0 : UInt8) ∉ msgId ∧
  match before.messages.findByMsgId msgId with
  | none => (before.described rq).Plain
  | some row =>
      row.columns.senderId = userId ∧ row.columns.receiverId = rq.friid ∧
      row.columns.ts = now ∧ (before.described rq).Matches row.columns

/-- Live delivery and replay agree exactly on the requests of `ReplaysAlike`. -/
theorem onChat_forwarded_iff {crypto : Crypto} {env : Env} {server : Server}
    {conn target : ConnId} {session : Session} {rq packet : ChatInfoRq}
    (live : server.sessions conn = some session)
    (online : server.presenceGet rq.friid = some target) (named : rq.type.named = true)
    (delivered : .chatInfoRq packet ∈
      server.deliveredSince (server.onChat crypto env conn rq) target) :
    ForwardedAsStored (server.onChat crypto env conn rq) packet ↔
      ReplaysAlike crypto env.now server session.userId rq := by
  obtain ⟨draft, chatCounter, message, accepted, saved, rfl⟩ :=
    onChat_forwards live online delivered
  obtain ⟨msgId, sender, receiver, _, _, _, ts⟩ := prepareChat_message accepted
  obtain ⟨_, _, media, claimed, draftRq, draftMessage⟩ := prepareChat_accepted accepted
  obtain ⟨described, size⟩ := claimMedia_described claimed
  obtain ⟨type, friid⟩ := server.described_fields rq
  have describedNamed : (server.described rq).type.named = true := type ▸ named
  have packet (message : StoredMessage Bytes) : forwarded draft message =
      (server.described rq).stamp session.userId message.msgId message.ts message.seq := by
    rw [forwarded, draftRq, described]
    rfl
  generalize server.onChat crypto env conn rq = after at saved
  unfold ForwardedAsStored ReplaysAlike
  dsimp only
  rw [← server.described_ofType rq, ← friid]
  rcases server.messages.saveMessage_cases env.writes draft.message true with
    ⟨failed, _⟩ | ⟨row, found, readBack⟩ | ⟨next, missing, fresh, rows, _⟩
  · rw [saved] at failed
    simp at failed
  · rw [readBack, Prod.mk.injEq, Prod.mk.injEq] at saved
    obtain ⟨_, rfl, table⟩ := saved
    obtain ⟨_, rowId⟩ := MessageTable.findByMsgId_eq_some found
    rw [msgId] at found rowId
    rw [← table, packet, ChatInfoRq.stamp_msgId, StoredMessage.setSeq_msgId, StoredMessage.setSeq_ts,
      StoredMessage.setSeq_seq, msgId, ts, found]
    simp only [Option.some.injEq, exists_eq_left', readMessageRow]
    rw [eq_fillChatInfo_iff describedNamed, rowId, cstr_bytes_iff]
    tauto
  · rw [fresh, Prod.mk.injEq, Prod.mk.injEq] at saved
    obtain ⟨_, rfl, rfl⟩ := saved
    rw [msgId] at missing
    have stored := MessageTable.findByMsgId_of_stored
      (rows ▸ List.mem_append_right _ (List.mem_singleton.mpr rfl))
      (congrArg cstr msgId)
    have matchesPlain := matches_chatMessage_iff describedNamed described
      (fun media => size (type ▸ media)) crypto env.now (server.messages.nextSeq
        (makeConversationId draft.message.senderId draft.message.receiverId)) server.chatCounter
    rw [← draftMessage] at matchesPlain
    rw [packet, ChatInfoRq.stamp_msgId, StoredMessage.setSeq_msgId, StoredMessage.setSeq_ts,
      StoredMessage.setSeq_seq, msgId, ts, missing, stored]
    simp only [Option.some.injEq, exists_eq_left', readMessageRow]
    rw [eq_fillChatInfo_iff describedNamed, matchesPlain]
    simp only [StoredMessage.map, StoredMessage.setSeq, sender, receiver, friid, msgId, ts,
      cstr_bytes_iff, true_and]

def twoFriends : Server :=
  { empty with
    friends := [(1, 2), (2, 1)]
    presence := fun userId => if userId = 2 then some ⟨20, 1700000000⟩ else none
    sessions := fun conn =>
      if conn = 10 then some (twoPairs.session 1)
      else if conn = 20 then some (twoPairs.session 2)
      else none }

def laterEnv : Env := { chatEnv with now := 1700000005 }

def afterSend : Server := twoFriends.onChat (.recorded [] []) chatEnv 10 firstChat

def afterResend : Server := afterSend.onChat (.recorded [] []) laterEnv 10 firstChat

def resentPacket : ChatInfoRq := firstChat.stamp 1 (ascii "m-1") 1700000005 1

/-- The retransmission is forwarded with the time of the retransmission, while
the row keeps the time of the first one. -/
theorem resend_differs :
    .chatInfoRq resentPacket ∈ afterSend.deliveredSince afterResend 20 ∧
      ¬ ForwardedAsStored afterResend resentPacket := by
  refine ⟨by decide +kernel, ?_⟩
  rintro ⟨row, found, same⟩
  have stored : (afterResend.messages.findByMsgId resentPacket.msgId).map (·.columns.ts) =
      some 1700000000 := by decide +kernel
  have replayed : resentPacket.ts = row.columns.ts := by
    rw [same]
    unfold fillChatInfo readMessageRow
    split
    · rfl
    · split <;> rfl
  rw [found, Option.map_some, ← replayed] at stored
  exact absurd stored (by decide +kernel)

theorem onChat_forwarded_iff_firstChat :
    ForwardedAsStored (twoFriends.onChat (.recorded [] []) chatEnv 10 firstChat)
        (firstChat.stamp 1 (ascii "m-1") 1700000000 1) ↔
      ReplaysAlike (.recorded [] []) chatEnv.now twoFriends 1 firstChat := by
  have live : twoFriends.sessions 10 = some (twoPairs.session 1) := rfl
  have online : twoFriends.presenceGet firstChat.friid = some 20 := by decide +kernel
  have delivered : .chatInfoRq (firstChat.stamp 1 (ascii "m-1") 1700000000 1) ∈
      twoFriends.deliveredSince (twoFriends.onChat (.recorded [] []) chatEnv 10 firstChat) 20 := by
    decide +kernel
  have named : firstChat.type.named = true := rfl
  have key := onChat_forwarded_iff live online named delivered
  exact key

end Server

end Jitong
