import Jitong.Server

/-!
`handlers/MessageHandler.cpp`: a chat message is checked, stored, forwarded to
the receiver when one is online, and acknowledged.
-/

namespace Jitong

/-- What `onChat` has worked out before it looks at the receiver. -/
structure ChatDraft where
  rq : ChatInfoRq
  message : StoredMessage Bytes
  hasThumbnail : Bool
  hasLargeThumbnail : Bool
  deriving DecidableEq

structure ChatMedia where
  rq : ChatInfoRq
  mediaPath : Bytes := []
  fileSize : Int := 0
  thumbnail : Option UploadRecord := none
  largeThumbnail : Option UploadRecord := none

inductive ChatCheck
  | ignored
  | rejected (rq : ChatInfoRq) (result : Int32)
  | accepted (draft : ChatDraft) (chatCounter : UInt64)
  deriving DecidableEq

def isImageType (contentType : Bytes) : Bool := (ascii "image/").isPrefixOf contentType

def fallbackMsgId (crypto : Crypto) (now : Int) (counter : UInt64) (sender receiver : Int32)
    (content : Bytes) : Bytes :=
  let bar := ascii "|"
  crypto.tokenHash (decimal sender.toInt ++ bar ++ decimal receiver.toInt ++ bar ++ decimal now ++
    bar ++ decimal counter.toNat ++ bar ++ content)

def chatType : MsgType → Int32
  | .image => 1
  | .file => 2
  | _ => 0

namespace Server

def deliverFailure (server : Server) (conn : ConnId) (rq : ChatInfoRq) (result : Int32) : Server :=
  server.deliver conn (.chatInfoRs {
    myid := rq.friid
    friid := rq.myid
    msgId := rq.msgId
    result
    seq := 0 })

def ownUpload (server : Server) (userId friid : Int32) (fileId : Bytes) : Option UploadRecord :=
  (server.uploads fileId).filter fun record =>
    record.uploaderId = userId ∧ record.receiverId = friid

/-- A thumbnail that an image request names: `none` when it is not the sender's. -/
def ownThumbnail (server : Server) (rq : ChatInfoRq) (fileId : Bytes) :
    Option (Option UploadRecord) :=
  if rq.type = .image ∧ fileId ≠ [] then
    ((server.ownUpload rq.myid rq.friid fileId).filter fun record =>
      isImageType record.contentType).map some
  else some none

def withMedia (rq : ChatInfoRq) (record : UploadRecord)
    (thumbnail largeThumbnail : Option UploadRecord) : ChatInfoRq :=
  let rq := {
    rq with fileSize := record.size, contentType := record.contentType, sha256 := record.sha256 }
  let rq :=
    match thumbnail with
    | some image => { rq with thumbnailSize := image.size, thumbnailSha256 := image.sha256 }
    | none => rq
  match largeThumbnail with
  | some image => { rq with largeThumbnailSize := image.size, largeThumbnailSha256 := image.sha256 }
  | none => rq

def claimMedia (server : Server) (rq : ChatInfoRq) : Option ChatMedia :=
  if rq.type = .image ∨ rq.type = .file then do
    let record ← server.ownUpload rq.myid rq.friid rq.fileId
    let thumbnail ← server.ownThumbnail rq rq.thumbnailFileId
    let largeThumbnail ← server.ownThumbnail rq rq.largeThumbnailFileId
    return {
      rq := withMedia rq record thumbnail largeThumbnail
      mediaPath := record.mediaPath
      fileSize := record.size
      thumbnail
      largeThumbnail }
  else some { rq }

def chatMessage (crypto : Crypto) (now : Int) (counter : UInt64) (media : ChatMedia) :
    StoredMessage Bytes :=
  let rq := media.rq
  {
    msgId :=
      if rq.msgId = [] then fallbackMsgId crypto now counter rq.myid rq.friid rq.msg
      else rq.msgId
    senderId := rq.myid
    receiverId := rq.friid
    type := chatType rq.type
    content := if rq.type = .file then rq.fileName else rq.msg
    mediaPath := media.mediaPath
    imgW := rq.imageWidth
    imgH := rq.imageHeight
    ts := now
    seq := 0
    fileId := rq.fileId
    fileSize := media.fileSize
    contentType := rq.contentType
    sha256 := rq.sha256
    thumbnailFileId := rq.thumbnailFileId
    thumbnailPath := (media.thumbnail.map (·.mediaPath)).getD []
    thumbnailSize := rq.thumbnailSize
    thumbnailSha256 := rq.thumbnailSha256
    thumbnailW := rq.thumbnailWidth
    thumbnailH := rq.thumbnailHeight
    largeThumbnailFileId := rq.largeThumbnailFileId
    largeThumbnailPath := (media.largeThumbnail.map (·.mediaPath)).getD []
    largeThumbnailSize := rq.largeThumbnailSize
    largeThumbnailSha256 := rq.largeThumbnailSha256
    largeThumbnailW := rq.largeThumbnailWidth
    largeThumbnailH := rq.largeThumbnailHeight
  }

def prepareChat (crypto : Crypto) (now : Int) (server : Server) (userId : Int32)
    (rq : ChatInfoRq) : ChatCheck :=
  if userId ≤ 0 then .ignored else
  let rq := { rq with myid := userId }
  if !server.isFriend userId rq.friid then .rejected rq chatResultNotFriend else
  match server.claimMedia rq with
  | none => .rejected rq chatResultFileNotOwned
  | some media =>
      .accepted {
        rq := media.rq
        message := chatMessage crypto now server.chatCounter media
        hasThumbnail := media.thumbnail.isSome
        hasLargeThumbnail := media.largeThumbnail.isSome
      } (if media.rq.msgId = [] then server.chatCounter + 1 else server.chatCounter)

def saveChat (writes : Nat → Bool) (server : Server) (message : StoredMessage Bytes)
    (delivered : Bool) : Bool × StoredMessage Bytes × Server :=
  let (saved, message, messages) := server.messages.saveMessage writes message delivered
  (saved, message, { server with messages })

def eraseUploadRecord (server : Server) (fileId : Bytes) : Server :=
  { server with uploads := Function.update server.uploads fileId none }

def eraseUploads (server : Server) (draft : ChatDraft) : Server :=
  if draft.message.type = 1 ∨ draft.message.type = 2 then
    let server := server.eraseUploadRecord draft.message.fileId
    let server :=
      if draft.hasThumbnail then server.eraseUploadRecord draft.message.thumbnailFileId else server
    if draft.hasLargeThumbnail then server.eraseUploadRecord draft.message.largeThumbnailFileId
    else server
  else server

/-- The request as it is forwarded once `message` is stored. -/
def forwarded (draft : ChatDraft) (message : StoredMessage Bytes) : ChatInfoRq :=
  { draft.rq with msgId := message.msgId, ts := message.ts, seq := message.seq }

/-- Everything that follows a successful `saveMessage`. -/
def answerChat (server : Server) (conn : ConnId) (draft : ChatDraft)
    (message : StoredMessage Bytes) (target : Option ConnId) : Server :=
  let server := server.eraseUploads draft
  let rs : ChatInfoRs := {
    myid := draft.rq.friid
    friid := draft.rq.myid
    msgId := message.msgId
    seq := message.seq }
  match target with
  | some target =>
      (server.deliver target (.chatInfoRq (forwarded draft message))).deliver conn
        (.chatInfoRs { rs with result := chatResultSucc })
  | none => server.deliver conn (.chatInfoRs { rs with result := chatResultFail })

def onChat (crypto : Crypto) (env : Env) (server : Server) (conn : ConnId) (rq : ChatInfoRq) :
    Server :=
  match server.sessions conn with
  | none => server
  | some session =>
      match server.prepareChat crypto env.now session.userId rq with
      | .ignored => server
      | .rejected rq result => server.deliverFailure conn rq result
      | .accepted draft chatCounter =>
          let server := { server with chatCounter }
          let target := server.presenceGet draft.rq.friid
          match server.saveChat env.writes draft.message target.isSome with
          | (false, _, server) => server.deliverFailure conn draft.rq chatResultServerError
          | (true, message, server) => server.answerChat conn draft message target

theorem withMedia_fields (rq : ChatInfoRq) (record : UploadRecord)
    (thumbnail largeThumbnail : Option UploadRecord) :
    (withMedia rq record thumbnail largeThumbnail).myid = rq.myid ∧
    (withMedia rq record thumbnail largeThumbnail).friid = rq.friid ∧
    (withMedia rq record thumbnail largeThumbnail).msgId = rq.msgId ∧
    (withMedia rq record thumbnail largeThumbnail).type = rq.type ∧
    (withMedia rq record thumbnail largeThumbnail).msg = rq.msg ∧
    (withMedia rq record thumbnail largeThumbnail).fileName = rq.fileName := by
  cases thumbnail <;> cases largeThumbnail <;> exact ⟨rfl, rfl, rfl, rfl, rfl, rfl⟩

theorem claimMedia_fields {server : Server} {rq : ChatInfoRq} {media : ChatMedia}
    (claimed : server.claimMedia rq = some media) :
    media.rq.myid = rq.myid ∧ media.rq.friid = rq.friid ∧ media.rq.msgId = rq.msgId ∧
      media.rq.type = rq.type ∧ media.rq.msg = rq.msg ∧ media.rq.fileName = rq.fileName := by
  unfold claimMedia at claimed
  split at claimed
  · simp only [bind, Option.bind_eq_some_iff, pure, Option.some.injEq] at claimed
    obtain ⟨record, _, thumbnail, _, largeThumbnail, _, rfl⟩ := claimed
    exact withMedia_fields ..
  · simp only [Option.some.injEq] at claimed
    subst media
    exact ⟨rfl, rfl, rfl, rfl, rfl, rfl⟩

def chosenMsgId (crypto : Crypto) (now : Int) (server : Server) (userId : Int32)
    (rq : ChatInfoRq) : Bytes :=
  if rq.msgId = [] then fallbackMsgId crypto now server.chatCounter userId rq.friid rq.msg
  else rq.msgId

/-- The content of a request, for the `content` column. -/
def chatContent (rq : ChatInfoRq) : Bytes := if rq.type = .file then rq.fileName else rq.msg

theorem prepareChat_accepted {crypto : Crypto} {now : Int} {server : Server} {userId : Int32}
    {rq : ChatInfoRq} {draft : ChatDraft} {chatCounter : UInt64}
    (accepted : server.prepareChat crypto now userId rq = .accepted draft chatCounter) :
    0 < userId ∧ server.isFriend userId rq.friid = true ∧
    ∃ media, server.claimMedia { rq with myid := userId } = some media ∧ draft.rq = media.rq ∧
      draft.message = chatMessage crypto now server.chatCounter media := by
  unfold prepareChat at accepted
  split at accepted
  · simp at accepted
  · rename_i positive
    dsimp only at accepted
    split at accepted
    · simp at accepted
    · rename_i friends
      split at accepted
      · simp at accepted
      · rename_i media claimed
        simp only [ChatCheck.accepted.injEq] at accepted
        obtain ⟨rfl, rfl⟩ := accepted
        exact ⟨Int32.not_le.mp positive, by simpa using friends, media, claimed, rfl, rfl⟩

theorem prepareChat_message {crypto : Crypto} {now : Int} {server : Server} {userId : Int32}
    {rq : ChatInfoRq} {draft : ChatDraft} {chatCounter : UInt64}
    (accepted : server.prepareChat crypto now userId rq = .accepted draft chatCounter) :
    draft.message.msgId = server.chosenMsgId crypto now userId rq ∧
    draft.message.senderId = userId ∧ draft.message.receiverId = rq.friid ∧
    draft.rq.friid = rq.friid ∧ draft.message.type = chatType rq.type ∧
    draft.message.content = chatContent rq ∧ draft.message.ts = now := by
  obtain ⟨_, _, media, claimed, same, message⟩ := prepareChat_accepted accepted
  obtain ⟨myid, friid, msgId, type, msg, fileName⟩ := claimMedia_fields claimed
  rw [message, same]
  refine ⟨?_, myid, friid, friid, congrArg chatType type, ?_, rfl⟩
  · simp only [chatMessage, msgId, myid, friid, msg, chosenMsgId]
  · simp only [chatMessage, type, fileName, msg, chatContent]

theorem saveChat_eq_true {writes : Nat → Bool} {server after : Server}
    {message stored : StoredMessage Bytes} {delivered : Bool}
    (saved : server.saveChat writes message delivered = (true, stored, after)) :
    ∃ messages, server.messages.saveMessage writes message delivered = (true, stored, messages) ∧
      after = { server with messages } := by
  simp only [saveChat, Prod.mk.injEq] at saved
  obtain ⟨result, rfl, rfl⟩ := saved
  exact ⟨_, Prod.ext result rfl, rfl⟩

theorem saveChat_eq_false {writes : Nat → Bool} {server after : Server}
    {message failed : StoredMessage Bytes} {delivered : Bool}
    (failing : server.saveChat writes message delivered = (false, failed, after)) :
    after = server := by
  simp only [saveChat, Prod.mk.injEq] at failing
  obtain ⟨result, _, rfl⟩ := failing
  rw [MessageTable.saveMessage_failed (Prod.ext result rfl)]

@[simp] theorem eraseUploads_sessions (server : Server) (draft : ChatDraft) :
    (server.eraseUploads draft).sessions = server.sessions := by
  unfold eraseUploads
  split
  · cases draft.hasThumbnail <;> cases draft.hasLargeThumbnail <;> rfl
  · rfl

@[simp] theorem eraseUploads_messages (server : Server) (draft : ChatDraft) :
    (server.eraseUploads draft).messages = server.messages := by
  unfold eraseUploads
  split
  · cases draft.hasThumbnail <;> cases draft.hasLargeThumbnail <;> rfl
  · rfl

@[simp] theorem answerChat_messages (server : Server) (conn : ConnId) (draft : ChatDraft)
    (message : StoredMessage Bytes) (target : Option ConnId) :
    (server.answerChat conn draft message target).messages = server.messages := by
  unfold answerChat
  cases target <;> simp [deliver]

theorem sentTo_answerChat (server : Server) {conn : ConnId}
    (live : (server.sessions conn).isSome) (draft : ChatDraft) (message : StoredMessage Bytes)
    (target : Option ConnId) :
    (server.answerChat conn draft message target).sentTo conn =
      .chatInfoRs {
        myid := draft.rq.friid, friid := draft.rq.myid, msgId := message.msgId, seq := message.seq
        result := if target.isSome then chatResultSucc else chatResultFail } ::
      (if target = some conn then [.chatInfoRq (forwarded draft message)] else []) ++
        server.sentTo conn := by
  have uploads : (server.eraseUploads draft).sentTo conn = server.sentTo conn := by
    simp [sentTo]
  have kept : ((server.eraseUploads draft).sessions conn).isSome := by simpa using live
  unfold answerChat
  cases target with
  | none => simp [sentTo_deliver_self kept, uploads]
  | some target =>
      dsimp only
      rw [sentTo_deliver_self (by simpa [deliver] using live)]
      by_cases own : target = conn
      · subst target
        simp [sentTo_deliver_self kept, uploads]
      · simp [sentTo_deliver_other _ _ (Ne.symm own), uploads, own]

theorem sentTo_answerChat_target (server : Server) {conn target : ConnId}
    (online : (server.sessions target).isSome) (different : target ≠ conn) (draft : ChatDraft)
    (message : StoredMessage Bytes) :
    (server.answerChat conn draft message (some target)).sentTo target =
      .chatInfoRq (forwarded draft message) :: server.sentTo target := by
  have uploads : (server.eraseUploads draft).sentTo target = server.sentTo target := by
    simp [sentTo]
  unfold answerChat
  dsimp only
  rw [sentTo_deliver_other _ _ different, sentTo_deliver_self (by simpa using online), uploads]

theorem prepareChat_rejected {crypto : Crypto} {now : Int} {server : Server} {userId : Int32}
    {rq rejected : ChatInfoRq} {result : Int32}
    (refused : server.prepareChat crypto now userId rq = .rejected rejected result) :
    result = chatResultNotFriend ∨ result = chatResultFileNotOwned := by
  unfold prepareChat at refused
  split at refused
  · simp at refused
  · dsimp only at refused
    split at refused
    · simp only [ChatCheck.rejected.injEq] at refused
      exact .inl refused.2.symm
    · split at refused
      · simp only [ChatCheck.rejected.injEq] at refused
        exact .inr refused.2.symm
      · simp at refused

theorem onChat_cases (crypto : Crypto) (env : Env) {server : Server} {conn : ConnId}
    {session : Session} (live : server.sessions conn = some session) (rq : ChatInfoRq) :
    server.onChat crypto env conn rq = server ∨
    (∃ (middle : Server) (rejected : ChatInfoRq) (result : Int32), middle.sessions = server.sessions ∧
      result ≠ chatResultSucc ∧ result ≠ chatResultFail ∧
      server.onChat crypto env conn rq = middle.deliverFailure conn rejected result) ∨
    (∃ draft chatCounter message messages,
      server.prepareChat crypto env.now session.userId rq = .accepted draft chatCounter ∧
      server.messages.saveMessage env.writes draft.message
        (server.presenceGet draft.rq.friid).isSome = (true, message, messages) ∧
      server.onChat crypto env conn rq =
        { server with chatCounter, messages }.answerChat conn draft message
          (server.presenceGet draft.rq.friid)) := by
  unfold onChat
  rw [live]
  dsimp only
  split
  · exact .inl rfl
  · rename_i rejected result refused
    refine .inr (.inl ⟨server, rejected, result, rfl, ?_, ?_, rfl⟩)
    · rcases prepareChat_rejected refused with rfl | rfl <;> decide
    · rcases prepareChat_rejected refused with rfl | rfl <;> decide
  · rename_i draft chatCounter accepted
    split
    · rename_i after saved
      refine .inr (.inl ⟨after, draft.rq, chatResultServerError, ?_, by decide, by decide, rfl⟩)
      simp only [saveChat, Prod.mk.injEq] at saved
      rw [← saved.2.2]
    · rename_i message after saved
      obtain ⟨messages, stored, rfl⟩ := saveChat_eq_true saved
      exact .inr (.inr ⟨draft, chatCounter, message, messages, accepted, stored, rfl⟩)

theorem onChat_rows (crypto : Crypto) (env : Env) (server : Server) (conn : ConnId)
    (rq : ChatInfoRq) :
    (server.onChat crypto env conn rq).messages.rows = server.messages.rows ∨
    ∃ session draft chatCounter row, server.sessions conn = some session ∧
      server.prepareChat crypto env.now session.userId rq = .accepted draft chatCounter ∧
      row.columns = (draft.message.setSeq (server.messages.nextSeq
        (makeConversationId draft.message.senderId draft.message.receiverId))).map cstr ∧
      (server.onChat crypto env conn rq).messages.rows = server.messages.rows ++ [row] := by
  unfold onChat
  split
  · exact .inl rfl
  · rename_i session live
    split
    · exact .inl rfl
    · exact .inl rfl
    · rename_i draft chatCounter accepted
      dsimp only
      split
      · rename_i after failing
        rw [saveChat_eq_false failing]
        exact .inl rfl
      · rename_i message after saved
        obtain ⟨messages, written, rfl⟩ := saveChat_eq_true saved
        have stored : server.messages.saveMessage env.writes draft.message
            (server.presenceGet draft.rq.friid).isSome = (true, message, messages) := written
        rw [answerChat_messages]
        rcases server.messages.saveMessage_cases env.writes draft.message
            (server.presenceGet draft.rq.friid).isSome with
          ⟨refused, _⟩ | ⟨_, _, readBack⟩ | ⟨next, _, fresh, rows, _⟩
        · rw [stored] at refused
          simp at refused
        · rw [stored] at readBack
          simp only [Prod.mk.injEq, true_and] at readBack
          exact .inl (congrArg MessageTable.rows readBack.2)
        · rw [stored] at fresh
          simp only [Prod.mk.injEq, true_and] at fresh
          rw [← fresh.2] at rows
          exact .inr ⟨session, draft, chatCounter, _, live, accepted, rfl, rows⟩

theorem sentTo_deliverFailure {server middle : Server} {conn : ConnId}
    (same : middle.sessions = server.sessions) (live : (server.sessions conn).isSome)
    (rejected : ChatInfoRq) (result : Int32) (other : ConnId) :
    (middle.deliverFailure conn rejected result).sentTo other =
      (if other = conn then
        [.chatInfoRs ⟨rejected.friid, rejected.myid, result, rejected.msgId, 0⟩] else []) ++
        server.sentTo other := by
  have kept (conn : ConnId) : middle.sentTo conn = server.sentTo conn := by
    rw [sentTo, same]
    rfl
  unfold deliverFailure
  split
  · rename_i own
    rw [own, sentTo_deliver_self (by rwa [same]), kept]
    rfl
  · rename_i different
    rw [sentTo_deliver_other _ _ different, kept]
    rfl

theorem onChat_acknowledged {crypto : Crypto} {env : Env} {server : Server} {conn : ConnId}
    {session : Session} {rq : ChatInfoRq} {rs : ChatInfoRs}
    (live : server.sessions conn = some session)
    (answered : .chatInfoRs rs ∈ server.deliveredSince (server.onChat crypto env conn rq) conn)
    (success : rs.result = chatResultSucc ∨ rs.result = chatResultFail) :
    ∃ draft chatCounter message,
      server.prepareChat crypto env.now session.userId rq = .accepted draft chatCounter ∧
      server.messages.saveMessage env.writes draft.message
        (server.presenceGet draft.rq.friid).isSome =
          (true, message, (server.onChat crypto env conn rq).messages) ∧
      rs.msgId = message.msgId ∧ rs.seq = message.seq := by
  have exist : (server.sessions conn).isSome := by simp [live]
  rcases onChat_cases crypto env live rq with
    silent | ⟨middle, rejected, result, kept, notSucc, notFail, failed⟩ |
      ⟨draft, chatCounter, message, messages, accepted, saved, same⟩
  · simp [silent, deliveredSince] at answered
  · have grown := sentTo_deliverFailure kept exist rejected result conn
    rw [failed, deliveredSince_of_append _ grown, if_pos rfl, List.mem_singleton,
      ServerPacket.chatInfoRs.injEq] at answered
    subst rs
    exact absurd success (not_or.mpr ⟨notSucc, notFail⟩)
  · refine ⟨draft, chatCounter, message, accepted, by rw [same]; simpa using saved, ?_⟩
    have grown := sentTo_answerChat { server with chatCounter, messages } exist draft
      message (server.presenceGet draft.rq.friid)
    rw [← same] at grown
    have delivered : server.deliveredSince (server.onChat crypto env conn rq) conn = _ :=
      deliveredSince_of_append _ grown
    rw [delivered] at answered
    rcases List.mem_cons.mp answered with reply | other
    · simp only [ServerPacket.chatInfoRs.injEq] at reply
      subst rs
      exact ⟨rfl, rfl⟩
    · split at other <;> simp at other

theorem onChat_forwards {crypto : Crypto} {env : Env} {server : Server} {conn target : ConnId}
    {session : Session} {rq packet : ChatInfoRq} (live : server.sessions conn = some session)
    (online : server.presenceGet rq.friid = some target)
    (delivered : .chatInfoRq packet ∈
      server.deliveredSince (server.onChat crypto env conn rq) target) :
    ∃ draft chatCounter message,
      server.prepareChat crypto env.now session.userId rq = .accepted draft chatCounter ∧
      server.messages.saveMessage env.writes draft.message true =
        (true, message, (server.onChat crypto env conn rq).messages) ∧
      packet = forwarded draft message := by
  have exist : (server.sessions conn).isSome := by simp [live]
  rcases onChat_cases crypto env live rq with
    silent | ⟨middle, rejected, result, kept, notSucc, notFail, failed⟩ |
      ⟨draft, chatCounter, message, messages, accepted, saved, same⟩
  · simp [silent, deliveredSince] at delivered
  · have grown := sentTo_deliverFailure kept exist rejected result target
    rw [failed, deliveredSince_of_append _ grown] at delivered
    split at delivered <;> simp at delivered
  · have receiver : draft.rq.friid = rq.friid := (prepareChat_message accepted).2.2.2.1
    rw [receiver, online] at saved same
    refine ⟨draft, chatCounter, message, accepted, by rw [same]; simpa using saved, ?_⟩
    by_cases own : target = conn
    · have grown := sentTo_answerChat { server with chatCounter, messages } exist draft
        message (some target)
      rw [← same, if_pos (congrArg some own)] at grown
      have sent : server.deliveredSince (server.onChat crypto env conn rq) conn = _ :=
        deliveredSince_of_append _ grown
      rw [own, sent] at delivered
      simpa using delivered
    · have there : (server.sessions target).isSome := by
        obtain ⟨entry, _, locked⟩ := Option.bind_eq_some_iff.mp online
        exact isSome_of_lock locked
      have grown := sentTo_answerChat_target { server with chatCounter, messages }
        there own draft message
      rw [← same] at grown
      have sent : server.deliveredSince (server.onChat crypto env conn rq) target = _ :=
        deliveredSince_of_append [_] grown
      rw [sent] at delivered
      simpa using delivered

end Server

end Jitong
