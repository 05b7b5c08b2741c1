import Jitong.MigrationImporter

/-!
The Room database of one account, `jitong_<ownerId>.db`: the writers of `ChatStore` and of the
DAOs, one transaction each, and the triggers that log every change of a message or a conversation.
The account is the owner of every row. `NULL` and the empty string are the same to every reader.
-/

namespace Jitong

open Jitong.Lib NativeRepository MigrationImporter

inductive MsgKind
  | text | image | file
  deriving DecidableEq

namespace ChatMessage

inductive Status
  | sending | delivered | offlineStored | received | failed
  deriving DecidableEq

def Status.toDb : Status → Int
  | .sending => 0
  | .delivered => 1
  | .received => 2
  | .offlineStored => 3
  | .failed => 4

end ChatMessage

structure ChatMessage where
  msgId : Bytes
  peerId : Int32
  fromMe : Bool
  text : Bytes := []
  kind : MsgKind := .text
  ts : Int
  seq : Int := 0
  media : Media := {}
  status : ChatMessage.Status := .received

structure MessageEntity where
  id : Int := 0
  msgId : Bytes
  conversationId : Int
  peerId : Int32
  fromMe : Bool
  type : Int
  content : Bytes := []
  ts : Int
  seq : Int := 0
  media : Media := {}
  status : Int
  deriving DecidableEq

structure ConversationEntity where
  conversationId : Int
  peerId : Int32
  lastMsg : Bytes
  lastTs : Int
  unread : Int
  deriving DecidableEq

/-- The primary key and the index on `ownerId, msgId`. -/
def MessageEntity.clashes (first second : MessageEntity) : Bool :=
  first.id = second.id || first.msgId = second.msgId

def ConversationEntity.clashes (first second : ConversationEntity) : Bool :=
  first.conversationId = second.conversationId

/-- A row of `legacy_change_log`, with its payload where it has one. -/
inductive LegacyChange
  | upsertMessage (payload : MigrationMessage)
  | deleteMessage (msgId : Bytes)
  | upsertConversation (payload : MigrationConversation)
  | deleteConversation (conversationId : Int)
  deriving DecidableEq

structure LegacyDeltaChange where
  changeSeq : Int
  change : LegacyChange
  deriving DecidableEq

/-- `lastId` and `lastSeq` are the rows of `sqlite_sequence`. -/
structure ChatStore where
  messages : Table MessageEntity MessageEntity.clashes := .empty
  conversations : Table ConversationEntity ConversationEntity.clashes := .empty
  fts : List FtsRow := []
  log : List LegacyDeltaChange := []
  lastId : Int := 0
  lastSeq : Int := 0

/-- Whether a message is in the index: `type == 0 && !content.isNullOrEmpty()` -/
def MessageEntity.hasText (row : MessageEntity) : Bool := row.type = 0 && row.content ≠ []

def MessageEntity.toNative (row : MessageEntity) : NativeMessageRow where
  msgId := row.msgId
  conversationId := row.conversationId
  peerId := row.peerId.toInt
  conversationSeq := row.seq
  serverTime := row.ts
  localOrder := row.id
  fromMe := row.fromMe
  type := row.type
  content := row.content
  status := row.status
  media := row.media

def ConversationEntity.toNative (row : ConversationEntity) : MigrationConversation where
  conversationId := row.conversationId
  peerId := row.peerId.toInt
  lastMsg := row.lastMsg
  lastTs := row.lastTs
  unread := row.unread

inductive MessageUpdate
  | updateStatus (msgId : Bytes) (status : ChatMessage.Status)
  | updateSeq (msgId : Bytes) (seq : Int)
  | recoverInterruptedFileDownloads
  | reconcileIncomingFile (msgId fileId fileName : Bytes) (fileSize ts seq : Int)
  | updateLocalPath (fileId path : Bytes)
  | repairFileId (msgId fileId : Bytes)
  | updateOutgoingFile (msgId path : Bytes) (size : Int)
  | updateMediaMetadata (msgId fileId contentType sha256 : Bytes)
  | updateThumbnail (msgId fileId path : Bytes) (size : Int) (sha256 : Bytes) (w h : Int)
  | updateLargeThumbnail (msgId fileId path : Bytes) (size : Int) (sha256 : Bytes) (w h : Int)

namespace MessageUpdate

def applies (row : MessageEntity) : MessageUpdate → Bool
  | updateStatus msgId _ => row.msgId = msgId
  | updateSeq msgId _ => row.msgId = msgId
  | recoverInterruptedFileDownloads => row.type = 2 && !row.fromMe && row.status = 0
  | reconcileIncomingFile msgId _ _ _ _ _ => row.msgId = msgId && row.type = 2 && !row.fromMe
  | updateLocalPath fileId _ => row.media.text .fileId = fileId || row.msgId = fileId
  | repairFileId msgId _ => row.msgId = msgId && row.type = 2 && row.media.text .fileId = []
  | updateOutgoingFile msgId _ _ => row.msgId = msgId
  | updateMediaMetadata msgId _ _ _ => row.msgId = msgId
  | updateThumbnail msgId _ _ _ _ _ _ => row.msgId = msgId
  | updateLargeThumbnail msgId _ _ _ _ _ _ => row.msgId = msgId

end MessageUpdate

def NativeRepository.Media.setText (media : Media) (column : MediaText) (value : Bytes) : Media :=
  { media with text := Function.update media.text column value }

def NativeRepository.Media.setNumber (media : Media) (column : MediaNumber) (value : Int) : Media :=
  { media with number := Function.update media.number column value }

namespace MessageUpdate

def change (row : MessageEntity) : MessageUpdate → MessageEntity
  | updateStatus _ status => { row with status := status.toDb }
  | updateSeq _ seq => { row with seq := seq }
  | recoverInterruptedFileDownloads => { row with status := 2 }
  | reconcileIncomingFile _ fileId fileName fileSize ts seq =>
      { row with
        media := ((row.media.setText .fileId fileId).setText .fileName fileName).setNumber .fileSize
          (if 0 < fileSize then fileSize else row.media.number .fileSize)
        ts := if 0 < ts then ts else row.ts
        seq := if 0 < seq then seq else row.seq
        status := 2 }
  | updateLocalPath fileId path =>
      { row with
        media := (row.media.setText .localPath path).setText .fileId
          (if row.media.text .fileId = [] then fileId else row.media.text .fileId) }
  | repairFileId _ fileId => { row with media := row.media.setText .fileId fileId }
  | updateOutgoingFile _ path size =>
      { row with media := (row.media.setText .localPath path).setNumber .fileSize size }
  | updateMediaMetadata _ fileId contentType sha256 =>
      { row with
        media := ((row.media.setText .fileId fileId).setText .contentType contentType).setText .sha256
          sha256 }
  | updateThumbnail _ fileId path size sha256 w h =>
      { row with
        media := (((((row.media.setText .thumbnailFileId fileId).setText .thumbnailPath path).setNumber
          .thumbnailSize size).setText .thumbnailSha256 sha256).setNumber .thumbnailW w).setNumber
          .thumbnailH h }
  | updateLargeThumbnail _ fileId path size sha256 w h =>
      { row with
        media := (((((row.media.setText .largeThumbnailFileId fileId).setText .largeThumbnailPath
          path).setNumber .largeThumbnailSize size).setText .largeThumbnailSha256 sha256).setNumber
          .largeThumbnailW w).setNumber .largeThumbnailH h }

structure Keeps (before after : MessageEntity) : Prop where
  id : after.id = before.id
  msgId : after.msgId = before.msgId
  conversationId : after.conversationId = before.conversationId
  peerId : after.peerId = before.peerId
  type : after.type = before.type
  content : after.content = before.content

theorem change_keeps (update : MessageUpdate) (row : MessageEntity) : Keeps row (update.change row) := by
  cases update <;> exact ⟨rfl, rfl, rfl, rfl, rfl, rfl⟩

def run (update : MessageUpdate) (row : MessageEntity) : MessageEntity :=
  if update.applies row then update.change row else row

theorem run_keeps (update : MessageUpdate) (row : MessageEntity) : Keeps row (update.run row) := by
  unfold run
  split
  · exact change_keeps update row
  · exact ⟨rfl, rfl, rfl, rfl, rfl, rfl⟩

end MessageUpdate

namespace ChatStore

/-- The smaller id in the high 32 bits, the larger one in the low ones; `none` is the exception. -/
def conversationId (a b : Int32) : Option Int :=
  if 0 < a ∧ 0 < b then some (min a.toInt b.toInt * 4294967296 + max a.toInt b.toInt) else none

def conversation (store : ChatStore) (conversationId : Int) : Option ConversationEntity :=
  store.conversations.rows.find? fun row => row.conversationId = conversationId

/-- The columns of `messages_fts` that the payload of a message takes along. -/
def messagePayload (store : ChatStore) (row : MessageEntity) : MigrationMessage :=
  let indexed := store.fts.find? fun entry => entry.msgId = row.msgId
  { row.toNative with
    pinyin := (indexed.map (·.pinyin)).getD []
    initials := (indexed.map (·.initials)).getD [] }

def logChange (store : ChatStore) (change : LegacyChange) : ChatStore :=
  { store with
    log := store.log ++ [⟨store.lastSeq + 1, change⟩]
    lastSeq := store.lastSeq + 1 }

def logAll (store : ChatStore) (changes : List LegacyChange) : ChatStore :=
  changes.foldl logChange store

/-- An `UPDATE` of messages, with the trigger for every row that it meets. -/
def updateMessages (store : ChatStore) (update : MessageUpdate) : ChatStore :=
  { store with
    messages := store.messages.rewrite update.run fun first second => by
      simp only [MessageEntity.clashes, (update.run_keeps first).id, (update.run_keeps first).msgId,
        (update.run_keeps second).id, (update.run_keeps second).msgId] }.logAll
    ((store.messages.rows.filter update.applies).map fun row =>
      .upsertMessage (store.messagePayload (update.change row)))

/-- `PinyinIndex.of`, which is not looked into: the full spelling and the initials. -/
abbrev PinyinIndex := Bytes → Bytes × Bytes

def ftsEntity (pinyin : PinyinIndex) (row : MessageEntity) : FtsRow where
  msgId := row.msgId
  content := row.content
  pinyin := (pinyin row.content).1
  initials := (pinyin row.content).2

def insertWithFts (pinyin : PinyinIndex) (store : ChatStore) (entity : MessageEntity) :
    Bool × ChatStore :=
  let row := { entity with id := store.lastId + 1 }
  match store.messages.insert row with
  | none => (false, store)
  | some messages =>
      let inserted := { store with messages := messages, lastId := store.lastId + 1 }
      let logged := inserted.logChange (.upsertMessage (inserted.messagePayload row))
      if row.hasText then
        let indexed := { logged with fts := logged.fts ++ [ftsEntity pinyin row] }
        (true, indexed.logChange (.upsertMessage (indexed.messagePayload row)))
      else (true, logged)

/-- `clearFts` and the index rows of the messages up to an id, which the caller has read before. -/
def rebuildFts (pinyin : PinyinIndex) (store : ChatStore) (lastRead : Int) : ChatStore :=
  { store with
    fts := (store.messages.rows.filter fun row => row.id ≤ lastRead && row.hasText).map
      (ftsEntity pinyin) }

/-- An `UPDATE` of one conversation, with its trigger. -/
def updateConversation (store : ChatStore) (conversationId : Int)
    (change : ConversationEntity → ConversationEntity)
    (keeps : ∀ row, (change row).conversationId = row.conversationId) : ChatStore :=
  match store.conversation conversationId with
  | none => store
  | some row =>
      { store with
        conversations := store.conversations.rewrite
          (fun row => if row.conversationId = conversationId then change row else row)
          fun first second => by
            simp only [ConversationEntity.clashes]
            congr 2 <;> split <;> simp only [keeps] }.logChange
        (.upsertConversation (change row).toNative)

def bump (store : ChatStore) (id : Int) (lastMsg : Bytes) (ts delta : Int) : ChatStore :=
  store.updateConversation id
    (fun row => { row with lastMsg := lastMsg, lastTs := ts, unread := row.unread + delta })
    fun _ => rfl

def clearUnread (store : ChatStore) (id : Int) : ChatStore :=
  store.updateConversation id (fun row => { row with unread := 0 }) fun _ => rfl

def upsertOnMessage (store : ChatStore) (id : Int) (peerId : Int32) (lastMsg : Bytes) (ts : Int)
    (incrUnread : Bool) : ChatStore :=
  let row : ConversationEntity := ⟨id, peerId, lastMsg, ts, 0⟩
  match store.conversations.insert row with
  | some conversations =>
      { store with conversations := conversations }.logChange (.upsertConversation row.toNative)
  | none => store.bump id lastMsg ts (if incrUnread then 1 else 0)

def imagePreview : Bytes := [0x5B, 0xE5, 0x9B, 0xBE, 0xE7, 0x89, 0x87, 0x5D]

def filePreview : Bytes := [0x5B, 0xE6, 0x96, 0x87, 0xE4, 0xBB, 0xB6, 0x5D, 0x20]

def lastMsg (m : ChatMessage) : Bytes :=
  match m.kind with
  | .image => imagePreview
  | .file => filePreview ++ m.media.text .fileName
  | .text => m.text

/-- `mediaPath` is the file that an image was written to. -/
def toEntity (conversationId : Int) (m : ChatMessage) (mediaPath : Bytes) : MessageEntity where
  msgId := m.msgId
  conversationId := conversationId
  peerId := m.peerId
  fromMe := m.fromMe
  type := match m.kind with
    | .image => 1
    | .file => 2
    | .text => 0
  content := if m.kind = .text then m.text else []
  ts := m.ts
  seq := m.seq
  media := m.media.setText .mediaPath mediaPath
  status := m.status.toDb

end ChatStore

/-- The transactions of the writers. `save` makes two: the message, and then the conversation,
where the message was new and the conversation is to show it. -/
inductive ChatStoreCall
  | insertWithFts (m : ChatMessage) (mediaPath : Bytes)
  | upsertOnMessage (m : ChatMessage) (incrUnread : Bool)
  | updateMessages (update : MessageUpdate)
  | clearUnread (peerId : Int32)
  | rebuildFts (lastRead : Int)

def ChatStore.call (pinyin : ChatStore.PinyinIndex) (ownerId : Int32) (store : ChatStore) :
    ChatStoreCall → ChatStore
  | .insertWithFts m mediaPath =>
      match conversationId ownerId m.peerId with
      | none => store
      | some id => (store.insertWithFts pinyin (toEntity id m mediaPath)).2
  | .upsertOnMessage m incrUnread =>
      match conversationId ownerId m.peerId with
      | none => store
      | some id =>
          store.upsertOnMessage id m.peerId (lastMsg m) m.ts (incrUnread && !m.fromMe)
  | .updateMessages update => store.updateMessages update
  | .clearUnread peerId =>
      match conversationId ownerId peerId with
      | none => store
      | some id => store.clearUnread id
  | .rebuildFts lastRead => store.rebuildFts pinyin lastRead

end Jitong
