import Jitong.NativeRepository

/-!
The message tables with their search index, and the batches that copy the old database of an
account into them. The state of the migration and its checkpoints are left out.
-/

namespace Jitong

open Jitong.Lib NativeRepository

namespace MigrationImporter

/-- A row of `message_fts`, and of `message_fts_identity`. -/
structure FtsRow where
  msgId : Bytes
  content : Bytes
  pinyin : Bytes
  initials : Bytes
  deriving DecidableEq

def FtsRow.clashes (first second : FtsRow) : Bool := first.msgId = second.msgId

structure SearchedDto extends MessageDto where
  pinyin : Bytes := []
  initials : Bytes := []
  deriving DecidableEq

structure MigrationMessage extends NativeMessageRow where
  pinyin : Bytes := []
  initials : Bytes := []
  deriving DecidableEq

structure MigrationConversation where
  conversationId : Int
  peerId : Int
  lastMsg : Bytes := []
  lastTs : Int := 0
  unread : Int := 0
  deriving DecidableEq

/-- `db` with `message_fts` and `message_fts_identity`. -/
structure MessageStore where
  db : NativeRepository := {}
  fts : List FtsRow := []
  identity : Table FtsRow FtsRow.clashes := .empty

/-- The texts of a row as `c_str()` binds them and as `sameMessage` reads them. -/
def cut (row : NativeMessageRow) : NativeMessageRow :=
  { row with
    msgId := (cstr row.msgId).bytes
    content := (cstr row.content).bytes
    media := { row.media with text := fun column => (cstr (row.media.text column)).bytes } }

def MigrationMessage.ftsRow (m : MigrationMessage) : FtsRow where
  msgId := (cstr m.msgId).bytes
  content := (cstr m.content).bytes
  pinyin := (cstr m.pinyin).bytes
  initials := (cstr m.initials).bytes

namespace MessageStore

def indexed (store : MessageStore) (msgId : Bytes) : Option FtsRow :=
  store.identity.rows.find? fun row => row.msgId = msgId

/-- `INSERT INTO message_fts`, and `INSERT OR REPLACE INTO message_fts_identity` -/
def upsertFts (store : MessageStore) (m : SearchedDto) : MessageStore :=
  let row : FtsRow := ⟨m.msgId, m.content, m.pinyin, m.initials⟩
  { store with
    fts := store.fts ++ [row]
    identity := store.identity.replace row }

/-- `NativeRepository::commitOutgoingDraft`, with the index that it writes. -/
def commitOutgoingDraft (store : MessageStore) (m : SearchedDto) (now : Int) :
    Option (Int × MessageStore) :=
  (store.db.commitOutgoingDraft m.toMessageDto now).map fun drafted =>
    if (store.db.message m.msgId).isSome then (drafted.1, { store with db := drafted.2 })
    else (drafted.1, { store with db := drafted.2 }.upsertFts m)

/-- `NativeRepository::mergeIncoming`, with the index that it writes. -/
def mergeIncoming (store : MessageStore) (m : SearchedDto) (ctx : IncomingContext) :
    Option (Bool × MessageStore) :=
  (store.db.mergeIncoming m.toMessageDto ctx).map fun merged =>
    if merged.1 then (true, { store with db := merged.2 }.upsertFts m)
    else (false, { store with db := merged.2 })

/-- `sameMessage`, on the row that the id of the copy names. -/
def sameMessage (row : NativeMessageRow) (m : MigrationMessage) : Bool :=
  { cut row with msgId := m.msgId } = m.toNativeMessageRow

def sameFts (store : MessageStore) (m : MigrationMessage) : Bool :=
  match store.indexed (cstr m.msgId).bytes with
  | none => m.content = []
  | some row =>
      m.content ≠ [] && (cstr row.content).bytes = m.content && (cstr row.pinyin).bytes = m.pinyin &&
        (cstr row.initials).bytes = m.initials

def indexImported (store : MessageStore) (m : MigrationMessage) : Option MessageStore :=
  if m.content = [] then some store
  else
    (store.identity.insert m.ftsRow).map fun identity =>
      { store with fts := store.fts ++ [m.ftsRow], identity := identity }

/-- `INSERT INTO conversations ... DO UPDATE SET last_message=...,last_message_time=... WHERE
excluded.last_message_time>conversations.last_message_time` -/
def showImported (store : MessageStore) (m : MigrationMessage) : Option MessageStore :=
  if (store.db.conversation m.conversationId).isSome then
    some { store with
      db := store.db.reviseConversations
        (fun row =>
          if row.conversationId = m.conversationId ∧ row.lastMessageTime < m.serverTime then
            { row with
              lastMessage := (cstr m.content).bytes
              lastMessageTime := m.serverTime }
          else row)
        fun row => by split <;> exact ⟨rfl, rfl⟩ }
  else
    (store.db.conversations.insert
      { conversationId := m.conversationId
        peerId := m.peerId
        lastMessage := (cstr m.content).bytes
        lastMessageTime := m.serverTime }).map fun conversations =>
      { store with db := { store.db with conversations := conversations } }

def importMessage (store : MessageStore) (m : MigrationMessage) : Option MessageStore :=
  if m.msgId = [] then none
  else
    match store.db.message (cstr m.msgId).bytes with
    | some row => if sameMessage row m && store.sameFts m then some store else none
    | none => do
        let messages ← store.db.messages.insert (cut m.toNativeMessageRow)
        let indexed ← { store with db := { store.db with messages := messages } }.indexImported m
        indexed.showImported m

def importBatch (store : MessageStore) (batch : List MigrationMessage) : Option MessageStore :=
  batch.foldlM importMessage store

/-- `INSERT INTO conversations ... DO UPDATE SET last_message=...,last_message_time=...,unread=...` -/
def importConversation (store : MessageStore) (c : MigrationConversation) : Option MessageStore :=
  if (store.db.conversation c.conversationId).isSome then
    some { store with
      db := store.db.reviseConversations
        (fun row =>
          if row.conversationId = c.conversationId then
            { row with
              lastMessage := (cstr c.lastMsg).bytes
              lastMessageTime := c.lastTs
              unread := c.unread }
          else row)
        fun row => by split <;> exact ⟨rfl, rfl⟩ }
  else
    (store.db.conversations.insert
      { conversationId := c.conversationId
        peerId := c.peerId
        lastMessage := (cstr c.lastMsg).bytes
        lastMessageTime := c.lastTs
        unread := c.unread }).map fun conversations =>
      { store with db := { store.db with conversations := conversations } }

def importConversations (store : MessageStore) (conversations : List MigrationConversation) :
    Option MessageStore :=
  conversations.foldlM importConversation store

variable {store after : MessageStore} {m : MigrationMessage}

theorem indexImported_db (indexed : store.indexImported m = some after) : after.db = store.db := by
  unfold indexImported at indexed
  split at indexed
  · obtain rfl := Option.some.inj indexed
    rfl
  · obtain ⟨identity, _, rfl⟩ := Option.map_eq_some_iff.mp indexed
    rfl

theorem showImported_kept (shown : store.showImported m = some after) :
    after.db.messages = store.db.messages ∧ after.db.outbox = store.db.outbox ∧
      after.db.lastOrder = store.db.lastOrder := by
  unfold showImported at shown
  split at shown
  · obtain rfl := Option.some.inj shown
    exact ⟨rfl, rfl, rfl⟩
  · obtain ⟨conversations, _, rfl⟩ := Option.map_eq_some_iff.mp shown
    exact ⟨rfl, rfl, rfl⟩

theorem importMessage_rows (imported : store.importMessage m = some after) :
    after = store ∨
      store.db.message (cut m.toNativeMessageRow).msgId = none ∧
        after.db.messages.rows = store.db.messages.rows ++ [cut m.toNativeMessageRow] ∧
        after.db.outbox = store.db.outbox ∧ after.db.lastOrder = store.db.lastOrder := by
  unfold importMessage at imported
  split at imported
  · simp at imported
  · split at imported
    · rename_i row known
      split at imported
      · exact .inl (Option.some.inj imported).symm
      · simp at imported
    · rename_i unknown
      simp only [Option.bind_eq_bind, Option.bind_eq_some_iff] at imported
      obtain ⟨messages, inserted, indexed, written, shown⟩ := imported
      obtain ⟨sameMessages, sameOutbox, sameOrder⟩ := showImported_kept shown
      have kept := indexImported_db written
      refine .inr ⟨unknown, ?_, ?_, ?_⟩
      · rw [sameMessages, kept]
        exact (Table.insert_eq_some inserted).1
      · rw [sameOutbox, kept]
      · rw [sameOrder, kept]

end MessageStore

end MigrationImporter

end Jitong
