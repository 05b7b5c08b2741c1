import Jitong.Lib.Sql
import Jitong.TokenManager

/-!
The message tables of one account's database and the transactions that write them. The account is
the owner of every row and of every call, so `owner_id` is left out. A transaction that is rolled
back gives `none`.
-/

namespace Jitong

open Jitong.Lib

namespace NativeRepository

/-- The `TEXT` columns of `IM_MEDIA_COLUMNS`; `NULL` and the empty string are both missing. -/
inductive MediaText
  | mediaPath | fileId | fileName | contentType | sha256 | thumbnailFileId | thumbnailPath
  | thumbnailSha256 | largeThumbnailFileId | largeThumbnailPath | largeThumbnailSha256 | localPath
  deriving DecidableEq

instance : Fintype MediaText where
  elems := {.mediaPath, .fileId, .fileName, .contentType, .sha256, .thumbnailFileId,
    .thumbnailPath, .thumbnailSha256, .largeThumbnailFileId, .largeThumbnailPath,
    .largeThumbnailSha256, .localPath}
  complete column := by cases column <;> decide

inductive MediaNumber
  | imgW | imgH | fileSize | thumbnailSize | thumbnailW | thumbnailH | largeThumbnailSize
  | largeThumbnailW | largeThumbnailH | transferred
  deriving DecidableEq

instance : Fintype MediaNumber where
  elems := {.imgW, .imgH, .fileSize, .thumbnailSize, .thumbnailW, .thumbnailH,
    .largeThumbnailSize, .largeThumbnailW, .largeThumbnailH, .transferred}
  complete column := by cases column <;> decide

structure Media where
  text : MediaText → Bytes := fun _ => []
  number : MediaNumber → Int := fun _ => 0
  deriving DecidableEq

def Media.fill (known copy : Media) : Media where
  text column := if known.text column = [] then copy.text column else known.text column
  number column := if known.number column = 0 then copy.number column else known.number column

structure MessageDto where
  msgId : Bytes
  conversationId : Int
  peerId : Int
  seq : Int := 0
  ts : Int := 0
  localOrder : Int := 0
  fromMe : Bool := false
  type : Int := 0
  content : Bytes := []
  status : Int := 0
  media : Media := {}
  deriving DecidableEq

structure IncomingContext where
  isRoaming : Bool := false
  activeConversationId : Int := 0
  deriving DecidableEq

structure NativeMessageRow where
  msgId : Bytes
  conversationId : Int
  peerId : Int
  conversationSeq : Int
  serverTime : Int
  localOrder : Int
  fromMe : Bool
  type : Int
  content : Bytes
  status : Int
  media : Media := {}
  deriving DecidableEq

structure ConversationRow where
  conversationId : Int
  peerId : Int
  lastMessage : Bytes
  lastMessageTime : Int := 0
  unread : Int := 0
  readSeq : Int := 0
  lastMsgId : Bytes := []
  deriving DecidableEq

structure OutboxRow where
  localOrder : Int
  msgId : Bytes
  retryCount : Int := 0
  nextRetryAt : Int := 0
  lastError : Option Bytes := none
  payloadVersion : Int := 1
  finishedAttempt : Int := 0
  deriving DecidableEq

def NativeMessageRow.clashes (first second : NativeMessageRow) : Bool :=
  first.msgId = second.msgId || first.peerId = second.peerId &&
    first.conversationSeq = second.conversationSeq && 0 < first.conversationSeq

def ConversationRow.clashes (first second : ConversationRow) : Bool :=
  first.conversationId = second.conversationId || first.peerId = second.peerId

def OutboxRow.clashes (first second : OutboxRow) : Bool :=
  first.localOrder = second.localOrder || first.msgId = second.msgId

end NativeRepository

open NativeRepository

/-- `lastOrder` is the account's row of `local_sequence`. -/
structure NativeRepository where
  messages : Table NativeMessageRow NativeMessageRow.clashes := .empty
  conversations : Table ConversationRow ConversationRow.clashes := .empty
  outbox : Table OutboxRow OutboxRow.clashes := .empty
  lastOrder : Option Int := none

namespace NativeRepository

def message (db : NativeRepository) (msgId : Bytes) : Option NativeMessageRow :=
  db.messages.rows.find? fun row => row.msgId = msgId

def conversation (db : NativeRepository) (conversationId : Int) : Option ConversationRow :=
  db.conversations.rows.find? fun row => row.conversationId = conversationId

def queued (db : NativeRepository) (msgId : Bytes) : Option OutboxRow :=
  db.outbox.rows.find? fun row => row.msgId = msgId

/-- `UPDATE messages`, of columns that no index is on. -/
def reviseMessages (db : NativeRepository) (revise : NativeMessageRow → NativeMessageRow)
    (keeps : ∀ row, (revise row).msgId = row.msgId ∧ (revise row).peerId = row.peerId ∧
      (revise row).conversationSeq = row.conversationSeq) : NativeRepository :=
  { db with
    messages := db.messages.rewrite revise fun first second => by
      simp only [NativeMessageRow.clashes, keeps first, keeps second] }

/-- `UPDATE conversations`, of columns that no index is on. -/
def reviseConversations (db : NativeRepository) (revise : ConversationRow → ConversationRow)
    (keeps : ∀ row, (revise row).conversationId = row.conversationId ∧
      (revise row).peerId = row.peerId) : NativeRepository :=
  { db with
    conversations := db.conversations.rewrite revise fun first second => by
      simp only [ConversationRow.clashes, keeps first, keeps second] }

def reviseOutbox (db : NativeRepository) (revise : OutboxRow → OutboxRow)
    (keeps : ∀ row, (revise row).localOrder = row.localOrder ∧ (revise row).msgId = row.msgId) :
    NativeRepository :=
  { db with
    outbox := db.outbox.rewrite revise fun first second => by
      simp only [OutboxRow.clashes, keeps first, keeps second] }

def dequeue (db : NativeRepository) (msgId : Bytes) : NativeRepository :=
  { db with outbox := db.outbox.delete fun row => row.msgId = msgId }

def compatibleIdentity (db : NativeRepository) (m : MessageDto) : Bool :=
  match db.message m.msgId with
  | none => true
  | some row =>
      row.conversationId = m.conversationId && row.peerId = m.peerId && row.fromMe = m.fromMe &&
        row.type = m.type &&
        (m.seq = 0 || row.conversationSeq = 0 || row.conversationSeq = m.seq)

def NativeMessageRow.of (m : MessageDto) : NativeMessageRow where
  msgId := m.msgId
  conversationId := m.conversationId
  peerId := m.peerId
  conversationSeq := m.seq
  serverTime := m.ts
  localOrder := m.localOrder
  fromMe := m.fromMe
  type := m.type
  content := m.content
  status := m.status

/-- `INSERT INTO messages ... ON CONFLICT(owner_id,msg_id) DO NOTHING`, with `sqlite3_changes` -/
def insertMessage (db : NativeRepository) (m : MessageDto) : Option (Bool × NativeRepository) :=
  if (db.message m.msgId).isSome then some (false, db)
  else (db.messages.insert (.of m)).map fun messages => (true, { db with messages := messages })

def fillMissingMedia (db : NativeRepository) (m : MessageDto) : NativeRepository :=
  db.reviseMessages
    (fun row => if row.msgId = m.msgId then { row with media := row.media.fill m.media } else row)
    fun row => by split <;> exact ⟨rfl, rfl, rfl⟩

def NativeMessageRow.advance (row : NativeMessageRow) (seq time status : Int) : NativeMessageRow :=
  { row with
    conversationSeq := if row.conversationSeq = 0 ∧ 0 < seq then seq else row.conversationSeq
    serverTime := if row.serverTime = 0 ∧ 0 < time then time else row.serverTime
    status := if row.status = 0 ∧ 0 < status then status else row.status }

/-- `UPDATE messages SET conversation_seq=...,server_time=...,status=...`, which the unique index
on the numbers may refuse. -/
def advanceMessage (db : NativeRepository) (msgId : Bytes) (seq time status : Int) :
    Option NativeRepository :=
  (db.messages.update fun row =>
    if row.msgId = msgId then row.advance seq time status else row).map fun messages =>
      { db with messages := messages }

/-- `SELECT COUNT(*) FROM messages WHERE conversation_id=? AND from_me=0 AND conversation_seq>?` -/
def countUnread (db : NativeRepository) (conversationId readSeq : Int) : Nat :=
  db.messages.rows.countP fun row =>
    row.conversationId = conversationId && !row.fromMe && readSeq < row.conversationSeq

def tieAfter (seq order : Int) (id : Bytes) (otherSeq otherOrder : Int) (otherId : Bytes) : Bool :=
  otherSeq < seq || seq = otherSeq &&
    (otherOrder < order || order = otherOrder && otherId < id)

/-- The `WHERE` of the preview: whether a message takes the place of the one that is shown. -/
def takesPreview (db : NativeRepository) (row : ConversationRow) (draft : Bool)
    (displayTime seq order : Int) (id : Bytes) : Bool :=
  let shown := db.message row.lastMsgId
  draft || row.lastMsgId = [] && row.lastMessageTime ≤ displayTime || row.lastMsgId = id ||
    row.lastMessageTime < displayTime || displayTime = row.lastMessageTime &&
      tieAfter seq order id ((shown.map (·.conversationSeq)).getD 0)
        ((shown.map (·.localOrder)).getD 0) row.lastMsgId

def projectPreview (db : NativeRepository) (m : MessageDto) (draft : Bool) (displayTime : Int) :
    NativeRepository :=
  db.reviseConversations
    (fun row =>
      if row.conversationId = m.conversationId ∧
          db.takesPreview row draft displayTime m.seq m.localOrder m.msgId then
        { row with
          lastMsgId := m.msgId
          lastMessage := m.content
          lastMessageTime := max row.lastMessageTime displayTime }
      else row)
    fun row => by split <;> exact ⟨rfl, rfl⟩

/-- `read_seq=MAX(read_seq,?)` with `unread` counted again from there. -/
def readUpTo (db : NativeRepository) (conversationId seq : Int) : NativeRepository :=
  db.reviseConversations
    (fun row =>
      if row.conversationId = conversationId then
        { row with
          readSeq := max row.readSeq seq
          unread := db.countUnread conversationId (max row.readSeq seq) }
      else row)
    fun row => by split <;> exact ⟨rfl, rfl⟩

def readsAtOnce (m : MessageDto) (ctx : IncomingContext) : Bool :=
  !m.fromMe && !ctx.isRoaming && ctx.activeConversationId = m.conversationId && 0 < m.seq

def finishProjection (db : NativeRepository) (m : MessageDto) (draft : Bool)
    (ctx : IncomingContext) (now : Int) : NativeRepository :=
  let projected := db.projectPreview m draft (if draft then now else m.ts)
  if readsAtOnce m ctx then projected.readUpTo m.conversationId m.seq else projected

def shouldCountUnread (m : MessageDto) (ctx : IncomingContext) : Bool :=
  !m.fromMe && !ctx.isRoaming && ctx.activeConversationId ≠ m.conversationId

/-- `INSERT INTO conversations ... ON CONFLICT(conversation_id) DO UPDATE SET unread=...` -/
def countIncoming (db : NativeRepository) (m : MessageDto) (ctx : IncomingContext) :
    Option NativeRepository :=
  if (db.conversation m.conversationId).isSome then
    some (db.reviseConversations
      (fun row =>
        if row.conversationId = m.conversationId then
          { row with unread := row.unread +
              if shouldCountUnread m ctx ∧ row.readSeq < m.seq then 1 else 0 }
        else row)
      fun row => by split <;> exact ⟨rfl, rfl⟩)
  else
    (db.conversations.insert
      { conversationId := m.conversationId
        peerId := m.peerId
        lastMessage := m.content
        lastMessageTime := m.ts
        unread := if shouldCountUnread m ctx then 1 else 0 }).map fun conversations =>
      { db with conversations := conversations }

def mergeIncoming (db : NativeRepository) (m : MessageDto) (ctx : IncomingContext) :
    Option (Bool × NativeRepository) :=
  if m.msgId = [] ∨ m.peerId ≤ 0 ∨ m.conversationId ≤ 0 ∨ !db.compatibleIdentity m then none
  else
    match db.insertMessage m with
    | none => none
    | some (false, same) =>
        ((same.fillMissingMedia m).advanceMessage m.msgId m.seq m.ts m.status).map fun advanced =>
          let projected := advanced.finishProjection m false ctx 0
          (false, if m.fromMe && 0 < m.seq && 0 < m.status then projected.dequeue m.msgId
            else projected)
    | some (true, inserted) =>
        ((inserted.fillMissingMedia m).countIncoming m ctx).map fun counted =>
          (true, counted.finishProjection m false ctx 0)

def largestOrder (orders : List Int) : Int :=
  (orders.max?).getD 0

/-- The number that the transaction takes from `local_sequence`; one above the largest integer is
stored and read as that integer. -/
def allocate (db : NativeRepository) (localOrder : Int) : Option Int :=
  let seed := min maxInt64 (max localOrder
    (max (largestOrder (db.messages.rows.map (·.localOrder)))
      (largestOrder (db.outbox.rows.map (·.localOrder))) + 1))
  match db.lastOrder with
  | none => if 0 ≤ seed then some seed else none
  | some last => if last < maxInt64 then some (max (last + 1) seed) else none

/-- `INSERT INTO conversations ... ON CONFLICT(conversation_id) DO UPDATE SET last_message=...` -/
def showDraft (db : NativeRepository) (m : MessageDto) : Option NativeRepository :=
  if (db.conversation m.conversationId).isSome then
    some (db.reviseConversations
      (fun row =>
        if row.conversationId = m.conversationId then { row with lastMessage := m.content } else row)
      fun row => by split <;> exact ⟨rfl, rfl⟩)
  else
    (db.conversations.insert
      { conversationId := m.conversationId
        peerId := m.peerId
        lastMessage := m.content
        lastMessageTime := m.ts }).map fun conversations =>
      { db with conversations := conversations }

def commitOutgoingDraft (db : NativeRepository) (m : MessageDto) (now : Int) :
    Option (Int × NativeRepository) :=
  if m.msgId = [] ∨ !db.compatibleIdentity m then none
  else
    match db.message m.msgId with
    | some row => some (row.localOrder, db)
    | none => do
        let order ← db.allocate m.localOrder
        if order ≤ 0 then none
        else
          let numbered := { m with localOrder := order }
          let messages ← db.messages.insert (.of numbered)
          let stored := { db with messages := messages, lastOrder := some order }.fillMissingMedia
            numbered
          let outbox ← stored.outbox.insert { localOrder := order, msgId := m.msgId }
          let shown ← { stored with outbox := outbox }.showDraft numbered
          some (order, shown.finishProjection numbered true {} now)

def commitAck (db : NativeRepository) (msgId : Bytes) (serverTime conversationSeq status : Int) :
    Option NativeRepository :=
  if status < 0 ∨ 3 < status ∨ conversationSeq < 0 then none
  else
    match db.message msgId with
    | none => some db
    | some row =>
        if 0 < row.conversationSeq ∧ 0 < conversationSeq ∧
            row.conversationSeq ≠ conversationSeq then none
        else
          (db.advanceMessage msgId conversationSeq serverTime status).map fun advanced =>
            if 0 < status then
              (advanced.reviseConversations
                (fun row =>
                  if row.lastMsgId = msgId then
                    { row with lastMessageTime := max row.lastMessageTime serverTime }
                  else row)
                fun row => by split <;> exact ⟨rfl, rfl⟩).dequeue msgId
            else
              advanced.reviseOutbox
                (fun row =>
                  if row.msgId = msgId then { row with lastError := some (ascii "retryable") }
                  else row)
                fun row => by split <;> exact ⟨rfl, rfl⟩

def markConversationRead (db : NativeRepository) (conversationId readSeq : Int) :
    NativeRepository :=
  let oldRead := ((db.conversation conversationId).map (·.readSeq)).getD 0
  let effective := if oldRead < readSeq then readSeq else oldRead
  db.reviseConversations
    (fun row =>
      if row.conversationId = conversationId then
        { row with readSeq := effective, unread := db.countUnread conversationId effective }
      else row)
    fun row => by split <;> exact ⟨rfl, rfl⟩

/-- One claimed row; the payload is the message that `outgoingPayload` writes out. -/
structure OutboxAttempt where
  msgId : Bytes
  payload : NativeMessageRow
  attempt : Int
  localOrder : Int
  deriving DecidableEq

/-- The rows that the `SELECT` of `claimOutbox` gives, in the order of `local_order`. -/
def claimable (db : NativeRepository) (now : Int) (limit : Nat) : List OutboxRow :=
  ((db.outbox.rows.filter fun row => row.nextRetryAt ≤ now && row.retryCount < 2147483647).insertionSort
    fun first second => first.localOrder ≤ second.localOrder).take limit

def attemptOf (db : NativeRepository) (row : OutboxRow) : Option OutboxAttempt :=
  if 1 < row.payloadVersion then none
  else
    match db.message row.msgId with
    | none => none
    | some message =>
        if message.fromMe then
          some { msgId := row.msgId
                 payload := message
                 attempt := row.retryCount + 1
                 localOrder := row.localOrder }
        else none

def claimOutbox (db : NativeRepository) (now lease : Int) (limit : Nat) :
    Option (List OutboxAttempt × NativeRepository) :=
  if now < 0 ∨ lease ≤ 0 ∨ 3600 < lease ∨ limit = 0 ∨ 64 < limit ∨ maxInt64 - lease < now then none
  else
    (db.claimable now limit).mapM db.attemptOf |>.map fun attempts =>
      (attempts, db.reviseOutbox
        (fun row =>
          if row ∈ db.claimable now limit then
            { row with
              retryCount := row.retryCount + 1
              nextRetryAt := now + lease
              payloadVersion := 1 }
          else row)
        fun row => by split <;> exact ⟨rfl, rfl⟩)

def finishOutboxAttempt (db : NativeRepository) (msgId : Bytes) (attempt : Int) (terminal : Bool)
    (retryAt : Int) (error : Bytes) : Option NativeRepository :=
  if msgId = [] ∨ attempt ≤ 0 ∨ retryAt < 0 then none
  else
    some (db.reviseOutbox
      (fun row =>
        if row.msgId = msgId ∧ row.retryCount = attempt ∧ row.finishedAttempt < attempt ∧
            row.nextRetryAt ≠ maxInt64 then
          { row with
            lastError := some (error.take 1024)
            nextRetryAt := if terminal then maxInt64 else retryAt
            finishedAttempt := attempt }
        else row)
      fun row => by split <;> exact ⟨rfl, rfl⟩)

def cancelOutbox (db : NativeRepository) (msgId : Bytes) : NativeRepository :=
  db.reviseOutbox
    (fun row =>
      if row.msgId = msgId then
        { row with nextRetryAt := maxInt64, lastError := some (ascii "cancelled") }
      else row)
    fun row => by split <;> exact ⟨rfl, rfl⟩

/-! What the statements do to the rows. -/

variable {db after : NativeRepository} {m : MessageDto} {ctx : IncomingContext} {msgId : Bytes}
  {row : NativeMessageRow} {new : Bool}

theorem NativeMessageRow.clashes_comm (first second : NativeMessageRow) :
    first.clashes second = second.clashes first := by
  unfold NativeMessageRow.clashes
  rw [Bool.eq_iff_iff]
  simp only [Bool.or_eq_true, Bool.and_eq_true, decide_eq_true_eq]
  constructor
  · rintro (same | ⟨⟨peer, seq⟩, positive⟩)
    · exact .inl same.symm
    · exact .inr ⟨⟨peer.symm, seq.symm⟩, seq ▸ positive⟩
  · rintro (same | ⟨⟨peer, seq⟩, positive⟩)
    · exact .inl same.symm
    · exact .inr ⟨⟨peer.symm, seq.symm⟩, seq ▸ positive⟩

theorem ConversationRow.clashes_comm (first second : ConversationRow) :
    first.clashes second = second.clashes first := by
  simp only [ConversationRow.clashes, eq_comm]

theorem OutboxRow.clashes_comm (first second : OutboxRow) :
    first.clashes second = second.clashes first := by
  simp only [OutboxRow.clashes, eq_comm]

def NativeMessageRow.stored (m : MessageDto) : NativeMessageRow :=
  { NativeMessageRow.of m with media := m.media }

def NativeMessageRow.merged (row : NativeMessageRow) (m : MessageDto) : NativeMessageRow :=
  { row with media := row.media.fill m.media }.advance m.seq m.ts m.status

@[simp] theorem Media.empty_fill (copy : Media) : ({} : Media).fill copy = copy := by
  simp [Media.fill]

theorem message_eq_some :
    db.message msgId = some row ↔ row ∈ db.messages.rows ∧ row.msgId = msgId := by
  constructor
  · intro found
    exact ⟨List.mem_of_find?_eq_some found, by simpa using List.find?_some found⟩
  · rintro ⟨member, rfl⟩
    refine db.messages.find?_eq_some_of_unique NativeMessageRow.clashes_comm member (by simp) ?_
    intro other same
    simp only [decide_eq_true_eq] at same
    simp [NativeMessageRow.clashes, same]

theorem message_eq_none : db.message msgId = none ↔ ∀ row ∈ db.messages.rows, row.msgId ≠ msgId := by
  simp [message]

theorem queued_eq_none : db.queued msgId = none ↔ ∀ row ∈ db.outbox.rows, row.msgId ≠ msgId := by
  simp [queued]

theorem queued_eq_some {row : OutboxRow} :
    db.queued msgId = some row ↔ row ∈ db.outbox.rows ∧ row.msgId = msgId := by
  constructor
  · intro found
    exact ⟨List.mem_of_find?_eq_some found, by simpa using List.find?_some found⟩
  · rintro ⟨member, rfl⟩
    refine db.outbox.find?_eq_some_of_unique OutboxRow.clashes_comm member (by simp) ?_
    intro other same
    simp only [decide_eq_true_eq] at same
    simp [OutboxRow.clashes, same]

theorem conversation_eq_some {id : Int} {row : ConversationRow} :
    db.conversation id = some row ↔ row ∈ db.conversations.rows ∧ row.conversationId = id := by
  constructor
  · intro found
    exact ⟨List.mem_of_find?_eq_some found, by simpa using List.find?_some found⟩
  · rintro ⟨member, rfl⟩
    refine db.conversations.find?_eq_some_of_unique ConversationRow.clashes_comm member (by simp) ?_
    intro other same
    simp only [decide_eq_true_eq] at same
    simp [ConversationRow.clashes, same]

theorem conversation_eq_none {id : Int} :
    db.conversation id = none ↔ ∀ row ∈ db.conversations.rows, row.conversationId ≠ id := by
  simp [conversation]

section Projection

variable {revise : ConversationRow → ConversationRow}
  {keeps : ∀ row, (revise row).conversationId = row.conversationId ∧
    (revise row).peerId = row.peerId}

@[simp] theorem reviseConversations_messages :
    (db.reviseConversations revise keeps).messages = db.messages := rfl

@[simp] theorem reviseConversations_outbox :
    (db.reviseConversations revise keeps).outbox = db.outbox := rfl

@[simp] theorem reviseConversations_rows :
    (db.reviseConversations revise keeps).conversations.rows = db.conversations.rows.map revise :=
  rfl

end Projection

@[simp] theorem finishProjection_messages (draft : Bool) (now : Int) :
    (db.finishProjection m draft ctx now).messages = db.messages := by
  unfold finishProjection
  dsimp only
  split <;> rfl

@[simp] theorem finishProjection_outbox (draft : Bool) (now : Int) :
    (db.finishProjection m draft ctx now).outbox = db.outbox := by
  unfold finishProjection
  dsimp only
  split <;> rfl

@[simp] theorem dequeue_messages : (db.dequeue msgId).messages = db.messages := rfl

@[simp] theorem dequeue_conversations : (db.dequeue msgId).conversations = db.conversations := rfl

theorem dequeue_queued : (db.dequeue msgId).queued msgId = none := by
  simp [queued_eq_none, dequeue, Table.delete]

theorem countIncoming_kept (counted : db.countIncoming m ctx = some after) :
    after.messages = db.messages ∧ after.outbox = db.outbox := by
  unfold countIncoming at counted
  split at counted
  · obtain rfl := Option.some.inj counted
    exact ⟨rfl, rfl⟩
  · obtain ⟨conversations, _, rfl⟩ := Option.map_eq_some_iff.mp counted
    exact ⟨rfl, rfl⟩

theorem showDraft_kept (shown : db.showDraft m = some after) :
    after.messages = db.messages ∧ after.outbox = db.outbox := by
  unfold showDraft at shown
  split at shown
  · obtain rfl := Option.some.inj shown
    exact ⟨rfl, rfl⟩
  · obtain ⟨conversations, _, rfl⟩ := Option.map_eq_some_iff.mp shown
    exact ⟨rfl, rfl⟩

theorem advanceMessage_rows {seq time status : Int}
    (advanced : db.advanceMessage msgId seq time status = some after) :
    after.messages.rows = db.messages.rows.map (fun row =>
      if row.msgId = msgId then row.advance seq time status else row) ∧
      after.outbox = db.outbox ∧ after.conversations = db.conversations := by
  unfold advanceMessage at advanced
  obtain ⟨messages, updated, rfl⟩ := Option.map_eq_some_iff.mp advanced
  exact ⟨Table.update_eq_some updated, rfl, rfl⟩

theorem mergeIncoming_rows (merged : db.mergeIncoming m ctx = some (new, after)) :
    db.compatibleIdentity m = true ∧
      (new = false ∧ (db.message m.msgId).isSome ∧
        after.messages.rows = db.messages.rows.map (fun row =>
          if row.msgId = m.msgId then row.merged m else row) ∧
        after.outbox = (if m.fromMe && 0 < m.seq && 0 < m.status then (db.dequeue m.msgId).outbox
          else db.outbox) ∨
      new = true ∧ db.message m.msgId = none ∧
        after.messages.rows = db.messages.rows ++ [NativeMessageRow.stored m] ∧
        after.outbox = db.outbox) := by
  unfold mergeIncoming at merged
  split at merged
  · simp at merged
  · rename_i valid
    simp only [not_or, Bool.not_eq_true', Bool.not_eq_false] at valid
    refine ⟨valid.2.2.2, ?_⟩
    unfold insertMessage at merged
    by_cases known : (db.message m.msgId).isSome
    · simp only [known, if_true] at merged
      obtain ⟨advanced, updated, same⟩ := Option.map_eq_some_iff.mp merged
      obtain ⟨rfl, rfl⟩ := Prod.mk.inj same
      obtain ⟨rows, outbox, _⟩ := advanceMessage_rows updated
      refine .inl ⟨rfl, known, ?_, ?_⟩
      · have filled : (db.fillMissingMedia m).messages.rows = db.messages.rows.map fun row =>
            if row.msgId = m.msgId then { row with media := row.media.fill m.media } else row := rfl
        rw [filled, List.map_map] at rows
        split <;> simp only [dequeue_messages, finishProjection_messages, rows]
        all_goals
          refine List.map_congr_left fun row _ => ?_
          simp only [Function.comp_apply]
          by_cases own : row.msgId = m.msgId <;> simp [own, NativeMessageRow.merged]
      · split
        · simp only [dequeue, finishProjection_outbox, outbox]
          rfl
        · rw [finishProjection_outbox, outbox]
          rfl
    · simp only [known, if_false, Bool.false_eq_true] at merged
      cases inserted : db.messages.insert (.of m) with
      | none => simp [inserted] at merged
      | some messages =>
          simp only [inserted, Option.map_some] at merged
          obtain ⟨counted, updated, same⟩ := Option.map_eq_some_iff.mp merged
          obtain ⟨rfl, rfl⟩ := Prod.mk.inj same
          obtain ⟨sameMessages, sameOutbox⟩ := countIncoming_kept updated
          have unknown : db.message m.msgId = none := by simpa using known
          refine .inr ⟨rfl, unknown, ?_, ?_⟩
          · rw [finishProjection_messages, sameMessages]
            have rows : ({ db with messages := messages }.fillMissingMedia m).messages.rows =
                messages.rows.map fun row =>
                  if row.msgId = m.msgId then { row with media := row.media.fill m.media }
                  else row := rfl
            rw [rows, (Table.insert_eq_some inserted).1, List.map_append]
            congr 1
            · rw [List.map_congr_left (g := id), List.map_id]
              intro row member
              exact if_neg (message_eq_none.mp unknown row member)
            · simp [NativeMessageRow.of, NativeMessageRow.stored]
          · rw [finishProjection_outbox, sameOutbox]
            rfl

theorem mergeIncoming_conversations (merged : db.mergeIncoming m ctx = some (new, after)) :
    (new = false ∧ (db.message m.msgId).isSome ∧ ∃ advanced : NativeRepository,
        advanced.messages = after.messages ∧ advanced.conversations = db.conversations ∧
          after.conversations = (advanced.finishProjection m false ctx 0).conversations) ∨
      new = true ∧ db.message m.msgId = none ∧ ∃ inserted counted : NativeRepository,
        inserted.messages = after.messages ∧ inserted.conversations = db.conversations ∧
          inserted.countIncoming m ctx = some counted ∧
          after.conversations = (counted.finishProjection m false ctx 0).conversations := by
  unfold mergeIncoming at merged
  split at merged
  · simp at merged
  · unfold insertMessage at merged
    by_cases known : (db.message m.msgId).isSome
    · simp only [known, if_true] at merged
      obtain ⟨advanced, updated, same⟩ := Option.map_eq_some_iff.mp merged
      obtain ⟨rfl, rfl⟩ := Prod.mk.inj same
      refine .inl ⟨rfl, known, advanced, ?_, (advanceMessage_rows updated).2.2, ?_⟩
      · split
        · simp only [dequeue_messages, finishProjection_messages]
        · rw [finishProjection_messages]
      · split <;> rfl
    · simp only [known, if_false, Bool.false_eq_true] at merged
      cases inserted : db.messages.insert (.of m) with
      | none => simp [inserted] at merged
      | some messages =>
          simp only [inserted, Option.map_some] at merged
          obtain ⟨counted, updated, same⟩ := Option.map_eq_some_iff.mp merged
          obtain ⟨rfl, rfl⟩ := Prod.mk.inj same
          refine .inr ⟨rfl, by simpa using known,
            { db with messages := messages }.fillMissingMedia m, counted, ?_, rfl, updated, rfl⟩
          rw [finishProjection_messages, (countIncoming_kept updated).1]

theorem conversation_map {revise : ConversationRow → ConversationRow}
    (rows : after.conversations.rows = db.conversations.rows.map revise)
    (keeps : ∀ row, (revise row).conversationId = row.conversationId) (id : Int) :
    after.conversation id = (db.conversation id).map revise := by
  unfold conversation
  rw [rows, List.find?_map]
  congr 1
  refine congrArg (fun matching => List.find? matching db.conversations.rows) ?_
  funext row
  simp [keeps]

theorem conversation_congr {id : Int} (same : after.conversations = db.conversations) :
    after.conversation id = db.conversation id := by
  unfold conversation
  rw [same]

theorem conversation_upsert (row : Option ConversationRow → ConversationRow) (key : Int)
    (named : (row none).conversationId = key)
    (keeps : ∀ known, (row (some known)).conversationId = known.conversationId)
    (written : after.conversations.rows = if (db.conversation key).isSome then
      db.conversations.rows.map fun known =>
        if known.conversationId = key then row (some known) else known
      else db.conversations.rows ++ [row none]) (id : Int) :
    after.conversation id = if id = key then some (row (db.conversation key))
      else db.conversation id := by
  cases found : db.conversation key with
  | some known =>
      rw [found, Option.isSome_some, if_pos rfl] at written
      rw [conversation_map written (fun known => by split <;> simp only [keeps])]
      split
      · rename_i same
        subst same
        rw [found, Option.map_some, if_pos (conversation_eq_some.mp found).2]
      · rename_i different
        cases other : db.conversation id with
        | none => rfl
        | some known =>
            have named := (conversation_eq_some.mp other).2
            simp [named, different]
  | none =>
      rw [found, Option.isSome_none, if_neg Bool.false_ne_true] at written
      unfold conversation at found ⊢
      rw [written, List.find?_append]
      split
      · rename_i same
        subst same
        rw [found]
        simp [named]
      · rename_i different
        rw [List.find?_cons_of_neg (by simpa [named] using Ne.symm different), List.find?_nil,
          Option.or_none]

def ConversationRow.counting (m : MessageDto) (ctx : IncomingContext) :
    Option ConversationRow → ConversationRow
  | some row =>
      { row with unread := row.unread + if shouldCountUnread m ctx ∧ row.readSeq < m.seq then 1 else 0 }
  | none =>
      { conversationId := m.conversationId
        peerId := m.peerId
        lastMessage := m.content
        lastMessageTime := m.ts
        unread := if shouldCountUnread m ctx then 1 else 0 }

theorem countIncoming_conversation (counted : db.countIncoming m ctx = some after) (id : Int) :
    after.conversation id =
      if id = m.conversationId then some (.counting m ctx (db.conversation id))
      else db.conversation id := by
  have rows : after.conversations.rows = if (db.conversation m.conversationId).isSome then
      db.conversations.rows.map fun known =>
        if known.conversationId = m.conversationId then .counting m ctx (some known) else known
      else db.conversations.rows ++ [.counting m ctx none] := by
    unfold countIncoming at counted
    split at counted <;> rename_i known
    · obtain rfl := Option.some.inj counted
      rw [if_pos known]
      rfl
    · obtain ⟨conversations, inserted, rfl⟩ := Option.map_eq_some_iff.mp counted
      rw [if_neg known]
      exact (Table.insert_eq_some inserted).1
  rw [conversation_upsert (.counting m ctx) m.conversationId rfl (fun _ => rfl) rows id]
  split
  · rename_i own
    rw [own]
  · rfl

def ConversationRow.projected (row : ConversationRow) (db : NativeRepository) (m : MessageDto)
    (draft : Bool) (ctx : IncomingContext) (now : Int) : ConversationRow :=
  if row.conversationId = m.conversationId then
    let shown := if db.takesPreview row draft (if draft then now else m.ts) m.seq m.localOrder
        m.msgId then
      { row with
        lastMsgId := m.msgId
        lastMessage := m.content
        lastMessageTime := max row.lastMessageTime (if draft then now else m.ts) }
    else row
    if readsAtOnce m ctx then
      { shown with
        readSeq := max row.readSeq m.seq
        unread := db.countUnread m.conversationId (max row.readSeq m.seq) }
    else shown
  else row

theorem projectPreview_conversation (draft : Bool) (displayTime id : Int) :
    (db.projectPreview m draft displayTime).conversation id = (db.conversation id).map fun row =>
      if row.conversationId = m.conversationId ∧
          db.takesPreview row draft displayTime m.seq m.localOrder m.msgId then
        { row with
          lastMsgId := m.msgId
          lastMessage := m.content
          lastMessageTime := max row.lastMessageTime displayTime }
      else row :=
  conversation_map rfl (fun row => by split <;> rfl) id

theorem readUpTo_conversation (conversationId seq id : Int) :
    (db.readUpTo conversationId seq).conversation id = (db.conversation id).map fun row =>
      if row.conversationId = conversationId then
        { row with
          readSeq := max row.readSeq seq
          unread := db.countUnread conversationId (max row.readSeq seq) }
      else row :=
  conversation_map rfl (fun row => by split <;> rfl) id

theorem finishProjection_conversation (draft : Bool) (now id : Int) :
    (db.finishProjection m draft ctx now).conversation id =
      (db.conversation id).map fun row => row.projected db m draft ctx now := by
  unfold finishProjection
  dsimp only
  split <;> rename_i reads
  · rw [readUpTo_conversation, projectPreview_conversation, Option.map_map]
    refine congrArg (fun revise => Option.map revise (db.conversation id)) ?_
    funext row
    unfold ConversationRow.projected
    by_cases own : row.conversationId = m.conversationId
    · by_cases takes : db.takesPreview row draft (if draft then now else m.ts) m.seq m.localOrder
        m.msgId
      · simp only [Function.comp_apply, own, takes, reads, and_self, if_true]
        rfl
      · simp only [Function.comp_apply, own, takes, reads, if_true, Bool.false_eq_true, and_false,
          if_false]
        rfl
    · simp only [Function.comp_apply, own, false_and, if_false]
  · rw [projectPreview_conversation]
    refine congrArg (fun revise => Option.map revise (db.conversation id)) ?_
    funext row
    unfold ConversationRow.projected
    by_cases own : row.conversationId = m.conversationId <;> simp [own, reads]

theorem commitOutgoingDraft_rows {now order : Int}
    (committed : db.commitOutgoingDraft m now = some (order, after)) :
    db.compatibleIdentity m = true ∧
      (after = db ∧ (db.message m.msgId).isSome ∨
        db.message m.msgId = none ∧ 0 < order ∧
          after.messages.rows =
            db.messages.rows ++ [NativeMessageRow.stored { m with localOrder := order }] ∧
          after.outbox.rows = db.outbox.rows ++ [{ localOrder := order, msgId := m.msgId }]) := by
  unfold commitOutgoingDraft at committed
  split at committed
  · simp at committed
  · rename_i valid
    simp only [not_or, Bool.not_eq_true', Bool.not_eq_false] at valid
    refine ⟨valid.2, ?_⟩
    cases known : db.message m.msgId with
    | some row =>
        simp only [known, Option.some.injEq, Prod.mk.injEq] at committed
        exact .inl ⟨committed.2.symm, rfl⟩
    | none =>
        simp only [known, Option.bind_eq_bind, Option.bind_eq_some_iff] at committed
        obtain ⟨allocated, _, committed⟩ := committed
        split at committed
        · simp at committed
        · rename_i positive
          simp only [Option.bind_eq_some_iff] at committed
          obtain ⟨messages, inserted, outbox, queued, shown, drafted, same⟩ := committed
          obtain ⟨rfl, rfl⟩ := Prod.mk.inj (Option.some.inj same)
          obtain ⟨sameMessages, sameOutbox⟩ := showDraft_kept drafted
          refine .inr ⟨rfl, by omega, ?_, ?_⟩
          · rw [finishProjection_messages, sameMessages]
            have rows : ({ db with messages := messages, lastOrder := some allocated }.fillMissingMedia
                { m with localOrder := allocated }).messages.rows =
                  messages.rows.map fun row =>
                    if row.msgId = m.msgId then { row with media := row.media.fill m.media }
                    else row := rfl
            refine rows.trans ?_
            rw [(Table.insert_eq_some inserted).1, List.map_append]
            congr 1
            · rw [List.map_congr_left (g := id), List.map_id]
              intro row member
              exact if_neg (message_eq_none.mp known row member)
            · simp [NativeMessageRow.of, NativeMessageRow.stored]
          · rw [finishProjection_outbox, sameOutbox]
            exact (Table.insert_eq_some queued).1

theorem commitAck_rows {time seq status : Int}
    (committed : db.commitAck msgId time seq status = some after) :
    (0 ≤ status ∧ status ≤ 3 ∧ 0 ≤ seq) ∧
      (db.message msgId = none ∧ after = db ∨
        ∃ row, db.message msgId = some row ∧
          (row.conversationSeq ≤ 0 ∨ seq = 0 ∨ row.conversationSeq = seq) ∧
          (db.advanceMessage msgId seq time status).isSome ∧
          after.messages.rows = db.messages.rows.map (fun row =>
            if row.msgId = msgId then row.advance seq time status else row) ∧
          if 0 < status then after.outbox = (db.dequeue msgId).outbox
          else after.outbox.rows = db.outbox.rows.map fun row =>
            if row.msgId = msgId then { row with lastError := some (ascii "retryable") } else row) := by
  unfold commitAck at committed
  split at committed
  · simp at committed
  · rename_i valid
    simp only [not_or, not_lt] at valid
    refine ⟨valid, ?_⟩
    cases known : db.message msgId with
    | none =>
        simp only [known, Option.some.injEq] at committed
        exact .inl ⟨rfl, committed.symm⟩
    | some row =>
        simp only [known] at committed
        split at committed
        · simp at committed
        · rename_i agrees
          obtain ⟨advanced, updated, same⟩ := Option.map_eq_some_iff.mp committed
          obtain ⟨rows, outbox, _⟩ := advanceMessage_rows updated
          refine .inr ⟨row, rfl, by omega, by rw [updated]; rfl, ?_, ?_⟩
          · subst same
            split
            · exact rows
            · exact rows
          · subst same
            split
            · simp only [dequeue, reviseConversations_outbox, outbox]
            · rw [← outbox]
              rfl

end NativeRepository

end Jitong
