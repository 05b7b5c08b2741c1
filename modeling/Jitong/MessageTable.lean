import Jitong.Lib.Sql
import Jitong.Protocol

/-!
The table `messages` and the `Database` calls on it.
-/

namespace Jitong

open Lib

def makeConversationId (idA idB : Int32) : Int64 :=
  if idA ≤ 0 ∨ idB ≤ 0 then 0 else
  let low := (if idA < idB then idA else idB).toUInt32
  let high := (if idB < idA then idA else idB).toUInt32
  ((low.toUInt64 <<< 32) ||| high.toUInt64).toInt64

/-- A message with its texts as `std::string`s (`StoredMessage Bytes`, what the
handlers pass around) or as columns (`StoredMessage Text`). -/
structure StoredMessage (Str : Type) where
  msgId : Str
  senderId : Int32
  receiverId : Int32
  type : Int32
  content : Str
  mediaPath : Str
  imgW : Int32
  imgH : Int32
  ts : Int
  seq : Int
  fileId : Str
  fileSize : Int
  contentType : Str
  sha256 : Str
  thumbnailFileId : Str
  thumbnailPath : Str
  thumbnailSize : Int
  thumbnailSha256 : Str
  thumbnailW : Int32
  thumbnailH : Int32
  largeThumbnailFileId : Str
  largeThumbnailPath : Str
  largeThumbnailSize : Int
  largeThumbnailSha256 : Str
  largeThumbnailW : Int32
  largeThumbnailH : Int32
  deriving DecidableEq

def StoredMessage.map {Str Other : Type} (change : Str → Other) (m : StoredMessage Str) :
    StoredMessage Other where
  msgId := change m.msgId
  senderId := m.senderId
  receiverId := m.receiverId
  type := m.type
  content := change m.content
  mediaPath := change m.mediaPath
  imgW := m.imgW
  imgH := m.imgH
  ts := m.ts
  seq := m.seq
  fileId := change m.fileId
  fileSize := m.fileSize
  contentType := change m.contentType
  sha256 := change m.sha256
  thumbnailFileId := change m.thumbnailFileId
  thumbnailPath := change m.thumbnailPath
  thumbnailSize := m.thumbnailSize
  thumbnailSha256 := change m.thumbnailSha256
  thumbnailW := m.thumbnailW
  thumbnailH := m.thumbnailH
  largeThumbnailFileId := change m.largeThumbnailFileId
  largeThumbnailPath := change m.largeThumbnailPath
  largeThumbnailSize := m.largeThumbnailSize
  largeThumbnailSha256 := change m.largeThumbnailSha256
  largeThumbnailW := m.largeThumbnailW
  largeThumbnailH := m.largeThumbnailH

def StoredMessage.setSeq {Str : Type} (m : StoredMessage Str) (seq : Int) : StoredMessage Str :=
  { m with seq }

@[simp] theorem StoredMessage.setSeq_seq {Str : Type} (m : StoredMessage Str) (seq : Int) :
    (m.setSeq seq).seq = seq := rfl

@[simp] theorem StoredMessage.setSeq_msgId {Str : Type} (m : StoredMessage Str) (seq : Int) :
    (m.setSeq seq).msgId = m.msgId := rfl

@[simp] theorem StoredMessage.setSeq_ts {Str : Type} (m : StoredMessage Str) (seq : Int) :
    (m.setSeq seq).ts = m.ts := rfl

structure MessageRow where
  id : Nat
  conversationId : Int64
  isDelivered : Bool
  columns : StoredMessage Text
  deriving DecidableEq

def messageClash (first second : MessageRow) : Bool :=
  first.id = second.id ∨ first.columns.msgId = second.columns.msgId ∨
    (first.conversationId = second.conversationId ∧ first.columns.seq = second.columns.seq)

theorem messageClash_comm (first second : MessageRow) :
    messageClash first second = messageClash second first := by
  simp only [messageClash, eq_comm]

theorem messageClash_eq_false {first second : MessageRow} :
    messageClash first second = false ↔ first.id ≠ second.id ∧
      first.columns.msgId ≠ second.columns.msgId ∧
      ¬(first.conversationId = second.conversationId ∧
        first.columns.seq = second.columns.seq) := by
  simp only [messageClash, decide_eq_false_iff_not, not_or, ne_eq]

/-- The table with its `AUTOINCREMENT` counter, which no stored id exceeds. -/
structure MessageTable where
  table : Table MessageRow messageClash
  sequence : Nat
  below : ∀ row ∈ table.rows, row.id ≤ sequence

/-- The row of the current result as a `StoredMessage`. -/
def readMessageRow (row : MessageRow) : StoredMessage Bytes := row.columns.map Text.bytes

namespace MessageTable

def empty : MessageTable := ⟨.empty, 0, by simp⟩

def rows (messages : MessageTable) : List MessageRow := messages.table.rows

def findByMsgId (messages : MessageTable) (msgId : Bytes) : Option MessageRow :=
  messages.rows.find? fun row => row.columns.msgId = cstr msgId

/-- `SELECT COALESCE(MAX(seq),0)+1 FROM messages WHERE conversation_id=?`. -/
def nextSeq (messages : MessageTable) (conversationId : Int64) : Int :=
  ((messages.rows.filter fun row => row.conversationId = conversationId).map
    (·.columns.seq)).max?.getD 0 + 1

def insert (messages : MessageTable) (conversationId : Int64) (m : StoredMessage Bytes)
    (delivered : Bool) : Option MessageTable :=
  let row : MessageRow := ⟨messages.sequence + 1, conversationId, delivered, m.map cstr⟩
  match inserted : messages.table.insert row with
  | none => none
  | some table => some ⟨table, messages.sequence + 1, by
      intro other stored
      rw [(Table.insert_eq_some inserted).1] at stored
      rcases List.mem_append.mp stored with old | new
      · exact Nat.le_succ_of_le (messages.below other old)
      · rw [List.mem_singleton.mp new]⟩

/-- The result, the message with its `seq` filled in, and the table. `writes 0`
to `writes 2` are the `BEGIN`, the `INSERT` and the `COMMIT`. -/
def saveMessage (writes : Nat → Bool) (messages : MessageTable) (m : StoredMessage Bytes)
    (delivered : Bool) : Bool × StoredMessage Bytes × MessageTable :=
  if !writes 0 then (false, m, messages) else
  let txn := Txn.begin messages
  let convId := makeConversationId m.senderId m.receiverId
  match txn.tables.findByMsgId m.msgId with
  -- The message is there already: its number is read back and no new one is taken.
  | some row => (true, m.setSeq row.columns.seq, txn.commit)
  | none =>
      let m := m.setSeq (txn.tables.nextSeq convId)
      match (if writes 1 then txn.tables.insert convId m delivered else none) with
      | none => (false, m, txn.rollback)
      | some inserted =>
          let txn := txn.write inserted
          if writes 2 then (true, m, txn.commit) else (false, m, txn.rollback)

def earlier (first second : MessageRow) : Prop :=
  first.columns.ts < second.columns.ts ∨
    (first.columns.ts = second.columns.ts ∧ first.id ≤ second.id)

instance : DecidableRel earlier := fun _ _ => inferInstanceAs (Decidable (_ ∨ _))

def undelivered (messages : MessageTable) (receiverId : Int32) : List MessageRow :=
  (messages.rows.filter fun row =>
    row.columns.receiverId = receiverId ∧ row.isDelivered = false).insertionSort earlier

def pullUndelivered (messages : MessageTable) (receiverId : Int32) : List (StoredMessage Bytes) :=
  (messages.undelivered receiverId).map readMessageRow

def setDelivered (messages : MessageTable) (msgId : Bytes) : MessageTable where
  table := messages.table.rewrite
    (fun row => if row.columns.msgId = cstr msgId then { row with isDelivered := true } else row)
    (by intro first second; unfold messageClash; split <;> split <;> rfl)
  sequence := messages.sequence
  below := by
    intro row stored
    obtain ⟨old, oldStored, rfl⟩ := List.mem_map.mp stored
    split
    · exact messages.below old oldStored
    · exact messages.below old oldStored

/-- `writes 0` is the preparation, `writes (i + 1)` the update for the `i`-th id. -/
def markDelivered (writes : Nat → Bool) (messages : MessageTable) (msgIds : List Bytes) :
    MessageTable :=
  if writes 0 then
    msgIds.zipIdx.foldl (fun messages entry =>
      if writes (entry.2 + 1) then messages.setDelivered entry.1 else messages) messages
  else messages

def conversationEnds (messages : MessageTable) (userId : Int32) : List (Int64 × Nat) :=
  let mine :=
    (messages.rows.filter fun row => row.columns.senderId = userId) ++
    (messages.rows.filter fun row => row.columns.receiverId = userId)
  let inner := mine.map fun row => (row.conversationId, row.id)
  (inner.map (·.1)).dedup.map fun conversationId =>
    (conversationId, ((inner.filter fun entry => entry.1 = conversationId).map (·.2)).max?.getD 0)

def later (first second : MessageRow) : Prop := second.columns.ts ≤ first.columns.ts

instance : DecidableRel later := fun _ _ => inferInstanceAs (Decidable (_ ≤ _))

def roamConversations (messages : MessageTable) (userId : Int32) : List (StoredMessage Bytes) :=
  let joined := messages.rows.flatMap fun row =>
    ((messages.conversationEnds userId).filter fun entry => row.id = entry.2).map fun _ => row
  (joined.insertionSort later).map readMessageRow

theorem insert_rows {messages next : MessageTable} {conversationId : Int64}
    {m : StoredMessage Bytes} {delivered : Bool}
    (inserted : messages.insert conversationId m delivered = some next) :
    next.rows = messages.rows ++
        [⟨messages.sequence + 1, conversationId, delivered, m.map cstr⟩] ∧
      next.sequence = messages.sequence + 1 := by
  unfold insert at inserted
  dsimp only at inserted
  split at inserted
  · simp at inserted
  · rename_i table stored
    simp only [Option.some.injEq] at inserted
    subst next
    exact ⟨(Table.insert_eq_some stored).1, rfl⟩

theorem saveMessage_cases (writes : Nat → Bool) (messages : MessageTable)
    (m : StoredMessage Bytes) (delivered : Bool) :
    ((messages.saveMessage writes m delivered).1 = false ∧
      (messages.saveMessage writes m delivered).2.2 = messages) ∨
    (∃ row, messages.findByMsgId m.msgId = some row ∧
      messages.saveMessage writes m delivered =
        (true, m.setSeq row.columns.seq, messages)) ∨
    (∃ next, messages.findByMsgId m.msgId = none ∧
      messages.saveMessage writes m delivered =
        (true, m.setSeq (messages.nextSeq (makeConversationId m.senderId m.receiverId)), next) ∧
      next.rows = messages.rows ++
        [⟨messages.sequence + 1, makeConversationId m.senderId m.receiverId, delivered,
          (m.setSeq (messages.nextSeq (makeConversationId m.senderId m.receiverId))).map cstr⟩] ∧
      next.sequence = messages.sequence + 1) := by
  unfold saveMessage
  dsimp only
  split
  · exact .inl ⟨rfl, rfl⟩
  · split
    · rename_i row found
      exact .inr (.inl ⟨row, found, rfl⟩)
    · rename_i missing
      split
      · exact .inl ⟨rfl, rfl⟩
      · rename_i inserted insertDone
        split
        · refine .inr (.inr ⟨inserted, missing, rfl, ?_⟩)
          split at insertDone
          · exact insert_rows insertDone
          · simp at insertDone
        · exact .inl ⟨rfl, rfl⟩

theorem saveMessage_failed {writes : Nat → Bool} {messages after : MessageTable} {delivered : Bool}
    {message failed : StoredMessage Bytes}
    (failing : messages.saveMessage writes message delivered = (false, failed, after)) :
    after = messages := by
  rcases messages.saveMessage_cases writes message delivered with
    ⟨_, same⟩ | ⟨row, _, readBack⟩ | ⟨next, _, fresh, _⟩
  · rw [failing] at same
    exact same
  · simp [readBack] at failing
  · simp [fresh] at failing

theorem findByMsgId_eq_some {messages : MessageTable} {msgId : Bytes} {row : MessageRow}
    (found : messages.findByMsgId msgId = some row) :
    row ∈ messages.rows ∧ row.columns.msgId = cstr msgId :=
  ⟨List.mem_of_find?_eq_some found, of_decide_eq_true (List.find?_some found :)⟩

theorem findByMsgId_of_stored {messages : MessageTable} {msgId : Bytes} {row : MessageRow}
    (stored : row ∈ messages.rows) (same : row.columns.msgId = cstr msgId) :
    messages.findByMsgId msgId = some row := by
  refine messages.table.find?_eq_some_of_unique messageClash_comm stored (by simpa using same) ?_
  intro other otherSame
  have equal : other.columns.msgId = row.columns.msgId :=
    (of_decide_eq_true otherSame).trans same.symm
  simp [messageClash, equal]

end MessageTable

end Jitong
