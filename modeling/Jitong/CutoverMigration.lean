import Jitong.ChatStore
import Jitong.HistoryOrder

/-!
The copy of a Room database into the native one: snapshot pages of the messages and then of the
conversations, and after them the changes that the triggers have logged since the beginning.
-/

namespace Jitong

open Jitong.Lib NativeRepository MigrationImporter

namespace MigrationExporter

def batchSize : Nat := 500

def sortedById (rows : List MessageEntity) : List MessageEntity :=
  rows.insertionSort fun first second => first.id ≤ second.id

/-- The columns of `LEFT JOIN messages_fts f ON f.msgId = m.msgId`: one row of the result for every
index row, and one without it where there is none. -/
def joined (store : ChatStore) (row : MessageEntity) : List (Int × MigrationMessage) :=
  match store.fts.filter fun entry => entry.msgId = row.msgId with
  | [] => [(row.id, { row.toNative with })]
  | entries => entries.map fun entry =>
      (row.id, { row.toNative with pinyin := entry.pinyin, initials := entry.initials })

def nextBatch (store : ChatStore) (fromId : Int) : List (Int × MigrationMessage) :=
  ((sortedById (store.messages.rows.filter fun row => fromId < row.id)).flatMap
    (joined store)).take batchSize

def nextConversationBatch (store : ChatStore) (fromId : Int) : List MigrationConversation :=
  (((store.conversations.rows.filter fun row => fromId < row.conversationId).insertionSort
    fun first second => first.conversationId ≤ second.conversationId).take batchSize).map
      ConversationEntity.toNative

def nextChanges (store : ChatStore) (after : Int) : List LegacyDeltaChange :=
  (store.log.filter fun change => after < change.changeSeq).take batchSize

def highWater (store : ChatStore) : Int := ((store.log.map (·.changeSeq)).max?).getD 0

end MigrationExporter

namespace MigrationImporter.MessageStore

def cleanFts (store : MessageStore) (msgId : Bytes) : MessageStore :=
  { store with
    fts := store.fts.filter fun row => row.msgId ≠ msgId
    identity := store.identity.delete fun row => row.msgId = msgId }

/-- `INSERT INTO messages ... ON CONFLICT(owner_id,msg_id) DO UPDATE SET` every column -/
def upsertMessage (store : MessageStore) (m : MigrationMessage) : Option MessageStore :=
  let written :=
    if (store.db.message m.msgId).isSome then
      store.db.messages.update fun row => if row.msgId = m.msgId then m.toNativeMessageRow else row
    else store.db.messages.insert m.toNativeMessageRow
  written.map fun messages => { store with db := { store.db with messages := messages } }

def indexChanged (store : MessageStore) (m : MigrationMessage) : Option MessageStore :=
  if m.content = [] then some store
  else
    let row : FtsRow := ⟨m.msgId, m.content, m.pinyin, m.initials⟩
    (store.identity.insert row).map fun identity =>
      { store with fts := store.fts ++ [row], identity := identity }

/-- `INSERT INTO conversations ... DO UPDATE SET last_message=...,last_message_time=...,
last_msg_id=... WHERE excluded.last_message_time>=conversations.last_message_time` -/
def deriveConversation (store : MessageStore) (m : MigrationMessage) : Option MessageStore :=
  if (store.db.conversation m.conversationId).isSome then
    some { store with
      db := store.db.reviseConversations
        (fun row =>
          if row.conversationId = m.conversationId ∧ row.lastMessageTime ≤ m.serverTime then
            { row with
              lastMessage := m.content
              lastMessageTime := m.serverTime
              lastMsgId := m.msgId }
          else row)
        fun row => by split <;> exact ⟨rfl, rfl⟩ }
  else
    (store.db.conversations.insert
      { conversationId := m.conversationId
        peerId := m.peerId
        lastMessage := m.content
        lastMessageTime := m.serverTime
        lastMsgId := m.msgId }).map fun conversations =>
      { store with db := { store.db with conversations := conversations } }

def recalculate (store : MessageStore) (conversationId : Int) : MessageStore :=
  let newest := (newestFirst NativeMessageRow.newerThan (store.db.messages.rows.filter fun row =>
    row.conversationId = conversationId)).head?
  { store with
    db := store.db.reviseConversations
      (fun row =>
        if row.conversationId = conversationId then
          { row with
            lastMessage := (newest.map (·.content)).getD []
            lastMessageTime := (newest.map (·.serverTime)).getD 0
            lastMsgId := (newest.map (·.msgId)).getD [] }
        else row)
      fun row => by split <;> exact ⟨rfl, rfl⟩ }

def deleteMessage (store : MessageStore) (msgId : Bytes) : MessageStore :=
  let deleted := { store with
    db := { store.db.dequeue msgId with
      messages := store.db.messages.delete fun row => row.msgId = msgId } }
  match store.db.message msgId with
  | none => deleted
  | some row => if 0 < row.conversationId then deleted.recalculate row.conversationId else deleted

/-- `INSERT INTO conversations ... ON CONFLICT(conversation_id) DO UPDATE SET` all but `read_seq` -/
def upsertConversation (store : MessageStore) (c : MigrationConversation) : Option MessageStore :=
  let written :=
    if (store.db.conversation c.conversationId).isSome then
      store.db.conversations.update fun row =>
        if row.conversationId = c.conversationId then
          { row with
            peerId := c.peerId
            lastMessage := c.lastMsg
            lastMessageTime := c.lastTs
            unread := c.unread }
        else row
    else
      store.db.conversations.insert
        { conversationId := c.conversationId
          peerId := c.peerId
          lastMessage := c.lastMsg
          lastMessageTime := c.lastTs
          unread := c.unread }
  written.map fun conversations =>
    { store with db := { store.db with conversations := conversations } }

def applyChange (store : MessageStore) : LegacyChange → Option MessageStore
  | .upsertMessage m =>
      if 0 ∈ m.msgId then none
      else ((store.cleanFts m.msgId).upsertMessage m).bind fun written =>
        (written.indexChanged m).bind fun indexed => indexed.deriveConversation m
  | .deleteMessage msgId =>
      if 0 ∈ msgId then none else some ((store.cleanFts msgId).deleteMessage msgId)
  | .upsertConversation c => store.upsertConversation c
  | .deleteConversation conversationId =>
      some { store with
        db := { store.db with
          conversations := store.db.conversations.delete fun row =>
            row.conversationId = conversationId } }

def keyed : LegacyChange → Bool
  | .upsertMessage m => m.msgId ≠ []
  | .deleteMessage msgId => msgId ≠ []
  | .upsertConversation c => 0 < c.conversationId
  | .deleteConversation conversationId => 0 < conversationId

def validBatch : Int → List LegacyDeltaChange → Bool
  | _, [] => true
  | prev, c :: rest => prev < c.changeSeq && keyed c.change && validBatch c.changeSeq rest

def applyLegacyDeltaBatch (store : MessageStore) (current expectedAfter : Int)
    (changes : List LegacyDeltaChange) : Option (MessageStore × Int) :=
  match changes.getLast? with
  | none => if current = expectedAfter then some (store, current) else none
  | some last =>
      if !validBatch expectedAfter changes then none
      else if expectedAfter < current ∧ last.changeSeq ≤ current then some (store, current)
      else if current ≠ expectedAfter then none
      else
        (changes.foldlM (fun (store : MessageStore) c => store.applyChange c.change) store).map
          fun applied => (applied, last.changeSeq)

end MigrationImporter.MessageStore

/-! The coordinator. -/

inductive CutoverStage
  | messages (cursor : Int)
  | conversations (cursor : Int)
  | deltas
  deriving DecidableEq

structure Cutover where
  room : ChatStore
  native : MessageStore := {}
  stage : CutoverStage := .messages 0
  checkpoint : Int

/-- What happens in a copy: a write of the old client, the next page of the snapshot, the next page
of changes. -/
inductive CutoverEvent
  | write (call : ChatStoreCall)
  | page
  | changes

namespace Cutover

open MigrationExporter

def start (room : ChatStore) : Cutover := { room := room, checkpoint := highWater room }

def messagePage (cutover : Cutover) (cursor : Int) : Option Cutover :=
  match (nextBatch cutover.room cursor).getLast? with
  | none => some { cutover with stage := .conversations 0 }
  | some (lastId, _) =>
      (cutover.native.importBatch ((nextBatch cutover.room cursor).map Prod.snd)).map fun native =>
        { cutover with
          native := native
          stage := if (nextBatch cutover.room cursor).length < batchSize then .conversations 0
            else .messages lastId }

def conversationPage (cutover : Cutover) (cursor : Int) : Option Cutover :=
  match (nextConversationBatch cutover.room cursor).getLast? with
  | none => some { cutover with stage := .deltas }
  | some last =>
      (cutover.native.importConversations (nextConversationBatch cutover.room cursor)).map
        fun native =>
          { cutover with
            native := native
            stage := if (nextConversationBatch cutover.room cursor).length < batchSize then .deltas
              else .conversations last.conversationId }

/-- One round of `catchUp`: what the native side has committed goes from the log. -/
def catchUp (cutover : Cutover) : Option Cutover :=
  match nextChanges cutover.room cutover.checkpoint with
  | [] => some cutover
  | changes =>
      (cutover.native.applyLegacyDeltaBatch cutover.checkpoint cutover.checkpoint changes).map
        fun applied =>
          { cutover with
            native := applied.1
            checkpoint := applied.2
            room := { cutover.room with
              log := cutover.room.log.filter fun change => applied.2 < change.changeSeq } }

def step (pinyin : ChatStore.PinyinIndex) (ownerId : Int32) (cutover : Cutover) :
    CutoverEvent → Option Cutover
  | .write call => some { cutover with room := cutover.room.call pinyin ownerId call }
  | .page =>
      match cutover.stage with
      | .messages cursor => cutover.messagePage cursor
      | .conversations cursor => cutover.conversationPage cursor
      | .deltas => some cutover
  | .changes => if cutover.stage = .deltas then cutover.catchUp else some cutover

def caughtUp (cutover : Cutover) : Bool :=
  cutover.stage = .deltas &&
    cutover.room.log.all fun change => change.changeSeq ≤ cutover.checkpoint

end Cutover

/-! What the statements do to a key. -/

namespace NativeRepository

variable {db after : NativeRepository}

theorem message_upsert {fresh : NativeMessageRow}
    (written : after.messages.rows = if (db.message fresh.msgId).isSome then
      db.messages.rows.map fun row => if row.msgId = fresh.msgId then fresh else row
      else db.messages.rows ++ [fresh]) (msgId : Bytes) :
    after.message msgId = if msgId = fresh.msgId then some fresh else db.message msgId := by
  cases found : db.message fresh.msgId with
  | some row =>
      rw [found, Option.isSome_some, if_pos rfl] at written
      rw [message_map written (fun row => by split <;> simp_all)]
      split
      · rename_i same
        rw [same, found, Option.map_some, if_pos (message_eq_some.mp found).2]
      · rename_i different
        cases other : db.message msgId with
        | none => rfl
        | some row =>
            have named := (message_eq_some.mp other).2
            simp [named, different]
  | none =>
      rw [found, Option.isSome_none, if_neg Bool.false_ne_true] at written
      unfold message at found ⊢
      rw [written, List.find?_append]
      split
      · rename_i same
        rw [same, found]
        simp
      · rename_i different
        rw [List.find?_cons_of_neg (by simpa using Ne.symm different), List.find?_nil, Option.or_none]

end NativeRepository

namespace MigrationImporter.MessageStore

variable {store after : MessageStore} {m : MigrationMessage} {c : MigrationConversation}

def shownImported (m : MigrationMessage) : Option ConversationRow → ConversationRow
  | none =>
      { conversationId := m.conversationId
        peerId := m.peerId
        lastMessage := (cstr m.content).bytes
        lastMessageTime := m.serverTime }
  | some row =>
      if row.lastMessageTime < m.serverTime then
        { row with
          lastMessage := (cstr m.content).bytes
          lastMessageTime := m.serverTime }
      else row

theorem showImported_conversation (shown : store.showImported m = some after) (id : Int) :
    after.db.conversation id =
      if id = m.conversationId then some (shownImported m (store.db.conversation m.conversationId))
      else store.db.conversation id := by
  refine conversation_upsert (shownImported m) m.conversationId rfl ?_ ?_ id
  · intro known
    simp only [shownImported]
    split <;> rfl
  unfold showImported at shown
  split at shown
  · rename_i known
    obtain rfl := Option.some.inj shown
    rw [if_pos known]
    refine List.map_congr_left fun row _ => ?_
    by_cases named : row.conversationId = m.conversationId <;> simp [named, shownImported]
  · rename_i unknown
    obtain ⟨conversations, inserted, rfl⟩ := Option.map_eq_some_iff.mp shown
    rw [if_neg unknown]
    exact (Table.insert_eq_some inserted).1

def importedConversation (c : MigrationConversation) : Option ConversationRow → ConversationRow
  | none =>
      { conversationId := c.conversationId
        peerId := c.peerId
        lastMessage := (cstr c.lastMsg).bytes
        lastMessageTime := c.lastTs
        unread := c.unread }
  | some row =>
      { row with
        lastMessage := (cstr c.lastMsg).bytes
        lastMessageTime := c.lastTs
        unread := c.unread }

theorem importConversation_conversation (imported : store.importConversation c = some after)
    (id : Int) :
    after.db.conversation id =
      if id = c.conversationId then
        some (importedConversation c (store.db.conversation c.conversationId))
      else store.db.conversation id := by
  refine conversation_upsert (importedConversation c) c.conversationId rfl (fun _ => rfl) ?_ id
  unfold importConversation at imported
  split at imported
  · rename_i known
    obtain rfl := Option.some.inj imported
    rw [if_pos known]
    rfl
  · rename_i unknown
    obtain ⟨conversations, inserted, rfl⟩ := Option.map_eq_some_iff.mp imported
    rw [if_neg unknown]
    exact (Table.insert_eq_some inserted).1

def derivedConversation (m : MigrationMessage) : Option ConversationRow → ConversationRow
  | none =>
      { conversationId := m.conversationId
        peerId := m.peerId
        lastMessage := m.content
        lastMessageTime := m.serverTime
        lastMsgId := m.msgId }
  | some row =>
      if row.lastMessageTime ≤ m.serverTime then
        { row with
          lastMessage := m.content
          lastMessageTime := m.serverTime
          lastMsgId := m.msgId }
      else row

theorem deriveConversation_conversation (derived : store.deriveConversation m = some after)
    (id : Int) :
    after.db.conversation id =
      if id = m.conversationId then
        some (derivedConversation m (store.db.conversation m.conversationId))
      else store.db.conversation id := by
  refine conversation_upsert (derivedConversation m) m.conversationId rfl ?_ ?_ id
  · intro known
    simp only [derivedConversation]
    split <;> rfl
  unfold deriveConversation at derived
  split at derived
  · rename_i known
    obtain rfl := Option.some.inj derived
    rw [if_pos known]
    refine List.map_congr_left fun row _ => ?_
    by_cases named : row.conversationId = m.conversationId <;> simp [named, derivedConversation]
  · rename_i unknown
    obtain ⟨conversations, inserted, rfl⟩ := Option.map_eq_some_iff.mp derived
    rw [if_neg unknown]
    exact (Table.insert_eq_some inserted).1

def changedConversation (c : MigrationConversation) : Option ConversationRow → ConversationRow
  | none =>
      { conversationId := c.conversationId
        peerId := c.peerId
        lastMessage := c.lastMsg
        lastMessageTime := c.lastTs
        unread := c.unread }
  | some row =>
      { row with
        peerId := c.peerId
        lastMessage := c.lastMsg
        lastMessageTime := c.lastTs
        unread := c.unread }

theorem upsertConversation_conversation (written : store.upsertConversation c = some after)
    (id : Int) :
    after.db.conversation id =
      if id = c.conversationId then
        some (changedConversation c (store.db.conversation c.conversationId))
      else store.db.conversation id := by
  refine conversation_upsert (changedConversation c) c.conversationId rfl (fun _ => rfl) ?_ id
  unfold upsertConversation at written
  obtain ⟨conversations, stored, rfl⟩ := Option.map_eq_some_iff.mp written
  split at stored
  · rename_i known
    rw [if_pos known]
    exact Table.update_eq_some stored
  · rename_i unknown
    rw [if_neg unknown]
    exact (Table.insert_eq_some stored).1

theorem upsertMessage_message (written : store.upsertMessage m = some after) (msgId : Bytes) :
    after.db.message msgId =
      if msgId = m.msgId then some m.toNativeMessageRow else store.db.message msgId := by
  refine @message_upsert _ _ m.toNativeMessageRow ?_ msgId
  unfold upsertMessage at written
  obtain ⟨messages, stored, rfl⟩ := Option.map_eq_some_iff.mp written
  split at stored
  · rename_i known
    rw [if_pos known]
    exact Table.update_eq_some stored
  · rename_i unknown
    rw [if_neg unknown]
    exact (Table.insert_eq_some stored).1

theorem upsertMessage_conversations (written : store.upsertMessage m = some after) :
    after.db.conversations = store.db.conversations := by
  obtain ⟨messages, _, rfl⟩ := Option.map_eq_some_iff.mp written
  rfl

theorem indexChanged_db (indexed : store.indexChanged m = some after) : after.db = store.db := by
  unfold indexChanged at indexed
  split at indexed
  · obtain rfl := Option.some.inj indexed
    rfl
  · obtain ⟨identity, _, rfl⟩ := Option.map_eq_some_iff.mp indexed
    rfl

theorem deriveConversation_messages (derived : store.deriveConversation m = some after) :
    after.db.messages = store.db.messages := by
  unfold deriveConversation at derived
  split at derived
  · obtain rfl := Option.some.inj derived
    rfl
  · obtain ⟨conversations, _, rfl⟩ := Option.map_eq_some_iff.mp derived
    rfl

end MigrationImporter.MessageStore

end Jitong
