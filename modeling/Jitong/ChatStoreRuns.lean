import Jitong.ChatStore

/-!
What holds of a Room database whatever its writers do.
-/

namespace Jitong

open Jitong.Lib NativeRepository MigrationImporter

namespace ChatStore

def Logged (ownerId : Int32) : LegacyChange → Prop
  | .upsertMessage m => ∃ peerId : Int32, m.peerId = peerId.toInt ∧
      conversationId ownerId peerId = some m.conversationId
  | .upsertConversation c => ∃ peerId : Int32, c.peerId = peerId.toInt ∧
      conversationId ownerId peerId = some c.conversationId
  | .deleteMessage _ => False
  | .deleteConversation _ => False

structure WellFormed (pinyin : PinyinIndex) (ownerId : Int32) (store : ChatStore) : Prop where
  messages : ∀ row ∈ store.messages.rows, conversationId ownerId row.peerId = some row.conversationId
  conversations : ∀ row ∈ store.conversations.rows,
    conversationId ownerId row.peerId = some row.conversationId
  ids : ∀ row ∈ store.messages.rows, 0 < row.id ∧ row.id ≤ store.lastId
  lastId : 0 ≤ store.lastId
  texts : ∀ row ∈ store.messages.rows, row.type ≠ 0 → row.content = []
  indexed : ∀ entry ∈ store.fts, ∃ row ∈ store.messages.rows, row.hasText = true ∧
    entry = ftsEntity pinyin row
  once : (store.fts.map (·.msgId)).Nodup
  logged : ∀ entry ∈ store.log, 0 < entry.changeSeq ∧ entry.changeSeq ≤ store.lastSeq ∧
    Logged ownerId entry.change
  increasing : store.log.Pairwise fun first second => first.changeSeq < second.changeSeq
  lastSeq : 0 ≤ store.lastSeq

theorem empty_wellFormed (pinyin : PinyinIndex) (ownerId : Int32) :
    ({} : ChatStore).WellFormed pinyin ownerId :=
  ⟨by simp, by simp, by simp, le_refl _, by simp, by simp, by simp, by simp, .nil, le_refl _⟩

variable {pinyin : PinyinIndex} {ownerId : Int32} {store : ChatStore}

theorem conversation_eq_some {id : Int} {row : ConversationEntity} :
    store.conversation id = some row ↔ row ∈ store.conversations.rows ∧ row.conversationId = id := by
  constructor
  · intro found
    exact ⟨List.mem_of_find?_eq_some found, by simpa using List.find?_some found⟩
  · rintro ⟨member, rfl⟩
    refine store.conversations.find?_eq_some_of_unique ?_ member (by simp) ?_
    · intro first second
      simp only [ConversationEntity.clashes, eq_comm]
    · intro other same
      simpa [ConversationEntity.clashes] using same

theorem conversation_eq_none {id : Int} :
    store.conversation id = none ↔ ∀ row ∈ store.conversations.rows, row.conversationId ≠ id := by
  simp [conversation]

/-! The log. -/

def numbered : Int → List LegacyChange → List LegacyDeltaChange
  | _, [] => []
  | last, change :: rest => ⟨last + 1, change⟩ :: numbered (last + 1) rest

theorem logAll_eq (changes : List LegacyChange) (store : ChatStore) :
    store.logAll changes = { store with
      log := store.log ++ numbered store.lastSeq changes
      lastSeq := store.lastSeq + changes.length } := by
  induction changes generalizing store with
  | nil => simp [logAll, numbered]
  | cons change rest ih =>
      have onward := ih (store.logChange change)
      unfold logAll at onward ⊢
      rw [List.foldl_cons, onward]
      simp only [logChange, numbered, List.append_assoc, List.cons_append, List.nil_append,
        List.length_cons, Nat.cast_add, Nat.cast_one]
      congr 1
      omega

theorem numbered_bounds {last : Int} {changes : List LegacyChange} {entry : LegacyDeltaChange}
    (member : entry ∈ numbered last changes) :
    last < entry.changeSeq ∧ entry.changeSeq ≤ last + changes.length ∧ entry.change ∈ changes := by
  induction changes generalizing last with
  | nil => simp [numbered] at member
  | cons change rest ih =>
      rcases List.mem_cons.mp member with rfl | later
      · simp
      · obtain ⟨above, below, listed⟩ := ih later
        rw [List.length_cons]
        exact ⟨by omega, by push_cast; omega, List.mem_cons_of_mem _ listed⟩

theorem numbered_increasing (last : Int) (changes : List LegacyChange) :
    (numbered last changes).Pairwise fun first second => first.changeSeq < second.changeSeq := by
  induction changes generalizing last with
  | nil => exact .nil
  | cons change rest ih =>
      exact List.pairwise_cons.mpr ⟨fun entry member => (numbered_bounds member).1, ih _⟩

theorem WellFormed.logAll (formed : store.WellFormed pinyin ownerId) {changes : List LegacyChange}
    (rows : ∀ change ∈ changes, Logged ownerId change) :
    (store.logAll changes).WellFormed pinyin ownerId := by
  rw [logAll_eq]
  have nonneg := formed.lastSeq
  refine { formed with logged := ?_, increasing := ?_, lastSeq := ?_ }
  · intro entry member
    rcases List.mem_append.mp member with old | new
    · obtain ⟨positive, below, logged⟩ := formed.logged entry old
      exact ⟨positive, by dsimp only; omega, logged⟩
    · obtain ⟨above, below, listed⟩ := numbered_bounds new
      exact ⟨by omega, below, rows _ listed⟩
  · refine List.pairwise_append.mpr ⟨formed.increasing, numbered_increasing _ _, ?_⟩
    intro first old second new
    have below := (formed.logged first old).2.1
    have above := (numbered_bounds new).1
    omega
  · dsimp only
    omega

theorem WellFormed.logChange (formed : store.WellFormed pinyin ownerId) {change : LegacyChange}
    (row : Logged ownerId change) : (store.logChange change).WellFormed pinyin ownerId :=
  @logAll _ _ _ formed [change] (by simpa using row)

theorem logged_message {row : MessageEntity}
    (packed : conversationId ownerId row.peerId = some row.conversationId) :
    Logged ownerId (.upsertMessage (store.messagePayload row)) :=
  ⟨row.peerId, rfl, packed⟩

/-! The writers. -/

theorem WellFormed.updateMessages (formed : store.WellFormed pinyin ownerId)
    (update : MessageUpdate) : (store.updateMessages update).WellFormed pinyin ownerId := by
  have packed (row : MessageEntity) (member : row ∈ store.messages.rows) :
      conversationId ownerId (update.run row).peerId = some (update.run row).conversationId := by
    rw [(update.run_keeps row).peerId, (update.run_keeps row).conversationId]
    exact formed.messages row member
  refine WellFormed.logAll ?_ ?_
  · refine { formed with messages := ?_, ids := ?_, texts := ?_, indexed := ?_ }
    · intro row member
      obtain ⟨old, stored, rfl⟩ := List.mem_map.mp member
      exact packed old stored
    · intro row member
      obtain ⟨old, stored, rfl⟩ := List.mem_map.mp member
      rw [(update.run_keeps old).id]
      exact formed.ids old stored
    · intro row member
      obtain ⟨old, stored, rfl⟩ := List.mem_map.mp member
      rw [(update.run_keeps old).type, (update.run_keeps old).content]
      exact formed.texts old stored
    · intro entry member
      obtain ⟨row, stored, hasText, same⟩ := formed.indexed entry member
      refine ⟨update.run row, List.mem_map.mpr ⟨row, stored, rfl⟩, ?_, ?_⟩
      · rw [MessageEntity.hasText, (update.run_keeps row).type, (update.run_keeps row).content]
        exact hasText
      · rw [same, ftsEntity, ftsEntity, (update.run_keeps row).msgId, (update.run_keeps row).content]
  · intro change member
    obtain ⟨row, chosen, rfl⟩ := List.mem_map.mp member
    obtain ⟨stored, _⟩ := List.mem_filter.mp chosen
    refine logged_message ?_
    rw [(update.change_keeps row).peerId, (update.change_keeps row).conversationId]
    exact formed.messages row stored

theorem insertWithFts_cases (pinyin : PinyinIndex) (store : ChatStore) (entity : MessageEntity) :
    (store.insertWithFts pinyin entity).2 = store ∨
    ∃ messages, store.messages.insert { entity with id := store.lastId + 1 } = some messages ∧
      ∃ payloads, (store.insertWithFts pinyin entity).2 =
        ChatStore.logAll { store with
          messages := messages
          lastId := store.lastId + 1
          fts := store.fts ++ (if entity.hasText then
            [ftsEntity pinyin { entity with id := store.lastId + 1 }] else []) }
          (payloads.map LegacyChange.upsertMessage) ∧
        payloads = { store with messages := messages }.messagePayload
            { entity with id := store.lastId + 1 } ::
          (if entity.hasText then
            [{ store with fts := store.fts ++ [ftsEntity pinyin { entity with id := store.lastId + 1 }]
              }.messagePayload { entity with id := store.lastId + 1 }]
          else []) := by
  unfold insertWithFts
  dsimp only
  cases inserted : store.messages.insert { entity with id := store.lastId + 1 } with
  | none => exact .inl rfl
  | some messages =>
      refine .inr ⟨messages, rfl, _, ?_, rfl⟩
      have same : MessageEntity.hasText { entity with id := store.lastId + 1 } = entity.hasText := rfl
      by_cases hasText : entity.hasText = true
      · simp only [same, hasText, if_true, List.map_cons, List.map_nil, ChatStore.logAll,
          List.foldl_cons, List.foldl_nil]
        rfl
      · simp only [same, hasText, if_false, Bool.false_eq_true, List.map_cons, List.map_nil,
          ChatStore.logAll, List.foldl_cons, List.foldl_nil, List.append_nil]
        rfl

theorem WellFormed.insertWithFts (formed : store.WellFormed pinyin ownerId) {entity : MessageEntity}
    (packed : conversationId ownerId entity.peerId = some entity.conversationId)
    (plain : entity.type ≠ 0 → entity.content = []) :
    (store.insertWithFts pinyin entity).2.WellFormed pinyin ownerId := by
  obtain same | ⟨messages, inserted, payloads, same, rfl⟩ := insertWithFts_cases pinyin store entity
  · rw [same]
    exact formed
  · rw [same]
    obtain ⟨rows, free⟩ := Table.insert_eq_some inserted
    have nonneg := formed.lastId
    have unknown (row : MessageEntity) (stored : row ∈ store.messages.rows) :
        row.msgId ≠ entity.msgId := by
      intro clash
      have apart := free row stored
      simp [MessageEntity.clashes, clash] at apart
    refine WellFormed.logAll ?_ ?_
    · refine { formed with
        messages := ?_, ids := ?_, lastId := ?_, texts := ?_, indexed := ?_, once := ?_ }
      · intro row member
        rw [rows] at member
        rcases List.mem_append.mp member with old | new
        · exact formed.messages row old
        · obtain rfl := List.mem_singleton.mp new
          exact packed
      · intro row member
        rw [rows] at member
        rcases List.mem_append.mp member with old | new
        · have bounds := formed.ids row old
          exact ⟨bounds.1, by dsimp only; omega⟩
        · obtain rfl := List.mem_singleton.mp new
          exact ⟨by dsimp only; omega, le_refl _⟩
      · dsimp only
        omega
      · intro row member
        rw [rows] at member
        rcases List.mem_append.mp member with old | new
        · exact formed.texts row old
        · obtain rfl := List.mem_singleton.mp new
          exact plain
      · intro entry member
        rcases List.mem_append.mp member with old | new
        · obtain ⟨row, stored, hasText, rfl⟩ := formed.indexed entry old
          exact ⟨row, by rw [rows]; exact List.mem_append_left _ stored, hasText, rfl⟩
        · split at new
          · rename_i hasText
            obtain rfl := List.mem_singleton.mp new
            refine ⟨{ entity with id := store.lastId + 1 }, ?_, hasText, rfl⟩
            rw [rows]
            exact List.mem_append_right _ (List.mem_singleton_self _)
          · exact absurd new List.not_mem_nil
      · dsimp only
        split
        · rw [List.map_append]
          refine List.nodup_append'.mpr ⟨formed.once, List.nodup_singleton _, ?_⟩
          intro msgId old new
          obtain ⟨entry, member, rfl⟩ := List.mem_map.mp old
          obtain ⟨row, stored, _, rfl⟩ := formed.indexed entry member
          exact unknown row stored (List.mem_singleton.mp new)
        · rw [List.append_nil]
          exact formed.once
    · intro change member
      obtain ⟨payload, listed, rfl⟩ := List.mem_map.mp member
      rcases List.mem_cons.mp listed with rfl | listed
      · exact logged_message packed
      · split at listed
        · obtain rfl := List.mem_singleton.mp listed
          exact logged_message packed
        · exact absurd listed List.not_mem_nil

theorem WellFormed.rebuildFts (formed : store.WellFormed pinyin ownerId) (lastRead : Int) :
    (store.rebuildFts pinyin lastRead).WellFormed pinyin ownerId := by
  refine { formed with indexed := ?_, once := ?_ }
  · intro entry member
    obtain ⟨row, chosen, rfl⟩ := List.mem_map.mp member
    obtain ⟨stored, passed⟩ := List.mem_filter.mp chosen
    exact ⟨row, stored, (Bool.and_eq_true _ _ ▸ passed : _ ∧ _).2, rfl⟩
  · unfold ChatStore.rebuildFts
    rw [List.map_map]
    refine List.pairwise_map.mpr ((store.messages.unique.filter _).imp ?_)
    intro first second apart same
    simp only [Function.comp_apply, ftsEntity] at same
    simp [MessageEntity.clashes, same] at apart

theorem updateConversation_cases (store : ChatStore) (id : Int)
    (change : ConversationEntity → ConversationEntity)
    (keeps : ∀ row, (change row).conversationId = row.conversationId) :
    store.updateConversation id change keeps = store ∧ store.conversation id = none ∨
    ∃ row conversations, store.conversation id = some row ∧
      conversations.rows = store.conversations.rows.map (fun row =>
        if row.conversationId = id then change row else row) ∧
      store.updateConversation id change keeps =
        { store with conversations := conversations }.logChange
          (.upsertConversation (change row).toNative) := by
  unfold updateConversation
  cases found : store.conversation id with
  | none => exact .inl ⟨rfl, rfl⟩
  | some row => exact .inr ⟨row, _, rfl, rfl, rfl⟩

theorem WellFormed.updateConversation (formed : store.WellFormed pinyin ownerId) {id : Int}
    {change : ConversationEntity → ConversationEntity}
    {keeps : ∀ row, (change row).conversationId = row.conversationId}
    (samePeer : ∀ row, (change row).peerId = row.peerId) :
    (store.updateConversation id change keeps).WellFormed pinyin ownerId := by
  obtain ⟨same, _⟩ | ⟨row, conversations, found, rows, same⟩ := updateConversation_cases
    store id change keeps
  · rw [same]
    exact formed
  · rw [same]
    obtain ⟨member, rfl⟩ := conversation_eq_some.mp found
    have changed : ({ store with conversations := conversations } : ChatStore).WellFormed pinyin
        ownerId := by
      refine { formed with conversations := ?_ }
      intro other listed
      rw [rows] at listed
      obtain ⟨old, stored, rfl⟩ := List.mem_map.mp listed
      split
      · rw [samePeer, keeps]
        exact formed.conversations old stored
      · exact formed.conversations old stored
    refine changed.logChange ⟨row.peerId, ?_, ?_⟩
    · simp only [ConversationEntity.toNative, samePeer]
    · simp only [ConversationEntity.toNative, keeps]
      exact formed.conversations row member

theorem WellFormed.upsertOnMessage (formed : store.WellFormed pinyin ownerId) {id : Int}
    {peerId : Int32} (packed : conversationId ownerId peerId = some id) (lastMsg : Bytes) (ts : Int)
    (incrUnread : Bool) :
    (store.upsertOnMessage id peerId lastMsg ts incrUnread).WellFormed pinyin ownerId := by
  unfold ChatStore.upsertOnMessage
  dsimp only
  split
  · rename_i conversations inserted
    have stored : ({ store with conversations := conversations } : ChatStore).WellFormed pinyin
        ownerId := by
      refine { formed with conversations := ?_ }
      intro row member
      rw [(Table.insert_eq_some inserted).1] at member
      rcases List.mem_append.mp member with old | new
      · exact formed.conversations row old
      · obtain rfl := List.mem_singleton.mp new
        exact packed
    exact stored.logChange ⟨peerId, rfl, packed⟩
  · exact formed.updateConversation fun _ => rfl

theorem toEntity_plain (id : Int) (m : ChatMessage) (mediaPath : Bytes) :
    (toEntity id m mediaPath).type ≠ 0 → (toEntity id m mediaPath).content = [] := by
  unfold toEntity
  cases m.kind <;> simp

theorem WellFormed.call (formed : store.WellFormed pinyin ownerId) (made : ChatStoreCall) :
    (store.call pinyin ownerId made).WellFormed pinyin ownerId := by
  cases made with
  | insertWithFts m mediaPath =>
      simp only [ChatStore.call]
      split
      · exact formed
      · rename_i id packed
        exact formed.insertWithFts packed (toEntity_plain id m mediaPath)
  | upsertOnMessage m incrUnread =>
      simp only [ChatStore.call]
      split
      · exact formed
      · rename_i id packed
        exact formed.upsertOnMessage packed _ _ _
  | updateMessages update => exact formed.updateMessages update
  | clearUnread peerId =>
      simp only [ChatStore.call]
      split
      · exact formed
      · exact formed.updateConversation fun _ => rfl
  | rebuildFts lastRead => exact formed.rebuildFts lastRead

/-! The writers, as what they leave. -/

def insertedPayloads (pinyin : PinyinIndex) (store : ChatStore) (messages : Table MessageEntity
    MessageEntity.clashes) (row : MessageEntity) : List MigrationMessage :=
  { store with messages := messages }.messagePayload row ::
    (if row.hasText then
      [{ store with fts := store.fts ++ [ftsEntity pinyin row] }.messagePayload row]
    else [])

def withMessage (pinyin : PinyinIndex) (store : ChatStore) (messages : Table MessageEntity
    MessageEntity.clashes) (row : MessageEntity) : ChatStore :=
  { store with
    messages := messages
    lastId := row.id
    fts := store.fts ++ (if row.hasText then [ftsEntity pinyin row] else []) }

/-- What a writer does: nothing, a new message, an update of messages, one conversation, or a new
index. -/
inductive Writes (pinyin : PinyinIndex) (ownerId : Int32) (store : ChatStore) : ChatStore → Prop
  | idle : Writes pinyin ownerId store store
  | message {row : MessageEntity} {messages : Table MessageEntity MessageEntity.clashes}
      (inserted : store.messages.insert row = some messages) (next : row.id = store.lastId + 1)
      (plain : row.type ≠ 0 → row.content = []) :
      Writes pinyin ownerId store ((withMessage pinyin store messages row).logAll
        ((insertedPayloads pinyin store messages row).map LegacyChange.upsertMessage))
  | messages (update : MessageUpdate) : Writes pinyin ownerId store (store.updateMessages update)
  | conversation {row : ConversationEntity}
      {conversations : Table ConversationEntity ConversationEntity.clashes}
      (packed : conversationId ownerId row.peerId = some row.conversationId)
      (written : ∀ id, ({ store with conversations := conversations } : ChatStore).conversation id =
        if id = row.conversationId then some row else store.conversation id) :
      Writes pinyin ownerId store
        ({ store with conversations := conversations }.logChange (.upsertConversation row.toNative))
  | index (lastRead : Int) : Writes pinyin ownerId store (store.rebuildFts pinyin lastRead)

theorem conversation_rewritten {id : Int} {row : ConversationEntity}
    {change : ConversationEntity → ConversationEntity}
    {conversations : Table ConversationEntity ConversationEntity.clashes}
    (found : store.conversation id = some row)
    (keeps : ∀ row, (change row).conversationId = row.conversationId)
    (rows : conversations.rows = store.conversations.rows.map (fun row =>
      if row.conversationId = id then change row else row)) (other : Int) :
    ({ store with conversations := conversations } : ChatStore).conversation other =
      if other = id then some (change row) else store.conversation other := by
  have mapped : ({ store with conversations := conversations } : ChatStore).conversation other =
      (store.conversation other).map fun row =>
        if row.conversationId = id then change row else row := by
    unfold conversation
    dsimp only
    rw [rows, List.find?_map]
    congr 1
    refine congrArg (fun matching => List.find? matching store.conversations.rows) ?_
    funext row
    simp only [Function.comp_apply]
    split <;> simp [keeps]
  rw [mapped]
  split
  · rename_i same
    rw [same, found, Option.map_some, if_pos (conversation_eq_some.mp found).2]
  · rename_i different
    cases known : store.conversation other with
    | none => rfl
    | some row =>
        have named := (conversation_eq_some.mp known).2
        simp [named, different]

theorem updateConversation_writes (formed : store.WellFormed pinyin ownerId) {id : Int}
    {change : ConversationEntity → ConversationEntity}
    {keeps : ∀ row, (change row).conversationId = row.conversationId}
    (samePeer : ∀ row, (change row).peerId = row.peerId) :
    Writes pinyin ownerId store (store.updateConversation id change keeps) := by
  obtain ⟨same, _⟩ | ⟨row, conversations, found, rows, same⟩ := updateConversation_cases
    store id change keeps
  · rw [same]
    exact .idle
  · rw [same]
    obtain ⟨member, named⟩ := conversation_eq_some.mp found
    refine .conversation ?_ fun other => ?_
    · rw [samePeer, keeps]
      exact formed.conversations row member
    · rw [conversation_rewritten found keeps rows, keeps, named]

theorem upsertOnMessage_writes (formed : store.WellFormed pinyin ownerId) {id : Int}
    {peerId : Int32} (packed : conversationId ownerId peerId = some id) (lastMsg : Bytes) (ts : Int)
    (incrUnread : Bool) :
    Writes pinyin ownerId store (store.upsertOnMessage id peerId lastMsg ts incrUnread) := by
  unfold ChatStore.upsertOnMessage
  dsimp only
  split
  · rename_i conversations inserted
    obtain ⟨rows, free⟩ := Table.insert_eq_some inserted
    refine .conversation packed fun other => ?_
    have unknown : store.conversation id = none := by
      refine conversation_eq_none.mpr fun row member same => ?_
      have apart := free row member
      simp [ConversationEntity.clashes, same] at apart
    unfold conversation at unknown ⊢
    dsimp only
    rw [rows, List.find?_append]
    split
    · rename_i same
      rw [same, unknown]
      simp
    · rename_i different
      rw [List.find?_cons_of_neg (by simpa using Ne.symm different), List.find?_nil, Option.or_none]
  · exact updateConversation_writes formed fun _ => rfl

theorem insertWithFts_writes {entity : MessageEntity}
    (plain : entity.type ≠ 0 → entity.content = []) :
    Writes pinyin ownerId store (store.insertWithFts pinyin entity).2 := by
  obtain same | ⟨messages, inserted, payloads, same, rfl⟩ := insertWithFts_cases pinyin store entity
  · rw [same]
    exact .idle
  · rw [same]
    exact .message inserted rfl plain

theorem call_writes (formed : store.WellFormed pinyin ownerId) (made : ChatStoreCall) :
    Writes pinyin ownerId store (store.call pinyin ownerId made) := by
  cases made with
  | insertWithFts m mediaPath =>
      simp only [ChatStore.call]
      split
      · exact .idle
      · exact insertWithFts_writes (toEntity_plain _ m mediaPath)
  | upsertOnMessage m incrUnread =>
      simp only [ChatStore.call]
      split
      · exact .idle
      · rename_i id packed
        exact upsertOnMessage_writes formed packed _ _ _
  | updateMessages update => exact .messages update
  | clearUnread peerId =>
      simp only [ChatStore.call]
      split
      · exact .idle
      · exact updateConversation_writes formed fun _ => rfl
  | rebuildFts lastRead => exact .index lastRead

end ChatStore

end Jitong
