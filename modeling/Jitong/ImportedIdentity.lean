import Jitong.CutoverRuns

/-!
What a copy leaves: messages and conversations under the ids that the Room database gives, and some
message where the Room database has one.
-/

namespace Jitong

open Jitong.Lib NativeRepository MigrationImporter

def Packed (ownerId : Int32) (conversationId peer : Int) : Prop :=
  ∃ peerId : Int32, peer = peerId.toInt ∧
    ChatStore.conversationId ownerId peerId = some conversationId

theorem packed_bounds {ownerId : Int32} {conversationId peer : Int}
    (packed : Packed ownerId conversationId peer) : 0 < peer ∧ peer < conversationId := by
  obtain ⟨peerId, rfl, same⟩ := packed
  unfold ChatStore.conversationId at same
  split at same
  · rename_i positive
    have owner := Int32.lt_iff_toInt_lt.mp positive.1
    have other := Int32.lt_iff_toInt_lt.mp positive.2
    have bound := peerId.toInt_lt
    have same := Option.some.inj same
    change 0 < ownerId.toInt at owner
    change 0 < peerId.toInt at other
    omega
  · exact nomatch same

theorem packed_above {ownerId : Int32} {conversationId peer : Int}
    (packed : Packed ownerId conversationId peer) :
    peer < 4294967296 ∧ 4294967296 ≤ conversationId := by
  obtain ⟨peerId, rfl, same⟩ := packed
  unfold ChatStore.conversationId at same
  split at same
  · rename_i positive
    have owner := Int32.lt_iff_toInt_lt.mp positive.1
    have other := Int32.lt_iff_toInt_lt.mp positive.2
    have bound := peerId.toInt_lt
    have same := Option.some.inj same
    change 0 < ownerId.toInt at owner
    change 0 < peerId.toInt at other
    omega
  · exact nomatch same

theorem packed_peer {ownerId : Int32} {conversationId peer other : Int}
    (packed : Packed ownerId conversationId peer) (also : Packed ownerId conversationId other) :
    other = peer := by
  obtain ⟨peerId, rfl, same⟩ := packed
  obtain ⟨otherId, rfl, also⟩ := also
  unfold ChatStore.conversationId at same also
  split at same
  · split at also
    · rename_i positive otherPositive
      have owner := Int32.lt_iff_toInt_lt.mp positive.1
      have first := Int32.lt_iff_toInt_lt.mp positive.2
      have second := Int32.lt_iff_toInt_lt.mp otherPositive.2
      have ownerBound := ownerId.toInt_lt
      have firstBound := peerId.toInt_lt
      have secondBound := otherId.toInt_lt
      have same := Option.some.inj same
      have also := Option.some.inj also
      change 0 < ownerId.toInt at owner
      change 0 < peerId.toInt at first
      change 0 < otherId.toInt at second
      omega
    · exact nomatch also
  · exact nomatch same

namespace NativeRepository

def peerOf (db : NativeRepository) (conversationId : Int) : Option Int :=
  (db.conversation conversationId).map (·.peerId)

structure Imported (ownerId : Int32) (db : NativeRepository) : Prop where
  messages : ∀ msgId row, db.message msgId = some row →
    Packed ownerId row.conversationId row.peerId ∧
      db.peerOf row.conversationId = some row.peerId
  conversations : ∀ id peer, db.peerOf id = some peer → Packed ownerId id peer

theorem empty_imported (ownerId : Int32) : ({} : NativeRepository).Imported ownerId :=
  ⟨fun _ _ found => (nomatch found), fun _ _ found => nomatch found⟩

variable {ownerId : Int32} {db after : NativeRepository}

theorem Imported.upsert (imported : db.Imported ownerId) (fresh : NativeMessageRow)
    (packed : Packed ownerId fresh.conversationId fresh.peerId)
    (messages : ∀ msgId row, after.message msgId = some row →
      row = fresh ∨ db.message msgId = some row)
    (conversations : ∀ id, after.peerOf id = if id = fresh.conversationId then
      some ((db.peerOf fresh.conversationId).getD fresh.peerId) else db.peerOf id) :
    after.Imported ownerId := by
  have peers (id peer : Int) (found : after.peerOf id = some peer) : Packed ownerId id peer := by
    rw [conversations id] at found
    split at found
    · rename_i own
      subst own
      obtain rfl := Option.some.inj found
      cases known : db.peerOf fresh.conversationId with
      | none => exact packed
      | some peer => exact imported.conversations _ _ known
    · exact imported.conversations id peer found
  refine ⟨fun msgId row found => ?_, peers⟩
  have named : Packed ownerId row.conversationId row.peerId ∧
      (after.peerOf row.conversationId).isSome = true := by
    rw [conversations]
    rcases messages msgId row found with rfl | known
    · exact ⟨packed, by simp⟩
    · obtain ⟨packed, shown⟩ := imported.messages msgId row known
      refine ⟨packed, ?_⟩
      split
      · rfl
      · simp [shown]
  obtain ⟨packed, shown⟩ := named
  obtain ⟨peer, shown⟩ := Option.isSome_iff_exists.mp shown
  rw [shown, packed_peer packed (peers _ _ shown)]
  exact ⟨packed, rfl⟩

theorem Imported.conversation (imported : db.Imported ownerId) {id peer : Int}
    (packed : Packed ownerId id peer) (messages : ∀ msgId, after.message msgId = db.message msgId)
    (conversations : ∀ other, after.peerOf other =
      if other = id then some ((db.peerOf id).getD peer) else db.peerOf other) :
    after.Imported ownerId := by
  refine ⟨fun msgId row found => ?_, fun other found shown => ?_⟩
  · rw [messages] at found
    obtain ⟨rowPacked, shown⟩ := imported.messages msgId row found
    refine ⟨rowPacked, ?_⟩
    rw [conversations]
    split
    · rename_i own
      rw [← own, shown]
      rfl
    · exact shown
  · rw [conversations] at shown
    split at shown
    · rename_i own
      obtain rfl := Option.some.inj shown
      rw [own]
      cases known : db.peerOf id with
      | none => exact packed
      | some peer => exact imported.conversations _ _ known
    · exact imported.conversations other found shown

theorem peerOf_upsert {id key : Int} {row : Option ConversationRow → ConversationRow} {peer : Int}
    (written : after.conversation id = if id = key then some (row (db.conversation key))
      else db.conversation id)
    (fresh : (row none).peerId = peer) (keeps : ∀ known, (row (some known)).peerId = known.peerId) :
    after.peerOf id = if id = key then some ((db.peerOf key).getD peer) else db.peerOf id := by
  unfold peerOf
  rw [written]
  split
  · cases known : db.conversation key with
    | none => simp [fresh]
    | some known => simp [keeps]
  · rfl

end NativeRepository

namespace MigrationImporter.MessageStore

variable {ownerId : Int32} {store after : MessageStore}

theorem importConversation_messages {c : MigrationConversation}
    (taken : store.importConversation c = some after) : after.db.messages = store.db.messages := by
  unfold importConversation at taken
  split at taken
  · obtain rfl := Option.some.inj taken
    rfl
  · obtain ⟨conversations, _, rfl⟩ := Option.map_eq_some_iff.mp taken
    rfl

theorem upsertConversation_messages {c : MigrationConversation}
    (taken : store.upsertConversation c = some after) : after.db.messages = store.db.messages := by
  obtain ⟨conversations, _, rfl⟩ := Option.map_eq_some_iff.mp taken
  rfl

theorem importMessage_imported {m : MigrationMessage} (imported : store.db.Imported ownerId)
    (packed : Packed ownerId m.conversationId m.peerId)
    (taken : store.importMessage m = some after) : after.db.Imported ownerId := by
  unfold importMessage at taken
  split at taken
  · exact nomatch taken
  · split at taken
    · split at taken
      · obtain rfl := Option.some.inj taken
        exact imported
      · exact nomatch taken
    · simp only [Option.bind_eq_bind, Option.bind_eq_some_iff] at taken
      obtain ⟨messages, inserted, indexed, written, shown⟩ := taken
      have kept := indexImported_db written
      have sameMessages := (showImported_kept shown).1
      refine imported.upsert (cut m.toNativeMessageRow) packed (fun msgId row found => ?_)
        fun id => ?_
      · obtain ⟨member, named⟩ := message_eq_some.mp found
        rw [sameMessages, kept, (Table.insert_eq_some inserted).1] at member
        rcases List.mem_append.mp member with old | new
        · exact .inr (message_eq_some.mpr ⟨old, named⟩)
        · exact .inl (List.mem_singleton.mp new)
      · have shows := showImported_conversation shown id
        rw [kept] at shows
        refine peerOf_upsert shows (rfl : (shownImported m none).peerId = m.peerId) fun row => ?_
        simp only [shownImported]
        split <;> rfl

theorem importConversation_imported {c : MigrationConversation} (imported : store.db.Imported ownerId)
    (packed : Packed ownerId c.conversationId c.peerId)
    (taken : store.importConversation c = some after) : after.db.Imported ownerId := by
  refine imported.conversation packed (fun msgId => ?_) fun id => ?_
  · unfold NativeRepository.message
    rw [importConversation_messages taken]
  · exact peerOf_upsert (importConversation_conversation taken id) rfl fun _ => rfl

theorem applyChange_imported {change : LegacyChange} (imported : store.db.Imported ownerId)
    (logged : ChatStore.Logged ownerId change) (taken : store.applyChange change = some after) :
    after.db.Imported ownerId := by
  cases change with
  | deleteMessage msgId => exact logged.elim
  | deleteConversation conversationId => exact logged.elim
  | upsertConversation c =>
      refine imported.conversation logged (fun msgId => ?_) fun id => ?_
      · unfold NativeRepository.message
        rw [upsertConversation_messages taken]
      · have written := upsertConversation_conversation taken id
        unfold NativeRepository.peerOf
        rw [written]
        split
        · rename_i own
          cases known : store.db.conversation c.conversationId with
          | none => rfl
          | some row =>
              have before : store.db.peerOf c.conversationId = some row.peerId := by
                simp [NativeRepository.peerOf, known]
              have peer := packed_peer logged (imported.conversations _ _ before)
              simp [changedConversation, peer]
        · rfl
  | upsertMessage m =>
      simp only [applyChange] at taken
      split at taken
      · exact nomatch taken
      · obtain ⟨written, stored, taken⟩ := Option.bind_eq_some_iff.mp taken
        obtain ⟨indexed, added, derived⟩ := Option.bind_eq_some_iff.mp taken
        have sameMessages := deriveConversation_messages derived
        have kept := indexChanged_db added
        have sameConversations := upsertMessage_conversations stored
        refine imported.upsert m.toNativeMessageRow logged (fun msgId row found => ?_) fun id => ?_
        · unfold NativeRepository.message at found
          rw [sameMessages, kept] at found
          have found : written.db.message msgId = some row := found
          rw [upsertMessage_message stored] at found
          split at found
          · exact .inl (Option.some.inj found).symm
          · exact .inr found
        · have derives := deriveConversation_conversation derived id
          rw [kept] at derives
          unfold NativeRepository.conversation at derives
          rw [sameConversations] at derives
          refine peerOf_upsert derives
            (rfl : (derivedConversation m none).peerId = m.peerId) fun row => ?_
          simp only [derivedConversation]
          split <;> rfl

theorem importMessage_ne_nil {m : MigrationMessage} (taken : store.importMessage m = some after) :
    after.db.messages.rows ≠ [] := by
  obtain rfl | ⟨_, rows, _⟩ := importMessage_rows taken
  · unfold importMessage at taken
    split at taken
    · exact nomatch taken
    · split at taken
      · rename_i known
        exact List.ne_nil_of_mem (message_eq_some.mp known).1
      · simp only [Option.bind_eq_bind, Option.bind_eq_some_iff] at taken
        obtain ⟨messages, inserted, indexed, written, shown⟩ := taken
        rw [(showImported_kept shown).1, indexImported_db written, (Table.insert_eq_some inserted).1]
        simp
  · rw [rows]
    simp

theorem importBatch_ne_nil {front : List MigrationMessage} {last : MigrationMessage}
    (taken : store.importBatch (front ++ [last]) = some after) : after.db.messages.rows ≠ [] := by
  unfold importBatch at taken
  rw [List.foldlM_append] at taken
  obtain ⟨before, _, last⟩ := Option.bind_eq_some_iff.mp taken
  rw [List.foldlM_cons] at last
  obtain ⟨final, imported, rest⟩ := Option.bind_eq_some_iff.mp last
  obtain rfl := Option.some.inj rest
  exact importMessage_ne_nil imported

theorem applyMessage_ne_nil {m : MigrationMessage}
    (taken : store.applyChange (.upsertMessage m) = some after) : after.db.messages.rows ≠ [] := by
  simp only [applyChange] at taken
  split at taken
  · exact nomatch taken
  · obtain ⟨written, stored, taken⟩ := Option.bind_eq_some_iff.mp taken
    obtain ⟨indexed, added, derived⟩ := Option.bind_eq_some_iff.mp taken
    rw [deriveConversation_messages derived, indexChanged_db added]
    have found := upsertMessage_message stored m.msgId
    rw [if_pos rfl] at found
    exact List.ne_nil_of_mem (message_eq_some.mp found).1

theorem applyChange_ne_nil {change : LegacyChange} (logged : ChatStore.Logged ownerId change)
    (taken : store.applyChange change = some after) (filled : store.db.messages.rows ≠ []) :
    after.db.messages.rows ≠ [] := by
  cases change with
  | upsertMessage m => exact applyMessage_ne_nil taken
  | upsertConversation c =>
      rw [upsertConversation_messages taken]
      exact filled
  | deleteMessage msgId => exact logged.elim
  | deleteConversation conversationId => exact logged.elim

end MigrationImporter.MessageStore

/-! The whole copy. -/

namespace Cutover

open MigrationExporter

variable {pinyin : ChatStore.PinyinIndex} {ownerId : Int32}

theorem exported_packed {room : ChatStore} (formed : room.WellFormed pinyin ownerId) {cursor : Int}
    {paged : Int × MigrationMessage} (member : paged ∈ nextBatch room cursor) :
    Packed ownerId paged.2.conversationId paged.2.peerId := by
  obtain ⟨row, stored, _, entry, rfl⟩ := mem_nextBatch member
  exact ⟨row.peerId, rfl, formed.messages row stored⟩

theorem Moves.imported {before after : Cutover} (moves : Moves pinyin ownerId before after)
    (formed : before.room.WellFormed pinyin ownerId) (named : before.native.db.Imported ownerId) :
    after.native.db.Imported ownerId := by
  cases moves with
  | messagePage stage batch imported =>
      refine @foldlM_kept _ _ _ (fun store : MessageStore => store.db.Imported ownerId) _ _
        _ imported named fun store m next member held taken => ?_
      obtain ⟨paged, listed, rfl⟩ := List.mem_map.mp member
      exact MessageStore.importMessage_imported held (exported_packed formed (batch ▸ listed)) taken
  | conversationPage stage batch imported =>
      refine @foldlM_kept _ _ _ (fun store : MessageStore => store.db.Imported ownerId) _ _
        _ imported named fun store c next member held taken => ?_
      obtain ⟨row, stored, _, rfl⟩ := mem_nextConversationBatch (batch ▸ member)
      exact MessageStore.importConversation_imported held
        ⟨row.peerId, rfl, formed.conversations row stored⟩ taken
  | changes stage page applied =>
      refine @foldlM_kept _ _ _ (fun store : MessageStore => store.db.Imported ownerId) _ _
        _ applied named fun store change next member held taken => ?_
      obtain ⟨logged, _⟩ := mem_nextChanges (page ▸ member)
      exact MessageStore.applyChange_imported held (formed.logged change logged).2.2 taken
  | _ => exact named

def Awaits (cutover : Cutover) : Prop :=
  ∃ entry ∈ cutover.room.log, cutover.checkpoint < entry.changeSeq ∧
    ∃ m, entry.change = .upsertMessage m

structure Represented (cutover : Cutover) : Prop where
  checkpoint : cutover.checkpoint ≤ cutover.room.lastSeq
  none : cutover.room.messages.rows = [] →
    cutover.native.db.messages.rows = [] ∧ ¬cutover.Awaits
  some : cutover.room.messages.rows ≠ [] →
    cutover.native.db.messages.rows ≠ [] ∨ cutover.Awaits ∨
      ∃ cursor, cutover.stage = .messages cursor ∧
        ∀ row ∈ cutover.room.messages.rows, cursor < row.id

theorem le_highWater {room : ChatStore} {entry : LegacyDeltaChange} (logged : entry ∈ room.log) :
    entry.changeSeq ≤ highWater room := by
  have member : entry.changeSeq ∈ room.log.map (·.changeSeq) := List.mem_map_of_mem logged
  unfold highWater
  cases largest : (room.log.map (·.changeSeq)).max? with
  | none => simp [List.max?_eq_none_iff.mp largest] at member
  | some most => exact (List.max?_eq_some_iff.mp largest).2 _ member

theorem highWater_le {room : ChatStore} (formed : room.WellFormed pinyin ownerId) :
    highWater room ≤ room.lastSeq := by
  unfold highWater
  cases largest : (room.log.map (·.changeSeq)).max? with
  | none => exact formed.lastSeq
  | some most =>
      obtain ⟨entry, logged, rfl⟩ := List.mem_map.mp (List.max?_eq_some_iff.mp largest).1
      exact (formed.logged entry logged).2.1

theorem start_represented {room : ChatStore} (formed : room.WellFormed pinyin ownerId) :
    (start room).Represented := by
  refine ⟨highWater_le formed, fun _ => ⟨rfl, ?_⟩, fun _ => .inr (.inr ⟨0, rfl, ?_⟩)⟩
  · rintro ⟨entry, logged, above, _⟩
    have below := le_highWater logged
    exact absurd (lt_of_lt_of_le above below) (lt_irrefl _)
  · exact fun row stored => (formed.ids row stored).1

theorem Awaits.mono {before after : Cutover} (awaits : before.Awaits)
    (checkpoint : after.checkpoint = before.checkpoint)
    (log : ∀ entry ∈ before.room.log, entry ∈ after.room.log) : after.Awaits := by
  obtain ⟨entry, logged, above, message⟩ := awaits
  exact ⟨entry, log entry logged, checkpoint ▸ above, message⟩

theorem Represented.write {cutover : Cutover} (represented : cutover.Represented)
    {after : ChatStore} (writes : ChatStore.Writes pinyin ownerId cutover.room after) :
    ({ cutover with room := after } : Cutover).Represented := by
  obtain ⟨below, none, some⟩ := represented
  cases writes with
  | idle => exact ⟨below, none, some⟩
  | @message row messages inserted next plain =>
      rw [ChatStore.logAll_eq]
      refine ⟨?_, fun empty => ?_, fun _ => .inr (.inl ?_)⟩
      · dsimp only [ChatStore.withMessage]
        omega
      · have rows := (Table.insert_eq_some inserted).1
        dsimp only [ChatStore.withMessage] at empty
        rw [rows] at empty
        simp at empty
      · refine ⟨⟨cutover.room.lastSeq + 1, _⟩, List.mem_append_right _ List.mem_cons_self, ?_, _, rfl⟩
        dsimp only
        omega
  | messages update =>
      unfold ChatStore.updateMessages
      rw [ChatStore.logAll_eq]
      refine ⟨?_, fun empty => ?_, fun filled => ?_⟩
      · dsimp only
        omega
      · have before : cutover.room.messages.rows = [] := List.map_eq_nil_iff.mp empty
        obtain ⟨bare, settled⟩ := none before
        refine ⟨bare, ?_⟩
        rintro ⟨entry, logged, above, message⟩
        rw [before] at logged
        exact settled ⟨entry, by simpa [ChatStore.numbered] using logged, above, message⟩
      · have before : cutover.room.messages.rows ≠ [] := fun empty =>
          filled (List.map_eq_nil_iff.mpr empty)
        obtain bare | awaits | ⟨cursor, stage, above⟩ := some before
        · exact .inl bare
        · exact .inr (.inl (awaits.mono rfl fun entry logged => List.mem_append_left _ logged))
        · refine .inr (.inr ⟨cursor, stage, fun row stored => ?_⟩)
          obtain ⟨old, member, rfl⟩ := List.mem_map.mp stored
          rw [(update.run_keeps old).id]
          exact above old member
  | conversation packed written =>
      refine ⟨?_, fun empty => ?_, fun filled => ?_⟩
      · dsimp only [ChatStore.logChange]
        omega
      · obtain ⟨bare, settled⟩ := none empty
        refine ⟨bare, ?_⟩
        rintro ⟨entry, logged, above, payload, message⟩
        rcases List.mem_append.mp logged with old | new
        · exact settled ⟨entry, old, above, payload, message⟩
        · obtain rfl := List.mem_singleton.mp new
          cases message
      · obtain bare | awaits | paging := some filled
        · exact .inl bare
        · exact .inr (.inl (awaits.mono rfl fun entry logged => List.mem_append_left _ logged))
        · exact .inr (.inr paging)
  | index lastRead => exact ⟨below, none, some⟩

theorem Moves.represented {before after : Cutover} (moves : Moves pinyin ownerId before after)
    (formed : before.room.WellFormed pinyin ownerId) (represented : before.Represented) :
    after.Represented := by
  obtain ⟨below, none, some⟩ := represented
  cases moves with
  | idle => exact ⟨below, none, some⟩
  | write call =>
      exact Represented.write ⟨below, none, some⟩ (ChatStore.call_writes formed call)
  | messagesEnd stage empty =>
      refine ⟨below, none, fun filled => ?_⟩
      obtain bare | awaits | ⟨other, same, above⟩ := some filled
      · exact .inl bare
      · exact .inr (.inl awaits)
      · obtain rfl := CutoverStage.messages.inj (stage.symm.trans same)
        obtain ⟨row, stored⟩ := List.exists_mem_of_ne_nil _ filled
        exact absurd empty (nextBatch_ne_nil stored (above row stored))
  | messagePage stage batch imported =>
      refine ⟨below, fun empty => ?_, fun filled => .inl ?_⟩
      · obtain ⟨row, stored, _⟩ := mem_nextBatch (batch ▸ List.mem_append_right _
          (List.mem_singleton_self _))
        rw [show before.room.messages.rows = [] from empty] at stored
        exact absurd stored List.not_mem_nil
      · rw [List.map_append] at imported
        exact MessageStore.importBatch_ne_nil imported
  | conversationsEnd stage empty =>
      refine ⟨below, none, fun filled => ?_⟩
      obtain bare | awaits | ⟨other, same, _⟩ := some filled
      · exact .inl bare
      · exact .inr (.inl awaits)
      · exact nomatch stage.symm.trans same
  | @conversationPage _ _ _ native stage batch imported =>
      have same : native.db.messages = before.native.db.messages := by
        refine @foldlM_kept _ _ _ (fun store => store.db.messages = before.native.db.messages) _ _
          _ imported rfl fun store c next _ held taken => ?_
        exact (MessageStore.importConversation_messages taken).trans held
      refine ⟨below, fun empty => ?_, fun filled => ?_⟩
      · dsimp only
        rw [same]
        exact none empty
      · dsimp only
        rw [same]
        obtain bare | awaits | ⟨other, also, _⟩ := some filled
        · exact .inl bare
        · exact .inr (.inl awaits)
        · exact nomatch stage.symm.trans also
  | @changes front last native stage page applied =>
      have logged (change : LegacyDeltaChange) (member : change ∈ front ++ [last]) :=
        mem_nextChanges (page ▸ member)
      refine ⟨(formed.logged last (logged last (by simp)).1).2.1, fun empty => ?_, fun filled => ?_⟩
      · obtain ⟨bare, settled⟩ := none empty
        refine ⟨?_, ?_⟩
        · refine @foldlM_kept _ _ _ (fun store : MessageStore => store.db.messages.rows = []) _ _
            _ applied bare fun store change next member held taken => ?_
          cases content : change.change with
          | upsertMessage m =>
              obtain ⟨listed, above⟩ := logged change member
              exact absurd ⟨change, listed, above, m, content⟩ settled
          | upsertConversation c =>
              rw [content] at taken
              rw [MessageStore.upsertConversation_messages taken]
              exact held
          | deleteMessage msgId =>
              have row := (formed.logged change (logged change member).1).2.2
              rw [content] at row
              exact row.elim
          | deleteConversation conversationId =>
              have row := (formed.logged change (logged change member).1).2.2
              rw [content] at row
              exact row.elim
        · rintro ⟨entry, member, above, message⟩
          obtain ⟨listed, _⟩ := List.mem_filter.mp member
          have started := (logged last (by simp)).2
          exact settled ⟨entry, listed, lt_trans started above, message⟩
      · have stays : before.native.db.messages.rows ≠ [] → native.db.messages.rows ≠ [] :=
          fun bare => @foldlM_kept _ _ _ (fun store : MessageStore => store.db.messages.rows ≠ []) _ _
            _ applied bare fun store change next member held taken =>
              MessageStore.applyChange_ne_nil (formed.logged change (logged change member).1).2.2
                taken held
        obtain bare | ⟨entry, listed, above, m, message⟩ | ⟨other, also, _⟩ := some filled
        · exact .inl (stays bare)
        · by_cases taken : entry.changeSeq ≤ last.changeSeq
          · have member := mem_nextChanges_of_le formed page listed above taken
            obtain ⟨earlier, later, split⟩ := List.append_of_mem member
            rw [split, List.foldlM_append] at applied
            obtain ⟨middle, _, applied⟩ := Option.bind_eq_some_iff.mp applied
            rw [List.foldlM_cons] at applied
            obtain ⟨next, applied, rest⟩ := Option.bind_eq_some_iff.mp applied
            rw [message] at applied
            refine .inl (@foldlM_kept _ _ _ (fun store : MessageStore =>
              store.db.messages.rows ≠ []) _ _ _ rest
              (MessageStore.applyMessage_ne_nil applied) fun store change next member held taken => ?_)
            have change_listed : change ∈ front ++ [last] := by
              rw [split]
              exact List.mem_append_right _ (List.mem_cons_of_mem _ member)
            exact MessageStore.applyChange_ne_nil
              (formed.logged change (logged change change_listed).1).2.2 taken held
          · refine .inr (.inl ⟨entry, List.mem_filter.mpr ⟨listed, ?_⟩, ?_, m, message⟩)
            · simpa using taken
            · dsimp only
              omega
        · exact nomatch stage.symm.trans also

theorem copied {room : ChatStore} (formed : room.WellFormed pinyin ownerId)
    {events : List CutoverEvent} {final : Cutover}
    (reached : events.foldlM (step pinyin ownerId) (start room) = some final) :
    final.room.WellFormed pinyin ownerId ∧ final.native.db.Imported ownerId ∧ final.Represented :=
  @run_kept _ _ (fun cutover => cutover.room.WellFormed pinyin ownerId ∧
    cutover.native.db.Imported ownerId ∧ cutover.Represented) _ _ _ reached
    ⟨formed, empty_imported ownerId, start_represented formed⟩ fun _ _ held moves =>
      ⟨moves.wellFormed held.1, moves.imported held.1 held.2.1, moves.represented held.1 held.2.2⟩

theorem Represented.complete {cutover : Cutover} (represented : cutover.Represented)
    (complete : cutover.caughtUp = true) :
    cutover.native.db.messages.rows = [] ↔ cutover.room.messages.rows = [] := by
  obtain ⟨stage, settled⟩ := Bool.and_eq_true_iff.mp complete
  constructor
  · intro bare
    by_contra filled
    obtain native | ⟨entry, listed, above, _⟩ | ⟨other, same, _⟩ := represented.some filled
    · exact native bare
    · have below := List.all_eq_true.mp settled entry listed
      simp only [decide_eq_true_eq] at below
      omega
    · exact nomatch (of_decide_eq_true stage).symm.trans same
  · exact fun empty => (represented.none empty).1

end Cutover

end Jitong
