import Jitong.ImportedIdentity
import Jitong.LegacyDelta
import Jitong.Lib.Repeats

/-!
The pages of a Room snapshot in the transactions that import them, any of them again and again, and
the batches that are refused.
-/

namespace Jitong

open Lib NativeRepository MigrationImporter

namespace MigrationImporter

structure PlainRow (row : NativeMessageRow) : Prop where
  msgId : (0 : UInt8) ∉ row.msgId
  content : (0 : UInt8) ∉ row.content
  media : ∀ column, (0 : UInt8) ∉ row.media.text column

structure MigrationMessage.Plain (m : MigrationMessage) : Prop where
  row : PlainRow m.toNativeMessageRow
  pinyin : (0 : UInt8) ∉ m.pinyin
  initials : (0 : UInt8) ∉ m.initials

structure FtsRow.Plain (row : FtsRow) : Prop where
  msgId : (0 : UInt8) ∉ row.msgId
  content : (0 : UInt8) ∉ row.content
  pinyin : (0 : UInt8) ∉ row.pinyin
  initials : (0 : UInt8) ∉ row.initials

/-- What `MigrationExporter` reads: a conversation has one row. -/
structure RoomSnapshot where
  messages : List MigrationMessage
  conversations : List MigrationConversation
  plain : ∀ m ∈ messages, m.Plain
  distinct : conversations.Pairwise fun first second => first.conversationId ≠ second.conversationId

inductive SnapshotRow
  | message (m : MigrationMessage)
  | conversation (c : MigrationConversation)

inductive SnapshotPage
  | messages (batch : List MigrationMessage)
  | conversations (batch : List MigrationConversation)

def SnapshotPage.rows : SnapshotPage → List SnapshotRow
  | .messages batch => batch.map .message
  | .conversations batch => batch.map .conversation

def RoomSnapshot.Paged (snapshot : RoomSnapshot) (pages : List SnapshotPage) : Prop :=
  ∃ (messages : List (List MigrationMessage)) (conversations : List (List MigrationConversation)),
    messages.flatten = snapshot.messages ∧ conversations.flatten = snapshot.conversations ∧
      pages = messages.map .messages ++ conversations.map .conversations

namespace MessageStore

def importRow (store : MessageStore) : SnapshotRow → Option MessageStore
  | .message m => store.importMessage m
  | .conversation c => store.importConversation c

/-- One turn of the loop of `importBatch`: whether it goes on, and what is written so far. -/
def writeMessage (store : MessageStore) (m : MigrationMessage) : Bool × MessageStore :=
  if m.msgId = [] then (false, store)
  else
    match store.db.message (cstr m.msgId).bytes with
    | some row => (sameMessage row m && store.sameFts m, store)
    | none =>
        match store.db.messages.insert (cut m.toNativeMessageRow) with
        | none => (false, store)
        | some messages =>
            let stored := { store with db := { store.db with messages := messages } }
            match stored.indexImported m with
            | none => (false, { stored with fts := stored.fts ++ [m.ftsRow] })
            | some indexed =>
                match indexed.showImported m with
                | none => (false, indexed)
                | some shown => (true, shown)

def writeMessages (store : MessageStore) : List MigrationMessage → Bool × MessageStore
  | [] => (true, store)
  | m :: rest =>
      let written := store.writeMessage m
      if written.1 then written.2.writeMessages rest else written

def writeConversations (store : MessageStore) : List MigrationConversation → Bool × MessageStore
  | [] => (true, store)
  | c :: rest =>
      match store.importConversation c with
      | none => (false, store)
      | some written => written.writeConversations rest

end MessageStore

/-- The tables of an account in a migration, with the rows of `migration_meta` that a batch uses. -/
structure ShadowTables where
  store : MessageStore := {}
  state : MigrationState := .disabled
  checkpoint : Option Bytes := none
  conversationCheckpoint : Option Bytes := none

def submitMigrationBatch (tables : ShadowTables) (batch : List MigrationMessage)
    (checkpoint : Bytes) : Bool × ShadowTables :=
  let txn := Txn.begin tables
  if txn.tables.state ≠ .shadowImport then (false, txn.rollback)
  else
    let (ok, store) := txn.tables.store.writeMessages batch
    let txn := txn.write { txn.tables with store }
    if !ok then (false, txn.rollback)
    else
      let txn := txn.write { txn.tables with checkpoint := some checkpoint }
      (true, txn.commit)

def submitConversationBatch (tables : ShadowTables) (batch : List MigrationConversation)
    (checkpoint : Bytes) : Bool × ShadowTables :=
  let txn := Txn.begin tables
  if txn.tables.state ≠ .shadowImport then (false, txn.rollback)
  else
    let (ok, store) := txn.tables.store.writeConversations batch
    let txn := txn.write { txn.tables with store }
    if !ok then (false, txn.rollback)
    else
      let txn := txn.write { txn.tables with conversationCheckpoint := some checkpoint }
      (true, txn.commit)

namespace MessageStore

def plainChange : LegacyChange → Prop
  | .upsertMessage m => m.Plain
  | _ => True

inductive Filled : MessageStore → Prop
  | empty : Filled {}
  | message {store after : MessageStore} {m : MigrationMessage} (filled : Filled store)
      (plain : m.Plain) (imported : store.importMessage m = some after) : Filled after
  | conversation {store after : MessageStore} {c : MigrationConversation} (filled : Filled store)
      (imported : store.importConversation c = some after) : Filled after
  | change {store after : MessageStore} {change : LegacyChange} (filled : Filled store)
      (plain : plainChange change) (applied : store.applyChange change = some after) : Filled after

inductive Conflicts (store : MessageStore) (m : MigrationMessage) : Prop
  | columns (row : NativeMessageRow) (stored : store.db.message m.msgId = some row)
      (differ : row ≠ m.toNativeMessageRow)
  | index (stored : (store.db.message m.msgId).isSome = true)
      (differ : store.indexed m.msgId ≠ if m.content = [] then none else some m.ftsRow)
  | number (row : NativeMessageRow) (stored : row ∈ store.db.messages.rows)
      (other : row.msgId ≠ m.msgId) (same : row.peerId = m.peerId)
      (sameSeq : row.conversationSeq = m.conversationSeq) (numbered : 0 < m.conversationSeq)

structure Present (store : MessageStore) (m : MigrationMessage) : Prop where
  row : store.db.message m.msgId = some m.toNativeMessageRow
  index : store.indexed m.msgId = if m.content = [] then none else some m.ftsRow

structure Sane (store : MessageStore) : Prop where
  rows : ∀ msgId row, store.db.message msgId = some row → PlainRow row
  entries : ∀ entry ∈ store.identity.rows, entry.Plain
  owned : ∀ entry ∈ store.identity.rows, (store.db.message entry.msgId).isSome = true

section Rows

variable {store after : MessageStore} {m : MigrationMessage} {row : NativeMessageRow}

theorem cut_plain (plain : PlainRow row) : cut row = row := by
  obtain ⟨msgId, content, media⟩ := plain
  obtain ⟨_, _, _, _, _, _, _, _, _, _, columns⟩ := row
  simp only [cut, cstr_bytes msgId, cstr_bytes content, cstr_bytes (media _)]

theorem ftsRow_plain (plain : m.Plain) :
    m.ftsRow = ⟨m.msgId, m.content, m.pinyin, m.initials⟩ := by
  unfold MigrationMessage.ftsRow
  rw [cstr_bytes plain.row.msgId, cstr_bytes plain.row.content, cstr_bytes plain.pinyin,
    cstr_bytes plain.initials]

theorem indexed_eq_some {msgId : Bytes} {entry : FtsRow} :
    store.indexed msgId = some entry ↔ entry ∈ store.identity.rows ∧ entry.msgId = msgId := by
  unfold indexed
  constructor
  · intro found
    exact ⟨List.mem_of_find?_eq_some found, by simpa using List.find?_some found⟩
  · rintro ⟨member, rfl⟩
    refine store.identity.find?_eq_some_of_unique ?_ member (by simp) fun other same => ?_
    · intro first second
      simp only [FtsRow.clashes, eq_comm]
    · simpa [FtsRow.clashes] using same

theorem sameMessage_iff (plain : PlainRow row) (named : row.msgId = m.msgId) :
    sameMessage row m = true ↔ row = m.toNativeMessageRow := by
  unfold sameMessage
  rw [cut_plain plain, decide_eq_true_eq, ← named]

theorem sameFts_iff (sane : store.Sane) (plain : m.Plain) :
    store.sameFts m = true ↔
      store.indexed m.msgId = if m.content = [] then none else some m.ftsRow := by
  unfold sameFts
  rw [cstr_bytes plain.row.msgId, ftsRow_plain plain]
  cases found : store.indexed m.msgId with
  | none =>
      by_cases empty : m.content = []
      · simp [empty]
      · simp [empty]
  | some entry =>
      obtain ⟨member, named⟩ := indexed_eq_some.mp found
      have texts := sane.entries entry member
      by_cases empty : m.content = []
      · simp [empty]
      · dsimp only
        rw [cstr_bytes texts.content, cstr_bytes texts.pinyin, cstr_bytes texts.initials]
        obtain ⟨msgId, content, pinyin, initials⟩ := entry
        simp [empty, ← named, and_assoc]

theorem importMessage_known (sane : store.Sane) (plain : m.Plain)
    (found : store.db.message m.msgId = some row) (imported : store.importMessage m = some after) :
    after = store ∧ store.Present m := by
  have named := (message_eq_some.mp found).2
  unfold importMessage at imported
  rw [cstr_bytes plain.row.msgId, found] at imported
  split at imported
  · exact nomatch imported
  · dsimp only at imported
    split at imported
    · rename_i same
      obtain ⟨columns, index⟩ := (Bool.and_eq_true _ _).mp same
      have own := (sameMessage_iff (sane.rows _ row found) named).mp columns
      exact ⟨(Option.some.inj imported).symm, own ▸ found, (sameFts_iff sane plain).mp index⟩
    · exact nomatch imported

theorem Present.again (sane : store.Sane) (plain : m.Plain) (some : m.msgId ≠ [])
    (present : store.Present m) : store.importMessage m = Option.some store := by
  have columns : sameMessage m.toNativeMessageRow m = true := (sameMessage_iff plain.row rfl).mpr rfl
  have index := (sameFts_iff sane plain).mpr present.index
  unfold importMessage
  rw [if_neg some, cstr_bytes plain.row.msgId, present.row]
  dsimp only
  exact if_pos ((Bool.and_eq_true _ _).mpr ⟨columns, index⟩)

theorem showImported_identity (shown : store.showImported m = some after) :
    after.identity = store.identity := by
  unfold showImported at shown
  split at shown
  · obtain rfl := Option.some.inj shown
    rfl
  · obtain ⟨conversations, _, rfl⟩ := Option.map_eq_some_iff.mp shown
    rfl

theorem indexImported_identity (indexed : store.indexImported m = some after) :
    after.identity.rows = store.identity.rows ++ if m.content = [] then [] else [m.ftsRow] := by
  unfold indexImported at indexed
  split at indexed
  · rename_i empty
    obtain rfl := Option.some.inj indexed
    rw [if_pos empty, List.append_nil]
  · rename_i text
    obtain ⟨identity, inserted, rfl⟩ := Option.map_eq_some_iff.mp indexed
    rw [if_neg text]
    exact (Table.insert_eq_some inserted).1

theorem importMessage_cases (sane : store.Sane) (plain : m.Plain)
    (imported : store.importMessage m = some after) :
    m.msgId ≠ [] ∧ (after = store ∧ store.Present m ∨
      store.db.message m.msgId = none ∧
        after.db.messages.rows = store.db.messages.rows ++ [m.toNativeMessageRow] ∧
        after.identity.rows = store.identity.rows ++ if m.content = [] then [] else [m.ftsRow]) := by
  have some : m.msgId ≠ [] := by
    intro empty
    rw [importMessage, if_pos empty] at imported
    exact nomatch imported
  refine ⟨some, ?_⟩
  cases known : store.db.message m.msgId with
  | some row =>
      exact .inl (importMessage_known sane plain known imported)
  | none =>
      unfold importMessage at imported
      rw [if_neg some, cstr_bytes plain.row.msgId, known] at imported
      simp only [Option.bind_eq_bind, Option.bind_eq_some_iff] at imported
      obtain ⟨messages, inserted, indexed, written, shown⟩ := imported
      refine .inr ⟨rfl, ?_, ?_⟩
      · rw [(showImported_kept shown).1, indexImported_db written,
          (Table.insert_eq_some inserted).1, cut_plain plain.row]
      · rw [showImported_identity shown, indexImported_identity written]

theorem message_added (unknown : store.db.message m.msgId = none)
    (rows : after.db.messages.rows = store.db.messages.rows ++ [m.toNativeMessageRow])
    (msgId : Bytes) : after.db.message msgId =
      if msgId = m.msgId then some m.toNativeMessageRow else store.db.message msgId := by
  refine @message_upsert _ _ m.toNativeMessageRow ?_ msgId
  rw [show store.db.message m.toNativeMessageRow.msgId = none from unknown]
  exact rows

theorem indexed_added {fresh : List FtsRow} {msgId : Bytes}
    (identity : after.identity.rows = store.identity.rows ++ fresh)
    (other : ∀ entry ∈ fresh, entry.msgId ≠ msgId) : after.indexed msgId = store.indexed msgId := by
  have none : fresh.find? (fun row => row.msgId = msgId) = none :=
    List.find?_eq_none.mpr fun entry member => by simpa using other entry member
  unfold indexed
  rw [identity, List.find?_append, none, Option.or_none]

theorem Sane.indexed_none (sane : store.Sane) {msgId : Bytes}
    (unknown : store.db.message msgId = none) : store.indexed msgId = none := by
  cases found : store.indexed msgId with
  | none => rfl
  | some entry =>
      obtain ⟨member, named⟩ := indexed_eq_some.mp found
      have known := sane.owned entry member
      rw [named, unknown] at known
      exact nomatch known

theorem mem_fresh {entry : FtsRow} (member : entry ∈ if m.content = [] then [] else [m.ftsRow]) :
    entry = m.ftsRow := by
  split at member
  · exact absurd member List.not_mem_nil
  · exact List.mem_singleton.mp member

theorem importMessage_sane (sane : store.Sane) (plain : m.Plain)
    (imported : store.importMessage m = some after) : after.Sane := by
  obtain ⟨_, ⟨rfl, _⟩ | ⟨unknown, rows, identity⟩⟩ := importMessage_cases sane plain imported
  · exact sane
  · have messages := message_added unknown rows
    refine ⟨fun msgId row found => ?_, fun entry member => ?_, fun entry member => ?_⟩
    · rw [messages] at found
      split at found
      · obtain rfl := Option.some.inj found
        exact plain.row
      · exact sane.rows msgId row found
    · rw [identity] at member
      rcases List.mem_append.mp member with old | new
      · exact sane.entries entry old
      · rw [mem_fresh new, ftsRow_plain plain]
        exact ⟨plain.row.msgId, plain.row.content, plain.pinyin, plain.initials⟩
    · rw [messages]
      rw [identity] at member
      rcases List.mem_append.mp member with old | new
      · split
        · rfl
        · exact sane.owned entry old
      · rw [mem_fresh new, ftsRow_plain plain, if_pos rfl]
        rfl

theorem importMessage_present (sane : store.Sane) (plain : m.Plain)
    (imported : store.importMessage m = some after) : after.Present m := by
  obtain ⟨_, ⟨rfl, present⟩ | ⟨unknown, rows, identity⟩⟩ := importMessage_cases sane plain imported
  · exact present
  · refine ⟨?_, ?_⟩
    · rw [message_added unknown rows, if_pos rfl]
    · have missing := sane.indexed_none unknown
      unfold indexed at missing ⊢
      rw [identity, List.find?_append, missing, Option.none_or]
      split
      · rfl
      · rw [ftsRow_plain plain]
        simp

theorem Present.importMessage {other : MigrationMessage} (present : store.Present m)
    (sane : store.Sane) (plain : other.Plain) (imported : store.importMessage other = some after) :
    after.Present m := by
  obtain ⟨_, ⟨rfl, _⟩ | ⟨unknown, rows, identity⟩⟩ := importMessage_cases sane plain imported
  · exact present
  · have different : m.msgId ≠ other.msgId := by
      intro same
      have row := present.row
      rw [same, unknown] at row
      exact nomatch row
    refine ⟨?_, ?_⟩
    · rw [message_added unknown rows, if_neg different]
      exact present.row
    · rw [indexed_added identity fun entry member => ?_]
      · exact present.index
      · rw [mem_fresh member, ftsRow_plain plain]
        exact different.symm

theorem message_congr (same : after.db.messages = store.db.messages) (msgId : Bytes) :
    after.db.message msgId = store.db.message msgId := by
  unfold NativeRepository.message
  rw [same]

theorem importConversation_identity {c : MigrationConversation}
    (imported : store.importConversation c = some after) : after.identity = store.identity := by
  unfold importConversation at imported
  split at imported
  · obtain rfl := Option.some.inj imported
    rfl
  · obtain ⟨conversations, _, rfl⟩ := Option.map_eq_some_iff.mp imported
    rfl

theorem Sane.congr (sane : store.Sane) (messages : after.db.messages = store.db.messages)
    (identity : after.identity = store.identity) : after.Sane := by
  refine ⟨fun msgId row found => ?_, fun entry member => ?_, fun entry member => ?_⟩
  · exact sane.rows msgId row (message_congr messages msgId ▸ found)
  · exact sane.entries entry (identity ▸ member)
  · rw [message_congr messages]
    exact sane.owned entry (identity ▸ member)

theorem Present.congr (present : store.Present m) (messages : after.db.messages = store.db.messages)
    (identity : after.identity = store.identity) : after.Present m := by
  refine ⟨(message_congr messages m.msgId).trans present.row, ?_⟩
  unfold indexed
  rw [identity]
  exact present.index

end Rows

/-! The changes of the log. -/

section Changes

variable {store after : MessageStore} {m : MigrationMessage}

theorem deriveConversation_identity (derived : store.deriveConversation m = some after) :
    after.identity = store.identity := by
  unfold deriveConversation at derived
  split at derived
  · obtain rfl := Option.some.inj derived
    rfl
  · obtain ⟨conversations, _, rfl⟩ := Option.map_eq_some_iff.mp derived
    rfl

theorem mem_indexChanged {entry : FtsRow} (indexed : store.indexChanged m = some after)
    (member : entry ∈ after.identity.rows) :
    entry ∈ store.identity.rows ∨ entry = ⟨m.msgId, m.content, m.pinyin, m.initials⟩ := by
  unfold indexChanged at indexed
  split at indexed
  · obtain rfl := Option.some.inj indexed
    exact .inl member
  · obtain ⟨identity, inserted, rfl⟩ := Option.map_eq_some_iff.mp indexed
    rw [(Table.insert_eq_some inserted).1] at member
    rcases List.mem_append.mp member with old | new
    · exact .inl old
    · exact .inr (List.mem_singleton.mp new)

theorem upsertMessage_sane (sane : store.Sane) (plain : m.Plain)
    (applied : store.applyChange (.upsertMessage m) = some after) : after.Sane := by
  simp only [applyChange] at applied
  split at applied
  · cases applied
  · obtain ⟨written, stored, applied⟩ := Option.bind_eq_some_iff.mp applied
    obtain ⟨indexed, added, derived⟩ := Option.bind_eq_some_iff.mp applied
    have sameIdentity := deriveConversation_identity derived
    have sameMessages : after.db.messages = written.db.messages := by
      rw [deriveConversation_messages derived, indexChanged_db added]
    have cleaned : written.identity = (store.cleanFts m.msgId).identity := by
      obtain ⟨messages, _, rfl⟩ := Option.map_eq_some_iff.mp stored
      rfl
    have messages (msgId : Bytes) : after.db.message msgId =
        if msgId = m.msgId then some m.toNativeMessageRow else store.db.message msgId := by
      rw [message_congr sameMessages]
      exact upsertMessage_message stored msgId
    have entries (entry : FtsRow) (member : entry ∈ after.identity.rows) :
        (entry ∈ store.identity.rows ∧ entry.msgId ≠ m.msgId) ∨
          entry = ⟨m.msgId, m.content, m.pinyin, m.initials⟩ := by
      rw [sameIdentity] at member
      refine (mem_indexChanged added member).imp_left fun old => ?_
      rw [cleaned] at old
      have kept := List.mem_filter.mp old
      exact ⟨kept.1, by simpa using kept.2⟩
    refine ⟨fun msgId row found => ?_, fun entry member => ?_, fun entry member => ?_⟩
    · rw [messages] at found
      split at found
      · obtain rfl := Option.some.inj found
        exact plain.row
      · exact sane.rows msgId row found
    · rcases entries entry member with ⟨old, _⟩ | rfl
      · exact sane.entries entry old
      · exact ⟨plain.row.msgId, plain.row.content, plain.pinyin, plain.initials⟩
    · rw [messages]
      rcases entries entry member with ⟨old, other⟩ | rfl
      · rw [if_neg other]
        exact sane.owned entry old
      · rw [if_pos rfl]
        rfl

theorem deleteMessage_messages (msgId : Bytes) : (store.deleteMessage msgId).db.messages =
    store.db.messages.delete fun row => row.msgId = msgId := by
  unfold deleteMessage
  dsimp only
  split
  · rfl
  · split
    · rfl
    · rfl

theorem deleteMessage_identity (msgId : Bytes) :
    (store.deleteMessage msgId).identity = store.identity := by
  unfold deleteMessage
  dsimp only
  split
  · rfl
  · split
    · rfl
    · rfl

theorem deleteMessage_sane (sane : store.Sane) (msgId : Bytes) :
    ((store.cleanFts msgId).deleteMessage msgId).Sane := by
  have rows (id : Bytes) (row : NativeMessageRow)
      (found : ((store.cleanFts msgId).deleteMessage msgId).db.message id = some row) :
      store.db.message id = some row := by
    obtain ⟨member, named⟩ := message_eq_some.mp found
    rw [deleteMessage_messages] at member
    exact message_eq_some.mpr ⟨(List.mem_filter.mp member).1, named⟩
  refine ⟨fun id row found => sane.rows id row (rows id row found), fun entry member => ?_,
    fun entry member => ?_⟩
  · rw [deleteMessage_identity] at member
    exact sane.entries entry (List.mem_filter.mp member).1
  · rw [deleteMessage_identity] at member
    obtain ⟨old, other⟩ := List.mem_filter.mp member
    obtain ⟨row, found⟩ := Option.isSome_iff_exists.mp (sane.owned entry old)
    obtain ⟨stored, named⟩ := message_eq_some.mp found
    rw [Option.isSome_iff_exists]
    refine ⟨row, message_eq_some.mpr ⟨?_, named⟩⟩
    rw [deleteMessage_messages]
    refine List.mem_filter.mpr ⟨stored, ?_⟩
    simpa only [named] using other

theorem Filled.sane (filled : Filled store) : store.Sane := by
  induction filled with
  | empty =>
      refine ⟨?_, fun _ none => absurd none List.not_mem_nil,
        fun _ none => absurd none List.not_mem_nil⟩
      intro _ _ found
      cases found
  | message _ plain imported sane => exact importMessage_sane sane plain imported
  | conversation _ imported sane =>
      exact sane.congr (importConversation_messages imported) (importConversation_identity imported)
  | @change store after change _ plain applied sane =>
      cases change with
      | upsertMessage m => exact upsertMessage_sane sane plain applied
      | deleteMessage msgId =>
          simp only [applyChange] at applied
          split at applied
          · cases applied
          · obtain rfl := Option.some.inj applied
            exact deleteMessage_sane sane msgId
      | upsertConversation c =>
          refine sane.congr (upsertConversation_messages applied) ?_
          obtain ⟨conversations, _, rfl⟩ := Option.map_eq_some_iff.mp applied
          rfl
      | deleteConversation conversationId =>
          obtain rfl := Option.some.inj applied
          exact sane.congr rfl rfl

end Changes

/-! Rows again and again. -/

section Again

variable {store after : MessageStore} {c other : MigrationConversation}

def Shown (store : MessageStore) (c : MigrationConversation) : Prop :=
  ∃ row, store.db.conversation c.conversationId = some row ∧ importedConversation c (some row) = row

theorem Shown.kept (shown : store.Shown c) (different : c.conversationId ≠ other.conversationId)
    (imported : store.importConversation other = some after) : after.Shown c := by
  obtain ⟨row, found, own⟩ := shown
  refine ⟨row, ?_, own⟩
  rw [importConversation_conversation imported, if_neg different]
  exact found

theorem reviseConversations_same {db : NativeRepository} {revise : ConversationRow → ConversationRow}
    {keeps : ∀ row, (revise row).conversationId = row.conversationId ∧
      (revise row).peerId = row.peerId}
    (same : ∀ row ∈ db.conversations.rows, revise row = row) :
    db.reviseConversations revise keeps = db := by
  have rows : (db.reviseConversations revise keeps).conversations = db.conversations := by
    refine Table.ext ?_
    rw [reviseConversations_rows]
    exact (List.map_congr_left same).trans (List.map_id _)
  exact congrArg (fun conversations => { db with conversations := conversations }) rows

theorem Shown.again (shown : store.Shown c) : store.importConversation c = some store := by
  obtain ⟨row, found, own⟩ := shown
  obtain ⟨stored, named⟩ := conversation_eq_some.mp found
  -- The only row with the id is already as the update makes it.
  have same (listed : ConversationRow) (member : listed ∈ store.db.conversations.rows) :
      (if listed.conversationId = c.conversationId then
        { listed with
          lastMessage := (cstr c.lastMsg).bytes
          lastMessageTime := c.lastTs
          unread := c.unread }
      else listed) = listed := by
    split
    · rename_i ownId
      have clash : listed.clashes row = true := by simp [ConversationRow.clashes, ownId, named]
      rw [store.db.conversations.eq_of_clash ConversationRow.clashes_comm member stored clash]
      exact own
    · rfl
  unfold importConversation
  rw [if_pos (by rw [found]; rfl), Option.some.injEq]
  rw [reviseConversations_same same]

def Settled (store : MessageStore) : SnapshotRow → Prop
  | .message m => m.Plain ∧ m.msgId ≠ [] ∧ store.Sane ∧ store.Present m
  | .conversation c => store.Shown c

theorem Settled.again {row : SnapshotRow} (settled : store.Settled row) :
    store.importRow row = some store := by
  cases row with
  | message m =>
      obtain ⟨plain, some, sane, present⟩ := settled
      exact present.again sane plain some
  | conversation c => exact Shown.again settled

def snapshotRows (snapshot : RoomSnapshot) : List SnapshotRow :=
  snapshot.messages.map .message ++ snapshot.conversations.map .conversation

def accepted (written : Bool × MessageStore) : Option MessageStore :=
  if written.1 then some written.2 else none

end Again

/-! What is refused. -/

section Refused

variable {store after : MessageStore} {m other : MigrationMessage} {batch : List MigrationMessage}

structure Extends (store after : MessageStore) : Prop where
  rows : ∀ row ∈ store.db.messages.rows, row ∈ after.db.messages.rows
  index : ∀ msgId, (store.db.message msgId).isSome = true → after.indexed msgId = store.indexed msgId

theorem importMessage_extends (imported : store.importMessage m = some after) :
    store.Extends after := by
  have unchanged : store.Extends store := ⟨fun _ stored => stored, fun _ _ => rfl⟩
  unfold importMessage at imported
  split at imported
  · exact nomatch imported
  · split at imported
    · split at imported
      · exact Option.some.inj imported ▸ unchanged
      · exact nomatch imported
    · rename_i unknown
      simp only [Option.bind_eq_bind, Option.bind_eq_some_iff] at imported
      obtain ⟨messages, inserted, indexed, written, shown⟩ := imported
      refine ⟨fun row stored => ?_, fun msgId known => ?_⟩
      · rw [(showImported_kept shown).1, indexImported_db written, (Table.insert_eq_some inserted).1]
        exact List.mem_append_left _ stored
      · have identity := indexImported_identity written
        rw [← showImported_identity shown] at identity
        refine indexed_added identity fun entry member same => ?_
        rw [← same, mem_fresh member] at known
        rw [show (m.ftsRow.msgId) = (cstr m.msgId).bytes from rfl, unknown] at known
        exact nomatch known

theorem Extends.message (extends' : store.Extends after) {row : NativeMessageRow} {msgId : Bytes}
    (found : store.db.message msgId = some row) : after.db.message msgId = some row := by
  obtain ⟨stored, named⟩ := message_eq_some.mp found
  exact message_eq_some.mpr ⟨extends'.rows row stored, named⟩

theorem Extends.trans {middle : MessageStore} (first : store.Extends middle)
    (second : middle.Extends after) : store.Extends after := by
  refine ⟨fun row stored => second.rows row (first.rows row stored), fun msgId known => ?_⟩
  obtain ⟨row, found⟩ := Option.isSome_iff_exists.mp known
  rw [second.index msgId (by rw [first.message found]; rfl), first.index msgId known]

theorem Conflicts.refused (conflicts : store.Conflicts m) (sane : after.Sane) (plain : m.Plain)
    (extends' : store.Extends after) : after.importMessage m = none := by
  cases imported : after.importMessage m with
  | none => rfl
  | some next =>
      have present := importMessage_present sane plain imported
      have kept := extends'.trans (importMessage_extends imported)
      cases conflicts with
      | columns row stored differ =>
          have found := kept.message stored
          rw [present.row] at found
          exact absurd (Option.some.inj found).symm differ
      | index stored differ =>
          have same := kept.index m.msgId stored
          rw [present.index] at same
          exact absurd same.symm differ
      | number row stored other same sameSeq numbered =>
          have clash : row.clashes m.toNativeMessageRow = true := by
            simp [NativeMessageRow.clashes, same, sameSeq, numbered]
          have one := next.db.messages.eq_of_clash NativeMessageRow.clashes_comm
            (kept.rows row stored) (message_eq_some.mp present.row).1 clash
          exact absurd (congrArg (·.msgId) one) other

end Refused

end MessageStore

/-! The submissions. -/

section Submissions

open MessageStore

variable {tables : ShadowTables} {checkpointOf : SnapshotPage → Bytes}

theorem RoomSnapshot.Paged.rows {snapshot : RoomSnapshot} {pages : List SnapshotPage}
    (paged : snapshot.Paged pages) : pages.flatMap SnapshotPage.rows = snapshotRows snapshot := by
  obtain ⟨messages, conversations, rows, others, rfl⟩ := paged
  unfold snapshotRows
  rw [List.flatMap_append, ← rows, ← others, List.map_flatten, List.map_flatten, List.flatMap_map,
    List.flatMap_map]
  rfl

end Submissions

/-! A message and another one in a conversation. -/

end MigrationImporter

end Jitong
