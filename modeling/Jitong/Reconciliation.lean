import Jitong.CommittedEvidence
import Jitong.ImportedIdentity
import Jitong.Lib.Paging

/-!
The reconciliation after a complete import: what the pages of `execute` leave in an empty native
database, counted by the importer, against the counts of the exporter.
-/

namespace Jitong

open Lib NativeRepository MigrationImporter MigrationExporter

def ChatStore.tables (room : ChatStore) : RoomTables where
  messages := room.messages
  conversations := room.conversations
  fts := room.fts

/-! The pages of the exporter. -/

namespace MigrationExporter

variable {pinyin : ChatStore.PinyinIndex} {ownerId : Int32} {room : ChatStore}

def paged (room : ChatStore) (row : MessageEntity) : Int × MigrationMessage :=
  (row.id, exported row (room.fts.find? fun entry => entry.msgId = row.msgId))

theorem joined_eq_paged (once : (room.fts.map (·.msgId)).Nodup) (row : MessageEntity) :
    joined room row = [paged room row] := by
  unfold joined paged
  rw [← List.head?_filter]
  rcases matching : room.fts.filter fun entry => entry.msgId = row.msgId with
    _ | ⟨first, _ | ⟨second, rest⟩⟩
  · rw [matching]
    rfl
  · rw [matching]
    rfl
  · exfalso
    have named (entry : FtsRow) (member : entry ∈ first :: second :: rest) :
        entry.msgId = row.msgId := by
      rw [← matching] at member
      simpa using (List.mem_filter.mp member).2
    have apart := (List.pairwise_map.mp once).filter fun entry => entry.msgId = row.msgId
    rw [matching] at apart
    refine (List.pairwise_cons.mp apart).1 second List.mem_cons_self ?_
    rw [named first List.mem_cons_self, named second (by simp)]

theorem nextBatch_reads (once : (room.fts.map (·.msgId)).Nodup) {read rest : List MessageEntity}
    {cursor : Int} (reads : ReadsUp (·.id) room.messages.rows read rest cursor) :
    nextBatch room cursor = (rest.take batchSize).map (paged room) := by
  have left : sortedById (room.messages.rows.filter fun row => cursor < row.id) = rest := reads.left
  unfold nextBatch
  rw [left, List.flatMap_congr fun row _ => joined_eq_paged once row, List.map_take,
    List.map_eq_flatMap]

theorem nextConversationBatch_reads {read rest : List ConversationEntity} {cursor : Int}
    (reads : ReadsUp (·.conversationId) room.conversations.rows read rest cursor) :
    nextConversationBatch room cursor =
      (rest.take batchSize).map ConversationEntity.toNative := by
  have left := reads.left
  unfold remaining at left
  unfold nextConversationBatch
  rw [left]

end MigrationExporter

/-! What is imported. -/

namespace MigrationImporter.MessageStore

variable {store after : MessageStore} {taken : List MessageEntity} {named : List ConversationEntity}

structure Holds (store : MessageStore) (taken : List MessageEntity)
    (named : List ConversationEntity) : Prop where
  messages : store.db.messages.rows = taken.map fun row => cut row.toNative
  fts : store.fts.length = taken.countP fun row => row.content ≠ []
  conversations : ∀ id, (store.db.conversation id).isSome = true ↔
    id ∈ taken.map (·.conversationId) ∨ id ∈ named.map (·.conversationId)

theorem indexImported_fts {m : MigrationMessage} (indexed : store.indexImported m = some after) :
    after.fts.length = store.fts.length + if m.content ≠ [] then 1 else 0 := by
  unfold indexImported at indexed
  split at indexed
  · rename_i empty
    obtain rfl := Option.some.inj indexed
    simp [empty]
  · rename_i filled
    obtain ⟨identity, _, rfl⟩ := Option.map_eq_some_iff.mp indexed
    simp [filled]

theorem showImported_fts {m : MigrationMessage} (shown : store.showImported m = some after) :
    after.fts = store.fts := by
  unfold showImported at shown
  split at shown
  · obtain rfl := Option.some.inj shown
    rfl
  · obtain ⟨conversations, _, rfl⟩ := Option.map_eq_some_iff.mp shown
    rfl

theorem Holds.importMessage (holds : Holds store taken named) {row : MessageEntity}
    {entry : Option FtsRow} (fresh : ∀ other ∈ taken, other.id ≠ row.id)
    (imported : store.importMessage (exported row entry) = some after) :
    Holds after (taken ++ [row]) named := by
  obtain ⟨messages, fts, conversations⟩ := holds
  unfold MessageStore.importMessage at imported
  split at imported
  · exact nomatch imported
  · split at imported
    · rename_i known found
      exfalso
      split at imported
      · rename_i same
        obtain ⟨member, _⟩ := message_eq_some.mp found
        rw [messages] at member
        obtain ⟨other, listed, rfl⟩ := List.mem_map.mp member
        have rows := of_decide_eq_true (Bool.and_eq_true_iff.mp same).1
        exact fresh other listed (congrArg NativeMessageRow.localOrder rows)
      · exact nomatch imported
    · simp only [Option.bind_eq_bind, Option.bind_eq_some_iff] at imported
      obtain ⟨inserted, stored, indexed, written, shown⟩ := imported
      have kept := indexImported_db written
      refine ⟨?_, ?_, fun id => ?_⟩
      · rw [(showImported_kept shown).1, kept, (Table.insert_eq_some stored).1, messages,
          List.map_append]
        rfl
      · rw [showImported_fts shown, indexImported_fts written, List.countP_append, ← fts]
        by_cases empty : row.content = [] <;> simp [exported, MessageEntity.toNative, empty]
      · have shows := showImported_conversation shown id
        rw [kept] at shows
        rw [shows]
        split
        · rename_i own
          simp [own, exported, MessageEntity.toNative]
        · rename_i other
          have other : id ≠ row.conversationId := other
          have before := conversations id
          rw [List.map_append, List.mem_append, List.map_singleton, List.mem_singleton,
            or_iff_left other]
          exact before

theorem Holds.importConversation (holds : Holds store taken named) {row : ConversationEntity}
    (imported : store.importConversation row.toNative = some after) :
    Holds after taken (named ++ [row]) := by
  obtain ⟨messages, fts, conversations⟩ := holds
  refine ⟨?_, ?_, fun id => ?_⟩
  · rw [importConversation_messages imported]
    exact messages
  · unfold MessageStore.importConversation at imported
    split at imported
    · obtain rfl := Option.some.inj imported
      exact fts
    · obtain ⟨inserted, _, rfl⟩ := Option.map_eq_some_iff.mp imported
      exact fts
  · rw [importConversation_conversation imported id]
    split
    · rename_i own
      simp [own, ConversationEntity.toNative]
    · rename_i other
      have other : id ≠ row.conversationId := other
      have before := conversations id
      rw [List.map_append, List.mem_append, List.map_singleton, List.mem_singleton,
        or_iff_left other]
      exact before

theorem Holds.importBatch (holds : Holds store taken named) {room : ChatStore}
    {page : List MessageEntity} (fresh : (taken ++ page).Pairwise fun first second =>
      first.id < second.id)
    (imported : store.importBatch ((page.map (paged room)).map (·.2)) = some after) :
    Holds after (taken ++ page) named := by
  induction page generalizing store taken with
  | nil =>
      obtain rfl := Option.some.inj imported
      rw [List.append_nil]
      exact holds
  | cons row page ih =>
      unfold MessageStore.importBatch at imported
      rw [List.map_cons, List.map_cons, List.foldlM_cons] at imported
      obtain ⟨middle, first, rest⟩ := Option.bind_eq_some_iff.mp imported
      have new : ∀ other ∈ taken, other.id ≠ row.id := by
        intro other listed
        have less := (List.pairwise_append.mp fresh).2.2 other listed row List.mem_cons_self
        omega
      have split : taken ++ row :: page = taken ++ [row] ++ page := by simp
      rw [split] at fresh ⊢
      exact ih (holds.importMessage new first) fresh rest

theorem Holds.importConversations (holds : Holds store taken named)
    {page : List ConversationEntity}
    (imported : store.importConversations (page.map ConversationEntity.toNative) = some after) :
    Holds after taken (named ++ page) := by
  induction page generalizing store named with
  | nil =>
      obtain rfl := Option.some.inj imported
      rw [List.append_nil]
      exact holds
  | cons row page ih =>
      unfold MessageStore.importConversations at imported
      rw [List.map_cons, List.foldlM_cons] at imported
      obtain ⟨middle, first, rest⟩ := Option.bind_eq_some_iff.mp imported
      have split : named ++ row :: page = named ++ [row] ++ page := by simp
      rw [split]
      exact ih (holds.importConversation first) rest

end MigrationImporter.MessageStore

/-! The pages of `execute`. -/

/-- The snapshot in `execute`: the begin and the loops over its pages. -/
def CutoverMigrationCoordinator.snapshot (pages : Nat) (baseline : Int) : CutoverStep Unit :=
  (begin baseline).bind fun
    | .error result => .done (.error result)
    | .ok _ =>
        (messagePages pages 0).bind fun
          | .error result => .done (.error result)
          | .ok _ => conversationPages pages 0

namespace CutoverWorld

open CutoverMigrationCoordinator

variable {ownerId : Int} {isBlank : Bytes → Bool} {world after : CutoverWorld}

def serve (ownerId : Int) (isBlank : Bytes → Bool) (luck : Nat → CutoverLuck)
    (served : Nat × CutoverWorld) (op : CutoverOp) : op.Reply × (Nat × CutoverWorld) :=
  let (reply, after) := served.2.answer ownerId isBlank (luck served.1) op
  (reply, (served.1 + 1, after))

theorem submit_performed {luck : CutoverLuck} {command : CopyCommand}
    (done : (world.submit ownerId luck command).1 = true) :
    world.perform ownerId command = some (world.submit ownerId luck command).2 := by
  unfold CutoverWorld.submit at done ⊢
  cases submission : luck.submission with
  | refused =>
      rw [submission] at done
      exact nomatch done
  | timesOut =>
      rw [submission] at done
      exact nomatch done
  | runs =>
      rw [submission] at done
      dsimp only at done ⊢
      obtain same | ⟨after, performed, same⟩ := @command_cases ownerId world luck.works command
      · rw [same] at done
        exact nomatch done
      · rw [same]
        exact performed

structure Imports (room : ChatStore) (taken : List MessageEntity) (named : List ConversationEntity)
    (world : CutoverWorld) : Prop where
  tables : world.tables = room.tables
  state : world.delta.native.state = .shadowImport
  holds : world.delta.native.store.Holds taken named
  messageStream : taken ≠ [] → world.streams.message.isSome = true
  conversationStream : named ≠ [] → world.streams.conversation.isSome = true

variable {room : ChatStore} {taken : List MessageEntity} {named : List ConversationEntity}

theorem Imports.importBatch (imports : Imports room taken named world) {page : List MessageEntity}
    (fresh : (taken ++ page).Pairwise fun first second => first.id < second.id) (filled : page ≠ [])
    (performed : world.perform ownerId (.importBatch (page.map (paged room))) = some after) :
    Imports room (taken ++ page) named after := by
  simp only [CutoverWorld.perform, imports.state, ne_eq, not_true, if_false] at performed
  obtain ⟨store, imported, rfl⟩ := Option.map_eq_some_iff.mp performed
  refine { imports with
    state := rfl
    holds := imports.holds.importBatch fresh imported
    messageStream := fun _ => ?_ }
  simpa using filled

theorem Imports.importConversations (imports : Imports room taken named world)
    {page : List ConversationEntity} (filled : page ≠ [])
    (performed : world.perform ownerId
      (.importConversations (page.map ConversationEntity.toNative)) = some after) :
    Imports room taken (named ++ page) after := by
  simp only [CutoverWorld.perform, imports.state, ne_eq, not_true, if_false] at performed
  obtain ⟨store, imported, rfl⟩ := Option.map_eq_some_iff.mp performed
  refine { imports with
    state := rfl
    holds := imports.holds.importConversations imported
    conversationStream := fun _ => ?_ }
  simpa using filled

variable {luck : Nat → CutoverLuck} {served final : Nat × CutoverWorld}

theorem submitted_performed {Value : Type} {value reply : Value} {luck : CutoverLuck}
    {command : CopyCommand}
    (response : (if (world.submit ownerId luck command).1 then .ok value else .error luck.text :
      Except String Value) = .ok reply) :
    world.perform ownerId command = some (world.submit ownerId luck command).2 := by
  split at response
  · rename_i done
    exact submit_performed done
  · exact nomatch response

theorem readable {Value : Type} {reads : Bool} {value read : Value}
    (answered : (if reads then some value else none) = some read) : read = value := by
  split at answered
  · exact (Option.some.inj answered).symm
  · exact nomatch answered

theorem messagePages_complete {pages : Nat} {cursor : Int}
    (complete : (messagePages (pages + 1) cursor).run (serve ownerId isBlank luck) served =
      (.ok (), final)) :
    nextBatch served.2.tables.store cursor = [] ∧ final.2 = served.2 ∨
      ∃ front last, nextBatch served.2.tables.store cursor = front ++ [last] ∧
        ∃ moment middle,
          served.2.perform ownerId (.importBatch (nextBatch served.2.tables.store cursor)) =
              some middle ∧
          ((nextBatch served.2.tables.store cursor).length < batchSize ∧ final = (moment, middle) ∨
            (messagePages pages last.1).run (serve ownerId isBlank luck)
              (moment, middle) = (.ok (), final)) := by
  obtain ⟨reply, middle, answered, complete⟩ := Program.run_ask_eq complete
  obtain ⟨read, rfl⟩ := Prod.mk.inj answered
  rcases reply with _ | batch
  · exact nomatch congrArg Prod.fst complete
  obtain rfl := readable read
  simp only at complete
  split at complete
  · rename_i empty
    exact .inl ⟨List.getLast?_eq_none_iff.mp empty, (congrArg (·.2.2) complete).symm⟩
  · rename_i last found
    obtain ⟨front, split⟩ := List.getLast?_eq_some_iff.mp found
    obtain ⟨response, middle, answered, complete⟩ := Program.run_ask_eq complete
    obtain ⟨responded, ended⟩ := Prod.mk.inj answered
    rcases response with text | _
    · exact nomatch congrArg Prod.fst complete
    refine .inr ⟨front, last, split, middle.1, middle.2, ?_, ?_⟩
    · rw [← ended]
      exact submitted_performed responded
    · simp only at complete
      split at complete
      · rename_i short
        exact .inl ⟨short, (congrArg Prod.snd complete).symm⟩
      · exact .inr complete

theorem conversationPages_complete {pages : Nat} {cursor : Int}
    (complete : (conversationPages (pages + 1) cursor).run (serve ownerId isBlank luck) served =
      (.ok (), final)) :
    nextConversationBatch served.2.tables.store cursor = [] ∧ final.2 = served.2 ∨
      ∃ front last, nextConversationBatch served.2.tables.store cursor = front ++ [last] ∧
        ∃ moment middle,
          served.2.perform ownerId
              (.importConversations (nextConversationBatch served.2.tables.store cursor)) =
              some middle ∧
          ((nextConversationBatch served.2.tables.store cursor).length < batchSize ∧
              final = (moment, middle) ∨
            (conversationPages pages last.conversationId).run (serve ownerId isBlank luck)
              (moment, middle) = (.ok (), final)) := by
  obtain ⟨reply, middle, answered, complete⟩ := Program.run_ask_eq complete
  obtain ⟨read, rfl⟩ := Prod.mk.inj answered
  rcases reply with _ | batch
  · exact nomatch congrArg Prod.fst complete
  obtain rfl := readable read
  simp only at complete
  split at complete
  · rename_i empty
    exact .inl ⟨List.getLast?_eq_none_iff.mp empty, (congrArg (·.2.2) complete).symm⟩
  · rename_i last found
    obtain ⟨front, split⟩ := List.getLast?_eq_some_iff.mp found
    obtain ⟨response, middle, answered, complete⟩ := Program.run_ask_eq complete
    obtain ⟨responded, ended⟩ := Prod.mk.inj answered
    rcases response with text | _
    · exact nomatch congrArg Prod.fst complete
    refine .inr ⟨front, last, split, middle.1, middle.2, ?_, ?_⟩
    · rw [← ended]
      exact submitted_performed responded
    · simp only at complete
      split at complete
      · rename_i short
        exact .inl ⟨short, (congrArg Prod.snd complete).symm⟩
      · exact .inr complete

theorem messagePages_imports (once : (room.fts.map (·.msgId)).Nodup) (pages : Nat) {cursor : Int}
    {rest : List MessageEntity} (reads : ReadsUp (·.id) room.messages.rows taken rest cursor)
    (imports : Imports room taken [] served.2)
    (complete : (messagePages pages cursor).run (serve ownerId isBlank luck) served =
      (.ok (), final)) :
    ∃ all, all.Perm room.messages.rows ∧ Imports room all [] final.2 := by
  induction pages generalizing cursor rest taken served with
  | zero => exact nomatch congrArg Prod.fst complete
  | succ pages ih =>
      have page : nextBatch served.2.tables.store cursor = (rest.take batchSize).map (paged room) := by
        rw [imports.tables]
        exact nextBatch_reads once reads
      have whole := rest.take_append_drop batchSize
      obtain ⟨empty, ended⟩ | ⟨front, last, split, moment, middle, performed, onward⟩ :=
        messagePages_complete complete
      · rw [page, List.map_eq_nil_iff, List.take_eq_nil_iff] at empty
        obtain rfl := empty.resolve_left (by decide)
        refine ⟨taken, by simpa using reads.all, ?_⟩
        rw [ended]
        exact imports
      · rw [page] at performed split
        obtain ⟨first, back, parts, rfl, single⟩ := List.map_eq_append_iff.mp split
        obtain ⟨row, rfl, rfl⟩ := List.map_eq_singleton_iff.mp single
        rw [parts] at performed whole
        rw [← whole] at reads
        have next := reads.next
        have fresh := (List.pairwise_append.mp next.sorted).1
        have imported := imports.importBatch fresh (by simp) performed
        rcases onward with ⟨short, rfl⟩ | goesOn
        · have none_left : rest.drop batchSize = [] := by
            rw [page, List.length_map, List.length_take] at short
            exact List.drop_eq_nil_iff.mpr (by omega)
          refine ⟨_, ?_, imported⟩
          have all := next.all
          rwa [none_left, List.append_nil] at all
        · exact ih next imported goesOn

theorem conversationPages_imports (pages : Nat) {cursor : Int} {rest : List ConversationEntity}
    (reads : ReadsUp (·.conversationId) room.conversations.rows named rest cursor)
    (imports : Imports room taken named served.2)
    (complete : (conversationPages pages cursor).run (serve ownerId isBlank luck) served =
      (.ok (), final)) :
    ∃ all, all.Perm room.conversations.rows ∧ Imports room taken all final.2 := by
  induction pages generalizing cursor rest named served with
  | zero => exact nomatch congrArg Prod.fst complete
  | succ pages ih =>
      have page : nextConversationBatch served.2.tables.store cursor =
          (rest.take batchSize).map ConversationEntity.toNative := by
        rw [imports.tables]
        exact @nextConversationBatch_reads room _ _ _ reads
      have whole := rest.take_append_drop batchSize
      obtain ⟨empty, ended⟩ | ⟨front, last, split, moment, middle, performed, onward⟩ :=
        conversationPages_complete complete
      · rw [page, List.map_eq_nil_iff, List.take_eq_nil_iff] at empty
        obtain rfl := empty.resolve_left (by decide)
        refine ⟨named, by simpa using reads.all, ?_⟩
        rw [ended]
        exact imports
      · rw [page] at performed split
        obtain ⟨first, back, parts, rfl, single⟩ := List.map_eq_append_iff.mp split
        obtain ⟨row, rfl, rfl⟩ := List.map_eq_singleton_iff.mp single
        rw [parts] at performed whole
        rw [← whole] at reads
        have next := reads.next
        have imported := imports.importConversations (by simp) performed
        rcases onward with ⟨short, rfl⟩ | goesOn
        · have none_left : rest.drop batchSize = [] := by
            rw [page, List.length_map, List.length_take] at short
            exact List.drop_eq_nil_iff.mpr (by omega)
          refine ⟨_, ?_, imported⟩
          have all := next.all
          rwa [none_left, List.append_nil] at all
        · exact ih next imported goesOn

theorem Imports.seed (imports : Imports room taken named world) {baseline : Int}
    (performed : world.perform ownerId (.seedLegacyDeltaCheckpoint baseline) = some after) :
    Imports room taken named after := by
  simp only [CutoverWorld.perform] at performed
  split at performed
  · cases performed
  · split at performed
    · split at performed
      · obtain rfl := Option.some.inj performed
        exact imports
      · cases performed
    · obtain rfl := Option.some.inj performed
      have native : (world.delta.native.seedLegacyDeltaCheckpoint baseline).store =
          world.delta.native.store ∧
          (world.delta.native.seedLegacyDeltaCheckpoint baseline).state =
            world.delta.native.state := by
        unfold NativeDelta.seedLegacyDeltaCheckpoint
        split <;> exact ⟨rfl, rfl⟩
      refine { imports with state := native.2.trans imports.state, holds := ?_ }
      have holds := imports.holds
      rw [← native.1] at holds
      exact holds

theorem begun_imports (performed : (opened ownerId room.tables).perform ownerId .beginImport =
    some after) : Imports room [] [] after := by
  obtain rfl := Option.some.inj performed
  exact ⟨rfl, rfl, ⟨rfl, rfl, fun id => by simp [withNative, opened, DeltaWorld.opened, conversation]⟩,
    nofun, nofun⟩

theorem begin_imports {baseline : Int}
    (complete : (begin baseline).run (serve ownerId isBlank luck) (0, opened ownerId room.tables) =
      (.ok (), final)) : Imports room [] [] final.2 := by
  obtain ⟨begun, middle, answered, complete⟩ := Program.run_ask_eq complete
  obtain ⟨done, ended⟩ := Prod.mk.inj answered
  rcases begun with _ | _
  · exact nomatch congrArg Prod.fst complete
  have first : Imports room [] [] middle.2 := by
    rw [← ended]
    exact begun_imports (submit_performed done)
  obtain ⟨seeded, last, answered, complete⟩ := Program.run_ask_eq complete
  obtain ⟨done, ended⟩ := Prod.mk.inj answered
  rcases seeded with text | checkpoint
  · exact nomatch congrArg Prod.fst complete
  have second : Imports room [] [] last.2 := by
    rw [← ended]
    exact first.seed (submitted_performed done)
  simp only at complete
  split at complete
  · exact nomatch congrArg Prod.fst complete
  · have ended : last = final := congrArg Prod.snd complete
    rw [← ended]
    exact second

theorem snapshot_imports {pinyin : ChatStore.PinyinIndex} {account : Int32}
    (formed : room.WellFormed pinyin account) {pages : Nat} {baseline : Int}
    (complete : (snapshot pages baseline).run (serve ownerId isBlank luck)
      (0, opened ownerId room.tables) = (.ok (), final)) :
    ∃ taken named, taken.Perm room.messages.rows ∧ named.Perm room.conversations.rows ∧
      Imports room taken named final.2 := by
  have complete := (Program.run_bind _ _).symm.trans complete
  rcases begun : (begin baseline).run (serve ownerId isBlank luck) (0, opened ownerId room.tables)
    with ⟨result | _, start⟩
  · rw [begun] at complete
    exact nomatch congrArg Prod.fst complete
  rw [begun] at complete
  have complete := (Program.run_bind _ _).symm.trans complete
  rcases paged : (messagePages pages 0).run (serve ownerId isBlank luck) start
    with ⟨result | _, middle⟩
  · rw [paged] at complete
    exact nomatch congrArg Prod.fst complete
  rw [paged] at complete
  have ids : room.messages.rows.Pairwise fun first second => first.id ≠ second.id :=
    room.messages.unique.imp fun apart same => by simp [MessageEntity.clashes, same] at apart
  have conversationIds : room.conversations.rows.Pairwise fun first second =>
      first.conversationId ≠ second.conversationId :=
    room.conversations.unique.imp fun apart same => by
      simp [ConversationEntity.clashes, same] at apart
  have positive (row : ConversationEntity) (member : row ∈ room.conversations.rows) :
      0 < row.conversationId := by
    have bounds := packed_bounds ⟨row.peerId, rfl, formed.conversations row member⟩
    omega
  obtain ⟨taken, all, imports⟩ := messagePages_imports formed.once pages
    (reads_start ids fun row member => (formed.ids row member).1) (begin_imports begun) paged
  obtain ⟨named, also, imports⟩ := conversationPages_imports pages
    (reads_start conversationIds positive) imports complete
  exact ⟨taken, named, all, also, imports⟩

end CutoverWorld

/-! The counts. -/

theorem smallest_perm {first second : List Int} (same : first.Perm second) :
    smallest first = smallest second := by
  have filtered := same.filter fun number => 0 < number
  unfold smallest
  congr 1
  refine Option.ext fun number => ?_
  simp only [List.min?_eq_some_iff, filtered.mem_iff]

theorem largest_perm {first second : List Int} (same : first.Perm second) :
    largest first = largest second := by
  have filtered := same.filter fun number => 0 < number
  unfold largest
  congr 1
  refine Option.ext fun number => ?_
  simp only [List.max?_eq_some_iff, filtered.mem_iff]

theorem subset_of_length_le {Key : Type} {part whole : List Key} (distinct : part.Nodup)
    (inside : part ⊆ whole) (long : whole.length ≤ part.length) : whole ⊆ part := by
  have same := (distinct.subperm inside).perm_of_length_le long
  exact fun key member => same.mem_iff.mpr member

theorem length_eq_iff_subset {Key : Type} {part whole : List Key} (distinct : part.Nodup)
    (also : whole.Nodup) (inside : part ⊆ whole) :
    whole.length = part.length ↔ whole ⊆ part := by
  constructor
  · intro same
    exact subset_of_length_le distinct inside (Nat.le_of_eq same)
  · intro other
    exact Nat.le_antisymm (also.subperm other).length_le (distinct.subperm inside).length_le

structure ChatStore.Covered (room : ChatStore) : Prop where
  conversations : ∀ row ∈ room.messages.rows,
    ∃ conversation ∈ room.conversations.rows, conversation.conversationId = row.conversationId
  fts : ∀ row ∈ room.messages.rows, row.hasText = true → ∃ entry ∈ room.fts, entry.msgId = row.msgId

section Counts

variable {pinyin : ChatStore.PinyinIndex} {ownerId : Int32} {room : ChatStore}
  {store : MessageStore} {taken : List MessageEntity} {named : List ConversationEntity}

theorem conversationIds_nodup (store : MessageStore) :
    (store.db.conversations.rows.map (·.conversationId)).Nodup := by
  refine List.pairwise_map.mpr (store.db.conversations.unique.imp fun apart same => ?_)
  simp [ConversationRow.clashes, same] at apart

theorem conversations_agree (holds : store.Holds taken named)
    (all : taken.Perm room.messages.rows) (also : named.Perm room.conversations.rows) :
    store.db.conversations.rows.length = room.conversations.rows.length ↔
      ∀ row ∈ room.messages.rows, ∃ conversation ∈ room.conversations.rows,
        conversation.conversationId = row.conversationId := by
  have ids (id : Int) : id ∈ store.db.conversations.rows.map (·.conversationId) ↔
      id ∈ room.messages.rows.map (·.conversationId) ∨
        id ∈ room.conversations.rows.map (·.conversationId) := by
    rw [← (all.map (·.conversationId)).mem_iff, ← (also.map (·.conversationId)).mem_iff,
      ← holds.conversations id, Option.isSome_iff_exists]
    simp only [conversation_eq_some, List.mem_map]
  have roomIds : (room.conversations.rows.map (·.conversationId)).Nodup := by
    refine List.pairwise_map.mpr (room.conversations.unique.imp fun apart same => ?_)
    simp [ConversationEntity.clashes, same] at apart
  have inside : room.conversations.rows.map (·.conversationId) ⊆
      store.db.conversations.rows.map (·.conversationId) :=
    fun id member => (ids id).mpr (.inr member)
  have lengths := length_eq_iff_subset roomIds (conversationIds_nodup store) inside
  rw [List.length_map, List.length_map] at lengths
  rw [lengths]
  constructor
  · intro within row member
    have known := within ((ids _).mpr (.inl (List.mem_map_of_mem member)))
    exact List.mem_map.mp known
  · intro covered id member
    rcases (ids id).mp member with fromMessage | fromConversation
    · obtain ⟨row, stored, rfl⟩ := List.mem_map.mp fromMessage
      exact List.mem_map.mpr (covered row stored)
    · exact fromConversation

theorem fts_agree (formed : room.WellFormed pinyin ownerId) (holds : store.Holds taken named)
    (all : taken.Perm room.messages.rows) :
    store.fts.length = room.fts.length ↔
      ∀ row ∈ room.messages.rows, row.hasText = true →
        ∃ entry ∈ room.fts, entry.msgId = row.msgId := by
  have texts : store.fts.length =
      ((room.messages.rows.filter MessageEntity.hasText).map (·.msgId)).length := by
    rw [holds.fts, all.countP_eq, List.length_map, ← List.countP_eq_length_filter]
    refine List.countP_congr fun row member => ?_
    have plain := formed.texts row member
    simp only [MessageEntity.hasText, Bool.and_eq_true, decide_eq_true_eq]
    exact ⟨fun filled => ⟨by_contra fun other => filled (plain other), filled⟩, fun both => both.2⟩
  have textIds : ((room.messages.rows.filter MessageEntity.hasText).map (·.msgId)).Nodup := by
    refine List.pairwise_map.mpr ((room.messages.unique.filter _).imp fun apart same => ?_)
    simp [MessageEntity.clashes, same] at apart
  have inside : room.fts.map (·.msgId) ⊆
      (room.messages.rows.filter MessageEntity.hasText).map (·.msgId) := by
    intro msgId member
    obtain ⟨entry, indexed, rfl⟩ := List.mem_map.mp member
    obtain ⟨row, stored, hasText, rfl⟩ := formed.indexed entry indexed
    exact List.mem_map.mpr ⟨row, List.mem_filter.mpr ⟨stored, hasText⟩, rfl⟩
  have entries : room.fts.length = (room.fts.map (·.msgId)).length := (List.length_map _).symm
  rw [texts, entries, length_eq_iff_subset formed.once textIds inside]
  constructor
  · intro within row stored hasText
    have known := within (List.mem_map.mpr ⟨row, List.mem_filter.mpr ⟨stored, hasText⟩, rfl⟩)
    exact List.mem_map.mp known
  · intro covered msgId member
    obtain ⟨row, chosen, rfl⟩ := List.mem_map.mp member
    obtain ⟨stored, hasText⟩ := List.mem_filter.mp chosen
    exact List.mem_map.mpr (covered row stored hasText)

theorem computeSummary_eq_iff (formed : room.WellFormed pinyin ownerId)
    (holds : store.Holds taken named) (all : taken.Perm room.messages.rows)
    (also : named.Perm room.conversations.rows) :
    store.computeSummary = MigrationExporter.summary room ↔ room.Covered := by
  have rows : store.db.messages.rows.length = room.messages.rows.length := by
    rw [holds.messages, List.length_map, all.length_eq]
  have seqs : (store.db.messages.rows.map (·.conversationSeq)).Perm
      (room.messages.rows.map (·.seq)) := by
    rw [holds.messages, List.map_map]
    exact all.map (·.seq)
  have conversations := conversations_agree holds all also
  have fts := fts_agree formed holds all
  simp only [MessageStore.computeSummary, MigrationExporter.summary, MigrationSummary.mk.injEq,
    rows, smallest_perm seqs, largest_perm seqs, true_and, Nat.cast_inj, conversations, fts]
  exact ⟨fun both => ⟨both.1, both.2⟩, fun covered => ⟨covered.conversations, covered.fts⟩⟩

theorem messageIds_nodup (store : MessageStore) :
    (store.db.messages.rows.map (·.msgId)).Nodup := by
  refine List.pairwise_map.mpr (store.db.messages.unique.imp fun apart same => ?_)
  simp [NativeMessageRow.clashes, same] at apart

structure PartOf (room : ChatStore) (store : MessageStore) : Prop where
  messages : ∀ row ∈ store.db.messages.rows,
    ∃ message ∈ room.messages.rows, row.msgId = (cstr message.msgId).bytes
  conversations : ∀ row ∈ store.db.conversations.rows,
    (∃ conversation ∈ room.conversations.rows, conversation.conversationId = row.conversationId) ∨
      ∃ message ∈ room.messages.rows, message.conversationId = row.conversationId

def Lacks (room : ChatStore) (store : MessageStore) : Prop :=
  (∃ message ∈ room.messages.rows, store.db.message (cstr message.msgId).bytes = none) ∨
    ∃ conversation ∈ room.conversations.rows,
      store.db.conversation conversation.conversationId = none

theorem lacking_refused (covered : room.Covered) (part : PartOf room store)
    (lacks : Lacks room store) (streams : SnapshotStreams) :
    MigrationImporter.finish streams store (MigrationExporter.summary room) = false := by
  rw [Bool.eq_false_iff]
  intro finished
  simp only [MigrationImporter.finish, Bool.and_eq_true, decide_eq_true_eq,
    MessageStore.computeSummary, MigrationExporter.summary, MigrationSummary.mk.injEq,
    Nat.cast_inj] at finished
  obtain ⟨_, messages, conversations, _⟩ := finished
  rcases lacks with ⟨message, stored, missing⟩ | ⟨conversation, stored, missing⟩
  · have inside : store.db.messages.rows.map (·.msgId) ⊆
        room.messages.rows.map fun message => (cstr message.msgId).bytes := by
      intro msgId member
      obtain ⟨row, native, rfl⟩ := List.mem_map.mp member
      obtain ⟨message, stored, same⟩ := part.messages row native
      exact List.mem_map.mpr ⟨message, stored, same.symm⟩
    have within := subset_of_length_le (messageIds_nodup store) inside (by simp [messages])
    obtain ⟨row, native, same⟩ := List.mem_map.mp (within (List.mem_map_of_mem stored))
    exact message_eq_none.mp missing row native same
  · have inside : store.db.conversations.rows.map (·.conversationId) ⊆
        room.conversations.rows.map (·.conversationId) := by
      intro id member
      obtain ⟨row, native, rfl⟩ := List.mem_map.mp member
      rcases part.conversations row native with known | ⟨message, sent, same⟩
      · exact List.mem_map.mpr known
      · rw [← same]
        exact List.mem_map.mpr (covered.conversations message sent)
    have within := subset_of_length_le (conversationIds_nodup store) inside
      (by simp [conversations])
    obtain ⟨row, native, same⟩ := List.mem_map.mp (within (List.mem_map_of_mem stored))
    exact conversation_eq_none.mp missing row native same

end Counts

namespace CutoverWorld

open CutoverMigrationCoordinator

variable {pinyin : ChatStore.PinyinIndex} {account : Int32} {ownerId : Int} {room : ChatStore}
  {taken : List MessageEntity} {named : List ConversationEntity} {world : CutoverWorld}

theorem finish_imported (formed : room.WellFormed pinyin account)
    (imports : Imports room taken named world) (all : taken.Perm room.messages.rows)
    (also : named.Perm room.conversations.rows) :
    (world.perform ownerId (.finish (MigrationExporter.summary room))).isSome = true ↔
      room.Covered := by
  have messageStream : (decide (0 < (MigrationExporter.summary room).messages) &&
      world.streams.message.isNone) = false := by
    rw [Bool.and_eq_false_iff, decide_eq_false_iff_not]
    by_cases empty : room.messages.rows = []
    · exact .inl (by simp [MigrationExporter.summary, empty])
    · have some_taken : taken ≠ [] := fun bare => empty (List.nil_perm.mp (bare ▸ all))
      exact .inr (by simpa using imports.messageStream some_taken)
  have conversationStream : (decide (0 < (MigrationExporter.summary room).conversations) &&
      world.streams.conversation.isNone) = false := by
    rw [Bool.and_eq_false_iff, decide_eq_false_iff_not]
    by_cases empty : room.conversations.rows = []
    · exact .inl (by simp [MigrationExporter.summary, empty])
    · have some_named : named ≠ [] := fun bare => empty (List.nil_perm.mp (bare ▸ also))
      exact .inr (by simpa using imports.conversationStream some_named)
  have counts := computeSummary_eq_iff formed imports.holds all also
  simp only [CutoverWorld.perform, imports.state, ne_eq, not_true, if_false,
    MigrationImporter.finish, messageStream, conversationStream, Bool.not_false, Bool.true_and,
    decide_eq_true_eq]
  rw [← counts]
  split
  · rename_i same
    simp [same]
  · rename_i different
    simp [different]

/-- A complete import of what the writers left is accepted, and one that lacks a row is refused,
where every message has its conversation and every text its index row; elsewhere it is not. -/
theorem reconciliation_accepts (pinyin : ChatStore.PinyinIndex) (account : Int32) (ownerId : Int)
    (isBlank : Bytes → Bool) (calls : List ChatStoreCall) (luck : Nat → CutoverLuck) (pages : Nat)
    (baseline : Int) (final : Nat × CutoverWorld)
    (complete : (snapshot pages baseline).run (serve ownerId isBlank luck)
      (0, opened ownerId (calls.foldl (ChatStore.call pinyin account) {}).tables) =
        (.ok (), final)) :
    ((final.2.perform ownerId (.finish (MigrationExporter.summary
        (calls.foldl (ChatStore.call pinyin account) {})))).isSome = true ∧
      ∀ streams store, PartOf (calls.foldl (ChatStore.call pinyin account) {}) store →
        Lacks (calls.foldl (ChatStore.call pinyin account) {}) store →
        MigrationImporter.finish streams store (MigrationExporter.summary
          (calls.foldl (ChatStore.call pinyin account) {})) = false) ↔
    (calls.foldl (ChatStore.call pinyin account) {}).Covered := by
  have formed : (calls.foldl (ChatStore.call pinyin account) {}).WellFormed pinyin account :=
    List.foldlRecOn calls _ (ChatStore.empty_wellFormed pinyin account) fun _ before call _ =>
      before.call call
  obtain ⟨taken, named, all, also, imports⟩ := snapshot_imports formed complete
  have accepted := @finish_imported pinyin account ownerId _ taken named final.2 formed imports all also
  constructor
  · intro both
    exact accepted.mp both.1
  · intro covered
    exact ⟨accepted.mpr covered, fun streams store part lacks =>
      lacking_refused covered part lacks streams⟩

/-- A message of the peer 2, and what `save` does with it, or with a roamed one. -/
def greeting : ChatMessage :=
  { msgId := ascii "m", peerId := 2, fromMe := false, text := ascii "hi", ts := 1, seq := 1 }

def roamed : List ChatStoreCall := [.insertWithFts greeting []]

def saved : List ChatStoreCall := roamed ++ [.upsertOnMessage greeting true]

def imported (calls : List ChatStoreCall) : Except CutoverResult Unit × (Nat × CutoverWorld) :=
  (snapshot 1 0).run (serve 1 (fun _ => false) fun _ => { site := { other := calm } })
    (0, opened 1 (calls.foldl (ChatStore.call (fun _ => ([], [])) 1) {}).tables)

theorem reconciliation_accepts_saved :
    ((imported saved).2.2.perform 1 (.finish (MigrationExporter.summary
        (saved.foldl (ChatStore.call (fun _ => ([], [])) 1) {})))).isSome = true ∧
      ∀ streams store, PartOf (saved.foldl (ChatStore.call (fun _ => ([], [])) 1) {}) store →
        Lacks (saved.foldl (ChatStore.call (fun _ => ([], [])) 1) {}) store →
        MigrationImporter.finish streams store (MigrationExporter.summary
          (saved.foldl (ChatStore.call (fun _ => ([], [])) 1) {})) = false := by
  refine (reconciliation_accepts (fun _ => ([], [])) 1 1 (fun _ => false) saved
    (fun _ => { site := { other := calm } }) 1 0 (imported saved).2
    (Prod.ext (by decide +kernel) rfl)).mpr ⟨?_, ?_⟩
  · decide +kernel
  · decide +kernel

/-- A roamed message comes without its conversation; the importer makes one and counts it. -/
theorem reconciliation_refuses_roamed :
    (imported roamed).1 = .ok () ∧
      ((imported roamed).2.2.perform 1 (.finish (MigrationExporter.summary
        (roamed.foldl (ChatStore.call (fun _ => ([], [])) 1) {})))).isSome = false := by
  decide +kernel

end CutoverWorld

end Jitong
