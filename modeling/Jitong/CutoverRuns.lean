import Jitong.ChatStoreRuns
import Jitong.CutoverMigration
import Jitong.Lib.Run

/-!
The runs of a copy: what a step of the coordinator is, and what the Room database and its pages are
along a run.
-/

namespace Jitong

open Jitong.Lib NativeRepository MigrationImporter MigrationExporter

namespace Cutover

variable {pinyin : ChatStore.PinyinIndex} {ownerId : Int32}

def trimmed (room : ChatStore) (checkpoint : Int) : ChatStore :=
  { room with log := room.log.filter fun change => checkpoint < change.changeSeq }

inductive Moves (pinyin : ChatStore.PinyinIndex) (ownerId : Int32) (cutover : Cutover) :
    Cutover → Prop
  | idle : Moves pinyin ownerId cutover cutover
  | write (call : ChatStoreCall) :
      Moves pinyin ownerId cutover { cutover with room := cutover.room.call pinyin ownerId call }
  | messagesEnd {cursor : Int} (stage : cutover.stage = .messages cursor)
      (empty : nextBatch cutover.room cursor = []) :
      Moves pinyin ownerId cutover { cutover with stage := .conversations 0 }
  | messagePage {cursor : Int} {front : List (Int × MigrationMessage)}
      {last : Int × MigrationMessage} {native : MessageStore}
      (stage : cutover.stage = .messages cursor)
      (batch : nextBatch cutover.room cursor = front ++ [last])
      (imported : cutover.native.importBatch ((front ++ [last]).map Prod.snd) = some native) :
      Moves pinyin ownerId cutover { cutover with
        native := native
        stage := if (front ++ [last]).length < batchSize then .conversations 0
          else .messages last.1 }
  | conversationsEnd {cursor : Int} (stage : cutover.stage = .conversations cursor)
      (empty : nextConversationBatch cutover.room cursor = []) :
      Moves pinyin ownerId cutover { cutover with stage := .deltas }
  | conversationPage {cursor : Int} {front : List MigrationConversation}
      {last : MigrationConversation} {native : MessageStore}
      (stage : cutover.stage = .conversations cursor)
      (batch : nextConversationBatch cutover.room cursor = front ++ [last])
      (imported : cutover.native.importConversations (front ++ [last]) = some native) :
      Moves pinyin ownerId cutover { cutover with
        native := native
        stage := if (front ++ [last]).length < batchSize then .deltas
          else .conversations last.conversationId }
  | changes {front : List LegacyDeltaChange} {last : LegacyDeltaChange} {native : MessageStore}
      (stage : cutover.stage = .deltas)
      (page : nextChanges cutover.room cutover.checkpoint = front ++ [last])
      (applied : (front ++ [last]).foldlM (fun (store : MessageStore) c =>
        store.applyChange c.change) cutover.native = some native) :
      Moves pinyin ownerId cutover { cutover with
        native := native
        checkpoint := last.changeSeq
        room := trimmed cutover.room last.changeSeq }

theorem step_moves {cutover after : Cutover} {event : CutoverEvent}
    (taken : cutover.step pinyin ownerId event = some after) :
    Moves pinyin ownerId cutover after := by
  cases event with
  | write call =>
      obtain rfl := Option.some.inj taken
      exact .write call
  | page =>
      simp only [step] at taken
      split at taken
      · rename_i cursor stage
        unfold messagePage at taken
        split at taken
        · rename_i empty
          obtain rfl := Option.some.inj taken
          exact .messagesEnd stage (List.getLast?_eq_none_iff.mp empty)
        · rename_i lastId message found
          obtain ⟨native, imported, rfl⟩ := Option.map_eq_some_iff.mp taken
          obtain ⟨front, batch⟩ := List.getLast?_eq_some_iff.mp found
          rw [batch] at imported ⊢
          exact .messagePage stage batch imported
      · rename_i cursor stage
        unfold conversationPage at taken
        split at taken
        · rename_i empty
          obtain rfl := Option.some.inj taken
          exact .conversationsEnd stage (List.getLast?_eq_none_iff.mp empty)
        · rename_i last found
          obtain ⟨native, imported, rfl⟩ := Option.map_eq_some_iff.mp taken
          obtain ⟨front, batch⟩ := List.getLast?_eq_some_iff.mp found
          rw [batch] at imported ⊢
          exact .conversationPage stage batch imported
      · obtain rfl := Option.some.inj taken
        exact .idle
  | changes =>
      simp only [step] at taken
      split at taken
      · rename_i stage
        unfold catchUp at taken
        split at taken
        · obtain rfl := Option.some.inj taken
          exact .idle
        · rename_i pending
          obtain ⟨applied, batch, rfl⟩ := Option.map_eq_some_iff.mp taken
          unfold MessageStore.applyLegacyDeltaBatch at batch
          split at batch
          · rename_i empty
            exact absurd (List.getLast?_eq_none_iff.mp empty) pending
          · rename_i last found
            obtain ⟨front, page⟩ := List.getLast?_eq_some_iff.mp found
            simp only [lt_irrefl, false_and, if_false, ne_eq, not_true] at batch
            split at batch
            · exact nomatch batch
            · obtain ⟨native, folded, rfl⟩ := Option.map_eq_some_iff.mp batch
              rw [page] at folded
              exact .changes stage page folded
      · obtain rfl := Option.some.inj taken
        exact .idle

theorem run_kept {holds : Cutover → Prop} {room : ChatStore} {events : List CutoverEvent}
    {final : Cutover} (reached : events.foldlM (step pinyin ownerId) (start room) = some final)
    (initial : holds (start room))
    (kept : ∀ before after, holds before → Moves pinyin ownerId before after → holds after) :
    holds final :=
  foldlM_kept reached initial fun before _ after _ held taken =>
    kept before after held (step_moves taken)

theorem trimmed_wellFormed {room : ChatStore} (formed : room.WellFormed pinyin ownerId)
    (checkpoint : Int) : (trimmed room checkpoint).WellFormed pinyin ownerId :=
  { formed with
    logged := fun entry member => formed.logged entry (List.mem_filter.mp member).1
    increasing := formed.increasing.filter _ }

theorem Moves.wellFormed {before after : Cutover} (moves : Moves pinyin ownerId before after)
    (formed : before.room.WellFormed pinyin ownerId) : after.room.WellFormed pinyin ownerId := by
  cases moves with
  | write call => exact formed.call call
  | changes => exact trimmed_wellFormed formed _
  | _ => exact formed

end Cutover

/-! The pages. -/

namespace MigrationExporter

variable {room : ChatStore} {cursor : Int}

def exported (row : MessageEntity) (entry : Option FtsRow) : MigrationMessage :=
  { row.toNative with
    pinyin := (entry.map (·.pinyin)).getD []
    initials := (entry.map (·.initials)).getD [] }

theorem mem_joined {row : MessageEntity} {paged : Int × MigrationMessage}
    (member : paged ∈ joined room row) :
    ∃ entry : Option FtsRow, paged = (row.id, exported row entry) := by
  unfold joined at member
  split at member
  · exact ⟨none, List.mem_singleton.mp member⟩
  · obtain ⟨entry, _, rfl⟩ := List.mem_map.mp member
    exact ⟨some entry, rfl⟩

theorem mem_nextBatch {paged : Int × MigrationMessage} (member : paged ∈ nextBatch room cursor) :
    ∃ row ∈ room.messages.rows, cursor < row.id ∧
      ∃ entry : Option FtsRow, paged = (row.id, exported row entry) := by
  obtain ⟨row, listed, join⟩ := List.mem_flatMap.mp (List.mem_of_mem_take member)
  have chosen := (List.perm_insertionSort _ _).mem_iff.mp listed
  obtain ⟨stored, above⟩ := List.mem_filter.mp chosen
  exact ⟨row, stored, of_decide_eq_true above, mem_joined join⟩

theorem mem_nextConversationBatch {c : MigrationConversation}
    (member : c ∈ nextConversationBatch room cursor) :
    ∃ row ∈ room.conversations.rows, cursor < row.conversationId ∧ c = row.toNative := by
  obtain ⟨row, listed, rfl⟩ := List.mem_map.mp member
  have chosen := (List.perm_insertionSort _ _).mem_iff.mp (List.mem_of_mem_take listed)
  obtain ⟨stored, above⟩ := List.mem_filter.mp chosen
  exact ⟨row, stored, of_decide_eq_true above, rfl⟩

theorem mem_nextChanges {change : LegacyDeltaChange} {after : Int}
    (member : change ∈ nextChanges room after) : change ∈ room.log ∧ after < change.changeSeq := by
  obtain ⟨logged, above⟩ := List.mem_filter.mp (List.mem_of_mem_take member)
  exact ⟨logged, of_decide_eq_true above⟩

theorem mem_nextChanges_of_le {pinyin : ChatStore.PinyinIndex} {ownerId : Int32}
    (formed : room.WellFormed pinyin ownerId) {front : List LegacyDeltaChange}
    {last change : LegacyDeltaChange} {after : Int}
    (page : nextChanges room after = front ++ [last]) (logged : change ∈ room.log)
    (above : after < change.changeSeq) (below : change.changeSeq ≤ last.changeSeq) :
    change ∈ front ++ [last] := by
  have listed : change ∈ room.log.filter fun change => after < change.changeSeq :=
    List.mem_filter.mpr ⟨logged, by simpa using above⟩
  have ordered := formed.increasing.filter fun change => after < change.changeSeq
  rw [← List.take_append_drop batchSize (room.log.filter _)] at listed ordered
  have page : (room.log.filter fun change => after < change.changeSeq).take batchSize =
    front ++ [last] := page
  rw [page] at listed ordered
  rcases List.mem_append.mp listed with taken | dropped
  · exact taken
  · have later := (List.pairwise_append.mp ordered).2.2 last (by simp) change dropped
    omega

theorem nextBatch_ne_nil {row : MessageEntity} (stored : row ∈ room.messages.rows)
    (above : cursor < row.id) : nextBatch room cursor ≠ [] := by
  have listed : row ∈ sortedById (room.messages.rows.filter fun row => cursor < row.id) :=
    (List.perm_insertionSort _ _).mem_iff.mpr (List.mem_filter.mpr ⟨stored, by simpa using above⟩)
  have joins : joined room row ≠ [] := by
    unfold joined
    split
    · simp
    · rename_i indexed
      simpa using indexed
  obtain ⟨paged, join⟩ := List.exists_mem_of_ne_nil _ joins
  have member := List.mem_flatMap.mpr ⟨row, listed, join⟩
  intro empty
  rcases List.take_eq_nil_iff.mp empty with zero | empty
  · exact absurd zero (by decide)
  · rw [empty] at member
    exact absurd member List.not_mem_nil

end MigrationExporter

end Jitong
