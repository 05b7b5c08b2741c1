import Jitong.MessageNumbering

/-!
`migrateConversationIds`: the ids of version 0 packed a pair of users into 20
bits each and could collide. The migration rewrites them all in one `UPDATE`,
which checks the unique index on `(conversation_id, seq)` row by row.
-/

namespace Jitong

open Lib

/-- `CASE WHEN sender_id < receiver_id THEN sender_id ELSE receiver_id END`. -/
def lowerEnd (columns : StoredMessage Text) : Int32 :=
  if columns.senderId < columns.receiverId then columns.senderId else columns.receiverId

def upperEnd (columns : StoredMessage Text) : Int32 :=
  if columns.senderId < columns.receiverId then columns.receiverId else columns.senderId

def migratedId (columns : StoredMessage Text) : Int64 :=
  Int64.ofInt ((lowerEnd columns).toInt * 4294967296 + (upperEnd columns).toInt)

def legacyConversationId (columns : StoredMessage Text) : Int64 :=
  Int64.ofInt ((lowerEnd columns).toInt * 1048576 + (upperEnd columns).toInt)

/-- `user_version` and the table `messages`, whose rows are listed as a scan
meets them. -/
structure MessageDatabase where
  userVersion : Int
  messages : MessageTable

def MessageRow.migrate (row : MessageRow) : MessageRow :=
  { row with conversationId := migratedId row.columns }

def MessageTable.migrate (messages : MessageTable) : Option MessageTable :=
  match updated : messages.table.updateEach MessageRow.migrate with
  | none => none
  | some table => some ⟨table, messages.sequence, by
      intro row stored
      rw [Table.updateEach_eq_some updated] at stored
      obtain ⟨old, oldStored, rfl⟩ := List.mem_map.mp stored
      exact messages.below old oldStored⟩

/-- `writes 0` to `writes 3` are the `BEGIN`, the `UPDATE`, the `PRAGMA` and the
`COMMIT`. -/
def migrateConversationIds (writes : Nat → Bool) (db : MessageDatabase) : Bool × MessageDatabase :=
  if !writes 0 then (false, db) else
  let txn := Txn.begin db
  match (if writes 1 then txn.tables.messages.migrate else none) with
  | none => (false, txn.rollback)
  | some messages =>
      let txn := txn.write { txn.tables with messages }
      if !writes 2 then (false, txn.rollback) else
      let txn := txn.write { txn.tables with userVersion := 1 }
      if writes 3 then (true, txn.commit) else (false, txn.rollback)

/-! The two packings. -/

theorem toNat_toUInt32 {id : Int32} (positive : 0 < id) : (id.toUInt32.toNat : Int) = id.toInt := by
  have above : 0 < id.toInt := Int32.lt_iff_toInt_lt.mp positive
  have cond := BitVec.toInt_eq_toNat_cond id.toBitVec
  have bound := id.toBitVec.isLt
  change id.toInt = _ at cond
  change (id.toBitVec.toNat : Int) = id.toInt
  split at cond <;> omega

theorem toInt_toInt64 {packed : UInt64} (small : packed.toNat < 2 ^ 63) :
    packed.toInt64.toInt = packed.toNat := by
  have cond := BitVec.toInt_eq_toNat_cond packed.toBitVec
  change packed.toInt64.toInt = if 2 * packed.toNat < _ then (packed.toNat : Int) else _ at cond
  split at cond <;> omega

theorem toInt_makeConversationId {idA idB : Int32} (positive : 0 < idA ∧ 0 < idB) :
    (makeConversationId idA idB).toInt =
      (if idA < idB then idA else idB).toInt * 4294967296 +
        (if idB < idA then idA else idB).toInt := by
  have guard : ¬(idA ≤ 0 ∨ idB ≤ 0) := by
    rw [not_or, Int32.not_le, Int32.not_le]
    exact positive
  unfold makeConversationId
  rw [if_neg guard]
  dsimp only
  generalize lowEq : (if idA < idB then idA else idB) = low
  generalize highEq : (if idB < idA then idA else idB) = high
  have lowPositive : 0 < low := by
    rw [← lowEq]
    split
    · exact positive.1
    · exact positive.2
  have highPositive : 0 < high := by
    rw [← highEq]
    split
    · exact positive.1
    · exact positive.2
  have lowNumber := toNat_toUInt32 lowPositive
  have highNumber := toNat_toUInt32 highPositive
  have lowBound := low.toInt_lt
  have highBound := high.toInt_lt
  have packed := toNat_pack low.toUInt32 high.toUInt32
  rw [toInt_toInt64 (by omega), packed]
  omega

theorem makeConversationId_comm (idA idB : Int32) :
    makeConversationId idA idB = makeConversationId idB idA := by
  have same : (if idA < idB then idA else idB) = if idB < idA then idB else idA := by
    simp only [← Int32.toInt_inj, Int32.lt_iff_toInt_lt]
    split <;> split <;> omega
  have other : (if idB < idA then idA else idB) = if idA < idB then idB else idA := by
    simp only [← Int32.toInt_inj, Int32.lt_iff_toInt_lt]
    split <;> split <;> omega
  unfold makeConversationId
  rw [same, other]
  simp only [or_comm]

theorem migratedId_eq {columns : StoredMessage Text}
    (positive : 0 < columns.senderId ∧ 0 < columns.receiverId) :
    migratedId columns = makeConversationId columns.senderId columns.receiverId := by
  have packed := toInt_makeConversationId positive
  have upper : upperEnd columns = if columns.receiverId < columns.senderId then columns.senderId
      else columns.receiverId := by
    unfold upperEnd
    simp only [← Int32.toInt_inj, Int32.lt_iff_toInt_lt]
    split <;> split <;> omega
  rw [migratedId, upper, lowerEnd, ← packed, Int64.ofInt_toInt]

/-! The migration of a table of version 0. -/

structure VersionZero (messages : MessageTable) : Prop where
  positive : ∀ row ∈ messages.rows, 0 < row.columns.senderId ∧ 0 < row.columns.receiverId
  legacy : ∀ row ∈ messages.rows, row.conversationId = legacyConversationId row.columns

theorem legacyConversationId_congr {first second : StoredMessage Text}
    (firstPositive : 0 < first.senderId ∧ 0 < first.receiverId)
    (secondPositive : 0 < second.senderId ∧ 0 < second.receiverId)
    (same : migratedId first = migratedId second) :
    legacyConversationId first = legacyConversationId second := by
  rw [migratedId_eq firstPositive, migratedId_eq secondPositive] at same
  have pairs := makeConversationId_injective firstPositive secondPositive same
  have ends : lowerEnd first = lowerEnd second ∧ upperEnd first = upperEnd second := by
    unfold lowerEnd upperEnd
    rcases pairs with ⟨sender, receiver⟩ | ⟨sender, receiver⟩
    · rw [sender, receiver]
      exact ⟨rfl, rfl⟩
    · rw [sender, receiver]
      simp only [← Int32.toInt_inj, Int32.lt_iff_toInt_lt]
      split <;> split <;> omega
  rw [legacyConversationId, legacyConversationId, ends.1, ends.2]

namespace VersionZero

variable {messages : MessageTable}

theorem distinct (old : VersionZero messages) :
    (messages.rows.map MessageRow.migrate).Pairwise
      fun first second => messageClash first second = false := by
  rw [List.pairwise_map]
  refine messages.table.unique.imp_of_mem fun {first second} firstStored secondStored apart => ?_
  obtain ⟨id, msgId, number⟩ := messageClash_eq_false.mp apart
  refine messageClash_eq_false.mpr ⟨id, msgId, fun ⟨conversation, seq⟩ => number ⟨?_, seq⟩⟩
  rw [old.legacy first firstStored, old.legacy second secondStored]
  exact legacyConversationId_congr (old.positive first firstStored)
    (old.positive second secondStored) conversation

end VersionZero

/-- The migration has succeeded: every row has the id of its two users and is
otherwise what it was. -/
structure Migrated (before : MessageTable) (result : Bool × MessageDatabase) : Prop where
  success : result.1 = true
  version : result.2.userVersion = 1
  rows : result.2.messages.rows = before.rows.map fun row =>
    { row with conversationId := makeConversationId row.columns.senderId row.columns.receiverId }
  unique : result.2.messages.rows.Pairwise fun first second =>
    ¬(first.conversationId = second.conversationId ∧ first.columns.seq = second.columns.seq)

def MessageTable.Unobstructed (messages : MessageTable) : Prop :=
  messages.rows.Pairwise fun first second =>
    ¬(makeConversationId first.columns.senderId first.columns.receiverId = second.conversationId ∧
      first.columns.seq = second.columns.seq)

instance (messages : MessageTable) : Decidable messages.Unobstructed :=
  inferInstanceAs (Decidable (List.Pairwise _ _))

theorem VersionZero.migrate_isSome_iff {messages : MessageTable} (old : VersionZero messages) :
    messages.migrate.isSome ↔ messages.Unobstructed := by
  have updates : messages.migrate.isSome = (messages.table.updateEach MessageRow.migrate).isSome := by
    unfold MessageTable.migrate
    split
    · rename_i refused
      rw [refused]
      rfl
    · rename_i table updated
      exact (Option.isSome_iff_exists.mpr ⟨table, updated⟩).symm
  rw [updates, Table.updateEach_isSome_iff old.distinct]
  have rowsOf : messages.table.rows = messages.rows := rfl
  constructor
  · intro ahead
    refine ahead.imp_of_mem fun {first second} firstStored _ apart => ?_
    rw [← migratedId_eq (old.positive first firstStored)]
    exact (messageClash_eq_false.mp apart).2.2
  · intro unobstructed
    have both := messages.table.unique.and unobstructed
    refine both.imp_of_mem fun {first second} firstStored _ ⟨apart, ahead⟩ => ?_
    rw [← migratedId_eq (old.positive first firstStored)] at ahead
    obtain ⟨id, msgId, _⟩ := messageClash_eq_false.mp apart
    exact messageClash_eq_false.mpr ⟨id, msgId, ahead⟩

theorem MessageTable.migrate_eq_some {messages next : MessageTable}
    (migrated : messages.migrate = some next) :
    next.rows = messages.rows.map MessageRow.migrate := by
  unfold MessageTable.migrate at migrated
  split at migrated
  · simp at migrated
  · rename_i table updated
    obtain rfl := Option.some.inj migrated
    exact Table.updateEach_eq_some updated

/-- What the migration does when its statements run: it succeeds exactly when no
updated row meets a row that is still to be updated. -/
theorem migrateConversationIds_migrated_iff {writes : Nat → Bool} {messages : MessageTable}
    (old : VersionZero messages) :
    (∀ idA idB, makeConversationId idA idB = makeConversationId idB idA) ∧
    (∀ idA idB otherA otherB, 0 < idA ∧ 0 < idB → 0 < otherA ∧ 0 < otherB →
      makeConversationId idA idB = makeConversationId otherA otherB →
      (idA = otherA ∧ idB = otherB) ∨ (idA = otherB ∧ idB = otherA)) ∧
    (Migrated messages (migrateConversationIds writes ⟨0, messages⟩) ↔
      (∀ statement < 4, writes statement = true) ∧ messages.Unobstructed) := by
  refine ⟨makeConversationId_comm, fun _ _ _ _ => makeConversationId_injective, ?_, ?_⟩
  · intro migrated
    have success := migrated.success
    unfold migrateConversationIds at success
    dsimp only at success
    split at success
    · simp at success
    · rename_i begun
      split at success
      · simp at success
      · rename_i next updated
        split at success
        · simp at success
        · rename_i versioned
          split at success
          · rename_i committed
            by_cases ran : writes 1 = true
            · rw [if_pos ran] at updated
              refine ⟨?_, old.migrate_isSome_iff.mp (Option.isSome_iff_exists.mpr ⟨_, updated⟩)⟩
              intro statement bound
              have cases : statement = 0 ∨ statement = 1 ∨ statement = 2 ∨ statement = 3 := by omega
              rcases cases with rfl | rfl | rfl | rfl
              · simpa using begun
              · exact ran
              · simpa using versioned
              · exact committed
            · rw [if_neg ran] at updated
              simp at updated
          · simp at success
  · rintro ⟨ran, unobstructed⟩
    obtain ⟨next, updated⟩ := Option.isSome_iff_exists.mp (old.migrate_isSome_iff.mpr unobstructed)
    have result : migrateConversationIds writes ⟨0, messages⟩ = (true, ⟨1, next⟩) := by
      simp [migrateConversationIds, ran 0 (by omega), ran 1 (by omega), ran 2 (by omega),
        ran 3 (by omega), updated]
    have rows : next.rows = messages.rows.map fun row => { row with
        conversationId := makeConversationId row.columns.senderId row.columns.receiverId } := by
      rw [MessageTable.migrate_eq_some updated]
      refine List.map_congr_left fun row stored => ?_
      rw [MessageRow.migrate, migratedId_eq (old.positive row stored)]
    rw [result]
    exact ⟨rfl, rfl, rows, next.table.unique.imp fun apart =>
      (messageClash_eq_false.mp apart).2.2⟩

def legacyRow (id : Nat) (senderId receiverId : Int32) (seq : Int) : MessageRow :=
  let columns : StoredMessage Text := {
    msgId := cstr (ascii "m-" ++ decimal id)
    senderId, receiverId, seq
    type := 0
    content := cstr (ascii "hello")
    mediaPath := cstr []
    imgW := 0
    imgH := 0
    ts := 100
    fileId := cstr []
    fileSize := 0
    contentType := cstr []
    sha256 := cstr []
    thumbnailFileId := cstr []
    thumbnailPath := cstr []
    thumbnailSize := 0
    thumbnailSha256 := cstr []
    thumbnailW := 0
    thumbnailH := 0
    largeThumbnailFileId := cstr []
    largeThumbnailPath := cstr []
    largeThumbnailSize := 0
    largeThumbnailSha256 := cstr []
    largeThumbnailW := 0
    largeThumbnailH := 0 }
  ⟨id, legacyConversationId columns, false, columns⟩

def collidedMessages : MessageTable where
  table := ⟨[legacyRow 1 1 1048579 1, legacyRow 2 2 3 2], by decide +kernel⟩
  sequence := 2
  below := by decide +kernel

theorem collidedMessages_versionZero : VersionZero collidedMessages where
  positive := by decide +kernel
  legacy := by decide +kernel

theorem migrateConversationIds_migrated_collided :
    Migrated collidedMessages (migrateConversationIds (fun _ => true) ⟨0, collidedMessages⟩) :=
  (migrateConversationIds_migrated_iff collidedMessages_versionZero).2.2.mpr
    ⟨fun _ _ => rfl, by decide +kernel⟩

def obstructedMessages : MessageTable where
  table := ⟨[legacyRow 1 1 2 1, legacyRow 2 4095 1048578 1], by decide +kernel⟩
  sequence := 2
  below := by decide +kernel

theorem obstructedMessages_refused :
    VersionZero obstructedMessages ∧
      migrateConversationIds (fun _ => true) ⟨0, obstructedMessages⟩ =
        (false, ⟨0, obstructedMessages⟩) ∧
      ¬ Migrated obstructedMessages
        (migrateConversationIds (fun _ => true) ⟨0, obstructedMessages⟩) := by
  have stopped : obstructedMessages.migrate = none := by
    have old : VersionZero obstructedMessages := ⟨by decide +kernel, by decide +kernel⟩
    rw [← Option.not_isSome_iff_eq_none, old.migrate_isSome_iff]
    decide +kernel
  have refused : migrateConversationIds (fun _ => true) ⟨0, obstructedMessages⟩ =
      (false, ⟨0, obstructedMessages⟩) := by
    simp [migrateConversationIds, stopped, Txn.rollback, Txn.begin]
  refine ⟨⟨by decide +kernel, by decide +kernel⟩, refused, fun migrated => ?_⟩
  have success := migrated.success
  rw [refused] at success
  simp at success

end Jitong
