import Jitong.ChatStore
import Jitong.ConversationMigration

/-!
`MIGRATION_4_5` of the Room database: the ids of version 4 packed a pair of users into 20 bits and
the rest, and two statements rewrite them all. The id of a conversation is its primary key, so a
scan of `conversations` meets the rows in the order of their old ids.
-/

namespace Jitong

open Lib

namespace RoomMigration

structure OwnedRow (Columns : Type) where
  conversationId : Int
  ownerId : Int32
  peerId : Int32
  columns : Columns
  deriving DecidableEq

structure MessageColumns (Rest : Type) where
  id : Int
  msgId : Bytes
  rest : Rest
  deriving DecidableEq

variable {Columns Rest : Type}

/-- The primary key and the index on `ownerId, msgId`. -/
def messageClashes (first second : OwnedRow (MessageColumns Rest)) : Bool :=
  first.columns.id = second.columns.id ||
    first.ownerId = second.ownerId && first.columns.msgId = second.columns.msgId

def conversationClashes (first second : OwnedRow Columns) : Bool :=
  first.conversationId = second.conversationId

structure RoomDatabase (Rest Columns : Type) where
  messages : Table (OwnedRow (MessageColumns Rest)) messageClashes
  conversations : Table (OwnedRow Columns) conversationClashes
  scanned : conversations.rows.Pairwise fun first second =>
    first.conversationId < second.conversationId

def lower (row : OwnedRow Columns) : Int32 :=
  if row.ownerId < row.peerId then row.ownerId else row.peerId

def upper (row : OwnedRow Columns) : Int32 :=
  if row.ownerId < row.peerId then row.peerId else row.ownerId

def packedId (row : OwnedRow Columns) : Int :=
  (((lower row).toInt64.toUInt64 <<< 32) |||
    ((upper row).toInt64.toUInt64 &&& 4294967295)).toInt64.toInt

def oldId (row : OwnedRow Columns) : Int := (lower row).toInt * 1048576 + (upper row).toInt

def rename (row : OwnedRow Columns) : OwnedRow Columns := { row with conversationId := packedId row }

def migrate (db : RoomDatabase Rest Columns) :
    Option (Table (OwnedRow (MessageColumns Rest)) messageClashes ×
      Table (OwnedRow Columns) conversationClashes) := do
  let messages ← db.messages.updateEach rename
  let conversations ← db.conversations.updateEach rename
  pure (messages, conversations)

/-! The ids. -/

theorem toNat_wide {id : Int32} (positive : 0 < id) :
    (id.toInt64.toUInt64.toNat : Int) = id.toInt := by
  have above : 0 < id.toInt := Int32.lt_iff_toInt_lt.mp positive
  have cond := BitVec.toInt_eq_toNat_cond id.toInt64.toBitVec
  have bound := id.toInt64.toBitVec.isLt
  change id.toInt64.toInt = _ at cond
  rw [Int32.toInt_toInt64] at cond
  change (id.toInt64.toBitVec.toNat : Int) = id.toInt
  split at cond <;> omega

theorem lower_upper {row : OwnedRow Columns} (positive : 0 < row.ownerId ∧ 0 < row.peerId) :
    0 < lower row ∧ 0 < upper row ∧
      (lower row).toInt = min row.ownerId.toInt row.peerId.toInt ∧
      (upper row).toInt = max row.ownerId.toInt row.peerId.toInt := by
  unfold lower upper
  by_cases order : row.ownerId < row.peerId
  · have numbers := Int32.lt_iff_toInt_lt.mp order
    rw [if_pos order, if_pos order]
    exact ⟨positive.1, positive.2, by omega, by omega⟩
  · have numbers := mt Int32.lt_iff_toInt_lt.mpr order
    rw [if_neg order, if_neg order]
    exact ⟨positive.2, positive.1, by omega, by omega⟩

theorem packedId_eq {row : OwnedRow Columns} (positive : 0 < row.ownerId ∧ 0 < row.peerId) :
    packedId row = min row.ownerId.toInt row.peerId.toInt * 4294967296 +
      max row.ownerId.toInt row.peerId.toInt := by
  obtain ⟨low, high, lowIs, highIs⟩ := lower_upper positive
  have lowNumber := toNat_wide low
  have highNumber := toNat_wide high
  have lowBound := (lower row).toInt_lt
  have highBound := (upper row).toInt_lt
  have masked : ((upper row).toInt64.toUInt64 &&& 4294967295).toNat =
      (upper row).toInt64.toUInt64.toNat := by
    rw [UInt64.toNat_and]
    have mask := Nat.and_two_pow_sub_one_eq_mod (upper row).toInt64.toUInt64.toNat 32
    change _ &&& 4294967295 = _
    change _ &&& 4294967295 = _ at mask
    rw [mask]
    omega
  have shifted : (lower row).toInt64.toUInt64.toNat <<< 32 % 2 ^ 64 =
      (lower row).toInt64.toUInt64.toNat <<< 32 := by
    simp only [Nat.shiftLeft_eq]
    omega
  have packed : (((lower row).toInt64.toUInt64 <<< 32) |||
      ((upper row).toInt64.toUInt64 &&& 4294967295)).toNat =
        (lower row).toInt64.toUInt64.toNat * 2 ^ 32 + (upper row).toInt64.toUInt64.toNat := by
    rw [UInt64.toNat_or, masked, UInt64.toNat_shiftLeft, UInt64.toNat_ofNat,
      show 32 % 2 ^ 64 % 64 = 32 from rfl, shifted,
      ← Nat.shiftLeft_add_eq_or_of_lt (by omega), Nat.shiftLeft_eq]
  unfold packedId
  rw [toInt_toInt64 (by omega), packed]
  omega

theorem conversationId_eq {row : OwnedRow Columns} (positive : 0 < row.ownerId ∧ 0 < row.peerId) :
    ChatStore.conversationId row.ownerId row.peerId = some (packedId row) := by
  rw [ChatStore.conversationId, if_pos positive, packedId_eq positive]

theorem oldId_eq {row : OwnedRow Columns} (positive : 0 < row.ownerId ∧ 0 < row.peerId) :
    oldId row = min row.ownerId.toInt row.peerId.toInt * 1048576 +
      max row.ownerId.toInt row.peerId.toInt := by
  obtain ⟨_, _, lowIs, highIs⟩ := lower_upper positive
  rw [oldId, lowIs, highIs]

theorem oldId_lt_packedId {row : OwnedRow Columns} (positive : 0 < row.ownerId ∧ 0 < row.peerId) :
    oldId row < packedId row := by
  rw [oldId_eq positive, packedId_eq positive]
  have owner := Int32.lt_iff_toInt_lt.mp positive.1
  have peer := Int32.lt_iff_toInt_lt.mp positive.2
  change 0 < row.ownerId.toInt at owner
  change 0 < row.peerId.toInt at peer
  omega

theorem oldId_congr {first second : OwnedRow Columns}
    (firstPositive : 0 < first.ownerId ∧ 0 < first.peerId)
    (secondPositive : 0 < second.ownerId ∧ 0 < second.peerId)
    (same : packedId first = packedId second) : oldId first = oldId second := by
  rw [packedId_eq firstPositive, packedId_eq secondPositive] at same
  rw [oldId_eq firstPositive, oldId_eq secondPositive]
  have firstOwner := first.ownerId.toInt_lt
  have firstPeer := first.peerId.toInt_lt
  have secondOwner := second.ownerId.toInt_lt
  have secondPeer := second.peerId.toInt_lt
  have firstLow := Int32.lt_iff_toInt_lt.mp firstPositive.1
  have firstHigh := Int32.lt_iff_toInt_lt.mp firstPositive.2
  have secondLow := Int32.lt_iff_toInt_lt.mp secondPositive.1
  have secondHigh := Int32.lt_iff_toInt_lt.mp secondPositive.2
  change 0 < first.ownerId.toInt at firstLow
  change 0 < first.peerId.toInt at firstHigh
  change 0 < second.ownerId.toInt at secondLow
  change 0 < second.peerId.toInt at secondHigh
  omega

/-! The migration of a database of version 4. -/

structure VersionFour (db : RoomDatabase Rest Columns) : Prop where
  messages : ∀ row ∈ db.messages.rows, 0 < row.ownerId ∧ 0 < row.peerId
  conversations : ∀ row ∈ db.conversations.rows, 0 < row.ownerId ∧ 0 < row.peerId
  messageIds : ∀ row ∈ db.messages.rows, row.conversationId = oldId row
  conversationIds : ∀ row ∈ db.conversations.rows, row.conversationId = oldId row

def Renamed (before after : OwnedRow Columns) : Prop :=
  ChatStore.conversationId before.ownerId before.peerId = some after.conversationId ∧
    after = { before with conversationId := after.conversationId }

def Preserved (db : RoomDatabase Rest Columns)
    (result : Option (Table (OwnedRow (MessageColumns Rest)) messageClashes ×
      Table (OwnedRow Columns) conversationClashes)) : Prop :=
  ∃ messages conversations, result = some (messages, conversations) ∧
    List.Forall₂ Renamed db.messages.rows messages.rows ∧
    List.Forall₂ Renamed db.conversations.rows conversations.rows

def Unobstructed (db : RoomDatabase Rest Columns) : Prop :=
  ∀ first ∈ db.conversations.rows, ∀ second ∈ db.conversations.rows,
    packedId first ≠ second.conversationId

instance (db : RoomDatabase Rest Columns) : Decidable (Unobstructed db) :=
  inferInstanceAs (Decidable (∀ first ∈ db.conversations.rows, ∀ second ∈ db.conversations.rows,
    packedId first ≠ second.conversationId))

theorem renamed_rows {rows : List (OwnedRow Columns)}
    (positive : ∀ row ∈ rows, 0 < row.ownerId ∧ 0 < row.peerId) :
    List.Forall₂ Renamed rows (rows.map rename) := by
  induction rows with
  | nil => exact .nil
  | cons row rest ih =>
      refine .cons ⟨conversationId_eq (positive row List.mem_cons_self), rfl⟩ (ih fun other member => ?_)
      exact positive other (List.mem_cons_of_mem row member)

theorem messages_isSome (messages : Table (OwnedRow (MessageColumns Rest)) messageClashes) :
    (messages.updateEach rename).isSome = true := by
  have distinct : (messages.rows.map rename).Pairwise fun first second =>
      messageClashes first second = false := by
    rw [List.pairwise_map]
    exact messages.unique
  exact (Table.updateEach_isSome_iff distinct).mpr messages.unique

namespace VersionFour

variable {db : RoomDatabase Rest Columns}

theorem distinct (old : VersionFour db) : (db.conversations.rows.map rename).Pairwise
    fun first second => conversationClashes first second = false := by
  rw [List.pairwise_map]
  refine db.conversations.unique.imp_of_mem fun {first second} firstStored secondStored apart => ?_
  simp only [conversationClashes, decide_eq_false_iff_not] at apart ⊢
  intro same
  refine apart ?_
  rw [old.conversationIds first firstStored, old.conversationIds second secondStored]
  exact oldId_congr (old.conversations first firstStored) (old.conversations second secondStored) same

theorem conversations_isSome_iff (old : VersionFour db) :
    (db.conversations.updateEach rename).isSome = true ↔ Unobstructed db := by
  rw [Table.updateEach_isSome_iff old.distinct]
  constructor
  · intro ahead first firstStored second secondStored taken
    have above := oldId_lt_packedId (old.conversations first firstStored)
    rw [← old.conversationIds first firstStored, taken] at above
    have order := db.scanned.and ahead
    obtain ⟨front, back, split⟩ := List.append_of_mem firstStored
    rw [split] at order secondStored
    rcases List.mem_append.mp secondStored with earlier | later
    · have before := (List.pairwise_append.mp order).2.2 second earlier first List.mem_cons_self
      exact absurd above (not_lt.mpr (le_of_lt before.1))
    · rcases List.mem_cons.mp later with rfl | later
      · exact lt_irrefl _ above
      · have after := (List.pairwise_cons.mp (List.pairwise_append.mp order).2.1).1 second later
        simp [conversationClashes, rename, taken] at after
  · intro unobstructed
    refine List.pairwise_iff_forall_sublist.mpr fun {first second} sub => ?_
    have firstStored := sub.subset List.mem_cons_self
    have secondStored := sub.subset (List.mem_cons_of_mem first List.mem_cons_self)
    have apart := unobstructed first firstStored second secondStored
    simp [conversationClashes, rename, apart]

end VersionFour

/-- The migration keeps the history exactly when no conversation gets the id that another one has
until the update comes to it. -/
theorem migration45_preserved_iff {db : RoomDatabase Rest Columns} (old : VersionFour db) :
    Preserved db (migrate db) ↔ Unobstructed db := by
  obtain ⟨messages, updated⟩ := Option.isSome_iff_exists.mp (messages_isSome db.messages)
  rw [← old.conversations_isSome_iff, migrate]
  simp only [updated, Option.bind_eq_bind, Option.bind_some]
  constructor
  · rintro ⟨_, conversations, migrated, _⟩
    cases moved : db.conversations.updateEach rename with
    | none => simp [moved] at migrated
    | some conversations => rfl
  · intro moves
    obtain ⟨conversations, moved⟩ := Option.isSome_iff_exists.mp moves
    refine ⟨messages, conversations, by simp [moved], ?_, ?_⟩
    · rw [Table.updateEach_eq_some updated]
      exact renamed_rows old.messages
    · rw [Table.updateEach_eq_some moved]
      exact renamed_rows old.conversations

def obstructedRoom : RoomDatabase Unit Unit where
  messages := .empty
  conversations := ⟨[⟨1052671, 4095, 1, ()⟩, ⟨4294971391, 4095, 1052671, ()⟩], by decide +kernel⟩
  scanned := by decide +kernel

theorem obstructedRoom_versionFour : VersionFour obstructedRoom where
  messages := by decide +kernel
  conversations := by decide +kernel
  messageIds := by decide +kernel
  conversationIds := by decide +kernel

/-- The migration fails, and with it the opening of the database. -/
theorem obstructedRoom_refused : VersionFour obstructedRoom ∧ migrate obstructedRoom = none ∧
    ¬Preserved obstructedRoom (migrate obstructedRoom) := by
  have stopped : obstructedRoom.conversations.updateEach rename = none := by
    rw [← Option.not_isSome_iff_eq_none, obstructedRoom_versionFour.conversations_isSome_iff]
    decide +kernel
  have refused : migrate obstructedRoom = none := by
    simp [migrate, stopped]
  refine ⟨obstructedRoom_versionFour, refused, ?_⟩
  rintro ⟨_, _, migrated, _⟩
  rw [refused] at migrated
  exact nomatch migrated

def migratedRoom : RoomDatabase Unit Unit where
  messages := ⟨[⟨2097159, 7, 2, ⟨1, [97], ()⟩⟩], by decide +kernel⟩
  conversations := ⟨[⟨2097159, 7, 2, ()⟩, ⟨7340041, 7, 9, ()⟩], by decide +kernel⟩
  scanned := by decide +kernel

theorem migration45_preserved_friends : Preserved migratedRoom (migrate migratedRoom) :=
  (migration45_preserved_iff ⟨by decide +kernel, by decide +kernel, by decide +kernel,
    by decide +kernel⟩).mpr (by decide +kernel)

end RoomMigration

end Jitong
