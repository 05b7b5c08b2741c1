import Jitong.Lib.Run
import Jitong.MessageTable

/-!
Numbering of messages: what holds of every table that calls of `saveMessage`
lead to, and what that makes of the conversation list.
-/

namespace Jitong

open Lib

theorem toNat_pack (low high : UInt32) :
    ((low.toUInt64 <<< 32) ||| high.toUInt64).toNat = low.toNat * 2 ^ 32 + high.toNat := by
  have lowBound := low.toNat_lt
  have shifted : low.toUInt64.toNat <<< 32 % 2 ^ 64 = low.toNat <<< 32 := by
    simp only [UInt32.toNat_toUInt64, Nat.shiftLeft_eq]
    omega
  rw [UInt64.toNat_or, UInt64.toNat_shiftLeft, UInt64.toNat_ofNat,
    show 32 % 2 ^ 64 % 64 = 32 from rfl, shifted, UInt32.toNat_toUInt64,
    ← Nat.shiftLeft_add_eq_or_of_lt high.toNat_lt, Nat.shiftLeft_eq]

theorem pack_injective {lowLeft highLeft lowRight highRight : UInt32}
    (same : (lowLeft.toUInt64 <<< 32) ||| highLeft.toUInt64 =
      (lowRight.toUInt64 <<< 32) ||| highRight.toUInt64) :
    lowLeft = lowRight ∧ highLeft = highRight := by
  have numbers := congrArg UInt64.toNat same
  rw [toNat_pack, toNat_pack] at numbers
  have left := highLeft.toNat_lt
  have right := highRight.toNat_lt
  exact ⟨UInt32.toNat_inj.mp (by omega), UInt32.toNat_inj.mp (by omega)⟩

theorem makeConversationId_injective {idA idB otherA otherB : Int32}
    (positive : 0 < idA ∧ 0 < idB) (otherPositive : 0 < otherA ∧ 0 < otherB)
    (same : makeConversationId idA idB = makeConversationId otherA otherB) :
    (idA = otherA ∧ idB = otherB) ∨ (idA = otherB ∧ idB = otherA) := by
  have guard : ¬(idA ≤ 0 ∨ idB ≤ 0) := by
    rw [not_or, Int32.not_le, Int32.not_le]
    exact positive
  have otherGuard : ¬(otherA ≤ 0 ∨ otherB ≤ 0) := by
    rw [not_or, Int32.not_le, Int32.not_le]
    exact otherPositive
  unfold makeConversationId at same
  rw [if_neg guard, if_neg otherGuard] at same
  obtain ⟨low, high⟩ := pack_injective (congrArg Int64.toUInt64 same)
  have lowSame := congrArg UInt32.toInt32 low
  have highSame := congrArg UInt32.toInt32 high
  simp only [Int32.toInt32_toUInt32] at lowSame highSame
  simp only [Int32.lt_iff_toInt_lt, ← Int32.toInt_inj] at *
  split at lowSame <;> split at lowSame <;> split at highSame <;> split at highSame <;> omega

structure SaveCall where
  writes : Nat → Bool
  message : StoredMessage Bytes
  delivered : Bool

/-- A call of `saveMessage` between two users, whether it succeeds or not. -/
def SaveStep (before : MessageTable) (call : SaveCall) (after : MessageTable) : Prop :=
  0 < call.message.senderId ∧ 0 < call.message.receiverId ∧
    after = (before.saveMessage call.writes call.message call.delivered).2.2

abbrev SaveRun : List SaveCall → MessageTable → Prop := Run SaveStep .empty

namespace MessageTable

def inConversation (messages : MessageTable) (conversationId : Int64) : List MessageRow :=
  messages.rows.filter fun row => row.conversationId = conversationId

def seqs (messages : MessageTable) (conversationId : Int64) : List Int :=
  (messages.inConversation conversationId).map (·.columns.seq)

end MessageTable

def numbers (count : Nat) : List Int := (List.range count).map fun number : Nat => (number : Int) + 1

structure Numbered (messages : MessageTable) : Prop where
  paired : ∀ row ∈ messages.rows, 0 < row.columns.senderId ∧ 0 < row.columns.receiverId ∧
    row.conversationId = makeConversationId row.columns.senderId row.columns.receiverId
  ids : messages.rows.Pairwise fun first second => first.id < second.id
  contiguous : ∀ conversationId, messages.seqs conversationId =
    numbers (messages.inConversation conversationId).length

theorem numbers_max (count : Nat) : (numbers count).max?.getD 0 = count := by
  cases count with
  | zero => rfl
  | succ count =>
      have top : (numbers (count + 1)).max? = some ((count : Int) + 1) := by
        refine List.max?_eq_some_iff.mpr ⟨?_, ?_⟩
        · exact List.mem_map.mpr ⟨count, List.mem_range.mpr (Nat.lt_succ_self count), rfl⟩
        · intro number member
          obtain ⟨index, bound, rfl⟩ := List.mem_map.mp member
          have := List.mem_range.mp bound
          omega
      rw [top]
      simp

theorem numbers_pairwise (count : Nat) : (numbers count).Pairwise (· < ·) := by
  rw [numbers, List.pairwise_map]
  exact List.pairwise_lt_range.imp fun below => by omega

namespace Numbered

variable {messages : MessageTable}

theorem nextSeq (numbered : Numbered messages) (conversationId : Int64) :
    messages.nextSeq conversationId =
      (messages.inConversation conversationId).length + 1 := by
  have listed := numbered.contiguous conversationId
  unfold MessageTable.seqs MessageTable.inConversation at listed
  rw [MessageTable.nextSeq, listed, numbers_max]
  rfl

theorem empty : Numbered .empty where
  paired := by simp [MessageTable.rows, MessageTable.empty]
  ids := .nil
  contiguous := fun _ => rfl

theorem step {before after : MessageTable} {call : SaveCall} (numbered : Numbered before)
    (taken : SaveStep before call after) : Numbered after := by
  obtain ⟨sender, receiver, rfl⟩ := taken
  rcases before.saveMessage_cases call.writes call.message call.delivered with
    ⟨_, kept⟩ | ⟨row, _, readBack⟩ | ⟨next, _, saved, rows, _⟩
  · rwa [kept]
  · rwa [readBack]
  · rw [saved]
    refine ⟨?_, ?_, ?_⟩
    · intro row stored
      rw [rows] at stored
      rcases List.mem_append.mp stored with old | new
      · exact numbered.paired row old
      · rw [List.mem_singleton.mp new]
        exact ⟨sender, receiver, rfl⟩
    · rw [rows, List.pairwise_append]
      refine ⟨numbered.ids, List.pairwise_singleton _ _, ?_⟩
      intro row stored added new
      rw [List.mem_singleton.mp new]
      exact Nat.lt_succ_of_le (before.below row stored)
    · intro conversationId
      have listed := numbered.contiguous conversationId
      simp only [MessageTable.seqs, MessageTable.inConversation] at listed ⊢
      rw [rows, List.filter_append, List.map_append, List.length_append, listed]
      by_cases same : makeConversationId call.message.senderId call.message.receiverId =
          conversationId
      · -- the new row takes the number after the last one of its conversation
        have number := numbered.nextSeq conversationId
        rw [MessageTable.inConversation] at number
        simp [same, StoredMessage.map, number, numbers, List.range_succ]
      · simp [same]

theorem run {calls : List SaveCall} (saved : SaveRun calls messages) : Numbered messages :=
  saved.invariant empty fun _ _ _ numbered taken => numbered.step taken

theorem together (numbered : Numbered messages) {first second : MessageRow}
    (firstStored : first ∈ messages.rows) (secondStored : second ∈ messages.rows)
    (same : first.conversationId = second.conversationId) :
    first.id < second.id ↔ first.columns.seq < second.columns.seq := by
  let agree := fun left right : MessageRow =>
    (left.id < right.id ↔ left.columns.seq < right.columns.seq) ∧
      (right.id < left.id ↔ right.columns.seq < left.columns.seq)
  have ordered : (messages.inConversation second.conversationId).Pairwise agree := by
    have ids := numbered.ids.filter fun row => decide (row.conversationId = second.conversationId)
    have seqs := numbers_pairwise (messages.inConversation second.conversationId).length
    rw [← numbered.contiguous, MessageTable.seqs, List.pairwise_map] at seqs
    refine (ids.and seqs).imp ?_
    rintro left right ⟨idBelow, seqBelow⟩
    exact ⟨by omega, by omega⟩
  have symmetric : Std.Symm agree := ⟨fun _ _ both => ⟨both.2, both.1⟩⟩
  have everywhere := ordered.forall_of_forall fun row _ => ⟨by omega, by omega⟩
  have firstListed : first ∈ messages.inConversation second.conversationId :=
    List.mem_filter.mpr ⟨firstStored, by simpa using same⟩
  have secondListed : second ∈ messages.inConversation second.conversationId :=
    List.mem_filter.mpr ⟨secondStored, by simp⟩
  exact (everywhere firstListed secondListed).1

end Numbered

namespace MessageTable

def involves (userId : Int32) (row : MessageRow) : Prop :=
  row.columns.senderId = userId ∨ row.columns.receiverId = userId

instance (userId : Int32) : DecidablePred (involves userId) :=
  fun _ => inferInstanceAs (Decidable (_ ∨ _))

def largestSeq (messages : MessageTable) (row : MessageRow) : Prop :=
  ∀ other ∈ messages.rows, other.conversationId = row.conversationId →
    other.columns.seq ≤ row.columns.seq

instance (messages : MessageTable) : DecidablePred messages.largestSeq :=
  fun _ => inferInstanceAs (Decidable (∀ _ ∈ _, _))

theorem eq_of_id {messages : MessageTable} {first second : MessageRow}
    (firstStored : first ∈ messages.rows) (secondStored : second ∈ messages.rows)
    (same : first.id = second.id) : first = second :=
  messages.table.eq_of_clash messageClash_comm firstStored secondStored
    (by simp [messageClash, same])

theorem mem_inner {messages : MessageTable} {userId : Int32} {entry : Int64 × Nat} :
    entry ∈ ((messages.rows.filter fun row => row.columns.senderId = userId) ++
        (messages.rows.filter fun row => row.columns.receiverId = userId)).map
          (fun row => (row.conversationId, row.id)) ↔
      ∃ row ∈ messages.rows, involves userId row ∧ (row.conversationId, row.id) = entry := by
  simp only [List.mem_map, List.mem_append, List.mem_filter, decide_eq_true_eq, involves]
  constructor
  · rintro ⟨row, ⟨stored, mine⟩ | ⟨stored, mine⟩, same⟩
    · exact ⟨row, stored, .inl mine, same⟩
    · exact ⟨row, stored, .inr mine, same⟩
  · rintro ⟨row, stored, mine | mine, same⟩
    · exact ⟨row, .inl ⟨stored, mine⟩, same⟩
    · exact ⟨row, .inr ⟨stored, mine⟩, same⟩

theorem mem_conversationEnds {messages : MessageTable} {userId : Int32} {entry : Int64 × Nat} :
    entry ∈ messages.conversationEnds userId ↔
      ∃ top ∈ messages.rows, involves userId top ∧ (top.conversationId, top.id) = entry ∧
        ∀ other ∈ messages.rows, involves userId other →
          other.conversationId = top.conversationId → other.id ≤ top.id := by
  unfold conversationEnds
  dsimp only
  generalize inner : ((messages.rows.filter fun row => row.columns.senderId = userId) ++
    (messages.rows.filter fun row => row.columns.receiverId = userId)).map
      (fun row => (row.conversationId, row.id)) = listed
  have member (entry : Int64 × Nat) : entry ∈ listed ↔
      ∃ row ∈ messages.rows, involves userId row ∧ (row.conversationId, row.id) = entry :=
    inner ▸ mem_inner
  have idMember (conversationId : Int64) (id : Nat) :
      id ∈ (listed.filter fun entry => entry.1 = conversationId).map (·.2) ↔
        (conversationId, id) ∈ listed := by
    simp only [List.mem_map, List.mem_filter, decide_eq_true_eq]
    constructor
    · rintro ⟨⟨_, _⟩, ⟨found, rfl⟩, rfl⟩
      exact found
    · intro found
      exact ⟨(conversationId, id), ⟨found, rfl⟩, rfl⟩
  simp only [List.mem_map, List.mem_dedup]
  constructor
  · rintro ⟨_, ⟨⟨conversationId, id⟩, found, rfl⟩, rfl⟩
    have nonempty : ((listed.filter fun entry => entry.1 = conversationId).map (·.2)) ≠ [] :=
      List.ne_nil_of_mem ((idMember conversationId id).mpr found)
    obtain ⟨top, maximal⟩ := Option.isSome_iff_exists.mp (List.isSome_max?_of_ne_nil nonempty)
    obtain ⟨attained, upper⟩ := List.max?_eq_some_iff.mp maximal
    obtain ⟨row, stored, mine, same⟩ := (member _).mp ((idMember conversationId top).mp attained)
    obtain ⟨rfl, rfl⟩ := Prod.mk.inj same
    refine ⟨row, stored, mine, by rw [maximal]; rfl, ?_⟩
    intro other otherStored otherMine conversation
    refine upper other.id ((idMember _ _).mpr ((member _).mpr ⟨other, otherStored, otherMine, ?_⟩))
    rw [conversation]
  · rintro ⟨top, stored, mine, rfl, upper⟩
    have found := (member _).mpr ⟨top, stored, mine, rfl⟩
    have maximal : ((listed.filter fun entry => entry.1 = top.conversationId).map (·.2)).max? =
        some top.id := by
      refine List.max?_eq_some_iff.mpr ⟨(idMember _ _).mpr found, ?_⟩
      intro id attained
      obtain ⟨row, rowStored, rowMine, same⟩ := (member _).mp ((idMember _ _).mp attained)
      obtain ⟨conversation, rfl⟩ := Prod.mk.inj same
      exact upper row rowStored rowMine conversation
    exact ⟨top.conversationId, ⟨_, found, rfl⟩, by rw [maximal]; rfl⟩

theorem conversationEnds_nodup (messages : MessageTable) (userId : Int32) :
    (messages.conversationEnds userId).Nodup := by
  unfold conversationEnds
  refine (List.nodup_dedup _).map ?_
  intro left right same
  exact (Prod.mk.inj same).1

end MessageTable

namespace Numbered

open MessageTable

variable {messages : MessageTable}

theorem involves_of_same (numbered : Numbered messages) {userId : Int32} {row other : MessageRow}
    (stored : row ∈ messages.rows) (otherStored : other ∈ messages.rows)
    (mine : involves userId row) (same : other.conversationId = row.conversationId) :
    involves userId other := by
  obtain ⟨sender, receiver, conversation⟩ := numbered.paired row stored
  obtain ⟨otherSender, otherReceiver, otherConversation⟩ := numbered.paired other otherStored
  rw [conversation, otherConversation] at same
  have pair := makeConversationId_injective ⟨otherSender, otherReceiver⟩ ⟨sender, receiver⟩ same
  unfold involves at mine ⊢
  rcases pair with ⟨first, second⟩ | ⟨first, second⟩
  · rwa [first, second]
  · rw [first, second]
    exact mine.symm

theorem ends_iff (numbered : Numbered messages) {userId : Int32} {row : MessageRow}
    (stored : row ∈ messages.rows) {entry : Int64 × Nat} :
    entry ∈ messages.conversationEnds userId ∧ row.id = entry.2 ↔
      (involves userId row ∧ messages.largestSeq row) ∧ entry = (row.conversationId, row.id) := by
  constructor
  · rintro ⟨found, same⟩
    obtain ⟨top, topStored, mine, rfl, upper⟩ := mem_conversationEnds.mp found
    obtain rfl := eq_of_id stored topStored same
    refine ⟨⟨mine, ?_⟩, rfl⟩
    intro other otherStored conversation
    have below := upper other otherStored
      (numbered.involves_of_same stored otherStored mine conversation) conversation
    have grow := numbered.together stored otherStored conversation.symm
    omega
  · rintro ⟨⟨mine, largest⟩, rfl⟩
    refine ⟨mem_conversationEnds.mpr ⟨row, stored, mine, rfl, ?_⟩, rfl⟩
    intro other otherStored _ conversation
    have below := largest other otherStored conversation
    have grow := numbered.together stored otherStored conversation.symm
    omega

theorem roamConversations_perm (numbered : Numbered messages) (userId : Int32) :
    (messages.roamConversations userId).Perm
      ((messages.rows.filter fun row => involves userId row ∧ messages.largestSeq row).map
        readMessageRow) := by
  have each : ∀ row ∈ messages.rows,
      ((messages.conversationEnds userId).filter fun entry => row.id = entry.2).map
        (fun _ => row) = if involves userId row ∧ messages.largestSeq row then [row] else [] := by
    intro row stored
    have listed (entry : Int64 × Nat) :
        entry ∈ (messages.conversationEnds userId).filter (fun entry => row.id = entry.2) ↔
          (involves userId row ∧ messages.largestSeq row) ∧
            entry = (row.conversationId, row.id) := by
      rw [← numbered.ends_iff stored, List.mem_filter, decide_eq_true_eq]
    split
    · rename_i last
      have only : (messages.conversationEnds userId).filter (fun entry => row.id = entry.2) =
          [(row.conversationId, row.id)] := by
        refine List.perm_singleton.mp ?_
        refine (List.perm_ext_iff_of_nodup ((messages.conversationEnds_nodup userId).filter _)
          (List.nodup_singleton _)).mpr ?_
        intro entry
        rw [listed, List.mem_singleton]
        exact and_iff_right last
      rw [only]
      rfl
    · rename_i other
      rw [List.map_eq_nil_iff, List.eq_nil_iff_forall_not_mem]
      intro entry found
      exact other ((listed entry).mp found).1
  unfold roamConversations
  refine List.Perm.map _ ((List.perm_insertionSort later _).trans (.of_eq ?_))
  rw [List.flatMap_congr each, ← List.filterMap_eq_filter, List.filterMap_eq_flatMap_toList]
  refine List.flatMap_congr ?_
  intro row _
  by_cases last : involves userId row ∧ messages.largestSeq row <;> simp [Option.guard, last]

theorem exists_largestSeq (numbered : Numbered messages) {userId : Int32} {row : MessageRow}
    (stored : row ∈ messages.rows) (mine : involves userId row) :
    ∃ last ∈ messages.rows, involves userId last ∧ messages.largestSeq last ∧
      last.conversationId = row.conversationId := by
  have listed : row ∈ messages.inConversation row.conversationId :=
    List.mem_filter.mpr ⟨stored, by simp⟩
  cases found : (messages.inConversation row.conversationId).argmax (·.columns.seq) with
  | none => exact absurd (List.argmax_eq_none.mp found) (List.ne_nil_of_mem listed)
  | some last =>
      obtain ⟨lastStored, same⟩ := List.mem_filter.mp (List.argmax_mem found)
      have conversation : last.conversationId = row.conversationId := by simpa using same
      refine ⟨last, lastStored, numbered.involves_of_same stored lastStored mine conversation, ?_,
        conversation⟩
      intro other otherStored otherSame
      have otherListed : other ∈ messages.inConversation row.conversationId :=
        List.mem_filter.mpr ⟨otherStored, by simpa using otherSame.trans conversation⟩
      exact (List.argmax_eq_some_iff.mp found).2.1 other otherListed

end Numbered

structure NumberingSound (messages : MessageTable) : Prop where
  /-- The numbers of a conversation are `1..n`, in the order of the rows. -/
  contiguous : ∀ conversationId, messages.seqs conversationId =
    numbers (messages.inConversation conversationId).length
  together : ∀ first ∈ messages.rows, ∀ second ∈ messages.rows,
    first.conversationId = second.conversationId →
      (first.id < second.id ↔ first.columns.seq < second.columns.seq)
  /-- A message id that is stored already takes no number and writes no row. -/
  repeated : ∀ writes m delivered, (∃ row ∈ messages.rows, row.columns.msgId = cstr m.msgId) →
    (messages.saveMessage writes m delivered).2.2 = messages
  /-- The list shows the row with the largest number of each conversation of the user. -/
  roamed : ∀ userId, (messages.roamConversations userId).Perm
    ((messages.rows.filter fun row =>
      MessageTable.involves userId row ∧ messages.largestSeq row).map readMessageRow)
  complete : ∀ userId, ∀ row ∈ messages.rows, MessageTable.involves userId row →
    ∃ last ∈ messages.rows, MessageTable.involves userId last ∧ messages.largestSeq last ∧
      last.conversationId = row.conversationId

/-- Every table that `saveMessage` calls lead to is numbered without gap or repeat. -/
theorem messageNumbering_sound {calls : List SaveCall} {messages : MessageTable}
    (saved : SaveRun calls messages) : NumberingSound messages := by
  have numbered := Numbered.run saved
  refine {
    contiguous := numbered.contiguous
    together := fun first firstStored second secondStored same =>
      numbered.together firstStored secondStored same
    repeated := ?_
    roamed := numbered.roamConversations_perm
    complete := fun userId row stored mine => numbered.exists_largestSeq stored mine }
  rintro writes m delivered ⟨row, stored, same⟩
  rcases messages.saveMessage_cases writes m delivered with
    ⟨_, kept⟩ | ⟨_, _, readBack⟩ | ⟨_, missing, _⟩
  · exact kept
  · rw [readBack]
  · rw [MessageTable.findByMsgId_of_stored stored same] at missing
    simp at missing

def greetingCalls : List SaveCall :=
  [greeting 1 2 "m-1", greeting 2 1 "m-2", greeting 2 1 "m-2"]
where
  greeting (sender receiver : Int32) (msgId : String) : SaveCall :=
    ⟨fun _ => true, ⟨ascii msgId, sender, receiver, 0, ascii "hello", [], 0, 0, 1700000000, 0, [], 0,
      [], [], [], [], 0, [], 0, 0, [], [], 0, [], 0, 0⟩, false⟩

def greetingTable : MessageTable :=
  greetingCalls.foldl (fun messages call =>
    (messages.saveMessage call.writes call.message call.delivered).2.2) .empty

theorem messageNumbering_sound_greetings :
    (greetingTable.rows.map fun row => (row.id, row.columns.seq)) = [(1, 1), (2, 2)] ∧
      NumberingSound greetingTable :=
  ⟨by decide, messageNumbering_sound
    (((Run.single ⟨by decide, by decide, rfl⟩).snoc ⟨by decide, by decide, rfl⟩).snoc
      ⟨by decide, by decide, rfl⟩)⟩

end Jitong
