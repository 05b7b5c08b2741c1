import Jitong.MessageNumbering
import Jitong.RoamHandler

/-!
The history of a conversation as a client gets it that feeds the `min_seq` of a reply back as the
next `before_seq`, while messages are saved between its requests.
-/

namespace Jitong

open Lib

namespace Server

def roamReply (server : Server) (userId : Int32) (rq : RoamMsgRq) : RoamMsgRs :=
  let rows := server.page userId rq
  { peerId := rq.peerId
    hasMore := rows.length = rq.pageLimit
    msgs := rows.map fillChatInfo
    minSeq := minSeq rows }

end Server

structure RoamReader where
  servers : Nat → Server
  userId : Int32
  peerId : Int32
  limit : Int32
  beforeSeq : Int

namespace RoamReader

def request (reader : RoamReader) : Nat → RoamMsgRq
  | 0 => { peerId := reader.peerId, beforeSeq := reader.beforeSeq, limit := reader.limit }
  | index + 1 =>
      { peerId := reader.peerId
        beforeSeq := ((reader.servers index).roamReply reader.userId (reader.request index)).minSeq
        limit := reader.limit }

def reply (reader : RoamReader) (index : Nat) : RoamMsgRs :=
  (reader.servers index).roamReply reader.userId (reader.request index)

def Interleaved (reader : RoamReader) : Prop :=
  (∃ calls, SaveRun calls (reader.servers 0).messages) ∧
    ∀ index, ∃ calls, Run SaveStep (reader.servers index).messages calls
      (reader.servers (index + 1)).messages

def existing (reader : RoamReader) : List (StoredMessage Bytes) :=
  ((reader.servers 0).messages.inConversation
    (makeConversationId reader.userId reader.peerId)).map readMessageRow

def listed (reader : RoamReader) (replies : Nat) : List ChatInfoRq :=
  (List.range replies).flatMap fun index => (reader.reply index).msgs

/-- The loop over `has_more` ends, and it has listed the conversation. -/
structure ListsAll (reader : RoamReader) (last : Nat) : Prop where
  goesOn : ∀ index < last, (reader.reply index).hasMore = true
  ends : (reader.reply last).hasMore = false
  once : (reader.listed (last + 1)).Perm (reader.existing.map fillChatInfo)
  decreasing : (reader.listed (last + 1)).Pairwise fun message later => later.seq < message.seq

end RoamReader

theorem numbers_succ (count : Nat) : numbers (count + 1) = numbers count ++ [(count : Int) + 1] := by
  rw [numbers, numbers, List.range_succ, List.map_append, List.map_singleton]

@[simp] theorem numbers_length (count : Nat) : (numbers count).length = count := by
  rw [numbers, List.length_map, List.length_range]

theorem filter_seq_eq_take {rows : List MessageRow} (before : Int)
    (numbered : rows.map (·.columns.seq) = numbers rows.length) :
    rows.filter (fun row => row.columns.seq < before) = rows.take (before - 1).toNat := by
  induction rows using List.reverseRecOn with
  | nil => rw [List.take_nil, List.filter_nil]
  | append_singleton front row ih =>
      rw [List.length_append, List.length_singleton, numbers_succ, List.map_append,
        List.map_singleton] at numbered
      obtain ⟨first, ended⟩ := List.append_inj numbered (by simp)
      have seq : row.columns.seq = (front.length : Int) + 1 := by simpa using ended
      rw [List.filter_append, ih first]
      by_cases below : row.columns.seq < before
      · have whole : (front ++ [row]).length ≤ (before - 1).toNat := by
          rw [List.length_append, List.length_singleton]
          omega
        rw [List.take_of_length_le whole, List.take_of_length_le (by simp at whole; omega)]
        simp [below]
      · rw [List.take_append_of_le_length (by omega)]
        simp [below]

theorem minSeq_page {rows : List MessageRow} {read size : Nat}
    (numbered : rows.map (·.columns.seq) = numbers rows.length) (positive : 0 < size)
    (full : read + size ≤ rows.length) :
    minSeq (((rows.reverse.drop read).take size).map readMessageRow) =
      ((rows.length - (read + size) : Nat) : Int) + 1 := by
  have place : rows.length - (read + size) < rows.length := by omega
  have last : ((rows.reverse.drop read).take size).getLast? =
      some (rows[rows.length - (read + size)]) := by
    have long : size ≤ (rows.reverse.drop read).length := by
      rw [List.length_drop, List.length_reverse]
      omega
    have turned : rows.length - 1 - (read + (size - 1)) = rows.length - (read + size) := by omega
    rw [List.getLast?_eq_getElem?, List.length_take_of_le long, List.getElem?_take_of_lt (by omega),
      List.getElem?_drop, List.getElem?_reverse (by omega), turned, List.getElem?_eq_getElem place]
  have number := congrArg (fun seqs => seqs[rows.length - (read + size)]?) numbered
  simp only [List.getElem?_map, List.getElem?_eq_getElem place, Option.map_some, numbers,
    List.getElem?_range place, Option.some.injEq] at number
  rw [minSeq, List.getLast?_map, last]
  exact number

theorem insertionSort_newer {rows : List MessageRow}
    (sorted : rows.Pairwise fun row later => row.columns.seq < later.columns.seq) :
    rows.insertionSort MessageTable.newer = rows.reverse := by
  have total : Std.Total MessageTable.newer := ⟨fun first second => le_total _ _⟩
  have transitive : IsTrans MessageRow MessageTable.newer :=
    ⟨fun first second third left right => le_trans right left⟩
  have distinct : (rows.insertionSort MessageTable.newer).Pairwise fun first second =>
      first.columns.seq ≠ second.columns.seq :=
    (List.perm_insertionSort _ rows).symm.pairwise (sorted.imp fun less => by omega)
      fun apart => apart.symm
  have descending : (rows.insertionSort MessageTable.newer).Pairwise fun first second =>
      second.columns.seq < first.columns.seq :=
    ((List.pairwise_insertionSort MessageTable.newer rows).and distinct).imp fun both =>
      lt_of_le_of_ne both.1 both.2.symm
  have turned : rows.reverse.Pairwise fun first second => second.columns.seq < first.columns.seq :=
    List.pairwise_reverse.mpr sorted
  refine List.Perm.eq_of_pairwise (fun first second _ _ left right => ?_) descending turned
    ((List.perm_insertionSort _ rows).trans (List.reverse_perm rows).symm)
  exact absurd left (by omega)

namespace Numbered

variable {messages after : MessageTable} {calls : List SaveCall}

theorem sorted (numbered : Numbered messages) (conversationId : Int64) :
    (messages.inConversation conversationId).Pairwise fun row later =>
      row.columns.seq < later.columns.seq := by
  have ascending := numbers_pairwise (messages.inConversation conversationId).length
  rw [← numbered.contiguous] at ascending
  exact List.pairwise_map.mp ascending

theorem roamMessages_eq (numbered : Numbered messages) (userId peerId : Int32) (before : Int)
    (limit : Nat) : messages.roamMessages userId peerId before limit =
      ((((messages.inConversation (makeConversationId userId peerId)).take
        (before - 1).toNat).reverse).take limit).map readMessageRow := by
  have older : (messages.rows.filter fun row =>
      row.conversationId = makeConversationId userId peerId ∧ row.columns.seq < before) =
      (messages.inConversation (makeConversationId userId peerId)).take (before - 1).toNat := by
    rw [← filter_seq_eq_take before (numbered.contiguous _), MessageTable.inConversation,
      List.filter_filter]
    congr 1
    funext row
    simp only [Bool.decide_and, Bool.and_comm]
  simp only [MessageTable.roamMessages]
  rw [older, insertionSort_newer ((numbered.sorted _).sublist (List.take_sublist _ _))]

theorem later (numbered : Numbered messages) (saved : Run SaveStep messages calls after) :
    Numbered after :=
  saved.invariant numbered fun _ _ _ before taken => before.step taken

end Numbered

theorem inConversation_prefix {messages after : MessageTable} {calls : List SaveCall}
    (saved : Run SaveStep messages calls after) (conversationId : Int64) :
    messages.inConversation conversationId <+: after.inConversation conversationId := by
  induction saved with
  | nil => exact List.prefix_refl _
  | @snoc _ call before _ _ taken ih =>
      obtain ⟨_, _, rfl⟩ := taken
      rcases before.saveMessage_cases call.writes call.message call.delivered with
        ⟨_, kept⟩ | ⟨row, _, readBack⟩ | ⟨next, _, stored, rows, _⟩
      · rwa [kept]
      · rwa [readBack]
      · rw [stored]
        refine ih.trans ?_
        unfold MessageTable.inConversation
        rw [rows, List.filter_append]
        exact List.prefix_append _ _

theorem RoamMsgRq.pageLimit_pos (rq : RoamMsgRq) : 0 < rq.pageLimit := by
  have zero : (0 : Int32).toInt = 0 := rfl
  have twenty : (20 : Int32).toInt = 20 := rfl
  have hundred : (100 : Int32).toInt = 100 := rfl
  simp only [pageLimit]
  by_cases given : 0 < rq.limit
  · rw [if_pos given]
    rw [Int32.lt_iff_toInt_lt, zero] at given
    split <;> omega
  · rw [if_neg given]
    split <;> omega

namespace RoamReader

variable {reader : RoamReader}

def rows (reader : RoamReader) : List MessageRow :=
  (reader.servers 0).messages.inConversation (makeConversationId reader.userId reader.peerId)

def size (reader : RoamReader) : Nat := (reader.request 0).pageLimit

theorem request_limit (index : Nat) : (reader.request index).limit = reader.limit := by
  cases index <;> rfl

theorem request_pageLimit (index : Nat) : (reader.request index).pageLimit = reader.size := by
  rw [size, RoamMsgRq.pageLimit, RoamMsgRq.pageLimit, request_limit, request_limit]

theorem request_beforeSeq (index : Nat) : (reader.request (index + 1)).beforeSeq =
    minSeq ((reader.servers index).page reader.userId (reader.request index)) := by
  rw [request, Server.roamReply]

theorem reply_msgs (index : Nat) : (reader.reply index).msgs =
    ((reader.servers index).page reader.userId (reader.request index)).map fillChatInfo := by
  rw [reply, Server.roamReply]

theorem request_peerId (index : Nat) : (reader.request index).peerId = reader.peerId := by
  cases index <;> rfl

theorem numbered (interleaved : reader.Interleaved) (index : Nat) :
    Numbered (reader.servers index).messages := by
  induction index with
  | zero =>
      obtain ⟨_, saved⟩ := interleaved.1
      exact Numbered.run saved
  | succ index ih =>
      obtain ⟨_, saved⟩ := interleaved.2 index
      exact ih.later saved

theorem rows_prefix (interleaved : reader.Interleaved) (index : Nat) :
    reader.rows <+: (reader.servers index).messages.inConversation
      (makeConversationId reader.userId reader.peerId) := by
  induction index with
  | zero => exact List.prefix_refl _
  | succ index ih =>
      obtain ⟨_, saved⟩ := interleaved.2 index
      exact ih.trans <| inConversation_prefix saved _

theorem page_of_cursor (interleaved : reader.Interleaved) (index left : Nat) {before : Int}
    (bounded : left ≤ reader.rows.length) (cursor : (reader.request index).cursor = before)
    (stands : ((reader.servers index).messages.inConversation
      (makeConversationId reader.userId reader.peerId)).take (before - 1).toNat =
        reader.rows.take left) :
    (reader.servers index).page reader.userId (reader.request index) =
      ((reader.rows.reverse.drop (reader.rows.length - left)).take reader.size).map
        readMessageRow := by
  unfold Server.page
  rw [request_peerId, request_pageLimit, (numbered interleaved index).roamMessages_eq, cursor, stands,
    List.drop_reverse, Nat.sub_sub_self bounded]

theorem page_eq (interleaved : reader.Interleaved) (start : reader.beforeSeq ≤ 0)
    (few : (reader.rows.length : Int) < 2 ^ 63 - 1) (index : Nat) :
    index * reader.size ≤ reader.rows.length →
      (reader.servers index).page reader.userId (reader.request index) =
        ((reader.rows.reverse.drop (index * reader.size)).take reader.size).map readMessageRow := by
  induction index with
  | zero =>
      intro _
      have newest : (reader.request 0).cursor = 2 ^ 63 - 1 := if_neg (not_lt.mpr start)
      obtain ⟨before, cursor⟩ : ∃ before, (reader.request 0).cursor = before := ⟨_, rfl⟩
      have wide : reader.rows.length ≤ (before - 1).toNat := by omega
      have all := page_of_cursor interleaved 0 reader.rows.length (le_refl _) cursor
        ((List.take_of_length_le wide).trans List.take_length.symm)
      rw [Nat.sub_self] at all
      rwa [Nat.zero_mul]
  | succ index ih =>
      intro enough
      rw [Nat.succ_mul] at enough ⊢
      have min := minSeq_page ((numbered interleaved 0).contiguous _)
        (reader.request 0).pageLimit_pos enough
      rw [← rows, ← size, ← ih (by omega), ← request_beforeSeq] at min
      have cursor : (reader.request (index + 1)).cursor =
          ((reader.rows.length - (index * reader.size + reader.size) : Nat) : Int) + 1 := by
        rw [RoamMsgRq.cursor, min, if_pos (by omega)]
      obtain ⟨added, grown⟩ := rows_prefix interleaved (index + 1)
      have here := page_of_cursor interleaved (index + 1)
        (reader.rows.length - (index * reader.size + reader.size)) (by omega) cursor (by
          rw [← grown, Int.add_sub_cancel, Int.toNat_natCast,
            List.take_append_of_le_length (by omega)])
      rwa [Nat.sub_sub_self enough] at here

theorem reply_hasMore (index : Nat) : (reader.reply index).hasMore = true ↔
    ((reader.servers index).page reader.userId (reader.request index)).length = reader.size := by
  rw [reply, Server.roamReply, decide_eq_true_eq, request_pageLimit]

theorem listed_eq (interleaved : reader.Interleaved) (start : reader.beforeSeq ≤ 0)
    (few : (reader.rows.length : Int) < 2 ^ 63 - 1) (replies : Nat) :
    (replies - 1) * reader.size ≤ reader.rows.length →
      reader.listed replies =
        (reader.rows.reverse.take (replies * reader.size)).map (fillChatInfo ∘ readMessageRow) := by
  induction replies with
  | zero => intro _; simp [listed]
  | succ replies ih =>
      intro enough
      rw [Nat.succ_sub_one] at enough
      have before := ih ((Nat.mul_le_mul_right _ (Nat.sub_le _ _)).trans enough)
      have here : (reader.reply replies).msgs = ((reader.rows.reverse.drop
          (replies * reader.size)).take reader.size).map (fillChatInfo ∘ readMessageRow) := by
        rw [← List.map_map, ← page_eq interleaved start few replies enough, reply_msgs]
      have grown : reader.listed (replies + 1) = reader.listed replies ++ (reader.reply replies).msgs := by
        rw [listed, List.range_succ, List.flatMap_append, List.flatMap_singleton, listed]
      rw [grown, before, here, ← List.map_append, Nat.succ_mul, List.take_add]

theorem fillChatInfo_seq (message : StoredMessage Bytes) : (fillChatInfo message).seq = message.seq := by
  unfold fillChatInfo
  split
  · rfl
  · split <;> rfl

end RoamReader

open RoamReader in
/-- From a request without a cursor on, the replies list every message that was there exactly once. -/
theorem roamReader_listsAll (reader : RoamReader) (interleaved : reader.Interleaved)
    (start : reader.beforeSeq ≤ 0) (few : (reader.existing.length : Int) < 2 ^ 63 - 1) :
    ∃ last, reader.ListsAll last := by
  have positive : 0 < reader.size := (reader.request 0).pageLimit_pos
  have short : (reader.rows.length : Int) < 2 ^ 63 - 1 := by
    rwa [existing, List.length_map] at few
  have length (index : Nat) (reached : index * reader.size ≤ reader.rows.length) :
      ((reader.servers index).page reader.userId (reader.request index)).length =
        min reader.size (reader.rows.length - index * reader.size) := by
    rw [page_eq interleaved start short index reached, List.length_map, List.length_take,
      List.length_drop, List.length_reverse]
  have whole := Nat.div_mul_le_self reader.rows.length reader.size
  have rest := @Nat.lt_div_mul_add reader.rows.length _ positive
  have all := listed_eq interleaved start short (reader.rows.length / reader.size + 1)
    (by rw [Nat.add_sub_cancel]; exact whole)
  rw [List.take_of_length_le (by rw [List.length_reverse, Nat.succ_mul]; omega)] at all
  refine ⟨reader.rows.length / reader.size, ?_, ?_, ?_, ?_⟩
  · intro index before
    have reached : (index + 1) * reader.size ≤ reader.rows.length :=
      (Nat.mul_le_mul_right _ before).trans whole
    rw [Nat.succ_mul] at reached
    rw [reply_hasMore, length index (by omega)]
    omega
  · rw [← Bool.not_eq_true, reply_hasMore, length _ whole]
    omega
  · rw [all, existing, List.map_map]
    exact (List.reverse_perm _).map _
  · rw [all, List.pairwise_map, List.pairwise_reverse]
    refine ((numbered interleaved 0).sorted _).imp fun {row later} below => ?_
    simpa [fillChatInfo_seq, readMessageRow, StoredMessage.map] using below

def lateGreeting : SaveCall := greetingCalls.greeting 1 2 "m-4"

def greetingReader : RoamReader where
  servers
    | 0 => { Server.empty with messages := greetingTable }
    | _ + 1 => { Server.empty with
        messages := (greetingTable.saveMessage lateGreeting.writes lateGreeting.message
          lateGreeting.delivered).2.2 }
  userId := 1
  peerId := 2
  limit := 1
  beforeSeq := 0

theorem roamReader_listsAll_greetings : ∃ last, greetingReader.ListsAll last := by
  refine roamReader_listsAll greetingReader ⟨⟨greetingCalls, ?_⟩, ?_⟩ (by decide) (by decide)
  · exact ((Run.single ⟨by decide, by decide, rfl⟩).snoc ⟨by decide, by decide, rfl⟩).snoc
      ⟨by decide, by decide, rfl⟩
  · rintro (_ | index)
    · exact ⟨[lateGreeting], Run.single ⟨by decide, by decide, rfl⟩⟩
    · exact ⟨[], Run.nil⟩

end Jitong
