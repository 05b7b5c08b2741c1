import Jitong.FrameSize
import Jitong.Server

/-!
`handlers/RoamHandler.cpp`: the ends of all conversations in one reply, and a page of one
conversation; and how long such replies get.
-/

namespace Jitong

open Lib

def roamConvRsType : UInt32 := defBase + 14
def roamMsgRsType : UInt32 := defBase + 16

structure RoamMsgRq where
  peerId : Int32 := 0
  beforeSeq : Int := 0
  limit : Int32 := 0
  deriving DecidableEq

structure RoamMsgRs where
  peerId : Int32 := 0
  msgs : List ChatInfoRq := []
  hasMore : Bool := false
  minSeq : Int := 0
  deriving DecidableEq

structure RoamConvRs where
  convs : List ChatInfoRq := []
  deriving DecidableEq

/-! The wire formats. -/

def MsgType.number : MsgType → Int32
  | text => 0
  | image => 1
  | file => 2
  | unrecognized number => number

def ChatInfoRq.wire (rq : ChatInfoRq) : Bytes :=
  signedField 1 rq.myid.toInt ++ signedField 2 rq.friid.toInt ++ bytesField 3 rq.msg ++
    signedField 4 rq.type.number.toInt ++ signedField 6 rq.imageWidth.toInt ++
    signedField 7 rq.imageHeight.toInt ++ bytesField 8 rq.msgId ++ signedField 9 rq.ts ++
    signedField 10 rq.seq ++ bytesField 11 rq.fileName ++ signedField 12 rq.fileSize ++
    bytesField 13 rq.fileId ++ bytesField 14 rq.contentType ++ bytesField 15 rq.sha256 ++
    bytesField 16 rq.thumbnailFileId ++ signedField 17 rq.thumbnailWidth.toInt ++
    signedField 18 rq.thumbnailHeight.toInt ++ signedField 19 rq.thumbnailSize ++
    bytesField 20 rq.thumbnailSha256 ++ bytesField 21 rq.largeThumbnailFileId ++
    signedField 22 rq.largeThumbnailWidth.toInt ++ signedField 23 rq.largeThumbnailHeight.toInt ++
    signedField 24 rq.largeThumbnailSize ++ bytesField 25 rq.largeThumbnailSha256

def RoamMsgRs.wire (rs : RoamMsgRs) : Bytes :=
  signedField 1 rs.peerId.toInt ++ rs.msgs.flatMap (fun message => delimited 2 message.wire) ++
    varintField 3 (if rs.hasMore then 1 else 0) ++ signedField 4 rs.minSeq

def RoamConvRs.wire (rs : RoamConvRs) : Bytes :=
  rs.convs.flatMap fun message => delimited 1 message.wire

structure RoamProto where
  messages : RoamMsgRs → Bytes
  conversations : RoamConvRs → Bytes

structure RoamLengths (roam : RoamProto) : Prop where
  messages : ∀ rs, (roam.messages rs).length = serializedLength rs.wire.length
  conversations : ∀ rs, (roam.conversations rs).length = serializedLength rs.wire.length

namespace MessageTable

def newer (first second : MessageRow) : Prop := second.columns.seq ≤ first.columns.seq

instance : DecidableRel newer := fun _ _ => inferInstanceAs (Decidable (_ ≤ _))

def roamMessages (messages : MessageTable) (userId peerId : Int32) (beforeSeq : Int)
    (limit : Nat) : List (StoredMessage Bytes) :=
  let convId := makeConversationId userId peerId
  let older := messages.rows.filter fun row =>
    row.conversationId = convId ∧ row.columns.seq < beforeSeq
  ((older.insertionSort newer).take limit).map readMessageRow

end MessageTable

namespace RoamMsgRq

def cursor (rq : RoamMsgRq) : Int := if 0 < rq.beforeSeq then rq.beforeSeq else 2 ^ 63 - 1

def pageLimit (rq : RoamMsgRq) : Nat :=
  let limit := if 0 < rq.limit then rq.limit else 20
  (if 100 < limit then 100 else limit).toInt.toNat

end RoamMsgRq

def minSeq (rows : List (StoredMessage Bytes)) : Int := (rows.getLast?.map (·.seq)).getD 0

namespace Server

def page (server : Server) (userId : Int32) (rq : RoamMsgRq) : List (StoredMessage Bytes) :=
  server.messages.roamMessages userId rq.peerId rq.cursor rq.pageLimit

def onConversations (roam : RoamProto) (server : Server) (userId : Int32) :
    Option (UInt32 × Bytes) :=
  if userId ≤ 0 then none
  else
    let rs : RoamConvRs := { convs := (server.messages.roamConversations userId).map fillChatInfo }
    some (roamConvRsType, roam.conversations rs)

def onMessages (roam : RoamProto) (server : Server) (userId : Int32) (rq : RoamMsgRq) :
    Option (UInt32 × Bytes) :=
  if userId ≤ 0 then none
  else
    let rows := server.page userId rq
    let rs : RoamMsgRs := {
      peerId := rq.peerId
      hasMore := rows.length = rq.pageLimit
      msgs := rows.map fillChatInfo
      minSeq := minSeq rows }
    some (roamMsgRsType, roam.messages rs)

end Server

/-! How long a reply is, from the rows it is made of. -/

def rowLength (message : StoredMessage Bytes) : Nat :=
  let size := (fillChatInfo message).wire.length
  1 + (varint size).length + size

def rowsLength (rows : List (StoredMessage Bytes)) : Nat := (rows.map rowLength).sum

def RoamMsgRq.replyLength (rq : RoamMsgRq) (rows : List (StoredMessage Bytes)) : Nat :=
  rowsLength rows + (signedField 1 rq.peerId.toInt).length +
    (if rows.length = rq.pageLimit then 2 else 0) + (signedField 4 (minSeq rows)).length

theorem flatMap_rows_length {number : Nat} (short : (varint (8 * number + 2)).length = 1)
    (rows : List (StoredMessage Bytes)) :
    ((rows.map fillChatInfo).flatMap fun message => delimited number message.wire).length =
      rowsLength rows := by
  induction rows with
  | nil => rfl
  | cons row rows ih =>
      simp only [rowsLength, List.map_cons, List.flatMap_cons, List.length_append, delimited_length,
        List.sum_cons, rowLength, short] at ih ⊢
      omega

namespace Server

def Replies (userId : Int32) (packet : Option (UInt32 × Bytes)) (type : UInt32) (length : Nat) :
    Prop :=
  userId ≤ 0 ∧ packet = none ∨
    ¬userId ≤ 0 ∧ ∃ payload, packet = some (type, payload) ∧ payload.length = length

theorem onConversations_replies {roam : RoamProto} (lengths : RoamLengths roam) (server : Server)
    (userId : Int32) :
    Replies userId (server.onConversations roam userId) roamConvRsType
      (serializedLength (rowsLength (server.messages.roamConversations userId))) := by
  unfold Replies onConversations
  split
  · rename_i nobody
    exact .inl ⟨nobody, rfl⟩
  · rename_i user
    refine .inr ⟨user, _, rfl, ?_⟩
    rw [lengths.conversations, RoamConvRs.wire, flatMap_rows_length (by decide)]

theorem onMessages_replies {roam : RoamProto} (lengths : RoamLengths roam) (server : Server)
    (userId : Int32) (rq : RoamMsgRq) :
    Replies userId (server.onMessages roam userId rq) roamMsgRsType
      (serializedLength (rq.replyLength (server.page userId rq))) := by
  unfold Replies onMessages
  split
  · rename_i nobody
    exact .inl ⟨nobody, rfl⟩
  · rename_i user
    refine .inr ⟨user, _, rfl, ?_⟩
    have more : (varintField 3
        (if decide ((server.page userId rq).length = rq.pageLimit) = true then 1 else 0)).length =
        if (server.page userId rq).length = rq.pageLimit then 2 else 0 := by
      by_cases full : (server.page userId rq).length = rq.pageLimit
      · simp only [full, decide_true, if_true]
        decide
      · simp only [full, decide_false, if_false]
        decide
    rw [lengths.messages]
    refine congrArg serializedLength ?_
    rw [RoamMsgRs.wire, List.length_append, List.length_append, List.length_append,
      flatMap_rows_length (by decide), more, RoamMsgRq.replyLength]
    dsimp only
    omega

end Server

theorem rowLength_text {message : StoredMessage Bytes} (text : message.type = 0) :
    message.content.length ≤ rowLength message ∧
      rowLength message ≤ message.content.length + message.msgId.length + 200 := by
  have filled : fillChatInfo message = {
      myid := message.senderId
      friid := message.receiverId
      msgId := message.msgId
      ts := message.ts
      seq := message.seq
      msg := message.content } := by
    simp [fillChatInfo, text]
  have zero : (0 : Int32).toInt = 0 ∧ MsgType.text.number.toInt = 0 := by decide
  have content := bytesField_length_le 3 message.content
  have least := length_le_bytesField 3 message.content
  have msgId := bytesField_length_le 8 message.msgId
  have sender := varintField_length_le 1 (signedBits message.senderId.toInt)
  have receiver := varintField_length_le 2 (signedBits message.receiverId.toInt)
  have time := varintField_length_le 9 (signedBits message.ts)
  have number := varintField_length_le 10 (signedBits message.seq)
  have size : (fillChatInfo message).wire.length =
      (signedField 1 message.senderId.toInt).length +
        (signedField 2 message.receiverId.toInt).length +
        (bytesField 3 message.content).length + (bytesField 8 message.msgId).length +
        (signedField 9 message.ts).length + (signedField 10 message.seq).length := by
    rw [filled]
    unfold ChatInfoRq.wire
    dsimp only
    generalize message.senderId.toInt = sender
    generalize message.receiverId.toInt = receiver
    rw [zero.1, zero.2]
    simp only [signedField_zero, bytesField_nil, List.append_nil, List.length_append]
  have groups := varint_length_le (fillChatInfo message).wire.length
  simp only [signedField] at size
  rw [rowLength]
  omega

end Jitong
