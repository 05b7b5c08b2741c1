import Jitong.Lib.Decoder
import Jitong.Text

/-!
The batches of the migration on their way from `MigrationExporter` to `im_db_jni.cpp`: rows as
numbers of four and eight bytes, the lowest first, and texts behind their length.
-/

namespace Jitong

open Lib

namespace MigrationWire

/-- `Row` of the exporter and `MigrationMessage` of the importer, where `seq` is
`conversationSeq` and `ts` is `serverTime`. -/
structure MessageRow (Text : Type) where
  msgId : Text
  conversationId : Int64
  peerId : Int64
  seq : Int64
  ts : Int64
  localOrder : Int64
  fromMe : Int32
  type : Int32
  content : Text
  status : Int32
  mediaPath : Text
  imgW : Int32
  imgH : Int32
  fileId : Text
  fileName : Text
  fileSize : Int64
  contentType : Text
  sha256 : Text
  thumbnailFileId : Text
  thumbnailPath : Text
  thumbnailSize : Int64
  thumbnailSha256 : Text
  thumbnailW : Int32
  thumbnailH : Int32
  largeThumbnailFileId : Text
  largeThumbnailPath : Text
  largeThumbnailSize : Int64
  largeThumbnailSha256 : Text
  largeThumbnailW : Int32
  largeThumbnailH : Int32
  localPath : Text
  transferred : Int64
  pinyin : Text
  initials : Text
  deriving DecidableEq

structure ConversationRow (Text : Type) where
  conversationId : Int64
  peerId : Int64
  lastMsg : Text
  lastTs : Int64
  unread : Int64
  deriving DecidableEq

structure Change (Text : Type) where
  changeSeq : Int64
  ownerId : Int32
  entityType : Text
  entityKey : Text
  operation : Text
  changedAt : Int64
  payloadVersion : Int32
  payload : Text
  deriving DecidableEq

/-- `LegacyDeltaChange` of the importer, whose owner has 64 bits. -/
structure DeltaChange where
  changeSeq : Int64
  ownerId : Int64
  entityType : Bytes
  entityKey : Bytes
  operation : Bytes
  changedAt : Int64
  payloadVersion : Int32
  payload : Bytes
  deriving DecidableEq

def magic : Int32 := 0x4A544D47
def deltaMagic : Int32 := 0x4A54444C
def formatVersion : Int32 := 1
def batchSize : Nat := 500
def kMaxStringBytes : UInt32 := 1024 * 1024
def kMaxBatchBytes : Nat := 8 * 1024 * 1024

/-! ### `MigrationExporter` -/

def putI32 (v : Int32) : Bytes := littleEndian 4 v.toUInt32.toNat

def putI64 (v : Int64) : Bytes := littleEndian 8 v.toUInt64.toNat

def putBytes (bytes : Bytes) : Bytes := putI32 (Int32.ofNat bytes.length) ++ bytes

section Exporter

variable {Text : Type} (toByteArray : Text → Bytes)

def putStr (s : Text) : Bytes := putBytes (toByteArray s)

def putMessage (r : MessageRow Text) : Bytes :=
  List.flatten [
    putStr toByteArray r.msgId,
    putI64 r.conversationId, putI64 r.peerId, putI64 r.seq,
    putI64 r.ts, putI64 r.localOrder,
    putI32 r.fromMe, putI32 r.type,
    putStr toByteArray r.content, putI32 r.status,
    putStr toByteArray r.pinyin, putStr toByteArray r.initials,
    putStr toByteArray r.mediaPath,
    putI32 r.imgW, putI32 r.imgH,
    putStr toByteArray r.fileId, putStr toByteArray r.fileName, putI64 r.fileSize,
    putStr toByteArray r.contentType, putStr toByteArray r.sha256,
    putStr toByteArray r.thumbnailFileId, putStr toByteArray r.thumbnailPath,
    putI64 r.thumbnailSize,
    putStr toByteArray r.thumbnailSha256, putI32 r.thumbnailW, putI32 r.thumbnailH,
    putStr toByteArray r.largeThumbnailFileId, putStr toByteArray r.largeThumbnailPath,
    putI64 r.largeThumbnailSize,
    putStr toByteArray r.largeThumbnailSha256, putI32 r.largeThumbnailW,
    putI32 r.largeThumbnailH,
    putStr toByteArray r.localPath, putI64 r.transferred]

def encode (rows : List (MessageRow Text)) : Bytes :=
  putI32 magic ++ putI32 formatVersion ++ putI32 (Int32.ofNat rows.length) ++
    rows.flatMap (putMessage toByteArray)

def putConversation (r : ConversationRow Text) : Bytes :=
  List.flatten [
    putI64 r.conversationId, putI64 r.peerId,
    putStr toByteArray r.lastMsg,
    putI64 r.lastTs, putI64 r.unread]

def encodeConversations (rows : List (ConversationRow Text)) : Bytes :=
  putI32 magic ++ putI32 formatVersion ++ putI32 (Int32.ofNat rows.length) ++
    rows.flatMap (putConversation toByteArray)

def putChange (c : Change Text) : Bytes :=
  List.flatten [
    putI64 c.changeSeq, putI32 c.ownerId, putStr toByteArray c.entityType,
    putStr toByteArray c.entityKey,
    putStr toByteArray c.operation, putI64 c.changedAt, putI32 c.payloadVersion,
    putStr toByteArray c.payload]

def encodeChanges (changes : List (Change Text)) : Option Bytes :=
  if changes.length ≤ batchSize then
    some (putI32 deltaMagic ++ putI32 1 ++ putI32 (Int32.ofNat changes.length) ++
      changes.flatMap (putChange toByteArray))
  else none

end Exporter

/-! ### `im_db_jni.cpp` -/

namespace ByteReader

def number32 (bytes : Bytes) : UInt32 :=
  (List.range 4).foldl
    (fun acc i => acc ||| (bytes.getD i 0).toUInt32 <<< UInt32.ofNat (8 * i)) 0

def number64 (bytes : Bytes) : UInt64 :=
  (List.range 8).foldl
    (fun acc i => acc ||| (bytes.getD i 0).toUInt64 <<< UInt64.ofNat (8 * i)) 0

def u32 : Decoder UInt8 Unit UInt32 := do
  let bytes ← Decoder.take () 4
  return number32 bytes

def u64 : Decoder UInt8 Unit UInt64 := do
  let bytes ← Decoder.take () 8
  return number64 bytes

def i32 : Decoder UInt8 Unit Int32 := do
  let u ← u32
  return u.toInt32

def i64 : Decoder UInt8 Unit Int64 := do
  let u ← u64
  return u.toInt64

def str : Decoder UInt8 Unit Bytes := do
  let len ← u32
  if len > kMaxStringBytes then Decoder.refuse ()
  else Decoder.take () len.toNat

end ByteReader

open ByteReader

def decodeMessage : Decoder UInt8 Unit (MessageRow Bytes) := do
  let msgId ← str
  let conversationId ← i64
  let peerId ← i64
  let seq ← i64
  let ts ← i64
  let localOrder ← i64
  let fromMe ← i32
  let type ← i32
  let content ← str
  let status ← i32
  let pinyin ← str
  let initials ← str
  let mediaPath ← str
  let imgW ← i32
  let imgH ← i32
  let fileId ← str
  let fileName ← str
  let fileSize ← i64
  let contentType ← str
  let sha256 ← str
  let thumbnailFileId ← str
  let thumbnailPath ← str
  let thumbnailSize ← i64
  let thumbnailSha256 ← str
  let thumbnailW ← i32
  let thumbnailH ← i32
  let largeThumbnailFileId ← str
  let largeThumbnailPath ← str
  let largeThumbnailSize ← i64
  let largeThumbnailSha256 ← str
  let largeThumbnailW ← i32
  let largeThumbnailH ← i32
  let localPath ← str
  let transferred ← i64
  return {
    msgId, conversationId, peerId, seq, ts, localOrder, fromMe, type, content, status
    pinyin, initials, mediaPath, imgW, imgH, fileId, fileName, fileSize, contentType, sha256
    thumbnailFileId, thumbnailPath, thumbnailSize, thumbnailSha256, thumbnailW, thumbnailH
    largeThumbnailFileId, largeThumbnailPath, largeThumbnailSize, largeThumbnailSha256
    largeThumbnailW, largeThumbnailH, localPath, transferred }

def decodeConversation : Decoder UInt8 Unit (ConversationRow Bytes) := do
  let conversationId ← i64
  let peerId ← i64
  let lastMsg ← str
  let lastTs ← i64
  let unread ← i64
  return { conversationId, peerId, lastMsg, lastTs, unread }

def decodeChange : Decoder UInt8 Unit DeltaChange := do
  let changeSeq ← i64
  let owner ← i32
  let entityType ← str
  let entityKey ← str
  let operation ← str
  let changedAt ← i64
  let payloadVersion ← i32
  let payload ← str
  return {
    changeSeq, ownerId := owner.toInt64, entityType, entityKey, operation, changedAt
    payloadVersion, payload }

structure BatchFormat where
  magic : UInt32
  empty : String
  badMagic : String
  badVersion : String
  badCount : String
  badRow : String
  trailing : String
  badSize : String

def BatchFormat.rowError (format : BatchFormat) (index : Nat) : String :=
  format.badRow ++ "（第 " ++ toString index ++ " 条）"

def decodeRows {Row : Type} (format : BatchFormat) (row : Decoder UInt8 Unit Row) :
    Decoder UInt8 String (List Row) := do
  let magic ← Decoder.orError u32 format.badMagic
  if magic ≠ format.magic then Decoder.refuse format.badMagic
  else
    let version ← Decoder.orError u32 format.badVersion
    if version ≠ 1 then Decoder.refuse format.badVersion
    else
      let count ← Decoder.orError u32 format.badCount
      if count > 500 then Decoder.refuse format.badCount
      else
        Decoder.each (fun index => Decoder.orError row (format.rowError index))
          (List.range count.toNat)

def decodeWith {Row : Type} (format : BatchFormat) (row : Decoder UInt8 Unit Row) (data : Bytes) :
    Outcome String (List Row) :=
  if data.length = 0 then .refused format.empty
  else
    match decodeRows format row (.whole data) with
    | .done (rows, rest) =>
        if rest.position = rest.data.length then .done rows else .refused format.trailing
    | .refused error => .refused error
    | .outside => .outside

def receive {Row : Type} (format : BatchFormat) (row : Decoder UInt8 Unit Row) (batch : Bytes) :
    Outcome String (List Row) :=
  if batch.length = 0 ∨ batch.length > kMaxBatchBytes then .refused format.badSize
  else decodeWith format row batch

def messageFormat : BatchFormat where
  magic := 0x4A544D47
  empty := "空批次"
  badMagic := "批次魔数非法"
  badVersion := "批次版本不支持"
  badCount := "批次行数非法或超限"
  badRow := "批次解码失败"
  trailing := "批次存在尾随垃圾"
  badSize := "批次大小非法或超限"

def conversationFormat : BatchFormat :=
  { messageFormat with badRow := "会话批次解码失败" }

def deltaFormat : BatchFormat where
  magic := 0x4A54444C
  empty := "空 delta 批次"
  badMagic := "delta 魔数非法"
  badVersion := "delta 版本不支持"
  badCount := "delta 行数非法或超限"
  badRow := "delta 解码失败"
  trailing := "delta 批次存在尾随垃圾"
  badSize := "delta 批次大小非法或超限"

def receiveMessages : Bytes → Outcome String (List (MessageRow Bytes)) :=
  receive messageFormat decodeMessage

def receiveConversations : Bytes → Outcome String (List (ConversationRow Bytes)) :=
  receive conversationFormat decodeConversation

def receiveChanges : Bytes → Outcome String (List DeltaChange) :=
  receive deltaFormat decodeChange

/-! ### The numbers and the texts -/

theorem number32_toNat {bytes : Bytes} (size : bytes.length = 4) :
    (number32 bytes).toNat = littleEndianNumber bytes := by
  have step (count : Nat) (small : count ≤ 4) :
      ((List.range count).foldl (fun acc i =>
        acc ||| (bytes.getD i 0).toUInt32 <<< UInt32.ofNat (8 * i)) 0).toNat =
      (List.range count).foldl (fun number i => number ||| (bytes.getD i 0).toNat <<< (8 * i)) 0 := by
    induction count with
    | zero => rfl
    | succ count ih =>
        have shift : (UInt32.ofNat (8 * count)).toNat % 32 = 8 * count := by
          rw [UInt32.toNat_ofNat']
          omega
        simp only [List.range_succ, List.foldl_append, List.foldl_cons, List.foldl_nil]
        rw [UInt32.toNat_or, ih (by omega), UInt32.toNat_shiftLeft, shift, UInt8.toNat_toUInt32,
          Nat.mod_eq_of_lt (shiftLeft_lt _ _ _ (by omega))]
  rw [number32, step 4 (Nat.le_refl _), or_bytes bytes 4 (by omega),
    List.take_of_length_le (by omega)]

theorem number64_toNat {bytes : Bytes} (size : bytes.length = 8) :
    (number64 bytes).toNat = littleEndianNumber bytes := by
  have step (count : Nat) (small : count ≤ 8) :
      ((List.range count).foldl (fun acc i =>
        acc ||| (bytes.getD i 0).toUInt64 <<< UInt64.ofNat (8 * i)) 0).toNat =
      (List.range count).foldl (fun number i => number ||| (bytes.getD i 0).toNat <<< (8 * i)) 0 := by
    induction count with
    | zero => rfl
    | succ count ih =>
        have shift : (UInt64.ofNat (8 * count)).toNat % 64 = 8 * count := by
          rw [UInt64.toNat_ofNat']
          omega
        simp only [List.range_succ, List.foldl_append, List.foldl_cons, List.foldl_nil]
        rw [UInt64.toNat_or, ih (by omega), UInt64.toNat_shiftLeft, shift, UInt8.toNat_toUInt64,
          Nat.mod_eq_of_lt (shiftLeft_lt _ _ _ (by omega))]
  rw [number64, step 8 (Nat.le_refl _), or_bytes bytes 8 (by omega),
    List.take_of_length_le (by omega)]

theorem u32_reads : Reads u32 (fun _ => True) (fun v => littleEndian 4 v.toNat) fun _ => True := by
  refine (Reads.take () 4).map number32 (fun v => littleEndian 4 v.toNat) ?_ ?_
  · intro bytes size
    rw [number32_toNat size, ← size, littleEndian_littleEndianNumber]
  · intro v
    have same : number32 (littleEndian 4 v.toNat) = v := by
      apply UInt32.toNat_inj.mp
      rw [number32_toNat (littleEndian_length _ _), littleEndianNumber_littleEndian]
      exact Nat.mod_eq_of_lt v.toNat_lt
    simp [same]

theorem u64_reads : Reads u64 (fun _ => True) (fun v => littleEndian 8 v.toNat) fun _ => True := by
  refine (Reads.take () 8).map number64 (fun v => littleEndian 8 v.toNat) ?_ ?_
  · intro bytes size
    rw [number64_toNat size, ← size, littleEndian_littleEndianNumber]
  · intro v
    have same : number64 (littleEndian 8 v.toNat) = v := by
      apply UInt64.toNat_inj.mp
      rw [number64_toNat (littleEndian_length _ _), littleEndianNumber_littleEndian]
      exact Nat.mod_eq_of_lt v.toNat_lt
    simp [same]

theorem i32_reads : Reads i32 (fun _ => True) putI32 fun _ => True :=
  u32_reads.map UInt32.toInt32 Int32.toUInt32 (fun _ _ => rfl) fun _ =>
    ⟨fun _ => ⟨trivial, rfl⟩, fun _ => trivial⟩

theorem i64_reads : Reads i64 (fun _ => True) putI64 fun _ => True :=
  u64_reads.map UInt64.toInt64 Int64.toUInt64 (fun _ _ => rfl) fun _ =>
    ⟨fun _ => ⟨trivial, rfl⟩, fun _ => trivial⟩

theorem str_reads :
    Reads str (fun _ => True) putBytes fun s => s.length ≤ kMaxStringBytes.toNat := by
  have cap : kMaxStringBytes.toNat = 1048576 := rfl
  have later (len : UInt32) : Reads
      (if len > kMaxStringBytes then Decoder.refuse () else Decoder.take () len.toNat)
      (fun s : Bytes => True ∧ UInt32.ofNat s.length = len) (fun s => s)
      fun s => s.length ≤ kMaxStringBytes.toNat := by
    split
    · rename_i large
      refine Reads.refuse () ?_
      rintro s ⟨_, rfl⟩ small
      have same := UInt32.lt_iff_toNat_lt.mp large
      rw [UInt32.toNat_ofNat', Nat.mod_eq_of_lt (by omega)] at same
      omega
    · rename_i fits
      have fits := UInt32.le_iff_toNat_le.mp (UInt32.not_lt.mp fits)
      refine (Reads.take () len.toNat).congr ?_ fun _ _ _ => rfl
      intro s
      constructor
      · rintro ⟨_, size⟩
        rw [size]
        exact ⟨⟨trivial, UInt32.ofNat_toNat⟩, fits⟩
      · rintro ⟨⟨_, rfl⟩, small⟩
        rw [UInt32.toNat_ofNat', Nat.mod_eq_of_lt (by omega)]
        exact ⟨trivial, rfl⟩
  refine (Reads.bind (fun s : Bytes => UInt32.ofNat s.length) u32_reads
    fun len _ => later len).congr ?_ fun _ _ _ => rfl
  intro s
  simp

/-! ### The rows -/

def Short (text : Bytes) : Prop := text.length ≤ kMaxStringBytes.toNat

def MessageRow.texts {Text : Type} (r : MessageRow Text) : List Text :=
  [r.msgId, r.content, r.pinyin, r.initials, r.mediaPath, r.fileId, r.fileName, r.contentType,
    r.sha256, r.thumbnailFileId, r.thumbnailPath, r.thumbnailSha256, r.largeThumbnailFileId,
    r.largeThumbnailPath, r.largeThumbnailSha256, r.localPath]

def ConversationRow.texts {Text : Type} (r : ConversationRow Text) : List Text := [r.lastMsg]

def Change.texts {Text : Type} (c : Change Text) : List Text :=
  [c.entityType, c.entityKey, c.operation, c.payload]

open MessageRow in
theorem message_reads : Reads decodeMessage (fun _ => True) (putMessage id)
    fun r => ∀ text ∈ r.texts, Short text := by
  refine (Reads.bind msgId str_reads fun _ _ => Reads.bind conversationId i64_reads fun _ _ =>
    Reads.bind peerId i64_reads fun _ _ => Reads.bind seq i64_reads fun _ _ =>
    Reads.bind ts i64_reads fun _ _ => Reads.bind localOrder i64_reads fun _ _ =>
    Reads.bind fromMe i32_reads fun _ _ => Reads.bind type i32_reads fun _ _ =>
    Reads.bind content str_reads fun _ _ => Reads.bind status i32_reads fun _ _ =>
    Reads.bind pinyin str_reads fun _ _ => Reads.bind initials str_reads fun _ _ =>
    Reads.bind mediaPath str_reads fun _ _ => Reads.bind imgW i32_reads fun _ _ =>
    Reads.bind imgH i32_reads fun _ _ => Reads.bind fileId str_reads fun _ _ =>
    Reads.bind fileName str_reads fun _ _ => Reads.bind fileSize i64_reads fun _ _ =>
    Reads.bind contentType str_reads fun _ _ => Reads.bind sha256 str_reads fun _ _ =>
    Reads.bind thumbnailFileId str_reads fun _ _ => Reads.bind thumbnailPath str_reads fun _ _ =>
    Reads.bind thumbnailSize i64_reads fun _ _ => Reads.bind thumbnailSha256 str_reads fun _ _ =>
    Reads.bind thumbnailW i32_reads fun _ _ => Reads.bind thumbnailH i32_reads fun _ _ =>
    Reads.bind largeThumbnailFileId str_reads fun _ _ =>
    Reads.bind largeThumbnailPath str_reads fun _ _ =>
    Reads.bind largeThumbnailSize i64_reads fun _ _ =>
    Reads.bind largeThumbnailSha256 str_reads fun _ _ =>
    Reads.bind largeThumbnailW i32_reads fun _ _ =>
    Reads.bind largeThumbnailH i32_reads fun _ _ => Reads.bind localPath str_reads fun _ _ =>
    Reads.bind transferred i64_reads fun _ _ =>
    Reads.done ?_).rewritten ?_ fun _ => rfl
  · rintro ⟨⟩
    simp only [MessageRow.mk.injEq, true_and, and_assoc]
    constructor
    · intro known
      simp only [known, and_self]
    · intro known
      simp only [known, and_self]
  · intro r
    simp [MessageRow.texts, Short]

open ConversationRow in
theorem conversation_reads : Reads decodeConversation (fun _ => True) (putConversation id)
    fun r => ∀ text ∈ r.texts, Short text := by
  refine (Reads.bind conversationId i64_reads fun _ _ => Reads.bind peerId i64_reads fun _ _ =>
    Reads.bind lastMsg str_reads fun _ _ => Reads.bind lastTs i64_reads fun _ _ =>
    Reads.bind unread i64_reads fun _ _ => Reads.done ?_).rewritten ?_ fun _ => rfl
  · rintro ⟨⟩
    simp only [ConversationRow.mk.injEq, true_and, and_assoc]
  · intro r
    simp [ConversationRow.texts, Short]

def Change.sent (c : Change Bytes) : DeltaChange where
  changeSeq := c.changeSeq
  ownerId := c.ownerId.toInt64
  entityType := c.entityType
  entityKey := c.entityKey
  operation := c.operation
  changedAt := c.changedAt
  payloadVersion := c.payloadVersion
  payload := c.payload

def DeltaChange.logged (c : DeltaChange) : Change Bytes where
  changeSeq := c.changeSeq
  ownerId := c.ownerId.toInt32
  entityType := c.entityType
  entityKey := c.entityKey
  operation := c.operation
  changedAt := c.changedAt
  payloadVersion := c.payloadVersion
  payload := c.payload

@[simp] theorem logged_sent (c : Change Bytes) : c.sent.logged = c := by
  simp [Change.sent, DeltaChange.logged]

theorem sent_logged {c : DeltaChange} (owner : c.ownerId.toInt32.toInt64 = c.ownerId) :
    c.logged.sent = c := by
  simp [Change.sent, DeltaChange.logged, owner]

open DeltaChange in
theorem change_reads : Reads decodeChange (fun _ => True) (fun c => putChange id c.logged)
    fun c => (∀ text ∈ c.logged.texts, Short text) ∧ c.ownerId.toInt32.toInt64 = c.ownerId := by
  have last {known : DeltaChange → Prop} (value : DeltaChange) (owner : Int32)
      (widened : value.ownerId = owner.toInt64) (parts : ∀ c, known c ↔
        c.changeSeq = value.changeSeq ∧ c.ownerId.toInt32 = owner ∧
          c.entityType = value.entityType ∧ c.entityKey = value.entityKey ∧
          c.operation = value.operation ∧ c.changedAt = value.changedAt ∧
          c.payloadVersion = value.payloadVersion ∧ c.payload = value.payload) :
      Reads (Decoder.pure value : Decoder UInt8 Unit DeltaChange) known (fun _ => [])
        fun c => c.ownerId.toInt32.toInt64 = c.ownerId := by
    refine (Reads.pure value).congr ?_ fun _ _ _ => rfl
    intro c
    rw [parts c]
    constructor
    · rintro ⟨rfl, _⟩
      simp [widened]
    · rintro ⟨⟨seq, rfl, type, key, operation, time, version, payload⟩, same⟩
      refine ⟨?_, trivial⟩
      cases c
      cases value
      simp_all
  refine (Reads.bind changeSeq i64_reads fun _ _ =>
    Reads.bind (fun c => c.ownerId.toInt32) i32_reads fun owner _ =>
    Reads.bind entityType str_reads fun _ _ => Reads.bind entityKey str_reads fun _ _ =>
    Reads.bind operation str_reads fun _ _ => Reads.bind changedAt i64_reads fun _ _ =>
    Reads.bind payloadVersion i32_reads fun _ _ => Reads.bind payload str_reads fun _ _ =>
    last _ owner rfl ?_).rewritten ?_ fun _ => rfl
  · intro c
    simp only [true_and, and_assoc]
  · intro c
    simp [Change.texts, Short, DeltaChange.logged, and_assoc]

/-! ### The batches -/

theorem checked_reads {Row : Type} {known fits : Row → Prop} {written : Row → Bytes}
    (error : String) (expected : UInt32) {next : Decoder UInt8 String Row}
    (later : Reads next known written fits) :
    Reads (Decoder.bind (Decoder.orError u32 error) fun value =>
      if value ≠ expected then Decoder.refuse error else next) known
      (fun row => littleEndian 4 expected.toNat ++ written row) fits := by
  refine (Reads.bind (fun _ => expected) u32_reads.orError fun value _ => ?_).rewritten
    (fun _ => iff_of_eq (true_and _)) fun _ => rfl
  split
  · rename_i differs
    exact Reads.refuse error fun _ wanted _ => differs wanted.2.symm
  · rename_i same
    refine later.congr (fun row => ?_) fun _ _ _ => rfl
    simp [not_not.mp same]

theorem decodeRows_reads {Row : Type} (format : BatchFormat) {row : Decoder UInt8 Unit Row}
    {written : Row → Bytes} {fits : Row → Prop} (reads : Reads row (fun _ => True) written fits) :
    Reads (decodeRows format row) (fun _ => True)
      (fun rows => putI32 format.magic.toInt32 ++ (putI32 1 ++
        (putI32 (Int32.ofNat rows.length) ++ rows.flatMap written)))
      fun rows => rows.length ≤ batchSize ∧ ∀ value ∈ rows, fits value := by
  refine checked_reads format.badMagic format.magic (checked_reads format.badVersion 1 ?_)
  refine (Reads.bind (fun rows : List Row => UInt32.ofNat rows.length) u32_reads.orError
    fun count _ => ?_).rewritten (fun _ => iff_of_eq (true_and _)) fun _ => rfl
  split
  · rename_i many
    refine Reads.refuse format.badCount ?_
    rintro rows ⟨_, rfl⟩ ⟨few, _⟩
    have more := UInt32.lt_iff_toNat_lt.mp many
    have bound : (500 : UInt32).toNat = 500 := rfl
    rw [UInt32.toNat_ofNat', bound] at more
    change rows.length ≤ 500 at few
    omega
  · rename_i few
    have few := UInt32.le_iff_toNat_le.mp (UInt32.not_lt.mp few)
    change count.toNat ≤ 500 at few
    refine (Reads.each (fun _ => reads.orError) (List.range count.toNat)).congr ?_
      fun _ _ _ => rfl
    intro rows
    rw [List.length_range]
    constructor
    · rintro ⟨_, size, all⟩
      refine ⟨⟨trivial, ?_⟩, ?_, all⟩
      · rw [size, UInt32.ofNat_toNat]
      · rw [size]
        exact few
    · rintro ⟨⟨_, rfl⟩, small, all⟩
      change rows.length ≤ 500 at small
      refine ⟨trivial, ?_, all⟩
      rw [UInt32.toNat_ofNat', Nat.mod_eq_of_lt (by omega)]

def MessageRow.bytes {Text : Type} (toByteArray : Text → Bytes) (r : MessageRow Text) :
    MessageRow Bytes :=
  { r with
    msgId := toByteArray r.msgId
    content := toByteArray r.content
    mediaPath := toByteArray r.mediaPath
    fileId := toByteArray r.fileId
    fileName := toByteArray r.fileName
    contentType := toByteArray r.contentType
    sha256 := toByteArray r.sha256
    thumbnailFileId := toByteArray r.thumbnailFileId
    thumbnailPath := toByteArray r.thumbnailPath
    thumbnailSha256 := toByteArray r.thumbnailSha256
    largeThumbnailFileId := toByteArray r.largeThumbnailFileId
    largeThumbnailPath := toByteArray r.largeThumbnailPath
    largeThumbnailSha256 := toByteArray r.largeThumbnailSha256
    localPath := toByteArray r.localPath
    pinyin := toByteArray r.pinyin
    initials := toByteArray r.initials }

def ConversationRow.bytes {Text : Type} (toByteArray : Text → Bytes) (r : ConversationRow Text) :
    ConversationRow Bytes :=
  { r with lastMsg := toByteArray r.lastMsg }

def Change.bytes {Text : Type} (toByteArray : Text → Bytes) (c : Change Text) : Change Bytes :=
  { c with
    entityType := toByteArray c.entityType
    entityKey := toByteArray c.entityKey
    operation := toByteArray c.operation
    payload := toByteArray c.payload }

structure RoundTrips {Sent Row : Type} (short : Sent → Prop) (sent : Sent → Row)
    (encode : List Sent → Option Bytes) (receive : Bytes → Outcome String (List Row)) : Prop where
  returns : ∀ rows, rows.length ≤ batchSize → (∀ row ∈ rows, short row) →
    ∃ data, encode rows = some data ∧ (data.length ≤ kMaxBatchBytes →
      receive data = .done (rows.map sent))
  accepts : ∀ data out, receive data = .done out → ∃ rows, out = rows.map sent ∧
    encode rows = some data ∧ rows.length ≤ batchSize ∧ ∀ row ∈ rows, short row
  truncated : ∀ rows front back, encode rows = some (front ++ back) → rows.length ≤ batchSize →
    (∀ row ∈ rows, short row) → back ≠ [] → ∃ error, receive front = .refused error
  trailing : ∀ rows data back, encode rows = some data → rows.length ≤ batchSize →
    (∀ row ∈ rows, short row) → back ≠ [] → ∃ error, receive (data ++ back) = .refused error
  inside : ∀ data, receive data ≠ .outside

def batchOf {Row : Type} (format : BatchFormat) (written : Row → Bytes) (rows : List Row) : Bytes :=
  putI32 format.magic.toInt32 ++ (putI32 1 ++
    (putI32 (Int32.ofNat rows.length) ++ rows.flatMap written))

section Batches

variable {Sent Row : Type} {format : BatchFormat} {row : Decoder UInt8 Unit Row}
  {written : Row → Bytes} {fits : Row → Prop}

theorem receive_done (reads : Reads row (fun _ => True) written fits) (data : Bytes)
    (out : List Row) : receive format row data = .done out ↔ data.length ≤ kMaxBatchBytes ∧
      batchOf format written out = data ∧ out.length ≤ batchSize ∧ ∀ value ∈ out, fits value := by
  have batches := decodeRows_reads format reads
  have header : 0 < (batchOf format written out).length := by
    simp only [batchOf, putI32, List.length_append, littleEndian_length]
    omega
  unfold receive decodeWith
  constructor
  · intro done
    split at done
    · exact nomatch done
    rename_i sized
    rw [not_or, Nat.not_lt] at sized
    rw [if_neg sized.1] at done
    split at done
    · rename_i rows rest read
      split at done
      · rename_i ends
        obtain rfl := Outcome.done.inj done
        obtain ⟨_, small, moved⟩ := (batches.done_iff _ _ _).mp read
        exact ⟨sized.2, ((Advances.whole_iff ends).mp moved).1, small⟩
      · exact nomatch done
    · exact nomatch done
    · exact nomatch done
  · rintro ⟨small, rfl, few, all⟩
    have read := (batches.done_iff (.whole (batchOf format written out)) out
      ⟨batchOf format written out, _, Nat.le_refl _⟩).mpr
      ⟨trivial, ⟨few, all⟩, (Advances.whole_iff rfl).mpr ⟨rfl, rfl⟩⟩
    rw [if_neg (by omega), if_neg (by omega), read]
    simp only [if_pos]

theorem receive_inside (reads : Reads row (fun _ => True) written fits) (data : Bytes) :
    receive format row data ≠ .outside := by
  unfold receive decodeWith
  split
  · exact nofun
  · split
    · exact nofun
    · split
      · split
        · exact nofun
        · exact nofun
      · exact nofun
      · rename_i outside
        exact absurd outside ((decodeRows_reads format reads).inside _)

theorem receive_refused (reads : Reads row (fun _ => True) written fits) {data : Bytes}
    (never : ∀ out, receive format row data ≠ .done out) :
    ∃ error, receive format row data = .refused error := by
  cases answer : receive format row data with
  | done out => exact absurd answer (never out)
  | refused error => exact ⟨error, rfl⟩
  | outside => exact absurd answer (receive_inside reads data)

theorem roundTrips (reads : Reads row (fun _ => True) written fits) {short : Sent → Prop}
    {sent : Sent → Row} {encode : List Sent → Option Bytes} (back : Row → Sent)
    (sent_back : ∀ value, fits value → sent (back value) = value)
    (fits_sent : ∀ value, fits (sent value) ↔ short value)
    (encoded : ∀ rows, rows.length ≤ batchSize →
      encode rows = some (batchOf format written (rows.map sent))) :
    RoundTrips short sent encode (receive format row) := by
  have fit (rows : List Sent) (all : ∀ value ∈ rows, short value) :
      ∀ value ∈ rows.map sent, fits value := by
    intro value member
    obtain ⟨row, listed, rfl⟩ := List.mem_map.mp member
    exact (fits_sent row).mpr (all row listed)
  have batches := decodeRows_reads format reads
  refine { returns := ?_, accepts := ?_, truncated := ?_, trailing := ?_,
           inside := receive_inside reads }
  · intro rows few all
    refine ⟨batchOf format written (rows.map sent), encoded rows few, ?_⟩
    intro small
    exact (receive_done reads _ _).mpr ⟨small, rfl, by rwa [List.length_map], fit rows all⟩
  · intro data out done
    obtain ⟨_, rfl, few, all⟩ := (receive_done reads data out).mp done
    have same : (out.map back).map sent = out := by
      rw [List.map_map]
      exact (List.map_congr_left fun value member => sent_back value (all value member)).trans
        (List.map_id out)
    refine ⟨out.map back, same.symm, ?_, by rwa [List.length_map], ?_⟩
    · rw [encoded _ (by rwa [List.length_map]), same]
    · intro value member
      obtain ⟨read, listed, rfl⟩ := List.mem_map.mp member
      rw [← fits_sent, sent_back read (all read listed)]
      exact all read listed
  · intro rows front rest split few all more
    rw [encoded rows few] at split
    refine receive_refused reads ?_
    intro out done
    obtain ⟨_, rfl, fewOut, allOut⟩ := (receive_done reads _ _).mp done
    have same : batchOf format written (rows.map sent) ++ [] = batchOf format written out ++ rest := by
      rw [List.append_nil]
      exact Option.some.inj split
    exact more (batches.prefix_free ⟨by rwa [List.length_map], fit rows all⟩ ⟨fewOut, allOut⟩
      same).2.symm
  · intro rows data rest split few all more
    rw [encoded rows few] at split
    obtain rfl := Option.some.inj split
    refine receive_refused reads ?_
    intro out done
    obtain ⟨_, same, fewOut, allOut⟩ := (receive_done reads _ _).mp done
    rw [← List.append_nil (batchOf format written out)] at same
    exact more (batches.prefix_free ⟨fewOut, allOut⟩ ⟨by rwa [List.length_map], fit rows all⟩
      same).2.symm

end Batches

theorem messages_roundTrip : RoundTrips (fun r : MessageRow Bytes => ∀ text ∈ r.texts, Short text)
    id (fun rows => some (encode id rows)) receiveMessages := by
  refine roundTrips message_reads id (fun _ _ => rfl) (fun _ => Iff.rfl) ?_
  intro rows _
  simp only [encode, batchOf, List.map_id, List.append_assoc]
  rfl

theorem conversations_roundTrip :
    RoundTrips (fun r : ConversationRow Bytes => ∀ text ∈ r.texts, Short text)
      id (fun rows => some (encodeConversations id rows)) receiveConversations := by
  refine roundTrips conversation_reads id (fun _ _ => rfl) (fun _ => Iff.rfl) ?_
  intro rows _
  simp only [encodeConversations, batchOf, List.map_id, List.append_assoc]
  rfl

theorem changes_roundTrip : RoundTrips (fun c : Change Bytes => ∀ text ∈ c.texts, Short text)
    Change.sent (encodeChanges id) receiveChanges := by
  refine roundTrips change_reads DeltaChange.logged ?_ ?_ ?_
  · rintro c ⟨_, owner⟩
    exact sent_logged owner
  · intro c
    rw [logged_sent]
    simp [Change.sent]
  · intro changes few
    have rows : (changes.map Change.sent).flatMap (fun c => putChange id c.logged) =
        changes.flatMap (putChange id) := by
      simp [List.flatMap_map]
    simp only [encodeChanges, if_pos few, batchOf, rows, List.length_map, List.append_assoc]
    rfl

theorem encode_bytes {Text : Type} (toByteArray : Text → Bytes) (rows : List (MessageRow Text)) :
    encode toByteArray rows = encode id (rows.map (·.bytes toByteArray)) := by
  simp only [encode, List.length_map, List.flatMap_map]
  rfl

theorem encodeConversations_bytes {Text : Type} (toByteArray : Text → Bytes)
    (rows : List (ConversationRow Text)) :
    encodeConversations toByteArray rows =
      encodeConversations id (rows.map (·.bytes toByteArray)) := by
  simp only [encodeConversations, List.length_map, List.flatMap_map]
  rfl

theorem encodeChanges_bytes {Text : Type} (toByteArray : Text → Bytes)
    (changes : List (Change Text)) :
    encodeChanges toByteArray changes = encodeChanges id (changes.map (·.bytes toByteArray)) := by
  simp only [encodeChanges, List.length_map, List.flatMap_map]
  rfl

/-- The three batches of the migration, for texts of any kind that are sent as their bytes. -/
theorem wire_roundTrips {Text : Type} (toByteArray : Text → Bytes) :
    (RoundTrips (fun r : MessageRow Bytes => ∀ text ∈ r.texts, Short text) id
        (fun rows => some (encode id rows)) receiveMessages ∧
      ∀ rows : List (MessageRow Text),
        encode toByteArray rows = encode id (rows.map (·.bytes toByteArray))) ∧
    (RoundTrips (fun r : ConversationRow Bytes => ∀ text ∈ r.texts, Short text) id
        (fun rows => some (encodeConversations id rows)) receiveConversations ∧
      ∀ rows : List (ConversationRow Text), encodeConversations toByteArray rows =
        encodeConversations id (rows.map (·.bytes toByteArray))) ∧
    (RoundTrips (fun c : Change Bytes => ∀ text ∈ c.texts, Short text) Change.sent
        (encodeChanges id) receiveChanges ∧
      ∀ changes : List (Change Text),
        encodeChanges toByteArray changes =
          encodeChanges id (changes.map (·.bytes toByteArray))) :=
  ⟨⟨messages_roundTrip, encode_bytes toByteArray⟩,
    ⟨conversations_roundTrip, encodeConversations_bytes toByteArray⟩,
    ⟨changes_roundTrip, encodeChanges_bytes toByteArray⟩⟩

end MigrationWire

end Jitong
