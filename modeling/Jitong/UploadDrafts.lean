import Jitong.Lib.Join
import Jitong.TokenMirror

/-!
The drafts of uploads: the rows of `upload_drafts` under the operations of `NativeRepository`, with
the list of finished chunks as the text that the table keeps.
-/

namespace Jitong

open Lib

inductive MediaVariant
  | origin | largeThumbnail | smallThumbnail
  deriving DecidableEq

inductive UploadDraftState
  | pending | uploading | finalized | sent | cancelled | failed
  deriving DecidableEq

def UploadDraftState.isTerminal : UploadDraftState → Bool
  | .sent | .cancelled => true
  | _ => false

def UploadDraftState.isOpen : UploadDraftState → Bool
  | .pending | .uploading | .failed => true
  | _ => false

structure UploadDraft (Chunks : Type) where
  conversationId : Int
  peerId : Int
  localPath : Bytes
  fileName : Bytes := []
  fileSize : Int
  sha256 : Bytes
  contentType : Bytes := []
  imageWidth : Int := 0
  imageHeight : Int := 0
  uploadId : Bytes := []
  chunkSize : Int := 0
  chunkCount : Int32 := 0
  chunksDone : Chunks
  fileId : Bytes := []
  state : UploadDraftState := .pending
  errorCode : Int32 := 0
  deriving DecidableEq

def UploadDraft.stored (draft : UploadDraft (List Int32)) : UploadDraft Bytes where
  conversationId := draft.conversationId
  peerId := draft.peerId
  localPath := draft.localPath
  fileName := draft.fileName
  fileSize := draft.fileSize
  sha256 := draft.sha256
  contentType := draft.contentType
  imageWidth := draft.imageWidth
  imageHeight := draft.imageHeight
  chunksDone := []

structure DraftKey where
  ownerId : Int
  msgId : Bytes
  variant : MediaVariant
  deriving DecidableEq

structure UploadDrafts where
  row : DraftKey → Option (UploadDraft Bytes) := fun _ => none

namespace UploadDrafts

def comma : UInt8 := 0x2C

def joinChunkIndices (indices : List Int32) : Bytes :=
  join comma (indices.map fun index => decimal index.toInt)

/-- `std::stoi`, which skips white space, takes a sign and stops where the digits end. -/
def stoi (text : Bytes) : Option Int32 :=
  let unspaced := text.dropWhile isSpace
  let negative := unspaced.head? = some 0x2D
  let digits := (if negative ∨ unspaced.head? = some 0x2B then unspaced.tail else unspaced).takeWhile
    isDecimal
  let size := digits.foldl (fun value digit => 10 * value + (digit.toNat - 0x30 : Int)) 0
  let value := if negative then -size else size
  if digits = [] ∨ value < -2 ^ 31 ∨ 2 ^ 31 ≤ value then none else some (Int32.ofInt value)

def splitChunkIndices (text : Bytes) : List Int32 :=
  (((text.splitOn comma).filter fun part => part ≠ []).mapM stoi).getD []

def read (row : UploadDraft Bytes) : UploadDraft (List Int32) :=
  { row with chunksDone := splitChunkIndices row.chunksDone }

def getUploadDraft (drafts : UploadDrafts) (key : DraftKey) : Option (UploadDraft (List Int32)) :=
  (drafts.row key).map read

def put (drafts : UploadDrafts) (key : DraftKey) (row : UploadDraft Bytes) : UploadDrafts :=
  ⟨Function.update drafts.row key (some row)⟩

/-- `UPDATE upload_drafts ... WHERE` the key and a condition, which has to find the row. -/
def update (drafts : UploadDrafts) (key : DraftKey) (allowed : UploadDraft Bytes → Bool)
    (change : UploadDraft Bytes → UploadDraft Bytes) : Option UploadDrafts :=
  match drafts.row key with
  | none => none
  | some row => if allowed row then some (drafts.put key (change row)) else none

/-- The `INSERT`, which leaves a stored draft as it is. -/
def upsertUploadDraft (drafts : UploadDrafts) (key : DraftKey) (draft : UploadDraft (List Int32)) :
    Option UploadDrafts :=
  if key.ownerId ≤ 0 ∨ key.msgId = [] ∨ draft.conversationId ≤ 0 ∨ draft.peerId ≤ 0 ∨
      draft.localPath = [] ∨ draft.fileSize ≤ 0 ∨ draft.sha256.length ≠ 64 ∨ draft.imageWidth < 0 ∨
      draft.imageHeight < 0 ∨ 100000 < draft.imageWidth ∨ 100000 < draft.imageHeight then none
  else
    match drafts.row key with
    | some _ => some drafts
    | none => some (drafts.put key draft.stored)

def setUploadDraftSession (drafts : UploadDrafts) (key : DraftKey) (uploadId : Bytes)
    (chunkSize : Int) (chunkCount : Int32) : Option UploadDrafts :=
  if key.ownerId ≤ 0 ∨ key.msgId = [] ∨ uploadId = [] ∨ chunkSize ≤ 0 ∨ chunkCount ≤ 0 then none
  else
    drafts.update key (·.state.isOpen) fun row =>
      { row with
        uploadId := uploadId
        chunkSize := chunkSize
        chunkCount := chunkCount
        state := .uploading
        errorCode := 0 }

def withChunk (done : List Int32) (chunkIndex : Int32) : List Int32 :=
  if chunkIndex ∈ done then done else (done ++ [chunkIndex]).insertionSort (· ≤ ·)

def markUploadChunkDone (drafts : UploadDrafts) (key : DraftKey) (chunkIndex : Int32) :
    Option UploadDrafts :=
  if key.ownerId ≤ 0 ∨ key.msgId = [] ∨ chunkIndex < 0 then none
  else
    drafts.update key (fun row => chunkIndex < row.chunkCount && !row.state.isTerminal) fun row =>
      { row with
        chunksDone := joinChunkIndices (withChunk (splitChunkIndices row.chunksDone) chunkIndex) }

def setUploadDraftFileId (drafts : UploadDrafts) (key : DraftKey) (fileId : Bytes) :
    Option UploadDrafts :=
  if key.ownerId ≤ 0 ∨ key.msgId = [] ∨ fileId = [] then none
  else
    drafts.update key
      (fun row => row.state.isOpen || row.state = .finalized && row.fileId = fileId) fun row =>
        { row with fileId := fileId, state := .finalized, errorCode := 0 }

def resetUploadDraftForNewSession (drafts : UploadDrafts) (key : DraftKey) (uploadId : Bytes)
    (chunkSize : Int) (chunkCount : Int32) : Option UploadDrafts :=
  if key.ownerId ≤ 0 ∨ key.msgId = [] ∨ uploadId = [] ∨ chunkSize ≤ 0 ∨ chunkCount ≤ 0 then none
  else
    drafts.update key (·.state.isOpen) fun row =>
      { row with
        uploadId := uploadId
        chunkSize := chunkSize
        chunkCount := chunkCount
        chunksDone := []
        fileId := []
        state := .uploading
        errorCode := 0 }

def setUploadDraftState (drafts : UploadDrafts) (key : DraftKey) (state : UploadDraftState)
    (errorCode : Int32) : Option UploadDrafts :=
  if key.ownerId ≤ 0 ∨ key.msgId = [] then none
  else
    drafts.update key (fun row => !row.state.isTerminal) fun row =>
      { row with state := state, errorCode := errorCode }

end UploadDrafts

def UploadDraft.session {Chunks : Type} (row : UploadDraft Chunks) : Bytes × Int × Int32 :=
  (row.uploadId, row.chunkSize, row.chunkCount)

inductive DraftCall
  | upsertUploadDraft (key : DraftKey) (draft : UploadDraft (List Int32))
  | setUploadDraftSession (key : DraftKey) (uploadId : Bytes) (chunkSize : Int) (chunkCount : Int32)
  | markUploadChunkDone (key : DraftKey) (chunkIndex : Int32)
  | setUploadDraftFileId (key : DraftKey) (fileId : Bytes)
  | resetUploadDraftForNewSession (key : DraftKey) (uploadId : Bytes) (chunkSize : Int)
      (chunkCount : Int32)
  | setUploadDraftState (key : DraftKey) (state : UploadDraftState) (errorCode : Int32)
  deriving DecidableEq

def DraftCall.session : DraftCall → Option (DraftKey × Bytes × Int × Int32)
  | .setUploadDraftSession key uploadId chunkSize chunkCount
  | .resetUploadDraftForNewSession key uploadId chunkSize chunkCount =>
      some (key, uploadId, chunkSize, chunkCount)
  | _ => none

namespace UploadDrafts

/-- A call that fails, and one whose transaction is rolled back, gives `none`. -/
def tryCall (drafts : UploadDrafts) : DraftCall → Option UploadDrafts
  | .upsertUploadDraft key draft => drafts.upsertUploadDraft key draft
  | .setUploadDraftSession key uploadId chunkSize chunkCount =>
      drafts.setUploadDraftSession key uploadId chunkSize chunkCount
  | .markUploadChunkDone key chunkIndex => drafts.markUploadChunkDone key chunkIndex
  | .setUploadDraftFileId key fileId => drafts.setUploadDraftFileId key fileId
  | .resetUploadDraftForNewSession key uploadId chunkSize chunkCount =>
      drafts.resetUploadDraftForNewSession key uploadId chunkSize chunkCount
  | .setUploadDraftState key state errorCode => drafts.setUploadDraftState key state errorCode

def call (drafts : UploadDrafts) (made : DraftCall) : UploadDrafts :=
  (drafts.tryCall made).getD drafts

/-! What one call can do to one row. -/

inductive Moves (key : DraftKey) :
    DraftCall → Option (UploadDraft Bytes) → Option (UploadDraft Bytes) → Prop
  | still (made row) : Moves key made row row
  | stored (draft) : Moves key (.upsertUploadDraft key draft) none (some draft.stored)
  | session (row uploadId chunkSize chunkCount) (isOpen : row.state.isOpen = true)
      (named : uploadId ≠ []) (sized : 0 < chunkSize) (counted : 0 < chunkCount) :
      Moves key (.setUploadDraftSession key uploadId chunkSize chunkCount) (some row)
        (some { row with
          uploadId := uploadId
          chunkSize := chunkSize
          chunkCount := chunkCount
          state := .uploading
          errorCode := 0 })
  | chunk (row chunkIndex) (lasts : row.state.isTerminal = false) (natural : 0 ≤ chunkIndex)
      (below : chunkIndex < row.chunkCount) :
      Moves key (.markUploadChunkDone key chunkIndex) (some row)
        (some { row with
          chunksDone := joinChunkIndices (withChunk (splitChunkIndices row.chunksDone) chunkIndex) })
  | file (row fileId) (named : fileId ≠ [])
      (allowed : row.state.isOpen = true ∨ row.state = .finalized ∧ row.fileId = fileId) :
      Moves key (.setUploadDraftFileId key fileId) (some row)
        (some { row with fileId := fileId, state := .finalized, errorCode := 0 })
  | reset (row uploadId chunkSize chunkCount) (isOpen : row.state.isOpen = true)
      (named : uploadId ≠ []) (sized : 0 < chunkSize) (counted : 0 < chunkCount) :
      Moves key (.resetUploadDraftForNewSession key uploadId chunkSize chunkCount) (some row)
        (some { row with
          uploadId := uploadId
          chunkSize := chunkSize
          chunkCount := chunkCount
          chunksDone := []
          fileId := []
          state := .uploading
          errorCode := 0 })
  | state (row state errorCode) (lasts : row.state.isTerminal = false) :
      Moves key (.setUploadDraftState key state errorCode) (some row)
        (some { row with state := state, errorCode := errorCode })

variable {drafts after : UploadDrafts} {key : DraftKey}

@[simp] theorem put_same (row : UploadDraft Bytes) : (drafts.put key row).row key = some row :=
  Function.update_self _ _ _

theorem put_other {own : DraftKey} (row : UploadDraft Bytes) (other : key ≠ own) :
    (drafts.put own row).row key = drafts.row key :=
  Function.update_of_ne other _ _

theorem update_eq_some {allowed : UploadDraft Bytes → Bool}
    {change : UploadDraft Bytes → UploadDraft Bytes} :
    drafts.update key allowed change = some after ↔
      ∃ row, drafts.row key = some row ∧ allowed row = true ∧
        drafts.put key (change row) = after := by
  unfold update
  cases drafts.row key <;> simp

theorem update_moves {made : DraftCall} {own : DraftKey} {allowed : UploadDraft Bytes → Bool}
    {change : UploadDraft Bytes → UploadDraft Bytes}
    (updated : drafts.update own allowed change = some after)
    (moves : ∀ row, allowed row = true → Moves own made (some row) (some (change row))) :
    Moves key made (drafts.row key) (after.row key) := by
  obtain ⟨row, stored, passed, rfl⟩ := update_eq_some.mp updated
  by_cases same : key = own
  · subst same
    rw [stored, put_same]
    exact moves row passed
  · rw [put_other _ same]
    exact .still made _

theorem tryCall_moves {made : DraftCall} (called : drafts.tryCall made = some after)
    (key : DraftKey) : Moves key made (drafts.row key) (after.row key) := by
  cases made with
  | upsertUploadDraft own draft =>
      simp only [tryCall, upsertUploadDraft, Option.ite_none_left_eq_some] at called
      obtain ⟨_, called⟩ := called
      cases stored : drafts.row own with
      | some row =>
          simp only [stored, Option.some.injEq] at called
          exact called ▸ .still _ _
      | none =>
          simp only [stored, Option.some.injEq] at called
          subst called
          by_cases same : key = own
          · subst same
            rw [stored, put_same]
            exact .stored draft
          · rw [put_other _ same]
            exact .still _ _
  | setUploadDraftSession own uploadId chunkSize chunkCount =>
      simp only [tryCall, setUploadDraftSession, Option.ite_none_left_eq_some, not_or] at called
      obtain ⟨⟨_, _, named, sized, counted⟩, called⟩ := called
      refine update_moves called fun row isOpen => ?_
      exact .session row uploadId chunkSize chunkCount isOpen named (by omega)
        (Int32.not_le.mp counted)
  | markUploadChunkDone own chunkIndex =>
      simp only [tryCall, markUploadChunkDone, Option.ite_none_left_eq_some, not_or] at called
      obtain ⟨⟨_, _, natural⟩, called⟩ := called
      refine update_moves called fun row allowed => ?_
      simp only [Bool.and_eq_true, decide_eq_true_eq, Bool.not_eq_true'] at allowed
      exact .chunk row chunkIndex allowed.2 (Int32.not_lt.mp natural) allowed.1
  | setUploadDraftFileId own fileId =>
      simp only [tryCall, setUploadDraftFileId, Option.ite_none_left_eq_some, not_or] at called
      obtain ⟨⟨_, _, named⟩, called⟩ := called
      refine update_moves called fun row allowed => ?_
      simp only [Bool.or_eq_true, Bool.and_eq_true, decide_eq_true_eq] at allowed
      exact .file row fileId named allowed
  | resetUploadDraftForNewSession own uploadId chunkSize chunkCount =>
      simp only [tryCall, resetUploadDraftForNewSession, Option.ite_none_left_eq_some,
        not_or] at called
      obtain ⟨⟨_, _, named, sized, counted⟩, called⟩ := called
      refine update_moves called fun row isOpen => ?_
      exact .reset row uploadId chunkSize chunkCount isOpen named (by omega)
        (Int32.not_le.mp counted)
  | setUploadDraftState own state errorCode =>
      simp only [tryCall, setUploadDraftState, Option.ite_none_left_eq_some] at called
      refine update_moves called.2 fun row lasts => ?_
      exact .state row state errorCode (by simpa using lasts)

theorem call_moves (drafts : UploadDrafts) (made : DraftCall) (key : DraftKey) :
    Moves key made (drafts.row key) ((drafts.call made).row key) := by
  unfold call
  cases called : drafts.tryCall made with
  | none => exact .still made _
  | some after => exact tryCall_moves called key

/-! The list of finished chunks and its text. -/

theorem decimal_digits {number : Int} (natural : 0 ≤ number) :
    decimal number ≠ [] ∧ (∀ digit ∈ decimal number, isDecimal digit = true) ∧
      (decimal number).foldl (fun value digit => 10 * value + (digit.toNat - 0x30 : Int)) 0 =
        number := by
  obtain ⟨some, digits, value⟩ := digitBytes_spec number.natAbs
  have written : decimal number = digitBytes number.natAbs := by
    rw [decimal, if_neg (by omega)]
    rfl
  refine written ▸ ⟨some, digits, ?_⟩
  rw [value 0]
  omega

theorem stoi_decimal {index : Int32} (natural : 0 ≤ index) :
    stoi (decimal index.toInt) = some index := by
  have positive : 0 ≤ index.toInt := Int32.le_iff_toInt_le.mp natural
  have above := index.le_toInt
  have below := index.toInt_lt
  obtain ⟨some, digits, value⟩ := decimal_digits positive
  generalize decimal index.toInt = text at some digits value
  cases text with
  | nil => exact absurd rfl some
  | cons digit rest =>
      obtain ⟨unspaced, unsigned⟩ := isDecimal_plain (digits digit List.mem_cons_self)
      have unsigned' : digit ≠ 0x2D := by
        rintro rfl
        exact absurd (digits _ List.mem_cons_self) (by decide)
      have whole : (digit :: rest).takeWhile isDecimal = digit :: rest :=
        List.takeWhile_eq_self_iff.mpr digits
      simp only [stoi, List.dropWhile_cons, unspaced, Bool.false_eq_true, if_false,
        List.head?_cons, Option.some.injEq, unsigned, unsigned', or_self, whole, value,
        reduceCtorEq, false_or]
      rw [if_neg (by omega), Int32.ofInt_toInt]

theorem comma_notin_decimal {number : Int} (natural : 0 ≤ number) : comma ∉ decimal number := by
  intro member
  exact absurd ((decimal_digits natural).2.1 comma member) (by decide)

theorem splitChunkIndices_join {done : List Int32} (natural : ∀ index ∈ done, 0 ≤ index) :
    splitChunkIndices (joinChunkIndices done) = done := by
  have positive {index : Int32} (member : index ∈ done) : 0 ≤ index.toInt :=
    Int32.le_iff_toInt_le.mp (natural index member)
  have written {part : Bytes} (member : part ∈ done.map fun index => decimal index.toInt) :
      part ≠ [] ∧ comma ∉ part := by
    obtain ⟨index, listed, rfl⟩ := List.mem_map.mp member
    exact ⟨(decimal_digits (positive listed)).1, comma_notin_decimal (positive listed)⟩
  cases listed : done with
  | nil => decide
  | cons first later =>
      have head : first ∈ done := listed ▸ List.mem_cons_self
      rw [← listed]
      unfold splitChunkIndices joinChunkIndices
      rw [splitOn_join fun part member => (written member).2, List.dropWhile_eq_self_iff.mpr,
        List.filter_eq_self.mpr]
      · clear listed head written positive
        suffices read : (done.map fun index => decimal index.toInt).mapM stoi = some done by
          rw [read, Option.getD_some]
        induction done with
        | nil => rfl
        | cons index rest ih =>
            rw [List.map_cons, List.mapM_cons, stoi_decimal (natural index List.mem_cons_self),
              ih fun other member => natural other (List.mem_cons_of_mem index member)]
            rfl
      · intro part member
        exact decide_eq_true (written member).1
      · intro bound
        simpa using (written (List.getElem_mem bound)).1
      · exact ⟨decimal first.toInt, List.mem_map_of_mem head, (written (List.mem_map_of_mem head)).1⟩

theorem mem_withChunk {done : List Int32} {chunkIndex index : Int32} :
    index ∈ withChunk done chunkIndex ↔ index ∈ done ∨ index = chunkIndex := by
  unfold withChunk
  split
  · rename_i known
    constructor
    · exact .inl
    · rintro (listed | rfl)
      · exact listed
      · exact known
  · rw [(List.perm_insertionSort _ _).mem_iff, List.mem_append, List.mem_singleton]

theorem withChunk_increasing {done : List Int32} {chunkIndex : Int32}
    (increasing : done.Pairwise (· < ·)) : (withChunk done chunkIndex).Pairwise (· < ·) := by
  unfold withChunk
  split
  · exact increasing
  · rename_i fresh
    have ordered := List.pairwise_insertionSort (· ≤ ·) (done ++ [chunkIndex])
    have apart : (done ++ [chunkIndex]).Nodup := by
      refine List.nodup_append.mpr ⟨increasing.imp Int32.ne_of_lt, by simp, ?_⟩
      rintro index listed _ last rfl
      exact fresh (List.mem_singleton.mp last ▸ listed)
    have different := (List.perm_insertionSort (· ≤ ·) (done ++ [chunkIndex])).nodup_iff.mpr apart
    refine (ordered.and different).imp ?_
    rintro first second ⟨atMost, distinct⟩
    exact Int32.lt_of_le_of_ne atMost distinct

/-! Runs of calls. -/

def run (calls : List DraftCall) : UploadDrafts := calls.foldl call {}

structure Lawful (calls : List DraftCall) : Prop where
  absorbing : ∀ front back, front ++ back = calls → ∀ key row, (run front).row key = some row →
    row.state.isTerminal = true → (run calls).row key = some row
  fileId : ∀ front back, front ++ back = calls → ∀ key row, (run front).row key = some row →
    row.state = .finalized → ∃ last, (run calls).row key = some last ∧ last.fileId = row.fileId
  chunks : ∀ key row, (run calls).row key = some row →
    (read row).chunksDone.Pairwise (· < ·) ∧
      (∀ index ∈ (read row).chunksDone, 0 ≤ index ∧ index < row.chunkCount) ∧
      row.chunksDone = joinChunkIndices (read row).chunksDone
  session : ∀ key row, (run calls).row key = some row → row.uploadId ≠ [] →
    ∃ made ∈ calls, made.session = some (key, row.session)
  cleared : ∀ front made back, front ++ made :: back = calls → ∀ key before after,
    (run front).row key = some before → (run (front ++ [made])).row key = some after →
    after.session ≠ before.session → after.chunksDone = []

def permits (drafts : UploadDrafts) : DraftCall → Bool
  | .setUploadDraftSession key uploadId chunkSize chunkCount =>
      uploadId = [] || chunkSize ≤ 0 || chunkCount ≤ 0 ||
        (drafts.row key).all fun row => !row.state.isOpen || row.chunksDone = [] ||
          row.session = (uploadId, chunkSize, chunkCount)
  | .setUploadDraftFileId key fileId =>
      fileId = [] || (drafts.row key).all fun row => !row.state.isOpen || row.fileId = [] ||
        row.fileId = fileId
  | .resetUploadDraftForNewSession key uploadId chunkSize chunkCount =>
      uploadId = [] || chunkSize ≤ 0 || chunkCount ≤ 0 ||
        (drafts.row key).all fun row => !row.state.isOpen || row.fileId = []
  | .setUploadDraftState key state _ =>
      (drafts.row key).all fun row => row.state ≠ .finalized || row.fileId ≠ [] || !state.isOpen
  | _ => true

structure RowKept (calls : List DraftCall) (key : DraftKey) (row : UploadDraft Bytes) : Prop where
  chunks : ∃ done : List Int32, row.chunksDone = joinChunkIndices done ∧ done.Pairwise (· < ·) ∧
    ∀ index ∈ done, 0 ≤ index ∧ index < row.chunkCount
  session : row.uploadId ≠ [] → ∃ made ∈ calls, made.session = some (key, row.session)

/-- A row whose file id is settled: it is `fileId`, and when the row is open again the id that it
still has is a real one. -/
def Settled (fileId : Bytes) (row : UploadDraft Bytes) : Prop :=
  row.fileId = fileId ∧ (row.state.isOpen = true → fileId ≠ [])

theorem moves_terminal {made : DraftCall} {row : UploadDraft Bytes}
    {next : Option (UploadDraft Bytes)} (moves : Moves key made (some row) next)
    (terminal : row.state.isTerminal = true) : next = some row := by
  have closed : row.state.isOpen = false ∧ row.state ≠ .finalized := by
    cases state : row.state <;> simp_all [UploadDraftState.isTerminal, UploadDraftState.isOpen]
  cases moves <;> simp_all

theorem moves_settled {made : DraftCall} {fileId : Bytes} {row : UploadDraft Bytes}
    {next : Option (UploadDraft Bytes)} (moves : Moves key made (some row) next)
    (stored : drafts.row key = some row) (settled : Settled fileId row)
    (permitted : drafts.permits made = true) : ∃ last, next = some last ∧ Settled fileId last := by
  obtain ⟨same, real⟩ := settled
  cases moves with
  | still => exact ⟨row, rfl, same, real⟩
  | session _ _ _ _ isOpen => exact ⟨_, rfl, same, fun _ => real isOpen⟩
  | chunk => exact ⟨_, rfl, same, real⟩
  | file _ given named allowed =>
      refine ⟨_, rfl, ?_, by simp [UploadDraftState.isOpen]⟩
      rcases allowed with isOpen | ⟨_, own⟩
      · simp_all [permits]
      · exact own ▸ same
  | reset _ uploadId chunkSize chunkCount isOpen named sized counted =>
      have kept := real isOpen
      have sized' : ¬chunkSize ≤ 0 := by omega
      have counted' : ¬chunkCount ≤ 0 := Int32.not_le.mpr counted
      simp_all [permits]
  | state _ state errorCode lasts =>
      refine ⟨_, rfl, same, fun reopened => ?_⟩
      by_cases isOpen : row.state.isOpen = true
      · exact real isOpen
      · have finalized : row.state = .finalized := by
          cases now : row.state <;>
            simp_all [UploadDraftState.isTerminal, UploadDraftState.isOpen]
        simp_all [permits]

theorem moves_kept {calls : List DraftCall} {made : DraftCall} {row next : UploadDraft Bytes}
    (kept : RowKept calls key row) (moves : Moves key made (some row) (some next))
    (stored : drafts.row key = some row) (permitted : drafts.permits made = true) :
    RowKept (calls ++ [made]) key next ∧ (next.session ≠ row.session → next.chunksDone = []) := by
  have asked : row.uploadId ≠ [] →
      ∃ earlier ∈ calls ++ [made], earlier.session = some (key, row.session) := by
    intro named
    obtain ⟨earlier, member, same⟩ := kept.session named
    exact ⟨earlier, List.mem_append_left _ member, same⟩
  have unchanged : next.session = row.session → next.uploadId = row.uploadId := by
    intro same
    exact congrArg Prod.fst same
  cases moves with
  | still => exact ⟨⟨kept.chunks, asked⟩, by simp⟩
  | session _ uploadId chunkSize chunkCount isOpen named sized counted =>
      have sized' : ¬chunkSize ≤ 0 := by omega
      have counted' : ¬chunkCount ≤ 0 := Int32.not_le.mpr counted
      have laid : row.chunksDone = [] ∨ row.session = (uploadId, chunkSize, chunkCount) := by
        simpa [permits, named, sized', counted', stored, isOpen] using permitted
      refine ⟨⟨?_, fun _ => ⟨_, List.mem_append_right _ List.mem_cons_self, rfl⟩⟩, ?_⟩
      · rcases laid with empty | same
        · exact ⟨[], empty, .nil, by simp⟩
        · have count : row.chunkCount = chunkCount := congrArg (·.2.2) same
          exact count ▸ kept.chunks
      · intro replaced
        rcases laid with empty | same
        · exact empty
        · exact absurd same.symm replaced
  | chunk _ chunkIndex lasts natural below =>
      obtain ⟨done, text, increasing, bounds⟩ := kept.chunks
      refine ⟨⟨⟨withChunk done chunkIndex, ?_, withChunk_increasing increasing, ?_⟩, asked⟩, ?_⟩
      · rw [text, splitChunkIndices_join fun index member => (bounds index member).1]
      · intro index member
        rcases mem_withChunk.mp member with listed | rfl
        · exact bounds index listed
        · exact ⟨natural, below⟩
      · intro replaced
        exact absurd rfl replaced
  | file => exact ⟨⟨kept.chunks, asked⟩, fun replaced => absurd rfl replaced⟩
  | reset =>
      exact ⟨⟨⟨[], rfl, .nil, by simp⟩,
        fun _ => ⟨_, List.mem_append_right _ List.mem_cons_self, rfl⟩⟩, fun _ => rfl⟩
  | state => exact ⟨⟨kept.chunks, asked⟩, fun replaced => absurd rfl replaced⟩

theorem run_append (front back : List DraftCall) :
    run (front ++ back) = back.foldl call (run front) := List.foldl_append

theorem run_kept (calls : List DraftCall) (permitted : guarded call permits {} calls = true)
    {row : UploadDraft Bytes} (stored : (run calls).row key = some row) :
    RowKept calls key row := by
  induction calls using List.reverseRecOn generalizing row with
  | nil => simp [run] at stored
  | append_singleton front made ih =>
      obtain ⟨before, last⟩ := guarded_split.mp permitted
      rw [guarded, guarded, Bool.and_true] at last
      rw [run_append] at stored
      have moves := call_moves (run front) made key
      rw [show (run front).call made = [made].foldl call (run front) from rfl, stored] at moves
      cases earlier : (run front).row key with
      | some known => exact (moves_kept (ih before earlier) (earlier ▸ moves) earlier last).1
      | none =>
          rw [earlier] at moves
          cases moves with
          | stored draft => exact ⟨⟨[], rfl, .nil, by simp⟩, fun named => absurd rfl named⟩

theorem foldl_terminal {row : UploadDraft Bytes} (stored : drafts.row key = some row)
    (terminal : row.state.isTerminal = true) (calls : List DraftCall) :
    (calls.foldl call drafts).row key = some row := by
  induction calls generalizing drafts with
  | nil => exact stored
  | cons made rest ih =>
      exact ih (moves_terminal (stored ▸ call_moves drafts made key) terminal)

theorem foldl_settled {fileId : Bytes} {row : UploadDraft Bytes} (stored : drafts.row key = some row)
    (settled : Settled fileId row) (calls : List DraftCall)
    (permitted : guarded call permits drafts calls = true) :
    ∃ last, (calls.foldl call drafts).row key = some last ∧ Settled fileId last := by
  induction calls generalizing drafts row with
  | nil => exact ⟨row, stored, settled⟩
  | cons made rest ih =>
      rw [guarded, Bool.and_eq_true] at permitted
      obtain ⟨next, reached, still⟩ :=
        moves_settled (stored ▸ call_moves drafts made key) stored settled permitted.1
      exact ih reached still permitted.2

/-- In a permitted run the drafts keep their promises. -/
theorem uploadDrafts_lawful (calls : List DraftCall)
    (permitted : guarded call permits {} calls = true) : Lawful calls where
  absorbing := by
    rintro front back rfl key row stored terminal
    rw [run_append]
    exact foldl_terminal stored terminal back
  fileId := by
    rintro front back rfl key row stored finalized
    rw [run_append]
    have settled : Settled row.fileId row :=
      ⟨rfl, fun isOpen => by simp [finalized, UploadDraftState.isOpen] at isOpen⟩
    obtain ⟨last, reached, same, _⟩ := foldl_settled stored settled back (guarded_append permitted)
    exact ⟨last, reached, same⟩
  chunks := by
    intro key row stored
    obtain ⟨done, text, increasing, bounds⟩ := (run_kept calls permitted stored).chunks
    have back : (read row).chunksDone = done := by
      rw [read, text, splitChunkIndices_join fun index member => (bounds index member).1]
    exact back ▸ ⟨increasing, bounds, text⟩
  session := by
    intro key row stored named
    exact (run_kept calls permitted stored).session named
  cleared := by
    rintro front made back rfl key before after stored reached replaced
    obtain ⟨earlier, later⟩ := guarded_split.mp permitted
    rw [guarded, Bool.and_eq_true] at later
    have moves := call_moves (run front) made key
    rw [run_append] at reached
    rw [stored, show ((run front).call made).row key = some after from reached] at moves
    exact (moves_kept (run_kept front earlier stored) moves stored later.1).2 replaced

def photoKey : DraftKey := ⟨1, ascii "m-up", .origin⟩

def photo : UploadDraft (List Int32) where
  conversationId := 100
  peerId := 200
  localPath := ascii "/tmp/photo.jpg"
  fileSize := 4000
  sha256 := List.replicate 64 0x61
  chunksDone := []

def restarted : List DraftCall :=
  [.upsertUploadDraft photoKey photo,
    .setUploadDraftSession photoKey (ascii "up-1") 1000 4,
    .markUploadChunkDone photoKey 3,
    .markUploadChunkDone photoKey 0,
    .setUploadDraftState photoKey .failed 1001,
    .resetUploadDraftForNewSession photoKey (ascii "up-2") 2000 2,
    .markUploadChunkDone photoKey 1,
    .setUploadDraftFileId photoKey (ascii "file-1"),
    .setUploadDraftState photoKey .sent 0,
    .markUploadChunkDone photoKey 0]

theorem uploadDrafts_lawful_restarted :
    guarded call permits {} restarted = true ∧ Lawful restarted :=
  ⟨by decide +kernel, uploadDrafts_lawful restarted (by decide +kernel)⟩

def overlaid : List DraftCall :=
  [.upsertUploadDraft photoKey photo,
    .setUploadDraftSession photoKey (ascii "up-1") 1000 4,
    .markUploadChunkDone photoKey 3,
    .setUploadDraftSession photoKey (ascii "up-2") 2000 2]

def refinalized : List DraftCall :=
  [.upsertUploadDraft photoKey photo,
    .setUploadDraftFileId photoKey (ascii "file-1"),
    .setUploadDraftState photoKey .failed 1001,
    .setUploadDraftFileId photoKey (ascii "file-2")]

theorem uploadDrafts_unlawful : ¬Lawful overlaid ∧ ¬Lawful refinalized := by
  constructor
  · intro lawful
    have read : ∃ row, (run overlaid).row photoKey = some row ∧ row.chunkCount = 2 ∧
        (3 : Int32) ∈ (read row).chunksDone := ⟨_, rfl, rfl, by decide +kernel⟩
    obtain ⟨row, stored, count, listed⟩ := read
    have below := ((lawful.chunks photoKey row stored).2.1 3 listed).2
    rw [count] at below
    exact absurd below (by decide)
  · intro lawful
    obtain ⟨last, stored, same⟩ := lawful.fileId (refinalized.take 2) (refinalized.drop 2) rfl
      photoKey _ rfl rfl
    have other : ((run refinalized).row photoKey).map UploadDraft.fileId = some (ascii "file-2") := by
      decide +kernel
    rw [stored, Option.map_some, same] at other
    exact absurd other (by decide +kernel)

end UploadDrafts

end Jitong
