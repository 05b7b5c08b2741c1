import Jitong.DbCommandQueue
import Jitong.NativeRepository
import Jitong.UploadDrafts

/-!
The download tasks of `NativeRepository`. A transaction runs when the writer comes to it, in the
order of submission, also when the caller has stopped waiting for it by then.
-/

namespace Jitong

open Lib NativeRepository

namespace MediaVariant

end MediaVariant

structure TransferTask where
  taskId : Bytes
  ownerId : Int
  msgId : Bytes
  fileId : Bytes
  direction : Int
  localPath : Bytes
  transferred : Int := 0
  state : Int := 0
  updatedAt : Int
  generation : Int
  phase : Int := 0
  offsetBytes : Int := 0
  terminalState : Int := 0
  deriving DecidableEq

def TransferTask.clashes (first second : TransferTask) : Bool := first.taskId = second.taskId

def TransferTask.active (ownerId : Int) (fileId : Bytes) (row : TransferTask) : Bool :=
  row.ownerId = ownerId && row.direction = 1 && row.fileId = fileId && row.terminalState = 0

def TransferTask.finishes (ownerId : Int) (taskId : Bytes) (generation : Int)
    (row : TransferTask) : Bool :=
  row.taskId = taskId && row.ownerId = ownerId && row.direction = 1 &&
    row.generation = generation && row.terminalState = 0

def TransferTask.superseded (row : TransferTask) (now : Int) : TransferTask :=
  { row with state := 5, terminalState := 1, updatedAt := now }

def TransferTask.finished (row : TransferTask) (state transferred now : Int) : TransferTask :=
  { row with
    state, transferred, offsetBytes := transferred,
    terminalState := if 3 ≤ state then 1 else 0, updatedAt := now }

structure DownloadTables where
  accounts : Int → NativeRepository
  tasks : Table TransferTask TransferTask.clashes := .empty

/-- What the writer makes of a command: refused, cancelled or rolled back for reasons of its own,
and too late for the caller. -/
structure WriterLuck where
  refused : Option CommandResult := none
  timedOut : Bool := false
  deriving DecidableEq

inductive TxReply
  | ok
  | invalid
  | failed (result : CommandResult)
  | timedOut
  deriving DecidableEq

def isxdigit (c : UInt8) : Bool :=
  0x30 ≤ c && c ≤ 0x39 || 0x41 ≤ c && c ≤ 0x46 || 0x61 ≤ c && c ≤ 0x66

namespace NativeRepository.NativeMessageRow

def authorizedSha256 (m : NativeMessageRow) (fileId : Bytes) : Bytes :=
  if fileId = m.media.text .fileId then m.media.text .sha256
  else if fileId = m.media.text .thumbnailFileId then m.media.text .thumbnailSha256
  else if fileId = m.media.text .largeThumbnailFileId then m.media.text .largeThumbnailSha256
  else []

def expectedSize (m : NativeMessageRow) (fileId : Bytes) : Int :=
  if fileId = m.media.text .fileId then m.media.number .fileSize
  else if fileId = m.media.text .thumbnailFileId then m.media.number .thumbnailSize
  else m.media.number .largeThumbnailSize

end NativeRepository.NativeMessageRow

namespace DownloadTables

def runTx (tables : DownloadTables) (luck : WriterLuck)
    (fn : DownloadTables → Option DownloadTables) : TxReply × DownloadTables :=
  let ended := fun reply : TxReply => if luck.timedOut then .timedOut else reply
  match luck.refused with
  | some result => (ended (.failed result), tables)
  | none =>
      match fn tables with
      | none => (ended (.failed .sqlFailed), tables)
      | some written => (ended .ok, written)

/-- An `UPDATE` of the rows that match, which leaves them their ids. -/
def updateTasks (tables : DownloadTables) (matching : TransferTask → Bool)
    (change : TransferTask → TransferTask) (keeps : ∀ row, (change row).taskId = row.taskId) :
    Table TransferTask TransferTask.clashes :=
  tables.tasks.rewrite (fun row => if matching row then change row else row) (by
    intro first second
    have same (row : TransferTask) : (if matching row then change row else row).taskId =
        row.taskId := by
      split
      · exact keeps row
      · rfl
    unfold TransferTask.clashes
    rw [same, same])

def authorized (tables : DownloadTables) (ownerId : Int) (msgId fileId : Bytes) : Bool :=
  match (tables.accounts ownerId).message msgId with
  | none => false
  | some m =>
      let sha256 := m.authorizedSha256 fileId
      sha256.length = 64 && sha256.all isxdigit

def beginDownloadTask (tables : DownloadTables) (ownerId : Int)
    (taskId msgId fileId localPath : Bytes) (generation now : Int) (luck : WriterLuck) :
    TxReply × DownloadTables :=
  if ownerId ≤ 0 ∨ generation ≤ 0 ∨ taskId = [] ∨ msgId = [] ∨ fileId = [] ∨ localPath = [] ∨
      128 < taskId.length ∨ 128 < fileId.length then (.invalid, tables)
  else
    tables.runTx luck fun tables =>
      if tables.authorized ownerId msgId fileId then
        ((tables.updateTasks (TransferTask.active ownerId fileId) (·.superseded now)
            fun _ => rfl).insert
          { taskId, ownerId, msgId, fileId, direction := 1, localPath, generation,
            updatedAt := now }).map fun tasks => { tables with tasks }
      else none

def finishDownloadTask (tables : DownloadTables) (ownerId : Int) (taskId : Bytes)
    (generation state transferred now : Int) (luck : WriterLuck) : TxReply × DownloadTables :=
  if ownerId ≤ 0 ∨ taskId = [] ∨ generation ≤ 0 ∨ transferred < 0 ∨
      state ≠ 1 ∧ state ≠ 2 ∧ state ≠ 3 ∧ state ≠ 4 ∧ state ≠ 5 then (.invalid, tables)
  else
    tables.runTx luck fun tables =>
      let finishes := TransferTask.finishes ownerId taskId generation
      if tables.tasks.rows.countP finishes = 1 then
        some { tables with
          tasks := tables.updateTasks finishes (·.finished state transferred now) fun _ => rfl }
      else none

end DownloadTables

inductive DownloadCall
  | beginDownloadTask (ownerId : Int) (taskId msgId fileId localPath : Bytes)
      (generation now : Int) (luck : WriterLuck)
  | finishDownloadTask (ownerId : Int) (taskId : Bytes) (generation state transferred now : Int)
      (luck : WriterLuck)
  | messages (accounts : Int → NativeRepository)

namespace DownloadTables

def step (tables : DownloadTables) : DownloadCall → DownloadTables
  | .beginDownloadTask ownerId taskId msgId fileId localPath generation now luck =>
      (tables.beginDownloadTask ownerId taskId msgId fileId localPath generation now luck).2
  | .finishDownloadTask ownerId taskId generation state transferred now luck =>
      (tables.finishDownloadTask ownerId taskId generation state transferred now luck).2
  | .messages accounts => { tables with accounts }

def run (tables : DownloadTables) (calls : List DownloadCall) : DownloadTables :=
  calls.foldl step tables

end DownloadTables

namespace NativeRepository.NativeMessageRow

end NativeRepository.NativeMessageRow

namespace DownloadTables

variable {tables : DownloadTables} {luck : WriterLuck}

inductive Change (before : List TransferTask) : List TransferTask → Prop
  | nothing : Change before before
  | begun (ownerId : Int) (fileId : Bytes) (now : Int) (row : TransferTask)
      (begins : row.active ownerId fileId = true) :
      Change before (before.map (fun row =>
        if row.active ownerId fileId then row.superseded now else row) ++ [row])
  | finished (ownerId : Int) (taskId : Bytes) (generation state transferred now : Int) :
      Change before (before.map fun row =>
        if row.finishes ownerId taskId generation then row.finished state transferred now else row)

theorem active_iff {ownerId : Int} {fileId : Bytes} {row : TransferTask} :
    row.active ownerId fileId = true ↔ row.ownerId = ownerId ∧ row.direction = 1 ∧
      row.fileId = fileId ∧ row.terminalState = 0 := by
  simp only [TransferTask.active, Bool.and_eq_true, decide_eq_true_eq]
  exact ⟨fun ⟨⟨⟨owner, down⟩, file⟩, running⟩ => ⟨owner, down, file, running⟩,
    fun ⟨owner, down, file, running⟩ => ⟨⟨⟨owner, down⟩, file⟩, running⟩⟩

theorem finishes_terminalState {ownerId generation : Int} {taskId : Bytes} {row : TransferTask}
    (finishes : row.finishes ownerId taskId generation = true) : row.terminalState = 0 := by
  simp only [TransferTask.finishes, Bool.and_eq_true, decide_eq_true_eq] at finishes
  exact finishes.2

def Single (rows : List TransferTask) : Prop :=
  ∀ ownerId fileId, rows.countP (TransferTask.active ownerId fileId) ≤ 1

theorem countP_active_map (rows : List TransferTask) (change : TransferTask → TransferTask)
    {ownerId : Int} {fileId : Bytes}
    (starts : ∀ row, (change row).active ownerId fileId = true →
      row.active ownerId fileId = true) :
    (rows.map change).countP (TransferTask.active ownerId fileId) ≤
      rows.countP (TransferTask.active ownerId fileId) := by
  rw [List.countP_map]
  exact List.countP_mono_left fun row _ running => starts row running

variable {before after : List TransferTask}

theorem Change.single (change : Change before after) (single : Single before) : Single after := by
  intro ownerId fileId
  cases change with
  | nothing => exact single ownerId fileId
  | finished owner taskId generation state transferred now =>
      refine Nat.le_trans (countP_active_map _ _ ?_) (single ownerId fileId)
      intro row running
      split at running
      · rename_i finishes
        obtain ⟨same, down, file, _⟩ := active_iff.mp running
        exact active_iff.mpr ⟨same, down, file, finishes_terminalState finishes⟩
      · exact running
  | begun owner file now row begins =>
      rw [List.countP_append]
      have fewer : (before.map fun row =>
          if row.active owner file then row.superseded now else row).countP
            (TransferTask.active ownerId fileId) ≤
              before.countP (TransferTask.active ownerId fileId) := by
        refine countP_active_map before _ fun row running => ?_
        split at running
        · exact absurd (active_iff.mp running).2.2.2 (by simp [TransferTask.superseded])
        · exact running
      have bound := single ownerId fileId
      by_cases new : row.active ownerId fileId = true
      · obtain ⟨owned, _, filed, _⟩ := active_iff.mp new
        obtain ⟨owned', _, filed', _⟩ := active_iff.mp begins
        have none : (before.map fun row =>
            if row.active owner file then row.superseded now else row).countP
              (TransferTask.active ownerId fileId) = 0 := by
          refine List.countP_eq_zero.mpr fun changed member running => ?_
          obtain ⟨row, _, rfl⟩ := List.mem_map.mp member
          rw [← owned, ← filed, owned', filed'] at running
          split at running
          · exact absurd (active_iff.mp running).2.2.2 (by simp [TransferTask.superseded])
          · rename_i still
            exact still running
        rw [none]
        exact Nat.le_trans (Nat.add_le_add_left List.countP_le_length _) (by simp)
      · have idle : [row].countP (TransferTask.active ownerId fileId) = 0 := by simp [new]
        omega

theorem Change.terminal (change : Change before after) {row : TransferTask} (stored : row ∈ before)
    (ended : row.terminalState ≠ 0) : row ∈ after := by
  cases change with
  | nothing => exact stored
  | finished owner taskId generation state transferred now =>
      refine List.mem_map.mpr ⟨row, stored, if_neg fun finishes => ?_⟩
      exact ended (finishes_terminalState finishes)
  | begun owner file now new begins =>
      refine List.mem_append.mpr (.inl (List.mem_map.mpr ⟨row, stored, if_neg fun running => ?_⟩))
      exact ended (active_iff.mp running).2.2.2

end DownloadTables

end Jitong
