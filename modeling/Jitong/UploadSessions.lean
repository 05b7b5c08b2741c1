import Jitong.Lib.Run
import Jitong.UploadTables

/-!
The life of an upload session under any sequence of the `Database` calls that
write `upload_sessions` and `upload_chunks`.
-/

namespace Jitong

open Lib

inductive UploadCall
  | create (written : Bool) (s : UploadSession Bytes)
  | store (written : Bool) (now : Int) (uploadId : Bytes) (index : Int32) (size : Int)
      (sha256 : Bytes)
  | finalize (written : Bool) (uploadId fileId : Bytes)
  | cancel (written : Bool) (uploadId : Bytes)
  | delete (writes : Nat → Bool) (uploadId : Bytes)

def UploadTables.perform (db : UploadTables) : UploadCall → UploadTables
  | .create written s => (db.createUploadSession written s).2
  | .store written now uploadId index size sha256 =>
      (db.storeUploadChunk written now uploadId index size sha256).2
  | .finalize written uploadId fileId => (db.finalizeUploadSession written uploadId fileId).2.2
  | .cancel written uploadId => (db.cancelUploadSession written uploadId).2
  | .delete writes uploadId => (db.deleteUploadSession writes uploadId).2

def UploadSession.Becomes (before after : UploadSession Text) : Prop :=
  after = before ∨ (before.state = .opened ∧
    (after = { before with state := .cancelled } ∨
      ∃ fileId, after = { before with state := .finalized, fileId }))

theorem UploadSession.Becomes.trans {first second third : UploadSession Text}
    (left : first.Becomes second) (right : second.Becomes third) : first.Becomes third := by
  rcases left with rfl | ⟨opened, moved⟩
  · exact right
  · have closed : second.state ≠ .opened := by
      rcases moved with rfl | ⟨fileId, rfl⟩ <;> simp
    rcases right with rfl | ⟨again, _⟩
    · exact .inr ⟨opened, moved⟩
    · exact absurd again closed

namespace UploadTables

variable {db : UploadTables}

end UploadTables

open UploadTables

end Jitong
