import Jitong.ChunkWrites
import Jitong.Lib.Checked
import Jitong.MediaService

/-!
The ranges of the chunks on both sides of an upload, with every number in between as the code
computes it.
-/

namespace Jitong

open Lib

namespace UploadSession

variable {Str : Type}

def assignedCount (size : Int) : Option Int32 := do
  let sum ← checked 64 (size + uploadChunkSize)
  let rounded ← checked 64 (sum - 1)
  let count ← checked 32 (rounded / uploadChunkSize)
  pure (.ofInt count)

/-- The range of a chunk in `handleUploadChunk`: where it starts and its expected size. -/
def checkedRange (session : UploadSession Str) (index : Int32) : Option (Int × Int) := do
  let product ← checked 64 (index.toInt * session.chunkSize)
  let left ← checked 64 (session.fileSize - product)
  pure (product, min session.chunkSize left)

def range (session : UploadSession Str) (index : Int32) : Set Int :=
  Set.Ico (session.offset index) (session.offset index + session.expectedSize index)

end UploadSession

def MediaService.checkedRange (draft : UploadDraft (List Int32)) (index : Int32) :
    Option (Int × Int) := do
  let offset ← checked 64 (index.toInt * draft.chunkSize)
  let left ← checked 64 (draft.fileSize - offset)
  pure (offset, min draft.chunkSize left)

structure Divided (fileSize chunkSize : Int) (chunkCount : Int32) : Prop where
  positive : 1 ≤ fileSize
  bounded : fileSize ≤ fileMaxSize
  chunkPositive : 0 < chunkSize
  chunkFits : Fits 64 chunkSize
  count : chunkCount.toInt = (fileSize + chunkSize - 1) / chunkSize

namespace Divided

variable {Str : Type} {session : UploadSession Str} {draft : UploadDraft (List Int32)}
  {index : Int32}

theorem hasIndex_iff (divided : Divided session.fileSize session.chunkSize session.chunkCount) :
    session.HasIndex index ↔
      0 ≤ index.toInt ∧ index.toInt * session.chunkSize < session.fileSize := by
  have split : index.toInt < session.chunkCount.toInt ↔
      index.toInt * session.chunkSize < session.fileSize := by
    rw [divided.count, ← Int.add_one_le_iff, Int.le_ediv_iff_mul_le divided.chunkPositive,
      Int.add_mul]
    omega
  rw [UploadSession.HasIndex, Int32.le_iff_toInt_le, Int32.lt_iff_toInt_lt, split]
  rfl

theorem place (divided : Divided session.fileSize session.chunkSize session.chunkCount)
    (inside : session.HasIndex index) :
    (session.offset index : Int) = index.toInt * session.chunkSize ∧
      0 < session.expectedSize index ∧
      session.offset index + session.expectedSize index =
        min ((index.toInt + 1) * session.chunkSize) session.fileSize := by
  obtain ⟨low, below⟩ := divided.hasIndex_iff.mp inside
  have start : 0 ≤ index.toInt * session.chunkSize :=
    Int.mul_nonneg low (Int.le_of_lt divided.chunkPositive)
  have width := divided.chunkPositive
  simp only [UploadSession.offset, UploadSession.expectedSize, Int.add_mul, Int.one_mul]
  omega

theorem mem_range (divided : Divided session.fileSize session.chunkSize session.chunkCount)
    (inside : session.HasIndex index) {position : Int} :
    position ∈ session.range index ↔
      position < session.fileSize ∧ position / session.chunkSize = index.toInt := by
  obtain ⟨start, _, stop⟩ := divided.place inside
  rw [UploadSession.range, Set.mem_Ico, start, ← start, stop, start, lt_min_iff,
    ← Int.le_ediv_iff_mul_le divided.chunkPositive, ← Int.ediv_lt_iff_lt_mul divided.chunkPositive]
  omega

theorem hasIndex_of_position
    (divided : Divided session.fileSize session.chunkSize session.chunkCount) {position : Int}
    (low : 0 ≤ position) (below : position < session.fileSize) :
    ∃ index, session.HasIndex index ∧ position / session.chunkSize = index.toInt := by
  have width := divided.chunkPositive
  have quotientLow : 0 ≤ position / session.chunkSize := Int.ediv_nonneg low (Int.le_of_lt width)
  have quotientAtMost : position / session.chunkSize ≤ position :=
    Int.ediv_le_self _ low
  have bounded := divided.bounded
  unfold fileMaxSize at bounded
  have value : (Int32.ofInt (position / session.chunkSize)).toInt =
      position / session.chunkSize :=
    Int32.toInt_ofInt_of_le (by omega) (by omega)
  refine ⟨.ofInt (position / session.chunkSize), divided.hasIndex_iff.mpr ?_, value.symm⟩
  rw [value]
  exact ⟨quotientLow, Int.lt_of_le_of_lt (Int.ediv_mul_le _ (by omega)) below⟩

theorem fits (divided : Divided session.fileSize session.chunkSize session.chunkCount)
    (inside : session.HasIndex index) :
    Fits 64 (index.toInt * session.chunkSize) ∧
      Fits 64 (session.fileSize - index.toInt * session.chunkSize) ∧
      Fits 64 (session.offset index + session.expectedSize index) := by
  obtain ⟨low, below⟩ := divided.hasIndex_iff.mp inside
  have start : 0 ≤ index.toInt * session.chunkSize :=
    Int.mul_nonneg low (Int.le_of_lt divided.chunkPositive)
  obtain ⟨_, _, stop⟩ := divided.place inside
  have atMost : session.offset index + session.expectedSize index ≤ session.fileSize :=
    stop ▸ Int.min_le_right _ _
  have bounded := divided.bounded
  unfold fileMaxSize at bounded
  simp only [fits64]
  omega

theorem checkedRange_eq (divided : Divided session.fileSize session.chunkSize session.chunkCount)
    (inside : session.HasIndex index) :
    session.checkedRange index =
      some ((session.offset index : Int), session.expectedSize index) := by
  obtain ⟨product, left, _⟩ := divided.fits inside
  simp only [UploadSession.checkedRange, checked_fits product, checked_fits left,
    Option.bind_eq_bind, Option.bind_some, (divided.place inside).1]
  rfl

theorem readChunk_eq (divided : Divided session.fileSize session.chunkSize session.chunkCount)
    (inside : session.HasIndex index) (sameSize : draft.fileSize = session.fileSize)
    (sameWidth : draft.chunkSize = session.chunkSize) :
    MediaService.readChunk draft index =
      MediaService.readFile draft.localPath (session.offset index) (session.expectedSize index) := by
  obtain ⟨start, positive, _⟩ := divided.place inside
  simp only [MediaService.readChunk, sameSize, sameWidth]
  change (if session.expectedSize index ≤ 0 then _ else
    MediaService.readFile _ _ (session.expectedSize index)) = _
  rw [if_neg (by omega), start]

end Divided

theorem HttpFileServer.newUploadSession_divided (crypto : Crypto) (now : Int) (fs : HttpFileServer)
    (user : HttpUser) (receiverId : Int32) (safeName sha contentType : Bytes) {size : Int}
    (positive : 1 ≤ size) (bounded : size ≤ fileMaxSize) :
    let session := fs.newUploadSession crypto now user receiverId safeName sha contentType size
    UploadSession.assignedCount size = some session.chunkCount ∧
      Divided session.fileSize session.chunkSize session.chunkCount := by
  have most := bounded
  unfold fileMaxSize at most
  have count : Fits 32 ((size + uploadChunkSize - 1) / uploadChunkSize) := by
    simp only [fits32, uploadChunkSize]
    omega
  have width : 0 < uploadChunkSize ∧ Fits 64 uploadChunkSize := by decide
  refine ⟨?_, positive, bounded, width.1, width.2, ?_⟩
  · simp only [UploadSession.assignedCount, Option.bind_eq_bind]
    rw [checked_fits (by simp only [fits64, uploadChunkSize]; omega), Option.bind_some,
      checked_fits (by simp only [fits64, uploadChunkSize]; omega), Option.bind_some,
      checked_fits count]
    rfl
  · obtain ⟨low, high⟩ := fits32.mp count
    exact Int32.toInt_ofInt_of_le low (by omega)

/-- The chunks of every session that the server makes, and of every draft that is divided, tile the
file; both sides read and expect the same ranges, and every number fits. -/
theorem chunks_tile :
    (∀ (crypto : Crypto) (now : Int) (fs : HttpFileServer) (user : HttpUser) (receiverId : Int32)
        (safeName sha contentType : Bytes) (size : Int), 1 ≤ size → size ≤ fileMaxSize →
      let session := fs.newUploadSession crypto now user receiverId safeName sha contentType size
      session.fileSize = size ∧ session.chunkSize = uploadChunkSize ∧
        UploadSession.assignedCount size = some session.chunkCount ∧
        Divided session.fileSize session.chunkSize session.chunkCount) ∧
    ∀ (session : UploadSession Bytes) (draft : UploadDraft (List Int32)),
      Divided session.fileSize session.chunkSize session.chunkCount →
      draft.fileSize = session.fileSize → draft.chunkSize = session.chunkSize →
      (∀ index, session.HasIndex index →
        (session.range index).Nonempty ∧
          MediaService.readChunk draft index = MediaService.readFile draft.localPath
            (session.offset index) (session.expectedSize index) ∧
          session.checkedRange index = some ((session.offset index : Int),
            session.expectedSize index) ∧
          MediaService.checkedRange draft index = session.checkedRange index ∧
          Fits 64 (session.offset index + session.expectedSize index)) ∧
      {index | session.HasIndex index}.PairwiseDisjoint session.range ∧
      ⋃ index ∈ {index | session.HasIndex index}, session.range index =
        Set.Ico 0 session.fileSize := by
  constructor
  · intro crypto now fs user receiverId safeName sha contentType size positive bounded
    obtain ⟨count, divided⟩ := fs.newUploadSession_divided crypto now user receiverId safeName sha
      contentType positive bounded
    exact ⟨rfl, rfl, count, divided⟩
  · intro session draft divided sameSize sameWidth
    refine ⟨?_, ?_, ?_⟩
    · intro index inside
      obtain ⟨_, positive, _⟩ := divided.place inside
      refine ⟨Set.nonempty_Ico.mpr (by omega), divided.readChunk_eq inside sameSize sameWidth,
        divided.checkedRange_eq inside, ?_, (divided.fits inside).2.2⟩
      simp only [MediaService.checkedRange, UploadSession.checkedRange, sameSize, sameWidth]
    · intro first inside second secondInside different
      refine Set.disjoint_left.mpr fun position here there => different (Int32.toInt_inj.mp ?_)
      exact ((divided.mem_range inside).mp here).2.symm.trans
        ((divided.mem_range secondInside).mp there).2
    · ext position
      simp only [Set.mem_iUnion, Set.mem_ofPred_eq, exists_prop, Set.mem_Ico]
      constructor
      · rintro ⟨index, inside, here⟩
        obtain ⟨below, _⟩ := (divided.mem_range inside).mp here
        exact ⟨Int.le_trans (Int.natCast_nonneg _) here.1, below⟩
      · rintro ⟨low, below⟩
        obtain ⟨index, inside, quotient⟩ := divided.hasIndex_of_position low below
        exact ⟨index, inside, (divided.mem_range inside).mpr ⟨below, quotient⟩⟩

def clipDraft : UploadDraft (List Int32) where
  conversationId := 2
  peerId := 2
  localPath := ascii "clip"
  fileSize := 2621440
  sha256 := List.replicate 64 0x61
  uploadId := ascii "u-1"
  chunkSize := uploadChunkSize
  chunkCount := 3
  chunksDone := []

def clipSession : UploadSession Bytes where
  uploadId := ascii "u-1"
  uploaderId := 1
  deviceId := ascii "phone"
  receiverId := 2
  fileName := ascii "clip"
  fileSize := 2621440
  sha256 := List.replicate 64 0x61
  contentType := []
  isImage := false
  chunkSize := uploadChunkSize
  chunkCount := 3
  expiresAt := 86400
  state := .opened
  fileId := []
  tmpPath := ascii "chunks/u-1.part"
  createdAt := 0

theorem clip_tiled :
    MediaService.readChunk clipDraft 2 =
        MediaService.readFile (ascii "clip") 2097152 524288 ∧
      ⋃ index ∈ {index | clipSession.HasIndex index}, clipSession.range index =
        Set.Ico 0 2621440 := by
  have divided : Divided clipSession.fileSize clipSession.chunkSize clipSession.chunkCount :=
    ⟨by decide, by decide, by decide, by decide, by decide⟩
  obtain ⟨each, _, covers⟩ := chunks_tile.2 clipSession clipDraft divided rfl rfl
  obtain ⟨_, reads, _⟩ := each 2 (by decide : 0 ≤ (2 : Int32) ∧ (2 : Int32) < clipSession.chunkCount)
  exact ⟨reads, covers⟩

end Jitong
