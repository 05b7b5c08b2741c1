import Jitong.MediaGrowth

/-!
The collector and the files that are still named. It deletes by the path of an
expired record, which other records and messages may share.
-/

namespace Jitong

open Lib

namespace HttpFileServer

def Names (fs : HttpFileServer) (path : Text) : Prop :=
  (path.bytes ≠ [] ∧ ∃ row ∈ fs.server.messages.rows, path ∈ row.columns.media.map (·.2)) ∨
    ∃ fileId record, fs.server.uploads fileId = some record ∧ cstr record.mediaPath = path

variable {before after fs : HttpFileServer} {path : Text}

theorem Names.media (named : fs.Names path) (formed : fs.Formed) : MediaPath fs.uploadDir path := by
  rcases named with ⟨nonempty, row, stored, listed⟩ | ⟨fileId, record, found, rfl⟩
  · obtain ⟨entry, member, rfl⟩ := List.mem_map.mp listed
    exact formed.rows row stored entry member nonempty
  · exact (formed.records fileId record found).2

theorem Grown.names (grown : before.Grown after) (named : after.Names path) :
    before.Names path ∨ (after.files path).isSome := by
  rcases named with ⟨nonempty, row, stored, listed⟩ | ⟨fileId, record, found, rfl⟩
  · rcases grown.rows row stored with ⟨old, oldStored, same⟩ | claimed
    · exact .inl (.inl ⟨nonempty, old, oldStored, by rwa [same]⟩)
    · obtain ⟨entry, member, rfl⟩ := List.mem_map.mp listed
      obtain ⟨fileId, record, found, _, sameFile, _⟩ := claimed entry member nonempty
      exact .inl (.inr ⟨fileId, record, found, sameFile⟩)
  · rcases grown.records fileId record found with old | ⟨_, _, there⟩
    · exact .inl (.inr ⟨fileId, record, old, rfl⟩)
    · exact .inr there

theorem dropSessions_files (writes : Nat → Nat → Bool) (fs : HttpFileServer)
    (sessions : List (UploadSession Bytes × Nat)) :
    (sessions.foldl (fun fs entry => fs.dropSession (writes entry.2) entry.1) fs).files =
      sessions.foldl (fun files entry => Files.remove files (cstr entry.1.tmpPath)) fs.files :=
  (List.foldl_hom (fun fs : HttpFileServer => fs.files) fun _ _ => rfl).symm

theorem gcPass_removes {now : Int} {writes : Nat → Bool}
    (gone : (fs.gcPass now writes).files path = none) :
    (∃ expired ∈ fs.expiredPaths now, cstr expired = path) ∨
      (∃ row ∈ fs.uploadDb.sessions.rows, row.tmpPath = path) ∨ fs.files path = none := by
  unfold gcPass at gone
  dsimp only at gone
  rw [dropSessions_files fun session index => writes (2 * session + index)] at gone
  rcases Files.of_foldl_remove _ _ gone with ⟨entry, member, rfl⟩ | earlier
  · have listed := List.fst_mem_of_mem_zipIdx member
    obtain ⟨row, stored, same⟩ := List.mem_map.mp listed
    exact .inr (.inl ⟨row, List.mem_of_mem_filter stored, by
      rw [← same]
      simp [UploadSession.map]⟩)
  · rcases Files.of_foldl_remove _ _ earlier with expired | before
    · exact .inl expired
    · exact .inr (.inr before)

end HttpFileServer

def MediaEvent.Safe (state : MediaState) : MediaEvent → Prop
  | .collect now _ => ∀ path ∈ state.fs.expiredPaths now,
      ¬(state.fs.dropExpired now).Names (cstr path)
  | _ => True

namespace MediaState

def Spared (state : MediaState) : Prop :=
  ∀ path, state.fs.Names path → state.removed path = false

theorem collect_spared {crypto : Crypto} {state : MediaState} (kept : state.Kept)
    (spared : state.Spared) {now : Int} {writes : Nat → Bool}
    (safe : (MediaEvent.collect now writes).Safe state) :
    (state.step crypto (.collect now writes)).Spared := by
  intro path named
  have formed := kept.formed
  have grown := HttpFileServer.gcPass_grown now writes state.fs
  have stays : (state.fs.gcPass now writes).Names path := named
  have remaining : (state.fs.dropExpired now).Names path := by
    simpa only [HttpFileServer.Names, HttpFileServer.gcPass_server now writes] using stays
  by_contra removed
  simp only [step, HttpFileServer.handle, Bool.not_eq_false, Bool.and_eq_true,
    Option.isNone_iff_eq_none] at removed
  obtain ⟨gone, reason⟩ := removed
  have before : state.fs.Names path := by
    rcases grown.names named with before | there
    · exact before
    · simp [gone] at there
  have present : state.fs.files path ≠ none := by
    simpa [spared path before, MediaEvent.collects, Option.isSome_iff_ne_none] using reason
  rcases HttpFileServer.gcPass_removes gone with
    ⟨expired, member, rfl⟩ | ⟨row, stored, rfl⟩ | absent
  · exact safe expired member remaining
  · exact (before.media formed).ne_chunk (formed.sessions row stored) rfl
  · exact present absent

theorem step_spared {crypto : Crypto} {state : MediaState} (kept : state.Kept)
    (spared : state.Spared) {event : MediaEvent} (safe : event.Safe state) :
    (state.step crypto event).Spared := by
  cases collects : event.collects with
  | true =>
      cases event with
      | collect now writes => exact collect_spared kept spared safe
      | _ => simp [MediaEvent.collects] at collects
  | false =>
      intro path named
      rcases (HttpFileServer.handle_grown crypto kept.formed event).names named with before | there
      · simp [step, collects, spared path before]
      · have present : ((state.fs.handle crypto event).files path).isNone = false := by
          rwa [Option.isNone_eq_false_iff]
        simp [step, present]

end MediaState

/-- In a run whose collections are all safe, every named file is spared. -/
theorem garbageCollection_spares {crypto : Crypto} {server : Server} {uploadDir : Text}
    {events : List MediaEvent} {state : MediaState}
    (run : Run (fun before event after => before.step crypto event = after ∧ event.Safe before)
      (.start server uploadDir) events state)
    {path : Text} (named : state.fs.Names path) : state.removed path = false := by
  have initial : (MediaState.start server uploadDir).Kept ∧
      (MediaState.start server uploadDir).Spared :=
    ⟨MediaState.start_kept server uploadDir, fun _ _ => rfl⟩
  have step (before : MediaState) (event : MediaEvent) (after : MediaState)
      (held : before.Kept ∧ before.Spared)
      (taken : before.step crypto event = after ∧ event.Safe before) :
      after.Kept ∧ after.Spared := by
    obtain ⟨rfl, safe⟩ := taken
    exact ⟨MediaState.step_kept crypto held.1 event, MediaState.step_spared held.1 held.2 safe⟩
  have result : state.Kept ∧ state.Spared := run.invariant initial step
  exact result.2 path named

/-- A picture that was sent outlives the day of its upload. -/
theorem garbageCollection_spares_cat : ∃ state : MediaState,
    state.fs.Names catPath ∧ state.removed catPath = false := by
  let sent := [uploadCat 1700000000, sendCat catId].foldl
    (fun state event => state.step catCrypto event) catStart
  let collect : MediaEvent := .collect 1700086402 fun _ => true
  have claimed : sent.fs.expiredPaths 1700086402 = [] := by decide +kernel
  have safe : collect.Safe sent := by
    intro path expired
    rw [claimed] at expired
    simp at expired
  have named : (sent.step catCrypto collect).fs.Names catPath := by
    have listed : (sent.step catCrypto collect).fs.server.messages.rows.any
        (fun row => catPath ∈ row.columns.media.map (·.2)) = true := by decide +kernel
    obtain ⟨row, stored, member⟩ := List.any_eq_true.mp listed
    exact .inl ⟨by decide +kernel, row, stored, of_decide_eq_true member⟩
  have run : Run (fun before event after => before.step catCrypto event = after ∧
      event.Safe before) (.start Server.twoPairs helloDir)
      [uploadCat 1700000000, sendCat catId, collect] (sent.step catCrypto collect) :=
    .snoc (.snoc (.snoc .nil ⟨rfl, trivial⟩) ⟨rfl, trivial⟩) ⟨rfl, safe⟩
  exact ⟨_, named, garbageCollection_spares run named⟩

/-- The second upload is sent to nobody, and a day later its record is dropped
with the file that the message shows. -/
theorem sharedCat_removed : ∃ (events : List MediaEvent) (state : MediaState),
    Run (fun before event after => before.step catCrypto event = after) catStart events state ∧
      state.fs.Names catPath ∧ state.removed catPath = true := by
  let events := [uploadCat 1700000000, uploadCat 1700000001, sendCat catId,
    .collect 1700086402 fun _ => true]
  let state := events.foldl (fun state event => state.step catCrypto event) catStart
  have listed : state.fs.server.messages.rows.any
      (fun row => catPath ∈ row.columns.media.map (·.2)) = true := by decide +kernel
  obtain ⟨row, stored, member⟩ := List.any_eq_true.mp listed
  exact ⟨events, state, .of_foldl _ events catStart,
    .inl ⟨by decide +kernel, row, stored, of_decide_eq_true member⟩, by decide +kernel⟩

end Jitong
