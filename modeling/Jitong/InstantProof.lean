import Jitong.Lib.Since
import Jitong.MediaGrowth

/-!
Proofs of possession over runs of the file service: what the answer to a challenge shows about the
user who gave it, whatever else the service did since the challenge was handed out.
-/

namespace Jitong

open Lib

def MediaEvent.answersTo (challengeId : Bytes) : MediaEvent → Bool
  | .proof _ _ id _ => id = challengeId
  | _ => false

namespace HttpFileServer

/-- What `issueInstantChallenge` found when it made the challenge. -/
structure Issued (fs : HttpFileServer) (now : Int) (pick : Nat) (userId receiverId : Int32)
    (sha : Bytes) (fileSize : Int) (challenge : ProofChallenge) : Prop where
  uploader : challenge.uploaderId = userId
  receiver : challenge.receiverId = receiverId
  object : ∃ object, fs.findMediaObject pick sha fileSize = some object ∧
    challenge.path = object.path ∧ challenge.contentType = object.contentType
  sha256 : challenge.sha256 = sha
  size : challenge.size = fileSize
  length : challenge.length = min proofBytes fileSize
  createdAt : challenge.createdAt = now

inductive Issues (challenge : ProofChallenge) (fs : HttpFileServer) : MediaEvent → Prop
  | preflight {now pick user receiverId size sha} :
      fs.server.isFriend user.userId receiverId = true →
      fs.Issued now pick user.userId receiverId sha size challenge →
      Issues challenge fs (.preflight now pick user (some receiverId) (some size) sha)
  | create {now pick written user rawName receiverId size sha contentType} :
      fs.server.isFriend user.userId receiverId = true →
      fs.Issued now pick user.userId receiverId sha size challenge →
      Issues challenge fs
        (.create now pick written user rawName (some receiverId) (some size) sha contentType)

section

variable {crypto : Crypto} {fs : HttpFileServer} {challengeId : Bytes} {challenge : ProofChallenge}

theorem Issues.length {event : MediaEvent} (issues : Issues challenge fs event) :
    challenge.length = min proofBytes challenge.size := by
  cases issues with
  | preflight _ issued => rw [issued.length, issued.size]
  | create _ issued => rw [issued.length, issued.size]

theorem mem_issueInstantChallenge {now size : Int} {pick : Nat} {userId receiverId : Int32}
    {sha : Bytes} (member : (challengeId, challenge) ∈
      (fs.issueInstantChallenge crypto now pick userId receiverId sha size).2.challenges) :
    (challengeId, challenge) ∈ fs.challenges ∨
      fs.Issued now pick userId receiverId sha size challenge := by
  unfold issueInstantChallenge at member
  split at member
  · exact .inl member
  · rename_i object found
    rcases List.mem_cons.mp member with fresh | old
    · obtain ⟨-, rfl⟩ := Prod.mk.inj fresh
      exact .inr ⟨rfl, rfl, ⟨object, found, rfl, rfl⟩, rfl, rfl, rfl, rfl⟩
    · exact .inl (List.mem_of_mem_filter old)

theorem mem_handlePreflight {now : Int} {pick : Nat} {user : HttpUser} {receiverId : Option Int32}
    {size : Option Int} {sha : Bytes} (member : (challengeId, challenge) ∈
      (fs.handlePreflight crypto now pick user receiverId size sha).2.challenges) :
    (challengeId, challenge) ∈ fs.challenges ∨
      Issues challenge fs (.preflight now pick user receiverId size sha) := by
  unfold handlePreflight at member
  split at member
  · split at member
    · exact .inl member
    · rename_i friends
      refine (mem_issueInstantChallenge member).imp_right (.preflight ?_)
      simpa using friends
  · exact .inl member

theorem mem_handleCreateUpload {now : Int} {pick : Nat} {written : Bool} {user : HttpUser}
    {rawName : Bytes} {receiverId : Option Int32} {size : Option Int} {sha contentType : Bytes}
    (member : (challengeId, challenge) ∈ (fs.handleCreateUpload crypto now pick written user rawName
      receiverId size sha contentType).2.challenges) :
    (challengeId, challenge) ∈ fs.challenges ∨
      Issues challenge fs
        (.create now pick written user rawName receiverId size sha contentType) := by
  unfold handleCreateUpload at member
  dsimp only at member
  split at member
  · rename_i receiver bytes
    split at member
    · exact .inl member
    · split at member
      · exact .inl member
      · rename_i friends
        have made : (challengeId, challenge) ∈ (fs.issueInstantChallenge crypto now pick user.userId
            receiver sha bytes).2.challenges → (challengeId, challenge) ∈ fs.challenges ∨
              fs.Issued now pick user.userId receiver sha bytes challenge :=
          mem_issueInstantChallenge
        have friends : fs.server.isFriend user.userId receiver = true := by simpa using friends
        cases issued : fs.issueInstantChallenge crypto now pick user.userId receiver sha bytes with
        | mk instant after =>
            rw [issued] at member made
            refine (made ?_).imp_right (.create friends)
            cases instant with
            | some reply => exact member
            | none =>
                dsimp only at member
                split at member
                · exact member
                · split at member <;> exact member
  · exact .inl member

theorem handleUpload_challenges (crypto : Crypto) (now : Int) (usable : Bool) (user : HttpUser)
    (rawName : Bytes) (receiverId : Option Int32) (contentLength : Option Int)
    (contentType body : Bytes) :
    (fs.handleUpload crypto now usable user rawName receiverId contentLength contentType
      body).2.challenges = fs.challenges := by
  unfold handleUpload
  dsimp only
  repeat' split
  all_goals rfl

theorem handleUploadChunk_challenges (crypto : Crypto) (now : Int) (written : Bool)
    (usable : Nat → Bool) (count : Nat) (user : HttpUser) (uploadId : Bytes) (index : Option Int32)
    (contentLength : Option Int) (chunkSha body : Bytes) :
    (fs.handleUploadChunk crypto now written usable count user uploadId index contentLength chunkSha
      body).2.challenges = fs.challenges := by
  unfold handleUploadChunk
  split
  · rfl
  · rename_i upload _
    have stored : (fs.storeChunk written now upload).2.challenges = fs.challenges := rfl
    have wrote (fs : HttpFileServer) : (fs.writeChunk count upload).challenges = fs.challenges := by
      unfold writeChunk
      split <;> rfl
    split
    · rename_i after outcome
      rwa [outcome] at stored
    · rename_i after outcome
      rwa [outcome] at stored
    · rename_i after outcome
      rwa [outcome] at stored
    · rename_i after outcome
      rw [outcome] at stored
      dsimp only
      split
      · exact stored
      · rw [wrote]
        split
        · exact stored
        · exact stored

theorem handleFinalizeUpload_challenges (crypto : Crypto) (now : Int) (writes : Nat → Bool)
    (user : HttpUser) (uploadId : Bytes) :
    (fs.handleFinalizeUpload crypto now writes user uploadId).2.challenges = fs.challenges := by
  have recorded (fs : HttpFileServer) (written : Bool) (sha : Bytes) (size : Int)
      (path contentType : Bytes) :
      (fs.registerMediaObject written sha size path contentType).challenges = fs.challenges := by
    unfold registerMediaObject
    split <;> rfl
  unfold handleFinalizeUpload
  split
  · rfl
  · split
    · rfl
    · unfold moveFinalize markFinalize
      dsimp only
      split
      · rfl
      · split
        · rfl
        · exact recorded ..

theorem handleCancelUpload_challenges (written : Bool) (user : HttpUser) (uploadId : Bytes) :
    (fs.handleCancelUpload written user uploadId).2.challenges = fs.challenges := by
  unfold handleCancelUpload
  repeat' split
  all_goals rfl

theorem gcPass_challenges (now : Int) (writes : Nat → Bool) :
    (fs.gcPass now writes).challenges ⊆ fs.challenges := by
  have same : (fs.gcPass now writes).challenges = (fs.dropExpired now).challenges :=
    gcPass_view (fun fs => fs.challenges) (fun _ _ => rfl) (fun _ _ _ => rfl) now writes fs
  rw [same]
  exact List.filter_subset_self _

theorem notMem_handleProof (now : Int) (user : HttpUser) (body : Bytes) :
    (challengeId, challenge) ∉ (fs.handleProof crypto now user challengeId body).2.challenges := by
  have dropped : (challengeId, challenge) ∉
      fs.challenges.filter fun entry => decide (entry.1 ≠ challengeId) := by simp
  unfold handleProof
  split
  · rename_i absent
    intro member
    have other := List.lookup_eq_none_iff.mp absent _ member
    simp at other
  · dsimp only
    split
    · exact dropped
    · split
      · exact dropped
      · exact dropped

theorem mem_handleProof {now : Int} {user : HttpUser} {id body : Bytes} (member :
    (challengeId, challenge) ∈ (fs.handleProof crypto now user id body).2.challenges) :
    (challengeId, challenge) ∈ fs.challenges := by
  have kept : (challengeId, challenge) ∈ fs.challenges.filter (fun entry => decide (entry.1 ≠ id)) →
      (challengeId, challenge) ∈ fs.challenges := List.mem_of_mem_filter
  unfold handleProof at member
  split at member
  · exact member
  · dsimp only at member
    split at member
    · exact kept member
    · split at member
      · exact kept member
      · exact kept member

theorem mem_handle (event : MediaEvent)
    (member : (challengeId, challenge) ∈ (fs.handle crypto event).challenges) :
    Issues challenge fs event ∨
      (challengeId, challenge) ∈ fs.challenges ∧ event.answersTo challengeId = false := by
  cases event with
  | upload now usable user rawName receiverId contentLength contentType body =>
      exact .inr ⟨handleUpload_challenges crypto now usable user rawName receiverId
        contentLength contentType body ▸ member, rfl⟩
  | create now pick written user rawName receiverId size sha contentType =>
      exact (mem_handleCreateUpload member).symm.imp_right fun old => ⟨old, rfl⟩
  | chunk now written usable count user uploadId index contentLength chunkSha body =>
      exact .inr ⟨handleUploadChunk_challenges crypto now written usable count user
        uploadId index contentLength chunkSha body ▸ member, rfl⟩
  | finalize now writes user uploadId =>
      exact .inr ⟨handleFinalizeUpload_challenges crypto now writes user uploadId ▸ member,
        rfl⟩
  | cancel written user uploadId =>
      exact .inr ⟨handleCancelUpload_challenges written user uploadId ▸ member, rfl⟩
  | preflight now pick user receiverId size sha =>
      exact (mem_handlePreflight member).symm.imp_right fun old => ⟨old, rfl⟩
  | proof now user id body =>
      refine .inr ⟨mem_handleProof member, ?_⟩
      by_contra named
      obtain rfl : id = challengeId := by simpa [MediaEvent.answersTo] using named
      exact notMem_handleProof now user body member
  | chat env conn rq => exact .inr ⟨member, rfl⟩
  | collect now writes => exact .inr ⟨gcPass_challenges now writes member, rfl⟩
  | elsewhere server writes msgIds => exact .inr ⟨member, rfl⟩

end

/-- A file id is given for a proof only to the user who asked for the file and was handed the
challenge at most `challengeTtlSeconds` ago, for a friend, with no proof tried on it in between; the
proof is what the stored file has at the place asked for, and the challenge is gone after it. -/
theorem proof_shown (crypto : Crypto) (server : Server) (uploadDir : Text)
    (events : List MediaEvent) (now : Int) (user : HttpUser) (challengeId body : Bytes)
    {fileId sha contentType : Bytes} {size : Int}
    (answered : ((events.foldl (handle crypto) (.fresh server uploadDir)).handleProof crypto now user
      challengeId body).1 = .file fileId sha size contentType) :
    let fs := events.foldl (handle crypto) (.fresh server uploadDir)
    let after := (fs.handleProof crypto now user challengeId body).2
    ∃ challenge : ProofChallenge, challenge.uploaderId = user.userId ∧ challenge.sha256 = sha ∧
      challenge.size = size ∧ now - challenge.createdAt ≤ challengeTtlSeconds ∧
      HappenedSince (handle crypto) (.fresh server uploadDir)
        (fun fs event => Issues challenge fs event)
        (fun _ event => event.answersTo challengeId = false) events ∧
      (∃ file, fs.files (cstr challenge.path) = some file ∧
        body = region file challenge.offset.toNat challenge.length.toNat) ∧
      (body.length : Int) = min proofBytes size ∧
      after.server.uploads fileId =
        some ⟨user.userId, challenge.receiverId, challenge.path, sha, size, contentType⟩ ∧
      ∀ other, (challengeId, other) ∉ after.challenges := by
  intro fs after
  change (fs.handleProof crypto now user challengeId body).1 = _ at answered
  have spent : ∀ other, (challengeId, other) ∉ after.challenges := fun other =>
    notMem_handleProof now user body
  revert spent
  unfold after
  unfold handleProof at answered ⊢
  cases found : fs.challenges.lookup challengeId with
  | none => simp [found] at answered
  | some challenge =>
      intro spent
      simp only [found] at answered spent ⊢
      split at answered
      · cases answered
      rename_i allowed
      simp only [not_or, not_not, Int.not_lt] at allowed
      obtain ⟨uploader, inTime, length⟩ := allowed
      split at answered
      · cases answered
      rename_i matching
      have passed : ¬ (challenge.uploaderId ≠ user.userId ∨
          challengeTtlSeconds < now - challenge.createdAt ∨ (body.length : Int) ≠ challenge.length) := by
        rintro (other | late | cut)
        · exact other uploader
        · omega
        · exact cut length
      rw [if_neg passed] at spent ⊢
      rw [if_neg matching] at spent ⊢
      simp only [not_or, not_not] at matching
      obtain ⟨file, stored, same⟩ := Option.map_eq_some_iff.mp matching.2
      simp only [FileReply.file.injEq] at answered
      obtain ⟨rfl, rfl, rfl, rfl⟩ := answered
      have since : HappenedSince (handle crypto) (.fresh server uploadDir)
          (fun fs event => Issues challenge fs event)
          (fun _ event => event.answersTo challengeId = false) events :=
        HappenedSince.of_steps (fun fs => (challengeId, challenge) ∈ fs.challenges)
          (by simp [fresh]) (fun _ event member => mem_handle event member) events
          (mem_of_lookup found)
      have asked : challenge.length = min proofBytes challenge.size := by
        obtain ⟨_, _, _, _, issues, _⟩ := since
        exact issues.length
      exact ⟨challenge, uploader, rfl, rfl, inTime, since, ⟨file, stored, same.symm⟩,
        length.trans asked, by simp [registerUpload], spent⟩

def helloChallenge : Bytes :=
  let seed := helloCrypto.tokenHash (ascii "1|" ++ helloSha ++ ascii "|1700000002")
  helloCrypto.tokenHash (seed ++ ascii "|0")

def helloTwice : List MediaEvent :=
  [.create 1700000000 0 true helloUser (ascii "hello.txt") (some 2) (some 5) helloSha
      (ascii "text/plain"),
    .chunk 1700000000 true (fun _ => true) 5 helloUser helloUploadId (some 0) (some 5) helloSha
      (ascii "hello"),
    .finalize 1700000001 (fun _ => true) helloUser helloUploadId,
    .preflight 1700000002 0 helloUser (some 2) (some 5) helloSha]

theorem proof_shown_hello : ∃ challenge : ProofChallenge, challenge.uploaderId = 1 ∧
    challenge.size = 5 ∧ (ascii "hello" : Bytes).length = 5 := by
  have answered : ((helloTwice.foldl (handle helloCrypto) (.fresh helloServer helloDir)).handleProof
      helloCrypto 1700000003 helloUser helloChallenge (ascii "hello")).1 =
        .file (helloCrypto.tokenHash (helloChallenge ++ ascii "|0")) helloSha 5
          (ascii "text/plain") := by
    decide +kernel
  obtain ⟨challenge, uploader, _, size, _⟩ := proof_shown helloCrypto helloServer helloDir helloTwice
    1700000003 helloUser helloChallenge (ascii "hello") answered
  exact ⟨challenge, uploader, size, rfl⟩

end HttpFileServer

end Jitong
