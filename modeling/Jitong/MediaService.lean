import Jitong.Lib.Program
import Jitong.MessageHandler
import Jitong.NativeRepository
import Jitong.UploadDrafts

/-!
`media/MediaService.cpp`: uploads that go on where they stopped, the message card that is sent when
all its files are there, and the cancel. Every call of the repository, of the transport and of the
file system is a question of the program. The texts of the errors and the progress callback are
left out.
-/

namespace Jitong

open Lib NativeRepository

structure UploadResult where
  ok : Bool := false
  retryable : Bool := true
  status : Int := 0
  deriving DecidableEq

structure UploadSessionInfo where
  instant : Bool := false
  challengeId : Bytes := []
  proofOffset : Int := 0
  proofLength : Int := 0
  uploadId : Bytes := []
  chunkSize : Int := 0
  chunkCount : Int32 := 0
  expiresAt : Int := 0
  state : Bytes := []
  fileId : Bytes := []
  received : List Int32 := []
  deriving DecidableEq

structure CreateSessionRequest where
  receiverId : Int := 0
  fileName : Bytes := []
  fileSize : Int := 0
  sha256 : Bytes := []
  contentType : Bytes := []
  deriving DecidableEq

inductive MediaWrite
  | draft (made : DraftCall)
  | commitOutgoingDraft (m : MessageDto)
  deriving DecidableEq

inductive MediaOp
  | getUploadDraft (key : DraftKey)
  | loadActiveUploadDrafts
  | findMessage (msgId : Bytes)
  | write (made : MediaWrite)
  | createSession (req : CreateSessionRequest)
  | querySession (uploadId : Bytes)
  | uploadChunk (uploadId : Bytes) (index : Int32) (chunkSha256 bytes : Bytes)
  | prove (challengeId bytes : Bytes)
  | finalize (uploadId : Bytes)
  | cancelSession (uploadId : Bytes)
  /-- Exactly `size` bytes of a file, from `offset` on. -/
  | readFile (path : Bytes) (offset size : Int)

def MediaOp.Reply : MediaOp → Type
  | .getUploadDraft _ => Option (UploadDraft (List Int32))
  | .loadActiveUploadDrafts => Option (List Bytes)
  | .findMessage _ => Bool
  | .write _ => Bool
  | .createSession _ => UploadResult × UploadSessionInfo
  | .querySession _ => UploadResult × UploadSessionInfo
  | .uploadChunk _ _ _ _ => UploadResult
  | .prove _ _ => UploadResult × Bytes
  | .finalize _ => UploadResult × Bytes
  | .cancelSession _ => UploadResult
  | .readFile _ _ _ => Option Bytes

abbrev MediaProgram (Result : Type) := Program MediaOp.Reply Result

namespace MediaService

def kErrNetwork : Int32 := 1001
def kErrSessionLost : Int32 := 1002
def kErrRejected : Int32 := 1003
def kErrLocalIo : Int32 := 1004

def getUploadDraft (key : DraftKey) : MediaProgram (Option (UploadDraft (List Int32))) :=
  .ask (MediaOp.getUploadDraft key) fun reply => .done reply

def loadActiveUploadDrafts : MediaProgram (Option (List Bytes)) :=
  .ask MediaOp.loadActiveUploadDrafts fun reply => .done reply

def findMessage (msgId : Bytes) : MediaProgram Bool :=
  .ask (MediaOp.findMessage msgId) fun reply => .done reply

def draftCall (made : DraftCall) : MediaProgram Bool :=
  .ask (MediaOp.write (.draft made)) fun reply => .done reply

def commitOutgoingDraft (m : MessageDto) : MediaProgram Bool :=
  .ask (MediaOp.write (.commitOutgoingDraft m)) fun reply => .done reply

def createSession (req : CreateSessionRequest) : MediaProgram (UploadResult × UploadSessionInfo) :=
  .ask (MediaOp.createSession req) fun reply => .done reply

def querySession (uploadId : Bytes) : MediaProgram (UploadResult × UploadSessionInfo) :=
  .ask (MediaOp.querySession uploadId) fun reply => .done reply

def uploadChunk (uploadId : Bytes) (index : Int32) (chunkSha256 bytes : Bytes) :
    MediaProgram UploadResult :=
  .ask (MediaOp.uploadChunk uploadId index chunkSha256 bytes) fun reply => .done reply

def prove (challengeId bytes : Bytes) : MediaProgram (UploadResult × Bytes) :=
  .ask (MediaOp.prove challengeId bytes) fun reply => .done reply

def finalize (uploadId : Bytes) : MediaProgram (UploadResult × Bytes) :=
  .ask (MediaOp.finalize uploadId) fun reply => .done reply

def cancelSession (uploadId : Bytes) : MediaProgram UploadResult :=
  .ask (MediaOp.cancelSession uploadId) fun reply => .done reply

def readFile (path : Bytes) (offset size : Int) : MediaProgram (Option Bytes) :=
  .ask (MediaOp.readFile path offset size) fun reply => .done reply

def failDraft (key : DraftKey) (code : Int32) : MediaProgram Unit := do
  let _ ← draftCall (.setUploadDraftState key .failed code)
  pure ()

def failure (result : UploadResult) : Int32 := if result.retryable then kErrNetwork else kErrRejected

/-- A part of `processVariant` goes on with the draft, or ends the function. -/
abbrev Stage := Except Bool (UploadDraft (List Int32))

def reread (key : DraftKey) : MediaProgram Stage := do
  match ← getUploadDraft key with
  | none => pure (.error false)
  | some cur => pure (.ok cur)

def markAll (key : DraftKey) : List Int32 → MediaProgram Unit
  | [] => pure ()
  | index :: rest => do
      let _ ← draftCall (.markUploadChunkDone key index)
      markAll key rest

def request (cur : UploadDraft (List Int32)) : CreateSessionRequest where
  receiverId := cur.peerId
  fileName := cur.fileName
  fileSize := cur.fileSize
  sha256 := cur.sha256
  contentType := cur.contentType

def proveInstant (key : DraftKey) (cur : UploadDraft (List Int32)) (session : UploadSessionInfo) :
    MediaProgram Stage := do
  match ← readFile cur.localPath session.proofOffset session.proofLength with
  | none => do
      failDraft key kErrLocalIo
      pure (.error false)
  | some proof => do
      let (proved, fileId) ← prove session.challengeId proof
      if proved.ok then do
        let ok ← draftCall (.setUploadDraftFileId key fileId)
        pure (.error ok)
      else do
        failDraft key (failure proved)
        pure (.error false)

def openSession (key : DraftKey) (cur : UploadDraft (List Int32)) : MediaProgram Stage := do
  let (created, session) ← createSession (request cur)
  if !created.ok then do
    failDraft key (failure created)
    pure (.error false)
  else if session.instant then proveInstant key cur session
  else do
    let ok ← draftCall (.setUploadDraftSession key session.uploadId session.chunkSize
      session.chunkCount)
    if !ok then pure (.error false)
    else do
      markAll key session.received
      reread key

def renewSession (key : DraftKey) (cur : UploadDraft (List Int32)) (code : UploadResult → Int32) :
    MediaProgram Stage := do
  let (created, fresh) ← createSession (request cur)
  if !created.ok || fresh.instant then do
    failDraft key (code created)
    pure (.error false)
  else do
    let ok ← draftCall (.resetUploadDraftForNewSession key fresh.uploadId fresh.chunkSize
      fresh.chunkCount)
    if !ok then pure (.error false) else reread key

def askServer (key : DraftKey) (cur : UploadDraft (List Int32)) : MediaProgram Stage := do
  let (asked, server) ← querySession cur.uploadId
  if asked.ok then
    if server.state = ascii "finalized" ∧ server.fileId ≠ [] then do
      let ok ← draftCall (.setUploadDraftFileId key server.fileId)
      pure (.error ok)
    else if server.state = ascii "cancelled" then renewSession key cur fun _ => kErrSessionLost
    else do
      markAll key server.received
      pure (.ok cur)
  else if asked.status = 404 ∨ asked.status = 410 then
    renewSession key cur fun created => if created.retryable then kErrSessionLost else kErrRejected
  else do
    failDraft key (failure asked)
    pure (.error false)

def revive (key : DraftKey) (cur : UploadDraft (List Int32)) : MediaProgram Stage := do
  if cur.state = .failed ∧ cur.uploadId ≠ [] then do
    let ok ← draftCall (.setUploadDraftState key .uploading 0)
    if !ok then pure (.error false) else reread key
  else pure (.ok cur)

def readChunk (cur : UploadDraft (List Int32)) (index : Int32) : MediaProgram (Option Bytes) :=
  let offset := index.toInt * cur.chunkSize
  let size := min cur.chunkSize (cur.fileSize - offset)
  if size ≤ 0 then pure none else readFile cur.localPath offset size

/-- The loop over the chunks that are missing; the result tells whether `processVariant` goes on. -/
def uploadChunks (sha256Hex : Bytes → Bytes) (key : DraftKey) (cur : UploadDraft (List Int32)) :
    List Int32 → MediaProgram Bool
  | [] => pure true
  | index :: rest =>
      if index ∈ cur.chunksDone then uploadChunks sha256Hex key cur rest
      else do
        match ← getUploadDraft key with
        | none => pure false
        | some fresh =>
            -- cancelled while the loop is running
            if fresh.state ≠ .uploading then pure true
            else do
              match ← readChunk cur index with
              | none => do
                  failDraft key kErrLocalIo
                  pure false
              | some bytes => do
                  let sent ← uploadChunk cur.uploadId index (sha256Hex bytes) bytes
                  if !sent.ok then do
                    failDraft key (failure sent)
                    pure false
                  else do
                    let ok ← draftCall (.markUploadChunkDone key index)
                    if !ok then pure false else uploadChunks sha256Hex key cur rest

def chunkIndices (count : Int32) : List Int32 :=
  (List.range count.toInt.toNat).map fun index => .ofNat index

def uploadMissing (sha256Hex : Bytes → Bytes) (key : DraftKey) (cur : UploadDraft (List Int32)) :
    MediaProgram Stage := do
  if cur.state = .uploading then do
    let goesOn ← uploadChunks sha256Hex key cur (chunkIndices cur.chunkCount)
    if goesOn then reread key else pure (.error false)
  else pure (.ok cur)

def finish (key : DraftKey) (cur : UploadDraft (List Int32)) : MediaProgram Bool := do
  if cur.state = .uploading ∧ (cur.chunksDone.length : Int) = cur.chunkCount.toInt then do
    let (finalized, fileId) ← finalize cur.uploadId
    if !finalized.ok then do
      failDraft key (failure finalized)
      pure false
    else draftCall (.setUploadDraftFileId key fileId)
  else pure true

def Stage.goOn (next : UploadDraft (List Int32) → MediaProgram Stage) : Stage → MediaProgram Stage
  | .error ended => pure (.error ended)
  | .ok cur => next cur

def ensureSession (key : DraftKey) (draft : UploadDraft (List Int32)) : MediaProgram Stage :=
  if draft.uploadId = [] then openSession key draft else pure (.ok draft)

def processVariant (sha256Hex : Bytes → Bytes) (key : DraftKey) (draft : UploadDraft (List Int32)) :
    MediaProgram Bool := do
  if draft.state = .finalized ∨ draft.state.isTerminal then pure true
  else do
    let opened ← ensureSession key draft
    let asked ← opened.goOn (askServer key)
    let revived ← asked.goOn (revive key)
    let uploaded ← revived.goOn (uploadMissing sha256Hex key)
    match uploaded with
    | .error ended => pure ended
    | .ok cur => finish key cur

def mediaVariants : List MediaVariant := [.origin, .largeThumbnail, .smallThumbnail]

def markSent (ownerId : Int) (msgId : Bytes) : List MediaVariant → MediaProgram Unit
  | [] => pure ()
  | variant :: rest => do
      let _ ← draftCall (.setUploadDraftState ⟨ownerId, msgId, variant⟩ .sent 0)
      markSent ownerId msgId rest

def messageCard (msgId : Bytes) (origin : UploadDraft (List Int32))
    (large small : Option (UploadDraft (List Int32))) : MessageDto where
  msgId := msgId
  conversationId := origin.conversationId
  peerId := origin.peerId
  fromMe := true
  type := if isImageType origin.contentType then 1 else 2
  media := {
    text := fun
      | .mediaPath => origin.localPath
      | .fileId => origin.fileId
      | .fileName => origin.fileName
      | .contentType => origin.contentType
      | .sha256 => origin.sha256
      | .thumbnailFileId => (small.map (·.fileId)).getD []
      | .thumbnailPath => (small.map (·.localPath)).getD []
      | .thumbnailSha256 => (small.map (·.sha256)).getD []
      | .largeThumbnailFileId => (large.map (·.fileId)).getD []
      | .largeThumbnailPath => (large.map (·.localPath)).getD []
      | .largeThumbnailSha256 => (large.map (·.sha256)).getD []
      | .localPath => []
    number := fun
      | .imgW => origin.imageWidth
      | .imgH => origin.imageHeight
      | .fileSize => origin.fileSize
      | .thumbnailSize => (small.map (·.fileSize)).getD 0
      | .thumbnailW => (small.map (·.imageWidth)).getD 0
      | .thumbnailH => (small.map (·.imageHeight)).getD 0
      | .largeThumbnailSize => (large.map (·.fileSize)).getD 0
      | .largeThumbnailW => (large.map (·.imageWidth)).getD 0
      | .largeThumbnailH => (large.map (·.imageHeight)).getD 0
      | .transferred => 0 }

abbrev Variants := List (MediaVariant × UploadDraft (List Int32))

def sendMessageCard (ownerId : Int) (msgId : Bytes) (variants : Variants) : MediaProgram Bool := do
  let existing ← findMessage msgId
  if existing = true then do
    markSent ownerId msgId (variants.map Prod.fst)
    pure true
  else
    match variants.lookup .origin with
    | none => pure false
    | some origin =>
        if origin.fileId = [] then pure false
        else do
          let committed ← commitOutgoingDraft (messageCard msgId origin
            (variants.lookup .largeThumbnail) (variants.lookup .smallThumbnail))
          if committed = true then do
            markSent ownerId msgId (variants.map Prod.fst)
            pure true
          else pure false

def loadVariants (ownerId : Int) (msgId : Bytes) : List MediaVariant → MediaProgram Variants
  | [] => pure []
  | variant :: rest => do
      let found ← getUploadDraft ⟨ownerId, msgId, variant⟩
      let others ← loadVariants ownerId msgId rest
      pure (match found with
        | none => others
        | some draft => (variant, draft) :: others)

/-- The variants one after the other, with `allFinalized` and `latest`. -/
def advance (sha256Hex : Bytes → Bytes) (ownerId : Int) (msgId : Bytes) :
    Variants → MediaProgram (Bool × Variants)
  | [] => pure (true, [])
  | (variant, draft) :: rest => do
      let ok ← processVariant sha256Hex ⟨ownerId, msgId, variant⟩ draft
      if !ok then do
        let (_, latest) ← advance sha256Hex ownerId msgId rest
        pure (false, (variant, draft) :: latest)
      else do
        let cur ← getUploadDraft ⟨ownerId, msgId, variant⟩
        let (allFinalized, latest) ← advance sha256Hex ownerId msgId rest
        pure (match cur with
          | none => (false, latest)
          | some cur => (allFinalized && (cur.state = .finalized || cur.state = .sent),
              (variant, cur) :: latest))

def pumpMessage (sha256Hex : Bytes → Bytes) (ownerId : Int) (msgId : Bytes) : MediaProgram Bool := do
  let variants ← loadVariants ownerId msgId mediaVariants
  if variants = [] then pure false
  else if variants.any (·.2.state = .cancelled) then pure false
  else if variants.all (·.2.state.isTerminal) then pure (variants.all (·.2.state = .sent))
  else do
    let (allFinalized, latest) ← advance sha256Hex ownerId msgId variants
    if allFinalized then sendMessageCard ownerId msgId latest else pure false

def pumpAll (sha256Hex : Bytes → Bytes) (ownerId : Int) : List Bytes → MediaProgram Nat
  | [] => pure 0
  | msgId :: rest => do
      let ok ← pumpMessage sha256Hex ownerId msgId
      let progressed ← pumpAll sha256Hex ownerId rest
      pure (if ok then progressed + 1 else progressed)

/-- The answer of `loadActiveUploadDrafts` is taken as the messages of the drafts, each once. -/
def resumeAll (sha256Hex : Bytes → Bytes) (ownerId : Int) : MediaProgram Nat := do
  match ← loadActiveUploadDrafts with
  | none => pure 0
  | some msgIds => pumpAll sha256Hex ownerId msgIds

/-- The loop of `cancel`; the result is `found`, or that a draft could not be changed. -/
def cancelVariants (ownerId : Int) (msgId : Bytes) (found : Bool) :
    List MediaVariant → MediaProgram Bool
  | [] => pure found
  | variant :: rest => do
      match ← getUploadDraft ⟨ownerId, msgId, variant⟩ with
      | none => cancelVariants ownerId msgId found rest
      | some draft =>
          if draft.state.isTerminal then cancelVariants ownerId msgId true rest
          else do
            let ok ← draftCall (.setUploadDraftState ⟨ownerId, msgId, variant⟩ .cancelled 0)
            if !ok then pure false
            else if draft.uploadId ≠ [] then do
              let _ ← cancelSession draft.uploadId
              cancelVariants ownerId msgId true rest
            else cancelVariants ownerId msgId true rest

def cancel (ownerId : Int) (msgId : Bytes) : MediaProgram Bool :=
  cancelVariants ownerId msgId false mediaVariants

def enqueueAll (ownerId : Int) (msgId : Bytes) : Variants → MediaProgram Bool
  | [] => pure true
  | (variant, draft) :: rest => do
      let ok ← draftCall (.upsertUploadDraft ⟨ownerId, msgId, variant⟩ draft)
      if !ok then pure false else enqueueAll ownerId msgId rest

def enqueue (ownerId : Int) (msgId : Bytes) (drafts : Variants) : MediaProgram Bool :=
  if drafts = [] then pure false else enqueueAll ownerId msgId drafts

end MediaService

end Jitong
