import Jitong.Lib.Files
import Jitong.MessageHandler
import Jitong.UploadTables

/-!
`media/HttpFileServer.cpp`: uploads in one piece and in chunks, instant uploads
by proof of possession, downloads and the collection of what nobody claimed. A
handler takes the identity that `authenticate` has found, and what the request
carries.
-/

namespace Jitong

open Lib

structure HttpUser where
  userId : Int32
  deviceId : Bytes
  deriving DecidableEq

structure ProofChallenge where
  uploaderId : Int32
  receiverId : Int32
  path : Bytes
  sha256 : Bytes
  size : Int
  contentType : Bytes
  offset : Int
  length : Int
  createdAt : Int
  deriving DecidableEq

structure MediaObjectRow where
  sha256 : Text
  size : Int
  path : Text
  contentType : Text
  deriving DecidableEq

def mediaObjectClash (first second : MediaObjectRow) : Bool :=
  first.sha256 = second.sha256 ∧ first.size = second.size

structure MediaObject where
  path : Bytes
  sha256 : Bytes
  size : Int
  contentType : Bytes
  deriving DecidableEq

/-- The file service with the server it belongs to, the tables of its own and the
disk. `m_uploads` is `server.uploads`; `uploadedAt` has the times of its records. -/
structure HttpFileServer where
  server : Server
  uploadDir : Text
  uploadedAt : List (Bytes × Int)
  challenges : List (Bytes × ProofChallenge)
  uploadDb : UploadTables
  mediaObjects : Table MediaObjectRow mediaObjectClash
  files : Files Text UInt8
  uploadCounter : UInt64
  sessionCounter : UInt64
  proofCounter : UInt64

inductive FileReply
  | status (code : Nat)
  | missingChunks (received : Nat) (chunkCount : Int32)
  | sizeMismatch
  | shaMismatch
  | alreadyFinalized (fileId : Bytes)
  | challenge (challengeId : Bytes) (offset length : Int)
  | miss
  | session (uploadId : Bytes) (chunkSize : Int) (chunkCount : Int32) (expiresAt : Int)
      (received : List Int32)
  | stored
  | cancelled
  | file (fileId sha256 : Bytes) (size : Int) (contentType : Bytes)
  | content (bytes : Bytes) (attachment : Option Bytes)
  deriving DecidableEq

/-- A chunk that has passed the checks of `handleUploadChunk`. -/
structure ChunkUpload where
  uploadId : Bytes
  session : UploadSession Bytes
  index : Int32
  chunkSha : Bytes
  body : Bytes
  deriving DecidableEq

def fileMaxSize : Int := 100 * 1024 * 1024
def uploadChunkSize : Int := 1024 * 1024
def proofBytes : Int := 64 * 1024
def uploadTtlSeconds : Int := 24 * 3600
def challengeTtlSeconds : Int := 300

def imageExtForBytes (bytes : Bytes) : Bytes :=
  if ([0x89, 0x50, 0x4E, 0x47, 0x0D, 0x0A, 0x1A, 0x0A] : Bytes).isPrefixOf bytes then ascii ".png"
  else if ([0xFF, 0xD8, 0xFF] : Bytes).isPrefixOf bytes then ascii ".jpg"
  else if (ascii "GIF8").isPrefixOf bytes then ascii ".gif"
  else if (ascii "BM").isPrefixOf bytes then ascii ".bmp"
  else if (ascii "RIFF").isPrefixOf bytes ∧ (ascii "WEBP").isPrefixOf (bytes.drop 8) then
    ascii ".webp"
  else if (ascii "ftypavif").isPrefixOf (bytes.drop 4) ∨
      (ascii "ftypavis").isPrefixOf (bytes.drop 4) then ascii ".avif"
  else ascii ".bin"

def fileNameOf (rawName : Bytes) : Bytes := (rawName.reverse.takeWhile (· ≠ 0x2F)).reverse

def isSafeFileId (id : Bytes) : Bool :=
  id ≠ [] ∧
  (∀ c ∈ id, (0x30 ≤ c ∧ c ≤ 0x39) ∨ (0x41 ≤ c ∧ c ≤ 0x5A) ∨ (0x61 ≤ c ∧ c ≤ 0x7A) ∨
    c = 0x2E ∨ c = 0x5F ∨ c = 0x2D) ∧
  ¬ascii ".." <:+: id

def hexNumber (digits : Bytes) : Nat :=
  digits.foldl (fun value digit => value * 16 + (hexValue digit).toNat) 0

def anyRow {Row : Type} (pick : Nat) (rows : List Row) : Option Row := rows[pick % rows.length]?

def UploadSession.expectedSize {Str : Type} (session : UploadSession Str) (index : Int32) : Int :=
  min session.chunkSize (session.fileSize - index.toInt * session.chunkSize)

def UploadSession.offset {Str : Type} (session : UploadSession Str) (index : Int32) : Nat :=
  (index.toInt * session.chunkSize).toNat

namespace HttpFileServer

def fresh (server : Server) (uploadDir : Text) : HttpFileServer :=
  ⟨server, uploadDir, [], [], .empty, .empty, fun _ => none, 0, 0, 0⟩

def imagePath (fs : HttpFileServer) (sha ext : Bytes) : Bytes :=
  fs.uploadDir.bytes ++ ascii "/img/" ++ sha ++ ext

def filePath (fs : HttpFileServer) (fileId fileName : Bytes) : Bytes :=
  fs.uploadDir.bytes ++ ascii "/file/" ++ fileId ++ ascii "_" ++ fileName

def chunksPath (fs : HttpFileServer) (uploadId : Bytes) : Bytes :=
  fs.uploadDir.bytes ++ ascii "/chunks/" ++ uploadId ++ ascii ".part"

def exists_ (fs : HttpFileServer) (path : Bytes) : Bool := (fs.files (cstr path)).isSome

/-! `Database`. -/

def messagesBySha (fs : HttpFileServer) (sha256 : Text) (size : Int) :
    List (StoredMessage Text) :=
  (fs.server.messages.rows.map (·.columns)).filter fun row =>
    (row.sha256 = sha256 ∧ row.fileSize = size) ∨
    (row.thumbnailSha256 = sha256 ∧ row.thumbnailSize = size) ∨
    (row.largeThumbnailSha256 = sha256 ∧ row.largeThumbnailSize = size)

def findMediaObject (pick : Nat) (fs : HttpFileServer) (sha256 : Bytes) (size : Int) :
    Option MediaObject :=
  if sha256.length ≠ 64 ∨ size ≤ 0 then none else
  let indexed := fs.mediaObjects.rows.find? fun row => row.sha256 = cstr sha256 ∧ row.size = size
  match indexed.filter fun row => row.path.bytes ≠ [] ∧ fs.exists_ row.path.bytes with
  | some row => some ⟨row.path.bytes, sha256, size, row.contentType.bytes⟩
  | none =>
      match anyRow pick (fs.messagesBySha (cstr sha256) size) with
      | none => none
      | some row =>
          let path :=
            if row.sha256 = cstr sha256 then row.mediaPath
            else if row.thumbnailSha256 = cstr sha256 then row.thumbnailPath
            else row.largeThumbnailPath
          let contentType :=
            if row.sha256 = cstr sha256 then row.contentType.bytes else ascii "image/avif"
          if path.bytes ≠ [] ∧ fs.exists_ path.bytes then
            some ⟨path.bytes, sha256, size, contentType⟩
          else none

def registerMediaObject (written : Bool) (fs : HttpFileServer) (sha256 : Bytes) (size : Int)
    (path contentType : Bytes) : HttpFileServer :=
  if sha256.length ≠ 64 ∨ size ≤ 0 ∨ path = [] ∨ written = false then fs else
  let row : MediaObjectRow := ⟨cstr sha256, size, cstr path, cstr contentType⟩
  { fs with mediaObjects := fs.mediaObjects.insertOrIgnore row }

def messagesByFileId (fs : HttpFileServer) (fileId : Text) : List (StoredMessage Text) :=
  (fs.server.messages.rows.map (·.columns)).filter fun row =>
    row.fileId = fileId ∨ row.thumbnailFileId = fileId ∨ row.largeThumbnailFileId = fileId

def getMessageByFileId (pick : Nat) (fs : HttpFileServer) (fileId : Bytes) :
    Option (StoredMessage Bytes) :=
  (anyRow pick (fs.messagesByFileId (cstr fileId))).map fun row =>
    let out := row.map Text.bytes
    let out := if fileId = out.thumbnailFileId then { out with mediaPath := out.thumbnailPath }
      else out
    if fileId = out.largeThumbnailFileId then { out with mediaPath := out.largeThumbnailPath }
    else out

/-! Upload records. -/

def registerUpload (fs : HttpFileServer) (now : Int) (fileId : Bytes) (record : UploadRecord) :
    HttpFileServer :=
  { fs with
    server := { fs.server with uploads := Function.update fs.server.uploads fileId (some record) }
    uploadedAt := (fileId, now) :: fs.uploadedAt.filter fun entry => entry.1 ≠ fileId }

def moveImage (files : Files Text UInt8) (tmpPath finalPath : Text) : Files Text UInt8 :=
  if (files finalPath).isSome then files.remove tmpPath else files.rename tmpPath finalPath

/-! Challenges. -/

def issueInstantChallenge (crypto : Crypto) (now : Int) (pick : Nat) (fs : HttpFileServer)
    (userId receiverId : Int32) (sha : Bytes) (size : Int) : Option FileReply × HttpFileServer :=
  match fs.findMediaObject pick sha size with
  | none => (none, fs)
  | some object =>
      let length := min proofBytes size
      let bar := ascii "|"
      let seed := crypto.tokenHash (decimal userId.toInt ++ bar ++ sha ++ bar ++ decimal now)
      let offset : Int :=
        if length < size then ((hexNumber (seed.take 16) % (size - length + 1).toNat : Nat) : Int)
        else 0
      let challengeId := crypto.tokenHash (seed ++ bar ++ decimal offset)
      let challenge : ProofChallenge :=
        ⟨userId, receiverId, object.path, sha, size, object.contentType, offset, length, now⟩
      let challenges := (challengeId, challenge) ::
        fs.challenges.filter fun entry => entry.1 ≠ challengeId
      (some (.challenge challengeId offset length), { fs with challenges })

def handlePreflight (crypto : Crypto) (now : Int) (pick : Nat) (fs : HttpFileServer)
    (user : HttpUser) (receiverId : Option Int32) (size : Option Int) (sha : Bytes) :
    FileReply × HttpFileServer :=
  match receiverId, size with
  | some receiverId, some size =>
      if !fs.server.isFriend user.userId receiverId then (.status 403, fs) else
      let (issued, fs) := fs.issueInstantChallenge crypto now pick user.userId receiverId sha size
      (issued.getD .miss, fs)
  | _, _ => (.status 400, fs)

def handleProof (crypto : Crypto) (now : Int) (fs : HttpFileServer) (user : HttpUser)
    (challengeId body : Bytes) : FileReply × HttpFileServer :=
  match fs.challenges.lookup challengeId with
  | none => (.status 404, fs)
  | some challenge =>
      let challenges := fs.challenges.filter fun entry => entry.1 ≠ challengeId
      let fs := { fs with challenges }
      if challenge.uploaderId ≠ user.userId ∨ challengeTtlSeconds < now - challenge.createdAt ∨
          (body.length : Int) ≠ challenge.length then (.status 403, fs) else
      let expected := (fs.files (cstr challenge.path)).map fun file =>
        region file challenge.offset.toNat challenge.length.toNat
      -- A short read leaves the stream failed.
      if (expected.all fun bytes => (bytes.length : Int) ≠ challenge.length) ∨
          expected ≠ some body then (.status 409, fs) else
      let fileId := crypto.tokenHash (challengeId ++ ascii "|" ++ decimal fs.proofCounter.toNat)
      let fs := { fs with proofCounter := fs.proofCounter + 1 }
      let record : UploadRecord := ⟨user.userId, challenge.receiverId, challenge.path,
        challenge.sha256, challenge.size, challenge.contentType⟩
      (.file fileId challenge.sha256 challenge.size challenge.contentType,
        fs.registerUpload now fileId record)

/-! Uploads in one piece. -/

def handleUpload (crypto : Crypto) (now : Int) (usable : Bool) (fs : HttpFileServer)
    (user : HttpUser) (rawName : Bytes) (receiverId : Option Int32) (contentLength : Option Int)
    (contentType body : Bytes) : FileReply × HttpFileServer :=
  let safeName := fileNameOf rawName
  if safeName = [] ∨ 255 < safeName.length then (.status 400, fs) else
  match receiverId with
  | none => (.status 400, fs)
  | some receiverId =>
      if !fs.server.isFriend user.userId receiverId then (.status 403, fs) else
      let declaredSize := contentLength.getD (-1)
      if declaredSize < 0 ∨ fileMaxSize < declaredSize then (.status 413, fs) else
      let bar := ascii "|"
      let fileId := crypto.tokenHash (decimal user.userId.toInt ++ bar ++
        decimal receiverId.toInt ++ bar ++ safeName ++ bar ++ decimal now ++ bar ++
        decimal fs.uploadCounter.toNat)
      let fs := { fs with uploadCounter := fs.uploadCounter + 1 }
      let isImage := isImageType contentType
      let tmpPath := cstr (fs.uploadDir.bytes ++
        (if isImage then ascii "/img/tmp" else ascii "/file/tmp") ++ ascii "/" ++ fileId ++
        ascii ".part")
      if !usable then (.status 500, fs) else
      -- The temporary file of a body of the wrong size is removed again.
      if (body.length : Int) ≠ declaredSize then
        (.status 400, { fs with files := (fs.files.put tmpPath body).remove tmpPath })
      else
        let files := fs.files.put tmpPath body
        let sha := crypto.tokenHash body
        let finalPath :=
          if isImage then fs.imagePath sha (imageExtForBytes (body.take 16))
          else fs.filePath fileId safeName
        let files :=
          if isImage then moveImage files tmpPath (cstr finalPath)
          else files.rename tmpPath (cstr finalPath)
        let fs := { fs with files }
        (.file fileId sha declaredSize contentType,
          fs.registerUpload now fileId
            ⟨user.userId, receiverId, finalPath, sha, declaredSize, contentType⟩)

/-! Uploads in chunks. -/

def newUploadSession (crypto : Crypto) (now : Int) (fs : HttpFileServer) (user : HttpUser)
    (receiverId : Int32) (safeName sha contentType : Bytes) (size : Int) : UploadSession Bytes :=
  let bar := ascii "|"
  let uploadId := crypto.tokenHash (decimal user.userId.toInt ++ bar ++ user.deviceId ++ bar ++
    decimal receiverId.toInt ++ bar ++ sha ++ bar ++ decimal size ++ bar ++ decimal now ++ bar ++
    decimal fs.sessionCounter.toNat)
  {
    uploadId
    uploaderId := user.userId
    deviceId := user.deviceId
    receiverId
    fileName := safeName
    fileSize := size
    sha256 := sha
    contentType
    isImage := isImageType contentType
    chunkSize := uploadChunkSize
    chunkCount := Int32.ofInt ((size + uploadChunkSize - 1) / uploadChunkSize)
    expiresAt := now + uploadTtlSeconds
    state := .opened
    fileId := []
    tmpPath := fs.chunksPath uploadId
    createdAt := now
  }

def sessionReply (fs : HttpFileServer) (session : UploadSession Bytes) : FileReply :=
  .session session.uploadId session.chunkSize session.chunkCount session.expiresAt
    (fs.uploadDb.listUploadChunkIndices session.uploadId)

def handleCreateUpload (crypto : Crypto) (now : Int) (pick : Nat) (written : Bool)
    (fs : HttpFileServer) (user : HttpUser) (rawName : Bytes) (receiverId : Option Int32)
    (size : Option Int) (sha contentType : Bytes) : FileReply × HttpFileServer :=
  let safeName := fileNameOf rawName
  match receiverId, size with
  | some receiverId, some size =>
      if safeName = [] ∨ 255 < safeName.length ∨ sha.length ≠ 64 ∨ size ≤ 0 ∨ fileMaxSize < size
        then (.status 400, fs) else
      if !fs.server.isFriend user.userId receiverId then (.status 403, fs) else
      match fs.issueInstantChallenge crypto now pick user.userId receiverId sha size with
      | (some instant, fs) => (instant, fs)
      | (none, fs) =>
          match fs.uploadDb.findOpenUploadSession user.userId user.deviceId receiverId sha size with
          | some session => (fs.sessionReply session, fs)
          | none =>
              let session := fs.newUploadSession crypto now user receiverId safeName sha
                contentType size
              let fs := { fs with sessionCounter := fs.sessionCounter + 1 }
              match fs.uploadDb.createUploadSession written session with
              | (false, _) => (.status 500, fs)
              | (true, uploadDb) =>
                  let fs := { fs with uploadDb }
                  (fs.sessionReply session, fs)
  | _, _ => (.status 400, fs)

/-- Everything before `storeUploadChunk`; the error is the status of the answer. -/
def checkChunk (crypto : Crypto) (now : Int) (fs : HttpFileServer) (user : HttpUser)
    (uploadId : Bytes) (index : Option Int32) (contentLength : Option Int) (chunkSha body : Bytes) :
    Except Nat ChunkUpload :=
  match index with
  | none => .error 400
  | some index =>
      match fs.uploadDb.getUploadSession uploadId with
      | none => .error 404
      | some session =>
          if session.uploaderId ≠ user.userId ∨ session.deviceId ≠ user.deviceId then .error 403
          else if session.state = .cancelled then .error 410
          else if session.state ≠ .opened then .error 409
          else if session.expiresAt < now then .error 410
          else if index < 0 ∨ session.chunkCount ≤ index then .error 400
          else if contentLength.getD (-1) ≠ session.expectedSize index then .error 400
          else if chunkSha.length ≠ 64 then .error 400
          else if (body.length : Int) ≠ session.expectedSize index then .error 400
          else if crypto.tokenHash body ≠ chunkSha then .error 400
          else .ok ⟨uploadId, session, index, chunkSha, body⟩

def storeChunk (written : Bool) (now : Int) (fs : HttpFileServer) (upload : ChunkUpload) :
    ChunkStoreResult × HttpFileServer :=
  let (result, uploadDb) := fs.uploadDb.storeUploadChunk written now upload.uploadId upload.index
    (upload.session.expectedSize upload.index) upload.chunkSha
  (result, { fs with uploadDb })

def tmpPath (upload : ChunkUpload) : Text := cstr upload.session.tmpPath

def openExisting (usable : Bool) (fs : HttpFileServer) (upload : ChunkUpload) : Bool :=
  usable && (fs.files (tmpPath upload)).isSome

/-- `fs.open(path, out)`, which makes the file or empties it. -/
def openTruncating (fs : HttpFileServer) (upload : ChunkUpload) : HttpFileServer :=
  { fs with files := fs.files.put (tmpPath upload) [] }

def writeChunk (count : Nat) (fs : HttpFileServer) (upload : ChunkUpload) : HttpFileServer :=
  match fs.files (tmpPath upload) with
  | none => fs
  | some file =>
      let offset := upload.session.offset upload.index
      let files := fs.files.put (tmpPath upload) (overwrite 0 file offset (upload.body.take count))
      { fs with files }

/-- `usable 0` and `usable 1` are the two ways to open the file. -/
def handleUploadChunk (crypto : Crypto) (now : Int) (written : Bool) (usable : Nat → Bool)
    (count : Nat) (fs : HttpFileServer) (user : HttpUser) (uploadId : Bytes)
    (index : Option Int32) (contentLength : Option Int) (chunkSha body : Bytes) :
    FileReply × HttpFileServer :=
  match fs.checkChunk crypto now user uploadId index contentLength chunkSha body with
  | .error code => (.status code, fs)
  | .ok upload =>
      match fs.storeChunk written now upload with
      | (.conflict, fs) => (.status 409, fs)
      | (.rejected, fs) => (.status 409, fs)
      | (.duplicate, fs) => (.stored, fs)
      | (.stored, fs) =>
          let existing := fs.openExisting (usable 0) upload
          if !existing && !usable 1 then (.status 500, fs) else
          let fs := if existing then fs else fs.openTruncating upload
          let fs := fs.writeChunk count upload
          (if body.length ≤ count then .stored else .status 500, fs)

def handleGetUpload (fs : HttpFileServer) (user : HttpUser) (uploadId : Bytes) : FileReply :=
  match fs.uploadDb.getUploadSession uploadId with
  | none => .status 404
  | some session =>
      if session.uploaderId ≠ user.userId ∨ session.deviceId ≠ user.deviceId then .status 403
      else fs.sessionReply session

def fileReply (session : UploadSession Bytes) (fileId : Bytes) : FileReply :=
  .file fileId session.sha256 session.fileSize session.contentType

def readFinalize (fs : HttpFileServer) (user : HttpUser) (uploadId : Bytes) :
    Except FileReply (UploadSession Bytes) :=
  match fs.uploadDb.getUploadSession uploadId with
  | none => .error (.status 404)
  | some session =>
      if session.uploaderId ≠ user.userId ∨ session.deviceId ≠ user.deviceId then
        .error (.status 403)
      else if session.state = .cancelled then .error (.status 410)
      else if session.state = .finalized then .error (fileReply session session.fileId)
      else .ok session

/-- The chunks and the file; `none` lets the request go on. -/
def checkFinalize (crypto : Crypto) (fs : HttpFileServer) (uploadId : Bytes)
    (session : UploadSession Bytes) : Option FileReply :=
  let received := fs.uploadDb.listUploadChunkIndices uploadId
  if Int32.ofNat received.length ≠ session.chunkCount then
    some (.missingChunks received.length session.chunkCount)
  else
    match fs.files (cstr session.tmpPath) with
    | none => some .sizeMismatch
    | some file =>
        if (file.length : Int) ≠ session.fileSize then some .sizeMismatch
        else if crypto.tokenHash file ≠ session.sha256 then some .shaMismatch
        else none

def finalizedId (crypto : Crypto) (uploadId : Bytes) : Bytes :=
  crypto.tokenHash (uploadId ++ ascii "|finalize")

def headBytes (fs : HttpFileServer) (path : Text) : Bytes :=
  let head := ((fs.files path).getD []).take 16
  head ++ List.replicate (16 - head.length) 0

def finalPath (crypto : Crypto) (fs : HttpFileServer) (uploadId : Bytes)
    (session : UploadSession Bytes) : Bytes :=
  if session.isImage then
    fs.imagePath session.sha256 (imageExtForBytes (fs.headBytes (cstr session.tmpPath)))
  else fs.filePath (finalizedId crypto uploadId) session.fileName

def moveFinalize (crypto : Crypto) (fs : HttpFileServer) (uploadId : Bytes)
    (session : UploadSession Bytes) : Bytes × HttpFileServer :=
  let finalPath := fs.finalPath crypto uploadId session
  let files :=
    if session.isImage then moveImage fs.files (cstr session.tmpPath) (cstr finalPath)
    else fs.files.rename (cstr session.tmpPath) (cstr finalPath)
  (finalPath, { fs with files })

/-- `writes 0` is the update of the session, `writes 1` the media object. -/
def markFinalize (crypto : Crypto) (now : Int) (writes : Nat → Bool) (fs : HttpFileServer)
    (user : HttpUser) (uploadId : Bytes) (session : UploadSession Bytes) (finalPath : Bytes) :
    FileReply × HttpFileServer :=
  let fileId := finalizedId crypto uploadId
  match fs.uploadDb.finalizeUploadSession (writes 0) uploadId fileId with
  | (false, _, uploadDb) => (.status 409, { fs with uploadDb })
  | (true, existing, uploadDb) =>
      let fs := { fs with uploadDb }
      if existing ≠ [] then (fileReply session existing, fs) else
      let fs := fs.registerMediaObject (writes 1) session.sha256 session.fileSize finalPath
        session.contentType
      (fileReply session fileId,
        fs.registerUpload now fileId ⟨user.userId, session.receiverId, finalPath, session.sha256,
          session.fileSize, session.contentType⟩)

def handleFinalizeUpload (crypto : Crypto) (now : Int) (writes : Nat → Bool)
    (fs : HttpFileServer) (user : HttpUser) (uploadId : Bytes) : FileReply × HttpFileServer :=
  match fs.readFinalize user uploadId with
  | .error reply => (reply, fs)
  | .ok session =>
      match fs.checkFinalize crypto uploadId session with
      | some reply => (reply, fs)
      | none =>
          let (finalPath, fs) := fs.moveFinalize crypto uploadId session
          fs.markFinalize crypto now writes user uploadId session finalPath

def handleCancelUpload (written : Bool) (fs : HttpFileServer) (user : HttpUser)
    (uploadId : Bytes) : FileReply × HttpFileServer :=
  match fs.uploadDb.getUploadSession uploadId with
  | none => (.status 404, fs)
  | some session =>
      if session.uploaderId ≠ user.userId ∨ session.deviceId ≠ user.deviceId then (.status 403, fs)
      else if session.state = .finalized then (.alreadyFinalized session.fileId, fs)
      else
        match fs.uploadDb.cancelUploadSession written uploadId with
        | (false, _) => (.status 409, fs)
        | (true, uploadDb) =>
            (.cancelled, { fs with uploadDb, files := fs.files.remove (cstr session.tmpPath) })

/-! Downloads. -/

def handleDownload (pick : Nat) (fs : HttpFileServer) (userId : Int32) (fileId : Bytes) :
    FileReply :=
  if !isSafeFileId fileId then .status 400 else
  match fs.getMessageByFileId pick fileId with
  | none => .status 404
  | some m =>
      if m.mediaPath = [] then .status 404
      else if userId ≠ m.senderId ∧ userId ≠ m.receiverId then .status 403
      else
        match fs.files (cstr m.mediaPath) with
        | none => .status 404
        | some bytes => .content bytes (if m.type = 2 then some m.content else none)

/-! The collector. -/

def expiredRecord (now : Int) (fs : HttpFileServer) (entry : Bytes × Int) : Option UploadRecord :=
  if uploadTtlSeconds < now - entry.2 then fs.server.uploads entry.1 else none

def expiredPaths (now : Int) (fs : HttpFileServer) : List Bytes :=
  fs.uploadedAt.filterMap fun entry => (fs.expiredRecord now entry).map (·.mediaPath)

def dropExpired (now : Int) (fs : HttpFileServer) : HttpFileServer :=
  let expired := fs.uploadedAt.filter fun entry => (fs.expiredRecord now entry).isSome
  let uploads := fun fileId =>
    if fileId ∈ expired.map (·.1) then none else fs.server.uploads fileId
  { fs with
    server := { fs.server with uploads }
    uploadedAt := fs.uploadedAt.filter fun entry => uploadTtlSeconds ≥ now - entry.2
    challenges := fs.challenges.filter fun entry =>
      challengeTtlSeconds ≥ now - entry.2.createdAt }

def dropSession (fs : HttpFileServer) (writes : Nat → Bool) (session : UploadSession Bytes) :
    HttpFileServer :=
  { fs with
    files := fs.files.remove (cstr session.tmpPath)
    uploadDb := (fs.uploadDb.deleteUploadSession writes session.uploadId).2 }

/-- One pass of `gcLoop`. The writes of the `i`-th session are those from `2 * i` on. -/
def gcPass (now : Int) (writes : Nat → Bool) (fs : HttpFileServer) : HttpFileServer :=
  let paths := fs.expiredPaths now
  let fs := fs.dropExpired now
  let fs := { fs with
    files := paths.foldl (fun files path => files.remove (cstr path)) fs.files }
  (fs.uploadDb.listExpiredUploadSessions now).zipIdx.foldl (fun fs entry =>
    fs.dropSession (fun index => writes (2 * entry.2 + index)) entry.1) fs

end HttpFileServer

/-! A file that says hello, and its uploader. -/

def helloSha : Bytes :=
  toHex (bigEndian 32 0x2cf24dba5fb0a30e26e83b2ac5b9e29e1b161e5c1fa7425e73043362938b9824)

def helloUploadId : Bytes :=
  toHex (bigEndian 32 0x9f4f271b0b45f3c0b384d3acaa2b7d0f3942f5e0333576b049c9095cd9ed6628)

def helloFileId : Bytes :=
  toHex (bigEndian 32 0x4c3b5dbc27c94ccdb17c55d20ea058ced9d3ae09e49ac8909c557fe1d51c39e9)

def helloCrypto : Crypto :=
  .recorded [
    (ascii "hello", bigEndian 32
      0x2cf24dba5fb0a30e26e83b2ac5b9e29e1b161e5c1fa7425e73043362938b9824),
    (ascii "1|dev-a|2|" ++ helloSha ++ ascii "|5|1700000000|0", bigEndian 32
      0x9f4f271b0b45f3c0b384d3acaa2b7d0f3942f5e0333576b049c9095cd9ed6628),
    (helloUploadId ++ ascii "|finalize", bigEndian 32
      0x4c3b5dbc27c94ccdb17c55d20ea058ced9d3ae09e49ac8909c557fe1d51c39e9)] []

theorem helloCrypto_digests (input : Bytes) : helloCrypto.sha256 input ≠ [] :=
  recordedDigest_ne_nil (by decide +kernel) input

def helloUser : HttpUser := ⟨1, ascii "dev-a"⟩

def helloServer : Server := { Server.empty with friends := [(1, 2), (2, 1)] }

def helloDir : Text := cstr (ascii "uploads")

def helloRow : UploadSession Bytes :=
  (HttpFileServer.fresh helloServer helloDir).newUploadSession helloCrypto 1700000000 helloUser 2
    (ascii "hello.txt") helloSha (ascii "text/plain") 5

def helloUploaded : HttpFileServer :=
  let fs := ((HttpFileServer.fresh helloServer helloDir).handleCreateUpload helloCrypto 1700000000 0
    true helloUser (ascii "hello.txt") (some 2) (some 5) helloSha (ascii "text/plain")).2
  (fs.handleUploadChunk helloCrypto 1700000001 true (fun _ => true) 5 helloUser helloUploadId
    (some 0) (some 5) helloSha (ascii "hello")).2

end Jitong
