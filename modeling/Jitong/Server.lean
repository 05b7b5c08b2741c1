import Jitong.LoginRateLimiter
import Jitong.MessageTable
import Jitong.TokenService

/-!
The server's state: the tables, the connections with what was delivered to
them, `Presence`, and the parts of `Database`, `Presence` and `Session` that
the handlers call.
-/

namespace Jitong

open Lib

abbrev ConnId := Nat

structure UserRecord where
  id : Int32
  iconId : Int32
  nick : Text
  feeling : Text
  tel : Text
  passwd : Text
  salt : Text
  passwordAlgo : Text
  deriving DecidableEq

structure DeviceKeyRow where
  userId : Int32
  deviceId : Text
  publicKey : Bytes
  deriving DecidableEq

def deviceKeyClash (first second : DeviceKeyRow) : Bool :=
  first.userId = second.userId ∧ first.deviceId = second.deviceId

structure UploadRecord where
  uploaderId : Int32
  receiverId : Int32
  mediaPath : Bytes
  sha256 : Bytes
  size : Int
  contentType : Bytes
  deriving DecidableEq

/-- `sent` is what `deliver` was called with, the newest packet first. -/
structure Session where
  userId : Int32 := 0
  authSessionId : Bytes := []
  deviceId : Bytes := []
  accessExpiresAt : Int := 0
  appSessionId : Bytes
  peerAddress : Bytes
  sent : List ServerPacket := []
  toldToClose : Bool := false
  closed : Bool := false
  destroyed : Bool := false
  deriving DecidableEq

def Session.authenticated (session : Session) : Bool := 0 < session.userId

def Session.bindAuth (session : Session) (userId : Int32) (authSessionId deviceId : Bytes)
    (expiresAt : Int) : Session :=
  { session with userId, authSessionId, deviceId, accessExpiresAt := expiresAt }

structure Presence.Entry where
  sess : ConnId
  lastActive : Int
  deriving DecidableEq

abbrev Presence := Int32 → Option Presence.Entry

structure Server where
  users : List UserRecord
  friends : List (Int32 × Int32)
  deviceKeys : Table DeviceKeyRow deviceKeyClash
  messages : MessageTable
  tokens : TokenService
  presence : Presence
  sessions : ConnId → Option Session
  loginLimiter : LoginRateLimiter
  uploads : Bytes → Option UploadRecord
  chatCounter : UInt64
  posted : List Int32

namespace Server

def empty : Server where
  users := []
  friends := []
  deviceKeys := .empty
  messages := .empty
  tokens := .empty
  presence := fun _ => none
  sessions := fun _ => none
  loginLimiter := .create {}
  uploads := fun _ => none
  chatCounter := 0
  posted := []

/-! Connections. -/

def modify (server : Server) (conn : ConnId) (change : Session → Session) : Server :=
  { server with
    sessions := Function.update server.sessions conn ((server.sessions conn).map change) }

def deliver (server : Server) (conn : ConnId) (packet : ServerPacket) : Server :=
  server.modify conn fun session => { session with sent := packet :: session.sent }

def close (server : Server) (conn : ConnId) : Server :=
  server.modify conn fun session => { session with toldToClose := true }

def closeAfterWrite (server : Server) (conn : ConnId) : Server := server.close conn

def sentTo (server : Server) (conn : ConnId) : List ServerPacket :=
  ((server.sessions conn).map (·.sent)).getD []

def deliveredSince (before after : Server) (conn : ConnId) : List ServerPacket :=
  (after.sentTo conn).take ((after.sentTo conn).length - (before.sentTo conn).length)

@[simp] theorem modify_users (server : Server) (conn : ConnId) (change : Session → Session) :
    (server.modify conn change).users = server.users := rfl

@[simp] theorem modify_friends (server : Server) (conn : ConnId) (change : Session → Session) :
    (server.modify conn change).friends = server.friends := rfl

@[simp] theorem modify_deviceKeys (server : Server) (conn : ConnId) (change : Session → Session) :
    (server.modify conn change).deviceKeys = server.deviceKeys := rfl

@[simp] theorem modify_messages (server : Server) (conn : ConnId) (change : Session → Session) :
    (server.modify conn change).messages = server.messages := rfl

@[simp] theorem modify_tokens (server : Server) (conn : ConnId) (change : Session → Session) :
    (server.modify conn change).tokens = server.tokens := rfl

@[simp] theorem modify_presence (server : Server) (conn : ConnId) (change : Session → Session) :
    (server.modify conn change).presence = server.presence := rfl

@[simp] theorem modify_self (server : Server) (conn : ConnId) (change : Session → Session) :
    (server.modify conn change).sessions conn = (server.sessions conn).map change :=
  Function.update_self ..

theorem modify_other (server : Server) {conn other : ConnId} (change : Session → Session)
    (different : other ≠ conn) :
    (server.modify conn change).sessions other = server.sessions other :=
  Function.update_of_ne different ..

@[simp] theorem modify_isSome (server : Server) (conn other : ConnId)
    (change : Session → Session) :
    ((server.modify conn change).sessions other).isSome = (server.sessions other).isSome := by
  by_cases same : other = conn
  · subst other
    simp
  · rw [modify_other _ _ same]

theorem modify_map {View : Type} (server : Server) (conn other : ConnId)
    {change : Session → Session} (view : Session → View)
    (kept : ∀ session, view (change session) = view session) :
    ((server.modify conn change).sessions other).map view = (server.sessions other).map view := by
  by_cases same : other = conn
  · subst other
    rw [modify_self, Option.map_map]
    exact congrArg (fun composed => (server.sessions conn).map composed) (funext kept)
  · rw [modify_other _ _ same]

theorem sentTo_deliver_self {server : Server} {conn : ConnId}
    (live : (server.sessions conn).isSome) (packet : ServerPacket) :
    (server.deliver conn packet).sentTo conn = packet :: server.sentTo conn := by
  obtain ⟨session, found⟩ := Option.isSome_iff_exists.mp live
  simp [sentTo, deliver, found]

theorem sentTo_deliver_other (server : Server) {conn other : ConnId} (packet : ServerPacket)
    (different : other ≠ conn) :
    (server.deliver conn packet).sentTo other = server.sentTo other := by
  rw [sentTo, deliver, modify_other _ _ different]
  rfl

theorem sentTo_modify (server : Server) (conn other : ConnId) {change : Session → Session}
    (kept : ∀ session, (change session).sent = session.sent) :
    (server.modify conn change).sentTo other = server.sentTo other :=
  congrArg (fun sent => sent.getD []) (server.modify_map conn other (·.sent) kept)

theorem sentTo_deliver (server : Server) (conn other : ConnId) (packet : ServerPacket) :
    ∃ new, (server.deliver conn packet).sentTo other = new ++ server.sentTo other := by
  by_cases same : other = conn
  · subst other
    cases found : server.sessions conn with
    | none => exact ⟨[], by simp [sentTo, deliver, found]⟩
    | some session => exact ⟨[packet], by simp [sentTo, deliver, found]⟩
  · exact ⟨[], sentTo_deliver_other server packet same⟩

theorem deliveredSince_of_append {before after : Server} {conn : ConnId}
    (packets : List ServerPacket) (grown : after.sentTo conn = packets ++ before.sentTo conn) :
    before.deliveredSince after conn = packets := by
  simp [deliveredSince, grown]

/-! `Presence`. A weak reference locks while its connection is not destroyed. -/

def lock (server : Server) (conn : ConnId) : Option ConnId :=
  if (server.sessions conn).any fun session => !session.destroyed then some conn else none

theorem isSome_of_lock {server : Server} {conn target : ConnId}
    (locked : server.lock conn = some target) : (server.sessions target).isSome := by
  unfold lock at locked
  split at locked
  · rename_i alive
    obtain ⟨session, found, _⟩ := Option.any_eq_true .. |>.mp alive
    rw [← Option.some.inj locked, found]
    rfl
  · simp at locked

theorem lock_modify (server : Server) (conn other : ConnId) {change : Session → Session}
    (kept : ∀ session, (change session).destroyed = session.destroyed) :
    (server.modify conn change).lock other = server.lock other := by
  have same := congrArg (Option.any not) (server.modify_map conn other (·.destroyed) kept)
  simp only [Option.any_map] at same
  exact congrArg (fun alive : Bool => if alive then some other else none) same

def presenceGet (server : Server) (userId : Int32) : Option ConnId :=
  (server.presence userId).bind fun entry => server.lock entry.sess

theorem presenceGet_modify (server : Server) (conn : ConnId) (userId : Int32)
    {change : Session → Session}
    (kept : ∀ session, (change session).destroyed = session.destroyed) :
    (server.modify conn change).presenceGet userId = server.presenceGet userId := by
  unfold presenceGet
  exact congrArg (Option.bind _) (funext fun entry => server.lock_modify conn entry.sess kept)

def isOnline (server : Server) (userId : Int32) : Bool := (server.presenceGet userId).isSome

def presenceReplace (server : Server) (now : Int) (userId : Int32) (conn : ConnId) :
    Option ConnId × Server :=
  (server.presenceGet userId,
    { server with presence := Function.update server.presence userId (some ⟨conn, now⟩) })

def presenceOffline (server : Server) (userId : Int32) (conn : ConnId) : Server :=
  if server.presenceGet userId = some conn then
    { server with presence := Function.update server.presence userId none }
  else server

def touch (server : Server) (now : Int) (userId : Int32) : Server :=
  { server with
    presence := Function.update server.presence userId
      ((server.presence userId).map fun entry => { entry with lastActive := now }) }

/-! `Database`. -/

instance lawfulPairs : LawfulBEq (Int32 × Int32) := inferInstance

def getUser (server : Server) (id : Int32) : Option UserRecord :=
  server.users.find? fun user => user.id = id

def isFriend (server : Server) (idA idB : Int32) : Bool := (idA, idB) ∈ server.friends

def getFriends (server : Server) (id : Int32) : List UserRecord :=
  (server.friends.filter fun pair => pair.1 = id).filterMap fun pair => server.getUser pair.2

def bindDevicePublicKey (written : Bool) (server : Server) (userId : Int32) (deviceId : Bytes)
    (publicKeyDer : Bytes) : Bool × Server :=
  if userId ≤ 0 ∨ deviceId = [] ∨ publicKeyDer = [] ∨ written = false then (false, server) else
  let deviceKeys := server.deviceKeys.insertOrIgnore ⟨userId, cstr deviceId, publicKeyDer⟩
  let stored := deviceKeys.rows.find? fun row => row.userId = userId ∧ row.deviceId = cstr deviceId
  (stored.any fun row => row.publicKey = publicKeyDer, { server with deviceKeys })

def getDevicePublicKey (server : Server) (userId : Int32) (deviceId : Bytes) : Option Bytes :=
  (server.deviceKeys.rows.find? fun row =>
    row.userId = userId ∧ row.deviceId = cstr deviceId).bind fun row =>
      if row.publicKey = [] then none else some row.publicKey

/-- The result code, `outUserId`, and the tables: a legacy password that was
right is hashed anew when `upgraded` (the new encoded hash) is there. -/
def loginUser (crypto : Crypto) (upgraded : Option Bytes) (written : Bool) (server : Server)
    (tel passHash : Bytes) : Int32 × Int32 × Server :=
  match server.users.find? fun user => user.tel = cstr tel with
  | none => (loginNotExit, 0, server)
  | some user =>
      if user.passwordAlgo.bytes = ascii "argon2id" then
        (if crypto.argon2idVerify user.passwd.bytes passHash then loginSuccess else loginPassError,
          user.id, server)
      else
        let legacyCandidate := crypto.tokenHash (user.salt.bytes ++ passHash)
        if legacyCandidate ≠ user.passwd.bytes then (loginPassError, user.id, server)
        else
          match upgraded with
          | some encoded =>
              let upgrade := fun row : UserRecord =>
                if row.id = user.id ∧ row.passwordAlgo.bytes = ascii "legacy_sha256" then
                  { row with
                    passwd := cstr encoded, salt := cstr [], passwordAlgo := cstr (ascii "argon2id") }
                else row
              (loginSuccess, user.id,
                if written then { server with users := server.users.map upgrade } else server)
          | none => (loginSuccess, user.id, server)

/-! `HandlerUtils`. -/

def sendFriendInfo (server : Server) (conn : ConnId) (userId : Int32) (onlineStatus : Int32) :
    Server :=
  match server.getUser userId with
  | none => server
  | some user =>
      server.deliver conn (.friendInfo {
        userid := user.id
        iconid := user.iconId
        status := onlineStatus
        nick := user.nick.bytes
        feeling := user.feeling.bytes })

end Server

def fillChatInfo (message : StoredMessage Bytes) : ChatInfoRq :=
  let out : ChatInfoRq := {
    myid := message.senderId
    friid := message.receiverId
    msgId := message.msgId
    ts := message.ts
    seq := message.seq }
  if message.type = 1 then
    { out with
      type := .image
      imageWidth := message.imgW
      imageHeight := message.imgH
      fileId := message.fileId
      fileSize := message.fileSize
      contentType := message.contentType
      sha256 := message.sha256
      thumbnailFileId := message.thumbnailFileId
      thumbnailSize := message.thumbnailSize
      thumbnailSha256 := message.thumbnailSha256
      thumbnailWidth := message.thumbnailW
      thumbnailHeight := message.thumbnailH
      largeThumbnailFileId := message.largeThumbnailFileId
      largeThumbnailSize := message.largeThumbnailSize
      largeThumbnailSha256 := message.largeThumbnailSha256
      largeThumbnailWidth := message.largeThumbnailW
      largeThumbnailHeight := message.largeThumbnailH }
  else if message.type = 2 then
    { out with
      type := .file
      fileId := message.fileId
      fileName := message.content
      fileSize := message.fileSize
      contentType := message.contentType
      sha256 := message.sha256 }
  else { out with type := .text, msg := message.content }

end Jitong
