import Jitong.Text

/-!
The messages of `im.proto` and the protocol numbers of `Protocol.h` that the
server's handlers read and write. A default-valued record is the message with
no field set.
-/

namespace Jitong

def ascii (literal : String) : Bytes := literal.toList.map fun letter => UInt8.ofNat letter.toNat

def defBase : UInt32 := 1000

def loginRqType : UInt32 := defBase + 2
def chatInfoRqType : UInt32 := defBase + 5
def friendOfflineType : UInt32 := defBase + 9
def heartbeatRqType : UInt32 := defBase + 10
def tokenLoginRqType : UInt32 := defBase + 23
def tokenRefreshRqType : UInt32 := defBase + 25
def logoutRqType : UInt32 := defBase + 27

def loginSuccess : Int32 := 0
def loginNotExit : Int32 := 1
def loginPassError : Int32 := 2
def loginInvalid : Int32 := 3
def loginRateLimited : Int32 := 4

def statusOnline : Int32 := 0
def statusOffline : Int32 := 1

def chatResultSucc : Int32 := 0
def chatResultFail : Int32 := 1
def chatResultNotFriend : Int32 := 2
def chatResultServerError : Int32 := 3
def chatResultFileNotOwned : Int32 := 4

structure LoginRq where
  tel : Bytes := []
  pass : Bytes := []
  deviceId : Bytes := []
  devicePublicKey : Bytes := []
  deviceSignature : Bytes := []
  deriving DecidableEq

structure LoginRs where
  userid : Int32 := 0
  result : Int32 := 0
  accessToken : Bytes := []
  refreshToken : Bytes := []
  accessTokenExpireAt : Int := 0
  refreshTokenExpireAt : Int := 0
  sessionId : Bytes := []
  deriving DecidableEq

structure RefreshTokenRq where
  refreshToken : Bytes := []
  deviceId : Bytes := []
  requestId : Bytes := []
  deviceSignature : Bytes := []
  deriving DecidableEq

structure RefreshTokenRs where
  result : Int32 := 0
  accessToken : Bytes := []
  refreshToken : Bytes := []
  accessTokenExpireAt : Int := 0
  refreshTokenExpireAt : Int := 0
  sessionId : Bytes := []
  deriving DecidableEq

structure TokenLoginRq where
  accessToken : Bytes := []
  deviceId : Bytes := []
  deviceSignature : Bytes := []
  deriving DecidableEq

structure TokenLoginRs where
  result : Int32 := 0
  userid : Int32 := 0
  accessTokenExpireAt : Int := 0
  deriving DecidableEq

structure LogoutRq where
  refreshToken : Bytes := []
  deviceId : Bytes := []
  logoutAllDevices : Bool := false
  deviceSignature : Bytes := []
  deriving DecidableEq

structure LogoutRs where
  result : Int32 := 0
  deriving DecidableEq

structure FriendInfo where
  userid : Int32 := 0
  iconid : Int32 := 0
  status : Int32 := 0
  nick : Bytes := []
  feeling : Bytes := []
  deriving DecidableEq

/-- proto3 enumerations are open: a client can send a number that none of the
three names stands for, and the field keeps it. -/
inductive MsgType
  | text
  | image
  | file
  | unrecognized (number : Int32)
  deriving DecidableEq

structure ChatInfoRq where
  myid : Int32 := 0
  friid : Int32 := 0
  msg : Bytes := []
  type : MsgType := .text
  imageWidth : Int32 := 0
  imageHeight : Int32 := 0
  msgId : Bytes := []
  ts : Int := 0
  seq : Int := 0
  fileName : Bytes := []
  fileSize : Int := 0
  fileId : Bytes := []
  contentType : Bytes := []
  sha256 : Bytes := []
  thumbnailFileId : Bytes := []
  thumbnailWidth : Int32 := 0
  thumbnailHeight : Int32 := 0
  thumbnailSize : Int := 0
  thumbnailSha256 : Bytes := []
  largeThumbnailFileId : Bytes := []
  largeThumbnailWidth : Int32 := 0
  largeThumbnailHeight : Int32 := 0
  largeThumbnailSize : Int := 0
  largeThumbnailSha256 : Bytes := []
  deriving DecidableEq

structure ChatInfoRs where
  myid : Int32 := 0
  friid : Int32 := 0
  result : Int32 := 0
  msgId : Bytes := []
  seq : Int := 0
  deriving DecidableEq

inductive ServerPacket
  | loginRs (packet : LoginRs)
  | tokenLoginRs (packet : TokenLoginRs)
  | tokenRefreshRs (packet : RefreshTokenRs)
  | logoutRs (packet : LogoutRs)
  | friendInfo (packet : FriendInfo)
  | friendOffline (offlineid : Int32)
  | chatInfoRq (packet : ChatInfoRq)
  | chatInfoRs (packet : ChatInfoRs)
  | kickedOffline
  | heartbeatRs
  deriving DecidableEq

/-- A decrypted business packet. `other` stands for the routes whose handlers
leave the modelled state alone and for payloads that do not parse. -/
inductive ClientPacket
  | login (packet : LoginRq)
  | tokenLogin (packet : TokenLoginRq)
  | tokenRefresh (packet : RefreshTokenRq)
  | logout (packet : LogoutRq)
  | chatInfo (packet : ChatInfoRq)
  | friendOffline
  | heartbeat
  | other (type : UInt32)
  deriving DecidableEq

def ClientPacket.type : ClientPacket → UInt32
  | login _ => loginRqType
  | tokenLogin _ => tokenLoginRqType
  | tokenRefresh _ => tokenRefreshRqType
  | logout _ => logoutRqType
  | chatInfo _ => chatInfoRqType
  | friendOffline => friendOfflineType
  | heartbeat => heartbeatRqType
  | other type => type

end Jitong
