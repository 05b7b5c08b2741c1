import Jitong.AuthHandler
import Jitong.MessageHandler
import Jitong.TokenInvariant

/-!
`core/Server.cpp` and `handlers/SystemHandler.cpp`: packets on their way to the
handlers, closed connections, and the runs of the server that they make.
-/

namespace Jitong

open Lib

def authMaintenance (type : UInt32) : Bool := type = tokenRefreshRqType || type = logoutRqType

def Session.accessExpired (session : Session) (type : UInt32) (now : Int) : Bool :=
  session.authenticated && !authMaintenance type && 0 < session.accessExpiresAt &&
    session.accessExpiresAt < now

namespace Server

def onOffline (server : Server) (conn : ConnId) : Server :=
  match server.sessions conn with
  | none => server
  | some session => (server.presenceOffline session.userId conn).close conn

def touchSession (now : Int) (server : Server) (session : Session) : Server :=
  if 0 < session.userId then server.touch now session.userId else server

def onHeartbeat (env : Env) (server : Server) (conn : ConnId) : Server :=
  match server.sessions conn with
  | none => server
  | some session => (server.touchSession env.now session).deliver conn .heartbeatRs

def handle (crypto : Crypto) (env : Env) (server : Server) (conn : ConnId) :
    ClientPacket → Server
  | .login rq => server.onLogin crypto env conn rq
  | .tokenLogin rq => server.onTokenLogin crypto env conn rq
  | .tokenRefresh rq => server.onTokenRefresh crypto env conn rq
  | .logout rq => server.onLogout crypto env conn rq
  | .chatInfo rq => server.onChat crypto env conn rq
  | .friendOffline => server.onOffline conn
  | .heartbeat => server.onHeartbeat env conn
  | .other _ => server

def dispatchPacket (crypto : Crypto) (env : Env) (server : Server) (conn : ConnId)
    (packet : ClientPacket) : Server :=
  match server.sessions conn with
  | none => server
  | some session =>
      let server := server.touchSession env.now session
      if session.accessExpired packet.type env.now then server.close conn
      else server.handle crypto env conn packet

def tokenOp (crypto : Crypto) (env : Env) (server : Server) (conn : ConnId) (session : Session) :
    ClientPacket → Option TokenOp
  | .login rq =>
      match server.checkLogin crypto env conn session rq with
      | (none, _) => none
      | (some userId, _) => some (.issue (env.skipWrites 2) userId rq.deviceId)
  | .tokenRefresh rq =>
      if server.refreshProof crypto session rq then
        some (.rotateRefresh env rq.refreshToken rq.deviceId rq.requestId)
      else none
  | .logout rq =>
      match server.logoutRecord crypto session rq with
      | none => none
      | some record =>
          some (if rq.logoutAllDevices then .revokeAllForUser env record.userId
            else .revokeSession env record.sessionId.bytes)
  | _ => none

def onSessionClosed (server : Server) (conn : ConnId) : Server :=
  match server.sessions conn with
  | none => server
  | some session =>
      if session.closed then server else
      let server := server.modify conn fun session => { session with closed := true }
      if session.userId ≤ 0 then server else
      let server := server.presenceOffline session.userId conn
      { server with posted := server.posted ++ [session.userId] }

def connect (server : Server) (conn : ConnId) (appSessionId peerAddress : Bytes) : Server :=
  { server with
    sessions := Function.update server.sessions conn (some { appSessionId, peerAddress }) }

def release (server : Server) (conn : ConnId) : Server :=
  server.modify conn fun session => { session with destroyed := session.closed }

def notifyOffline (userId : Int32) (server : Server) (friendRecord : UserRecord) : Server :=
  match server.presenceGet friendRecord.id with
  | some friendSession => server.deliver friendSession (.friendOffline userId)
  | none => server

def broadcastOffline (server : Server) (userId : Int32) : Server :=
  (server.getFriends userId).foldl (notifyOffline userId) server

end Server

/-- What happens to the server: a connection is there, sends a packet, closes, or
is let go of; a posted job runs; and the tables of users, friends and uploads
change under requests that are not followed here. -/
inductive ServerEvent
  | connect (conn : ConnId) (appSessionId peerAddress : Bytes)
  | packet (env : Env) (conn : ConnId) (packet : ClientPacket)
  | closed (conn : ConnId)
  | destroyed (conn : ConnId)
  | posted (userId : Int32)
  | directory (users : List UserRecord) (friends : List (Int32 × Int32))
  | upload (fileId : Bytes) (record : Option UploadRecord)

namespace ServerEvent

def apply (crypto : Crypto) (server : Server) : ServerEvent → Server
  | connect conn appSessionId peerAddress =>
      if (server.sessions conn).isSome then server
      else server.connect conn appSessionId peerAddress
  | packet env conn request => server.dispatchPacket crypto env conn request
  | closed conn => server.onSessionClosed conn
  | destroyed conn => server.release conn
  | posted userId =>
      if userId ∈ server.posted then
        { server with posted := server.posted.erase userId }.broadcastOffline userId
      else server
  | directory users friends => { server with users, friends }
  | upload fileId record => { server with uploads := Function.update server.uploads fileId record }

def tokenOp (crypto : Crypto) (server : Server) : ServerEvent → Option TokenOp
  | packet env conn request =>
      match server.sessions conn with
      | none => none
      | some session =>
          if session.accessExpired request.type env.now then none
          else (server.touchSession env.now session).tokenOp crypto env conn session request
  | _ => none

end ServerEvent

structure ServerState where
  server : Server
  ledger : Ledger

def ServerState.tokens (state : ServerState) : TokenState := ⟨state.server.tokens, state.ledger⟩

def ServerState.start : ServerState := ⟨.empty, []⟩

def ServerEvent.minted (crypto : Crypto) (server : Server) (event : ServerEvent) : Option Mint :=
  (event.tokenOp crypto server).bind fun op => op.minted crypto server.tokens

def ServerStep (crypto : Crypto) (before : ServerState) (event : ServerEvent)
    (after : ServerState) : Prop :=
  (∀ mint, event.minted crypto before.server = some mint → FreshMint before.ledger mint) ∧
  after.server = event.apply crypto before.server ∧
  after.ledger = (event.minted crypto before.server).toList ++ before.ledger

abbrev ServerRun (crypto : Crypto) : List ServerEvent → ServerState → Prop :=
  Run (ServerStep crypto) .start

end Jitong
