import Jitong.Server

/-!
`handlers/AuthHandler.cpp`: password login, token login, refresh and logout.
Each handler is cut where it turns from checking the request to changing the
token store.
-/

namespace Jitong

def isDigit (ch : UInt8) : Bool := 0x30 ≤ ch && ch ≤ 0x39

def validMainlandMobile (tel : Bytes) : Bool :=
  match tel with
  | first :: second :: _ =>
      tel.length = 11 && first = 0x31 && 0x33 ≤ second && second ≤ 0x39 && tel.all isDigit
  | _ => false

def validSha256Proof (proof : Bytes) : Bool :=
  proof.length = 64 && proof.all fun ch =>
    isDigit ch || (0x61 ≤ ch && ch ≤ 0x66) || (0x41 ≤ ch && ch ≤ 0x46)

def verifyDevice (crypto : Crypto) (session : Session) (operation deviceId credential : Bytes)
    (publicKey signature : Bytes) (bindPublicKey : Bool) : Bool :=
  let proof := DeviceProof.message operation session.appSessionId deviceId credential
    (if bindPublicKey then publicKey else [])
  DeviceProof.verifyP256 crypto publicKey proof signature

namespace Server

/-! `activateSession`: the new connection takes the user's place, the friends
are told, and what could not be delivered is delivered now. -/

def takePlace (now : Int) (server : Server) (conn : ConnId) (userId : Int32) : Server :=
  let (old, server) := server.presenceReplace now userId conn
  match old with
  | some old =>
      if old ≠ conn then (server.deliver old .kickedOffline).closeAfterWrite old else server
  | none => server

def announceFriend (conn : ConnId) (userId : Int32) (server : Server)
    (friendRecord : UserRecord) : Server :=
  let online := server.isOnline friendRecord.id
  let server := server.sendFriendInfo conn friendRecord.id
    (if online then statusOnline else statusOffline)
  match server.presenceGet friendRecord.id with
  | some friendSession => server.sendFriendInfo friendSession userId statusOnline
  | none => server

def announce (server : Server) (conn : ConnId) (userId : Int32) : Server :=
  let server := server.sendFriendInfo conn userId statusOnline
  (server.getFriends userId).foldl (announceFriend conn userId) server

def replayMessage (conn : ConnId) (userId : Int32) (server : Server)
    (message : StoredMessage Bytes) : Server :=
  let server := server.deliver conn (.chatInfoRq (fillChatInfo message))
  match server.presenceGet message.senderId with
  | some sender =>
      server.deliver sender (.chatInfoRs {
        myid := userId
        friid := message.senderId
        result := chatResultSucc
        msgId := message.msgId
        seq := message.seq })
  | none => server

def markDelivered (writes : Nat → Bool) (server : Server)
    (undelivered : List (StoredMessage Bytes)) : Server :=
  { server with messages := server.messages.markDelivered writes (undelivered.map (·.msgId)) }

def activateSession (env : Env) (server : Server) (conn : ConnId) (userId : Int32) : Server :=
  let server := (server.takePlace env.now conn userId).announce conn userId
  let undelivered := server.messages.pullUndelivered userId
  (undelivered.foldl (replayMessage conn userId) server).markDelivered env.writes undelivered

/-! `onLogin`. -/

def rejectLogin (server : Server) (conn : ConnId) (result : Int32) : Server :=
  server.deliver conn (.loginRs { result })

def limitLogin (server : Server) (now : Int) (ip account : Bytes) : Bool × Server :=
  let (allowed, loginLimiter) := server.loginLimiter.allow ip account now
  (allowed, { server with loginLimiter })

def recordFailure (server : Server) (now : Int) (ip account : Bytes) : Server :=
  { server with loginLimiter := server.loginLimiter.recordFailure ip account now }

def recordSuccess (server : Server) (ip account : Bytes) : Server :=
  { server with loginLimiter := server.loginLimiter.recordSuccess ip account }

/-- The user whose password and device are accepted; `none` when the login was
turned away. Writes 0 and 1 are the password upgrade and the device key. -/
def checkLogin (crypto : Crypto) (env : Env) (server : Server) (conn : ConnId) (session : Session)
    (rq : LoginRq) : Option Int32 × Server :=
  let ip := session.peerAddress
  let (allowed, server) := server.limitLogin env.steady ip []
  if !allowed then (none, server.rejectLogin conn loginRateLimited) else
  if !validMainlandMobile rq.tel ∨ !validSha256Proof rq.pass ∨ rq.deviceId = [] ∨
      128 < rq.deviceId.length ∨ session.authenticated ∨ rq.devicePublicKey = [] ∨
      rq.deviceSignature = [] then
    (none, (server.recordFailure env.steady ip []).rejectLogin conn loginInvalid) else
  if !verifyDevice crypto session (ascii "password-login") rq.deviceId (rq.tel ++ 0 :: rq.pass)
      rq.devicePublicKey rq.deviceSignature true then
    (none, (server.recordFailure env.steady ip rq.tel).rejectLogin conn loginPassError) else
  let (allowed, server) := server.limitLogin env.steady ip rq.tel
  if !allowed then (none, server.rejectLogin conn loginRateLimited) else
  let (result, userId, server) :=
    server.loginUser crypto env.argonHash (env.writes 0) rq.tel rq.pass
  if result ≠ loginSuccess then
    (none, (server.recordFailure env.steady ip rq.tel).rejectLogin conn result) else
  let (bound, server) :=
    server.bindDevicePublicKey (env.writes 1) userId rq.deviceId rq.devicePublicKey
  if !bound then (none, server.rejectLogin conn loginPassError) else
  (some userId, server)

def onLogin (crypto : Crypto) (env : Env) (server : Server) (conn : ConnId) (rq : LoginRq) :
    Server :=
  match server.sessions conn with
  | none => server
  | some session =>
      match server.checkLogin crypto env conn session rq with
      | (none, server) => server
      | (some userId, server) =>
          match server.tokens.issue crypto (env.skipWrites 2) userId rq.deviceId with
          | none => server.rejectLogin conn loginPassError
          | some (pair, tokens) =>
              let server := { server with tokens }
              let server := server.modify conn fun session =>
                session.bindAuth userId pair.sessionId rq.deviceId pair.accessExpiresAt
              let server := server.deliver conn (.loginRs {
                userid := userId
                result := loginSuccess
                accessToken := pair.accessToken
                refreshToken := pair.refreshToken
                accessTokenExpireAt := pair.accessExpiresAt
                refreshTokenExpireAt := pair.refreshExpiresAt
                sessionId := pair.sessionId })
              let server := server.recordSuccess session.peerAddress rq.tel
              server.activateSession (env.skipWrites 3) conn userId

/-! `onTokenLogin`. -/

def checkTokenLogin (crypto : Crypto) (now : Int) (server : Server) (session : Session)
    (rq : TokenLoginRq) : Option (Int32 × Bytes × Int) :=
  if rq.deviceId.length ≤ 128 ∧ rq.deviceSignature ≠ [] then do
    let accepted ← server.tokens.validateAccess crypto now rq.accessToken [] rq.deviceId
    let devicePublicKey ← server.getDevicePublicKey accepted.1 rq.deviceId
    if verifyDevice crypto session (ascii "token-login") rq.deviceId rq.accessToken
        devicePublicKey rq.deviceSignature false then some accepted
    else none
  else none

def onTokenLogin (crypto : Crypto) (env : Env) (server : Server) (conn : ConnId)
    (rq : TokenLoginRq) : Server :=
  match server.sessions conn with
  | none => server
  | some session =>
      if session.authenticated then
        server.deliver conn (.tokenLoginRs { result := loginPassError }) else
      match server.checkTokenLogin crypto env.now session rq with
      | none => server.deliver conn (.tokenLoginRs { result := loginPassError })
      | some (userId, sessionId, expiresAt) =>
          let server := server.modify conn fun session =>
            session.bindAuth userId sessionId rq.deviceId expiresAt
          let server := server.deliver conn (.tokenLoginRs {
            result := loginSuccess
            userid := userId
            accessTokenExpireAt := expiresAt })
          server.activateSession env conn userId

/-! `onTokenRefresh`. -/

def refreshProof (crypto : Crypto) (server : Server) (session : Session)
    (rq : RefreshTokenRq) : Bool :=
  rq.deviceId.length ≤ 128 && rq.requestId.length ≤ 128 && rq.deviceSignature ≠ [] &&
  match server.tokens.db.findByRefreshHash (crypto.tokenHash rq.refreshToken) with
  | none => false
  | some record =>
      !record.revoked && record.deviceId.bytes = rq.deviceId &&
      match server.getDevicePublicKey record.userId rq.deviceId with
      | none => false
      | some publicKey =>
          verifyDevice crypto session (ascii "token-refresh") rq.deviceId
            (rq.refreshToken ++ 0 :: rq.requestId) publicKey rq.deviceSignature false

theorem refreshProof_record {crypto : Crypto} {server : Server} {session : Session}
    {rq : RefreshTokenRq} (proven : server.refreshProof crypto session rq = true) :
    ∃ record, server.tokens.db.findByRefreshHash (crypto.tokenHash rq.refreshToken) = some record ∧
      record.revoked = false ∧ record.deviceId.bytes = rq.deviceId := by
  unfold refreshProof at proven
  cases found : server.tokens.db.findByRefreshHash (crypto.tokenHash rq.refreshToken) with
  | none => simp [found] at proven
  | some record =>
      simp only [found, Bool.and_eq_true, Bool.not_eq_true', decide_eq_true_eq] at proven
      exact ⟨record, rfl, proven.2.1.1, proven.2.1.2⟩

def kickRevoked (server : Server) (revokedUserId : Int32) : Server :=
  if 0 < revokedUserId then
    match server.presenceGet revokedUserId with
    | some live => (server.deliver live .kickedOffline).closeAfterWrite live
    | none => server
  else server

def onTokenRefresh (crypto : Crypto) (env : Env) (server : Server) (conn : ConnId)
    (rq : RefreshTokenRq) : Server :=
  match server.sessions conn with
  | none => server
  | some session =>
      if server.refreshProof crypto session rq then
        match server.tokens.rotateRefresh crypto env rq.refreshToken rq.deviceId rq.requestId with
        | (.granted pair, tokens) =>
            let server := { server with tokens }
            let server :=
              if session.authenticated then
                server.modify conn fun session =>
                  session.bindAuth session.userId pair.sessionId rq.deviceId pair.accessExpiresAt
              else server
            server.deliver conn (.tokenRefreshRs {
              result := 0
              accessToken := pair.accessToken
              refreshToken := pair.refreshToken
              accessTokenExpireAt := pair.accessExpiresAt
              refreshTokenExpireAt := pair.refreshExpiresAt
              sessionId := pair.sessionId })
        | (.refused revokedUserId, tokens) =>
            ({ server with tokens }.kickRevoked revokedUserId).deliver conn
              (.tokenRefreshRs { result := 1 })
        -- `RAND_bytes` failed: the router catches the exception and closes the connection.
        | (.thrown, tokens) => { server with tokens }.close conn
      else server.deliver conn (.tokenRefreshRs { result := 1 })

/-! `onLogout`. -/

def logoutRecord (crypto : Crypto) (server : Server) (session : Session) (rq : LogoutRq) :
    Option AuthSessionRecord := do
  let record ←
    if rq.refreshToken ≠ [] then
      server.tokens.db.findByRefreshHash (crypto.tokenHash rq.refreshToken)
    else none
  if !record.revoked ∧ record.deviceId.bytes = rq.deviceId then
    let publicKey ← server.getDevicePublicKey record.userId rq.deviceId
    if verifyDevice crypto session (ascii "logout") rq.deviceId
        (rq.refreshToken ++ 0 :: ascii (if rq.logoutAllDevices then "1" else "0")) publicKey
        rq.deviceSignature false ∧
        session.authenticated ∧ session.userId = record.userId ∧
        session.deviceId = record.deviceId.bytes ∧
        session.authSessionId = record.sessionId.bytes then some record
    else none
  else none

def onLogout (crypto : Crypto) (env : Env) (server : Server) (conn : ConnId) (rq : LogoutRq) :
    Server :=
  match server.sessions conn with
  | none => server
  | some session =>
      match server.logoutRecord crypto session rq with
      | none => server.deliver conn (.logoutRs { result := 1 })
      | some record =>
          let tokens :=
            if rq.logoutAllDevices then server.tokens.revokeAllForUser env record.userId
            else server.tokens.revokeSession env record.sessionId.bytes
          ({ server with tokens }.deliver conn (.logoutRs { result := 0 })).closeAfterWrite conn

end Server

end Jitong
