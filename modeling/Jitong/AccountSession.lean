import Jitong.AuthStateMachine
import Jitong.DeviceProof
import Jitong.TokenManager

/-!
`account/AccountSession.cpp`, with the device proofs, the requests and the reconnect delays
that it is made of. A call of the session is one step: its transport is called back after
the call that it was called from, which leaves the states of a callback from within, since
a session calls its transport last.
-/

namespace Jitong

namespace DeviceProofService

/-- The bytes that `deviceproof::message` of the server has, too. -/
def buildMessage (operation appSessionId deviceId credentialBinding publicKey : Bytes) : Bytes :=
  ascii "jitong-device-proof-v1" ++ DeviceProof.field operation ++ DeviceProof.field appSessionId ++
    DeviceProof.field deviceId ++ DeviceProof.field credentialBinding ++ DeviceProof.field publicKey

theorem buildMessage_eq_message (operation appSessionId deviceId binding publicKey : Bytes) :
    buildMessage operation appSessionId deviceId binding publicKey =
      DeviceProof.message operation appSessionId deviceId binding publicKey := rfl

/-- `make` without the public key in the message, as the three requests below call it. -/
def make (env : Surroundings) (deviceId operation credentialBinding : Bytes) : Bytes :=
  if env.publicKeyDer = [] then []
  else env.sign (buildMessage operation env.appSessionId deviceId credentialBinding [])

end DeviceProofService

namespace AuthRequestBuilder

def buildTokenLogin (env : Surroundings) (deviceId accessToken requestId : Bytes) :
    Option (TokenLoginRq × Bytes) :=
  let deviceSignature := DeviceProofService.make env deviceId (ascii "token-login") accessToken
  if deviceSignature = [] then none
  else some ({ accessToken, deviceId, deviceSignature }, requestId)

def buildRefresh (env : Surroundings) (deviceId refreshToken requestId : Bytes) :
    Option RefreshTokenRq :=
  let deviceSignature := DeviceProofService.make env deviceId (ascii "token-refresh")
    (refreshToken ++ 0 :: requestId)
  if deviceSignature = [] then none
  else some { refreshToken, deviceId, requestId, deviceSignature }

def buildLogout (env : Surroundings) (deviceId refreshToken : Bytes) (allDevices : Bool) :
    Option LogoutRq :=
  let deviceSignature := DeviceProofService.make env deviceId (ascii "logout")
    (refreshToken ++ 0 :: ascii (if allDevices then "1" else "0"))
  if deviceSignature = [] then none
  else some { refreshToken, deviceId, logoutAllDevices := allDevices, deviceSignature }

end AuthRequestBuilder

structure ReconnectPolicy where
  attempt : UInt32 := 0
  enabled : Bool := true
  deriving DecidableEq

namespace ReconnectPolicy

def baseMs : Int := 1000
def maxMs : Int := 30000

def backoff : Nat → Int → Int
  | 0, delay => delay
  | attempts + 1, delay => if 2 * delay ≥ maxMs then maxMs else backoff attempts (2 * delay)

def nextDelayMs (policy : ReconnectPolicy) (jitter : Option Int) : Int × ReconnectPolicy :=
  if !policy.enabled then (-1, policy)
  else
    let delay := min (backoff policy.attempt.toNat baseMs) maxMs
    (min (delay + jitter.getD 0) maxMs, { policy with attempt := policy.attempt + 1 })

def reset (_ : ReconnectPolicy) : ReconnectPolicy := { attempt := 0, enabled := true }

def disable (policy : ReconnectPolicy) : ReconnectPolicy := { policy with enabled := false }

end ReconnectPolicy

structure AuthResult where
  userId : Int32 := 0
  accessToken : Bytes := []
  refreshToken : Bytes := []
  accessExpireAt : Int := 0
  refreshExpireAt : Int := 0
  sessionId : Bytes := []
  deriving DecidableEq

/-- The calls of the transport and of the event sink. A token login stands with the account
that the token manager keeps its token for. -/
inductive Sent
  | connect
  | disconnect
  | passwordLogin (account password : Bytes) (generation : UInt32)
  | tokenLogin (account : Bytes) (packet : TokenLoginRq) (requestId : Bytes) (generation : UInt32)
  | refresh (packet : RefreshTokenRq) (generation : UInt32)
  | logout (packet : LogoutRq) (generation : UInt32)
  | scheduleReconnect (delayMs : Int)
  | cancelReconnect
  | event (event : AccountEvent)
  deriving DecidableEq

structure AccountSession where
  deviceId : Bytes
  machine : AuthStateMachine := {}
  tokens : TokenManager
  reconnect : ReconnectPolicy := {}
  account : Bytes := []
  pendingPassword : Bytes := []
  generation : UInt32 := 0
  logoutAllDevices : Bool := false
  tokenLoginAfterRefresh : Bool := false
  reauthenticateAfterReconnect : Bool := false
  sent : List Sent := []

def resultSuccess : Int32 := 0

def mapLoginError (protoResult : Int32) : AuthError :=
  if protoResult = loginPassError ∨ protoResult = loginNotExit then .invalidCredentials
  else .serverRejected

namespace AccountSession

def hand (session : AccountSession) (call : Sent) : AccountSession :=
  { session with sent := session.sent ++ [call] }

def runPlainAction (env : Surroundings) (session : AccountSession) (action : Action) :
    AccountSession :=
  match action.type with
  | .connect => { session with generation := session.machine.generation }.hand .connect
  | .sendPasswordLogin =>
      { session.hand (.passwordLogin session.account session.pendingPassword
          session.machine.generation) with pendingPassword := [] }
  | .disconnect => session.hand .disconnect
  | .scheduleReconnect =>
      let (delayMs, reconnect) := session.reconnect.nextDelayMs env.jitter
      { session with reconnect }.hand (.scheduleReconnect delayMs)
  | .cancelReconnect =>
      { session with reconnect := session.reconnect.disable }.hand .cancelReconnect
  | .emitEvent event => session.hand (.event event)
  | .rejectOperation error =>
      session.hand (.event { type := .loginFailed, error, accountState := session.machine.state })
  | .sendTokenLogin | .sendRefresh | .sendLogout => session

def runPlainActions (env : Surroundings) (session : AccountSession) (actions : List Action) :
    AccountSession := actions.foldl (runPlainAction env) session

def resultGeneration (session : AccountSession) (requestGeneration : UInt32) : UInt32 :=
  if requestGeneration = 0 then session.generation else requestGeneration

def onRefreshRefused (env : Surroundings) (session : AccountSession)
    (requestGeneration : UInt32) : AccountSession :=
  let requestGeneration := session.resultGeneration requestGeneration
  if requestGeneration ≠ session.machine.generation then session
  else
    let (_, tokens) := session.tokens.revokeFamily env
    let (actions, machine) := session.machine.onRefreshFailed requestGeneration .tokenRevoked
    { session with tokens, machine }.runPlainActions env actions

def onLogoutResult (env : Surroundings) (session : AccountSession)
    (requestGeneration : UInt32) : AccountSession :=
  if requestGeneration ≠ 0 ∧ requestGeneration ≠ session.machine.generation then session
  else
    let (_, tokens) := session.tokens.revokeFamily env
    let (actions, machine) := session.machine.onLogoutCompleted
    { session with tokens, machine }.runPlainActions env actions

def sendTokenLogin (env : Surroundings) (session : AccountSession) : AccountSession :=
  match AuthRequestBuilder.buildTokenLogin env session.deviceId
      session.tokens.session.accessToken session.tokens.session.sessionId with
  | some (packet, requestId) =>
      session.hand (.tokenLogin session.tokens.session.account packet requestId
        session.machine.generation)
  | none =>
      let (actions, machine) := session.machine.onAuthFailed session.generation .deviceProofFailed
      { session with machine }.runPlainActions env actions

def sendRefresh (env : Surroundings) (session : AccountSession) : AccountSession :=
  match session.tokens.beginRefresh env with
  | ([], tokens) =>
      let (actions, machine) := session.machine.onRefreshFailed session.generation .internal
      { session with tokens, machine }.runPlainActions env actions
  | (requestId, tokens) =>
      let session := { session with tokens }
      match AuthRequestBuilder.buildRefresh env session.deviceId
          session.tokens.session.refreshToken requestId with
      | some packet => session.hand (.refresh packet session.machine.generation)
      | none => session.onRefreshRefused env session.machine.generation

def sendLogout (env : Surroundings) (session : AccountSession) : AccountSession :=
  match AuthRequestBuilder.buildLogout env session.deviceId
      session.tokens.session.refreshToken session.logoutAllDevices with
  | some packet => session.hand (.logout packet session.machine.generation)
  | none => session.onLogoutResult env session.machine.generation

def runAction (env : Surroundings) (session : AccountSession) (action : Action) :
    AccountSession :=
  match action.type with
  | .sendTokenLogin => session.sendTokenLogin env
  | .sendRefresh => session.sendRefresh env
  | .sendLogout => session.sendLogout env
  | _ => session.runPlainAction env action

def runActions (env : Surroundings) (session : AccountSession) (actions : List Action) :
    AccountSession := actions.foldl (runAction env) session

/-! What the user asks for. The starts return the id of their operation, 0 when refused. -/

def startWithPassword (env : Surroundings) (session : AccountSession) (account password : Bytes) :
    UInt64 × AccountSession :=
  let (operation, actions, machine) := session.machine.requestPasswordLogin account
  let session := { session with machine }
  if operation = 0 ∨ actions = [] then (operation, session.runActions env actions)
  else
    let session := { session with
      account
      pendingPassword := password
      tokenLoginAfterRefresh := false
      reconnect := session.reconnect.reset }
    (operation, session.runActions env actions)

def startWithSavedToken (env : Surroundings) (session : AccountSession) (account : Bytes) :
    UInt64 × AccountSession :=
  let (loaded, tokens) := session.tokens.loadFromStore env account
  let session := { session with tokens }
  if !loaded then (0, session)
  else if !session.tokens.accessUsable env ∧ session.tokens.refreshExpired env then
    let (_, tokens) := session.tokens.revokeFamily env
    (0, { session with tokens })
  else
    let session := { session with account, reconnect := session.reconnect.reset }
    let tokenLoginAfterRefresh := !session.tokens.accessUsable env
    let (operation, actions, machine) :=
      if tokenLoginAfterRefresh then session.machine.requestRefreshForLogin account
      else session.machine.requestTokenLogin account
    let session := { session with tokenLoginAfterRefresh, machine }
    (operation, session.runActions env actions)

def logout (env : Surroundings) (session : AccountSession) (allDevices : Bool) : AccountSession :=
  let (_, actions, machine) := session.machine.requestLogout
  let session := { session with
    logoutAllDevices := allDevices
    machine
    generation := machine.generation }
  session.runActions env actions

def cancel (env : Surroundings) (session : AccountSession) : AccountSession :=
  let (_, tokens) := session.tokens.cancelRefresh env
  let (actions, machine) := session.machine.cancelAuthentication
  let session := { session with
    pendingPassword := []
    tokenLoginAfterRefresh := false
    tokens
    machine
    generation := machine.generation }
  session.runActions env actions

def tick (env : Surroundings) (session : AccountSession) : AccountSession :=
  if session.machine.state ≠ .authenticated then session
  else if session.tokens.accessNeedsRefresh env ∧ !session.tokens.refreshInFlight then
    let (_, actions, machine) := session.machine.requestRefresh
    let session := { session with machine, generation := machine.generation }
    session.runActions env actions
  else session

/-! What the transport calls back with. -/

def loginOnConnected (env : Surroundings) (session : AccountSession) : AccountSession :=
  let (_, actions, machine) := session.machine.requestTokenLoginOnConnected
  let session := { session with machine, generation := machine.generation }
  session.runActions env actions

def onConnectResult (env : Surroundings) (session : AccountSession) (succeeded : Bool) :
    AccountSession :=
  if succeeded then
    let session := { session with reconnect := session.reconnect.reset }
    if session.reauthenticateAfterReconnect then
      { session with reauthenticateAfterReconnect := false }.loginOnConnected env
    else session.runActions env session.machine.onConnected
  else
    let (actions, machine) := session.machine.onDisconnected false
    { session with machine }.runActions env actions

def onDisconnected (env : Surroundings) (session : AccountSession) (intentional : Bool) :
    AccountSession :=
  let session :=
    if session.machine.state = .refreshing then
      { session with tokens := session.tokens.suspendRefresh }
    else if !intentional ∧ session.machine.state = .authenticated then
      { session with reauthenticateAfterReconnect := true }
    else session
  let (actions, machine) := session.machine.onDisconnected intentional
  { session with machine }.runActions env actions

def onLoginResult (env : Surroundings) (session : AccountSession) (protoResult : Int32)
    (result : AuthResult) (requestGeneration : UInt32) : AccountSession :=
  let requestGeneration := session.resultGeneration requestGeneration
  if requestGeneration ≠ session.machine.generation then session
  else if protoResult = resultSuccess then
    let (adopted, tokens) := session.tokens.adopt env {
      account := session.account
      accessToken := result.accessToken
      refreshToken := result.refreshToken
      accessExpireAt := result.accessExpireAt
      refreshExpireAt := result.refreshExpireAt
      sessionId := result.sessionId }
    let session := { session with tokens }
    let (actions, machine) :=
      if adopted then session.machine.onAuthSucceeded requestGeneration result.userId
      else session.machine.onAuthFailed requestGeneration .internal
    { session with machine }.runActions env actions
  else
    let (actions, machine) := session.machine.onAuthFailed requestGeneration
      (mapLoginError protoResult)
    { session with machine }.runActions env actions

def onTokenLoginResult (env : Surroundings) (session : AccountSession) (protoResult : Int32)
    (userId : Int32) (requestGeneration : UInt32) : AccountSession :=
  let requestGeneration := session.resultGeneration requestGeneration
  if requestGeneration ≠ session.machine.generation then session
  else
    let (actions, machine) :=
      if protoResult = resultSuccess then session.machine.onAuthSucceeded requestGeneration userId
      else session.machine.onAuthFailed requestGeneration .tokenExpired
    { session with machine }.runActions env actions

def onRefreshResult (env : Surroundings) (session : AccountSession) (protoResult : Int32)
    (result : AuthResult) (requestGeneration : UInt32) : AccountSession :=
  if protoResult ≠ resultSuccess then session.onRefreshRefused env requestGeneration
  else
    let requestGeneration := session.resultGeneration requestGeneration
    if requestGeneration ≠ session.machine.generation then session
    else
      let (rotated, tokens) := session.tokens.rotate env result.accessToken result.refreshToken
        result.accessExpireAt result.refreshExpireAt result.sessionId
      let session := { session with tokens }
      if !rotated then
        let (actions, machine) := session.machine.onRefreshFailed requestGeneration .internal
        { session with machine }.runActions env actions
      else
        let (actions, machine) := session.machine.onRefreshSucceeded requestGeneration
        let continueLogin := session.tokenLoginAfterRefresh
        let session := { session with machine, tokenLoginAfterRefresh := false }.runActions env actions
        if continueLogin then session.loginOnConnected env else session

def onKicked (env : Surroundings) (session : AccountSession) : AccountSession :=
  let (_, tokens) := session.tokens.revokeFamily env
  let (actions, machine) := session.machine.onKicked .kickedByOtherDevice
  { session with tokens, machine }.runActions env actions

def onReconnectFired (session : AccountSession) : AccountSession :=
  if !session.reconnect.enabled then session else session.hand .connect

end AccountSession

inductive AccountCall
  | startWithPassword (account password : Bytes)
  | startWithSavedToken (account : Bytes)
  | logout (allDevices : Bool)
  | cancel
  | tick
  | onConnectResult (succeeded : Bool)
  | onDisconnected (intentional : Bool)
  | onLoginResult (protoResult : Int32) (result : AuthResult) (requestGeneration : UInt32)
  | onTokenLoginResult (protoResult userId : Int32) (accessExpireAt : Int)
      (requestGeneration : UInt32)
  | onRefreshResult (protoResult : Int32) (result : AuthResult) (requestGeneration : UInt32)
  | onLogoutResult (protoResult : Int32) (requestGeneration : UInt32)
  | onKicked (reason : Int32)
  | onReconnectFired
  deriving DecidableEq

namespace AccountSession

def call (env : Surroundings) (session : AccountSession) : AccountCall → AccountSession
  | .startWithPassword account password => (session.startWithPassword env account password).2
  | .startWithSavedToken account => (session.startWithSavedToken env account).2
  | .logout allDevices => session.logout env allDevices
  | .cancel => session.cancel env
  | .tick => session.tick env
  | .onConnectResult succeeded => session.onConnectResult env succeeded
  | .onDisconnected intentional => session.onDisconnected env intentional
  | .onLoginResult protoResult result requestGeneration =>
      session.onLoginResult env protoResult result requestGeneration
  | .onTokenLoginResult protoResult userId _ requestGeneration =>
      session.onTokenLoginResult env protoResult userId requestGeneration
  | .onRefreshResult protoResult result requestGeneration =>
      session.onRefreshResult env protoResult result requestGeneration
  | .onLogoutResult _ requestGeneration => session.onLogoutResult env requestGeneration
  | .onKicked _ => session.onKicked env
  | .onReconnectFired => session.onReconnectFired

def initial (deviceId : Bytes) (store : KeyStore) : AccountSession :=
  { deviceId, tokens := { store } }

def step (session : AccountSession) (input : Surroundings × AccountCall) : AccountSession :=
  { session with sent := [] }.call input.1 input.2

end AccountSession

/-! Accounts and surroundings as `test_account_session.cpp` sets them up. -/

def savedStore (account : Bytes) (accessExpireAt refreshExpireAt : Int) : KeyStore :=
  ({} : KeyStore).apply (TokenManager.sessionPuts {
    account
    accessToken := ascii "expired-access"
    refreshToken := ascii "valid-refresh"
    accessExpireAt, refreshExpireAt
    sessionId := ascii "sess-abc" }) []

def surroundingsAt (now : Int) (accepts : Bool := true) : Surroundings where
  now
  accepts _ _ := accepts
  publicKeyDer := [1]
  sign _ := [1]

end Jitong
