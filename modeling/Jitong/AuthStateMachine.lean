import Jitong.Protocol

/-!
`account/AuthStateMachine.cpp`: from a state and a request or a signal, the next state and
the actions that the account session has to carry out.
-/

namespace Jitong

inductive AccountState
  | loggedOut
  | authenticating
  | authenticated
  | refreshing
  | loggedOutKicked
  deriving DecidableEq

inductive AuthError
  | none
  | networkUnreachable
  | invalidCredentials
  | tokenExpired
  | tokenRevoked
  | deviceProofFailed
  | kickedByOtherDevice
  | operationInProgress
  | operationSuperseded
  | serverRejected
  | internal
  deriving DecidableEq

inductive AccountEventType
  | stateChanged
  | connectionChanged
  | loginSucceeded
  | loginFailed
  | refreshSucceeded
  | refreshFailed
  | kicked
  | loggedOut
  deriving DecidableEq

inductive ConnectionState
  | disconnected
  | connecting
  | connected
  | reconnecting
  deriving DecidableEq

/-- `AccountEvent` without its message, which nothing sets or reads. -/
structure AccountEvent where
  type : AccountEventType
  operationId : UInt64 := 0
  accountState : AccountState := .loggedOut
  connectionState : ConnectionState := .disconnected
  error : AuthError := .none
  userId : Int32 := 0
  deriving DecidableEq

inductive AuthMethod
  | none
  | password
  | accessToken
  deriving DecidableEq

inductive ActionType
  | connect
  | sendPasswordLogin
  | sendTokenLogin
  | sendRefresh
  | sendLogout
  | disconnect
  | scheduleReconnect
  | cancelReconnect
  | emitEvent (event : AccountEvent)
  | rejectOperation (error : AuthError)
  deriving DecidableEq

structure Action where
  type : ActionType
  operationId : UInt64 := 0
  deriving DecidableEq

structure AuthStateMachine where
  state : AccountState := .loggedOut
  operationId : UInt64 := 0
  nextOperationId : UInt64 := 1
  generation : UInt32 := 0
  account : Bytes := []
  authMethod : AuthMethod := .none
  autoReconnectAllowed : Bool := true
  stateBeforeRefresh : AccountState := .authenticated
  deriving DecidableEq

namespace AuthStateMachine

def authenticationInFlight (machine : AuthStateMachine) : Bool :=
  machine.state = .authenticating ∨ machine.state = .refreshing

def emit (machine : AuthStateMachine) (type : AccountEventType) (error : AuthError := .none)
    (userId : Int32 := 0) : Action where
  type := .emitEvent {
    type, error, userId
    operationId := machine.operationId
    accountState := machine.state }
  operationId := machine.operationId

def transitionTo (machine : AuthStateMachine) (next : AccountState) :
    List Action × AuthStateMachine :=
  if next = machine.state then ([], machine)
  else
    let machine := { machine with state := next }
    ([machine.emit .stateChanged], machine)

def beginOperation (machine : AuthStateMachine) : AuthStateMachine :=
  { machine with
    operationId := machine.nextOperationId
    nextOperationId := machine.nextOperationId + 1
    generation := machine.generation + 1 }

def rejectBusy : Action := { type := .rejectOperation .operationInProgress }

/-! Requests. Each returns the id of its operation, 0 when it is refused. -/

def requestLogin (machine : AuthStateMachine) (account : Bytes) (method : AuthMethod) :
    UInt64 × List Action × AuthStateMachine :=
  if machine.authenticationInFlight then
    if machine.state = .authenticating ∧ account = machine.account ∧ method = machine.authMethod
    then (machine.operationId, [], machine)
    else (0, [rejectBusy], machine)
  else if machine.state = .authenticated ∧ account = machine.account ∧ method = .accessToken then
    (machine.operationId, [], machine)
  else
    let started := { machine with
      account
      authMethod := method
      autoReconnectAllowed := true }.beginOperation
    let (events, machine) := started.transitionTo .authenticating
    (machine.operationId, events ++ [{ type := .connect, operationId := machine.operationId }],
      machine)

def requestPasswordLogin (machine : AuthStateMachine) (account : Bytes) :
    UInt64 × List Action × AuthStateMachine := machine.requestLogin account .password

def requestTokenLogin (machine : AuthStateMachine) (account : Bytes) :
    UInt64 × List Action × AuthStateMachine := machine.requestLogin account .accessToken

def requestRefresh (machine : AuthStateMachine) : UInt64 × List Action × AuthStateMachine :=
  if machine.state = .refreshing then (machine.operationId, [], machine)
  else if machine.state ≠ .authenticated then (0, [rejectBusy], machine)
  else
    let started := { machine with stateBeforeRefresh := machine.state }.beginOperation
    let (events, machine) := started.transitionTo .refreshing
    (machine.operationId, events ++ [{ type := .sendRefresh, operationId := machine.operationId }],
      machine)

def requestRefreshForLogin (machine : AuthStateMachine) (account : Bytes) :
    UInt64 × List Action × AuthStateMachine :=
  if machine.authenticationInFlight then (0, [rejectBusy], machine)
  else
    let started := { machine with
      account
      authMethod := .accessToken
      autoReconnectAllowed := true }.beginOperation
    let (events, machine) := started.transitionTo .refreshing
    (machine.operationId, events ++ [{ type := .connect, operationId := machine.operationId }],
      machine)

def requestTokenLoginOnConnected (machine : AuthStateMachine) :
    UInt64 × List Action × AuthStateMachine :=
  if machine.state ≠ .authenticated then (0, [], machine)
  else
    let started := { machine with authMethod := .accessToken }.beginOperation
    let (events, machine) := started.transitionTo .authenticating
    (machine.operationId,
      events ++ [{ type := .sendTokenLogin, operationId := machine.operationId }], machine)

def requestLogout (machine : AuthStateMachine) : UInt64 × List Action × AuthStateMachine :=
  let machine := { machine with autoReconnectAllowed := false }.beginOperation
  (machine.operationId,
    [{ type := .cancelReconnect }, { type := .sendLogout, operationId := machine.operationId }],
    machine)

def cancelAuthentication (machine : AuthStateMachine) : List Action × AuthStateMachine :=
  let stopped := { machine with
    generation := machine.generation + 1
    operationId := 0
    authMethod := .none
    autoReconnectAllowed := false }
  let (events, machine) := stopped.transitionTo .loggedOut
  ([{ type := .cancelReconnect }] ++ events ++ [{ type := .disconnect }], machine)

/-! Signals. -/

def onConnected (machine : AuthStateMachine) : List Action :=
  match machine.state with
  | .authenticating =>
      [{ type := if machine.authMethod = .accessToken then .sendTokenLogin else .sendPasswordLogin
         operationId := machine.operationId }]
  | .refreshing => [{ type := .sendRefresh, operationId := machine.operationId }]
  | _ => []

def onDisconnected (machine : AuthStateMachine) (intentional : Bool) :
    List Action × AuthStateMachine :=
  if intentional then ([], machine)
  else if !machine.autoReconnectAllowed ∨ machine.state = .loggedOutKicked then ([], machine)
  else if machine.state = .authenticated ∨ machine.state = .refreshing then
    ([{ type := .scheduleReconnect, operationId := machine.operationId }], machine)
  else if machine.state = .authenticating then
    let (events, after) := machine.transitionTo .loggedOut
    (machine.emit .loginFailed .networkUnreachable :: events, after)
  else ([], machine)

def onAuthSucceeded (machine : AuthStateMachine) (generation : UInt32) (userId : Int32) :
    List Action × AuthStateMachine :=
  if generation ≠ machine.generation then ([], machine)
  else if machine.state ≠ .authenticating then ([], machine)
  else
    let (events, machine) := machine.transitionTo .authenticated
    (events ++ [machine.emit .loginSucceeded .none userId], machine)

def onAuthFailed (machine : AuthStateMachine) (generation : UInt32) (error : AuthError) :
    List Action × AuthStateMachine :=
  if generation ≠ machine.generation then ([], machine)
  else if machine.state ≠ .authenticating then ([], machine)
  else
    let (events, after) := machine.transitionTo .loggedOut
    (machine.emit .loginFailed error :: events ++ [{ type := .disconnect }], after)

def onRefreshSucceeded (machine : AuthStateMachine) (generation : UInt32) :
    List Action × AuthStateMachine :=
  if generation ≠ machine.generation then ([], machine)
  else if machine.state ≠ .refreshing then ([], machine)
  else
    let (events, machine) := machine.transitionTo .authenticated
    (events ++ [machine.emit .refreshSucceeded], machine)

/-- A refresh that failed for any other reason than its token leads back to `authenticated`. -/
def onRefreshFailed (machine : AuthStateMachine) (generation : UInt32) (error : AuthError) :
    List Action × AuthStateMachine :=
  if generation ≠ machine.generation then ([], machine)
  else if machine.state ≠ .refreshing then ([], machine)
  else
    let failed := machine.emit .refreshFailed error
    if error = .tokenRevoked ∨ error = .tokenExpired then
      let (events, machine) :=
        { machine with autoReconnectAllowed := false }.transitionTo .loggedOutKicked
      (failed :: events ++ [machine.emit .kicked error], machine)
    else
      let (events, machine) := machine.transitionTo .authenticated
      (failed :: events, machine)

def onKicked (machine : AuthStateMachine) (reason : AuthError) : List Action × AuthStateMachine :=
  let (events, machine) :=
    { machine with autoReconnectAllowed := false }.transitionTo .loggedOutKicked
  ([{ type := .cancelReconnect }] ++ events ++
    [machine.emit .kicked reason, { type := .disconnect }], machine)

def onLogoutCompleted (machine : AuthStateMachine) : List Action × AuthStateMachine :=
  let (events, machine) := { machine with
    autoReconnectAllowed := false
    account := []
    authMethod := .none }.transitionTo .loggedOut
  (events ++ [machine.emit .loggedOut], { machine with operationId := 0 })

end AuthStateMachine

end Jitong
