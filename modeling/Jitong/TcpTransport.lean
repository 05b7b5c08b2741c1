import Jitong.FrameCodec

/-!
`TcpTransport.cpp`: a connection at a time, with an IO thread that runs its handlers one after
another and a thread outside that connects and closes. The certificates and the addresses only
decide how an operation ends.
-/

namespace Jitong

open Lib

inductive TransportState
  | idle
  | resolving
  | connecting
  | tlsHandshaking
  | connected
  | closing
  | closed
  deriving DecidableEq

inductive SendResult
  | ok
  | notConnected
  | tooLarge
  | cancelled
  | disconnected
  deriving DecidableEq

inductive PostedWork
  | task
  | enqueue (frame : Bytes)
  | shutdown
  | resolve (generation : UInt64)
  deriving DecidableEq

inductive Operation
  | resolving (generation : UInt64)
  | connecting (generation : UInt64)
  | handshaking (generation : UInt64)
  | reading (generation : UInt64)
  | writing (frame : Bytes)
  deriving DecidableEq

inductive OperationResult
  | done (data : Bytes)
  | failed
  | aborted
  deriving DecidableEq

def OperationResult.succeeds : OperationResult → Bool
  | done _ => true
  | _ => false

inductive AfterClose
  | returns
  | connects (sniSet : Bool)
  deriving DecidableEq

/-- Where the thread outside stands: in `close`, before it raises the generation, before it
marks the connection closed and before the IO thread has ended; in `connect`, before the
outcome and before the IO thread of a failure has ended. -/
inductive OutsideThread
  | ready
  | closing (next : AfterClose)
  | raised (next : AfterClose)
  | joining (next : AfterClose)
  | waiting
  | failing
  deriving DecidableEq

/-- `thread` is joinable and `stopped` when the IO context has run out of work. The last five
fields record what the callbacks were called with, whether the connection was opened, and both
of the connections before, the latest last. -/
structure TcpTransport where
  isOpen : Bool := false
  notified : Bool := false
  state : TransportState := .idle
  generation : UInt64 := 0
  closing : Bool := false
  writing : Bool := false
  writeQueue : List Bytes := []
  frameReader : FrameReader := {}
  stream : Bool := false
  socketOpen : Bool := false
  thread : Bool := false
  stopped : Bool := false
  posted : List PostedWork := []
  operations : List Operation := []
  outside : OutsideThread := .ready
  outcome : Option Bool := none
  packets : List Frame := []
  sent : List SendResult := []
  opened : Bool := false
  closeCalls : Nat := 0
  earlier : List (Bool × Nat) := []
  deriving DecidableEq

namespace TcpTransport

def resetConnectionState (transport : TcpTransport) : TcpTransport :=
  { transport with
    notified := false
    closing := false
    writing := false
    writeQueue := []
    frameReader := {}
    opened := false
    closeCalls := 0
    earlier := transport.earlier ++ [(transport.opened, transport.closeCalls)] }

def notifyClose (transport : TcpTransport) : TcpTransport :=
  let transport := { transport with isOpen := false }
  if transport.notified then transport
  else { transport with notified := true, closeCalls := transport.closeCalls + 1 }

def drainQueue (transport : TcpTransport) (result : SendResult) : TcpTransport :=
  { transport with
    writeQueue := []
    sent := transport.sent ++ transport.writeQueue.map fun _ => result }

def shutdownSocket (transport : TcpTransport) : TcpTransport :=
  if !transport.stream then transport else { transport with socketOpen := false }

def failClose (transport : TcpTransport) : TcpTransport :=
  if !transport.isOpen then transport
  else
    ({ transport with isOpen := false, state := .closed }.shutdownSocket.drainQueue
      .disconnected).notifyClose

def raiseGeneration (transport : TcpTransport) : TcpTransport :=
  { transport with generation := transport.generation + 1 }

def neverStarted (transport : TcpTransport) : Bool :=
  transport.state = .idle ∧ !transport.thread

/-- The part of `close` that both threads run once the generation is raised. -/
def markClosed (transport : TcpTransport) : TcpTransport :=
  let transport := { transport with isOpen := false }
  if transport.neverStarted then { transport with state := .closed }
  else { transport with state := .closing, posted := transport.posted ++ [.shutdown] }

/-- `close` where a callback of the IO thread calls it. -/
def closeFromIo (transport : TcpTransport) : TcpTransport := transport.raiseGeneration.markClosed

def callBack (transport : TcpTransport) (closes : Bool) : TcpTransport :=
  if closes then transport.closeFromIo else transport

def doRead (transport : TcpTransport) : TcpTransport :=
  if !transport.isOpen ∨ !transport.stream then transport
  else { transport with operations := transport.operations ++ [.reading transport.generation] }

def doWrite (transport : TcpTransport) : TcpTransport :=
  match transport.writeQueue with
  | [] => transport
  | frame :: rest =>
      if transport.writing then transport
      else { transport with
        writing := true
        writeQueue := rest
        operations := transport.operations ++ [.writing frame] }

/-- Whether `send` takes a body, which has its type in front. -/
def sendCheck (transport : TcpTransport) (data : Bytes) : SendResult :=
  if !transport.isOpen then .notConnected
  else if data = [] then .tooLarge
  else if data.length < FrameCodec.kTypeFieldSize ∨ data.length > FrameCodec.kMaxBodyLen.toNat then
    .tooLarge
  else .ok

def send (transport : TcpTransport) (data : Bytes) : SendResult × TcpTransport :=
  match transport.sendCheck data with
  | .ok => (.ok, { transport with posted := transport.posted ++
      [.enqueue (FrameCodec.encodeLength (UInt32.ofNat data.length) ++ data)] })
  | refused => (refused, transport)

/-! The handlers of the IO thread. -/

def runEnqueue (transport : TcpTransport) (frame : Bytes) (closes : Bool) : TcpTransport :=
  if !transport.isOpen ∨ transport.closing then
    { transport with sent := transport.sent ++ [SendResult.cancelled] }.callBack closes
  else
    let transport := { transport with writeQueue := transport.writeQueue ++ [frame] }
    if !transport.writing then transport.doWrite else transport

def runWork (transport : TcpTransport) (work : PostedWork) (closes : Bool) : TcpTransport :=
  match work with
  | .task => transport.callBack closes
  | .enqueue frame => transport.runEnqueue frame closes
  | .shutdown => (transport.drainQueue .cancelled).shutdownSocket
  | .resolve generation =>
      { transport with operations := transport.operations ++ [.resolving generation] }

/-- The end of a stage of `connect`: the next one, or the outcome. -/
def connectStage (transport : TcpTransport) (generation : UInt64) (succeeds : Bool)
    (next : TcpTransport → TcpTransport) : TcpTransport :=
  if !succeeds ∨ generation ≠ transport.generation then { transport with outcome := some false }
  else next transport

def onHandshaken (transport : TcpTransport) : TcpTransport :=
  { { transport with state := .connected, isOpen := true, opened := true }.doRead with
    outcome := some true }

def onRead (transport : TcpTransport) (generation : UInt64) (result : OperationResult)
    (closes : Bool) : TcpTransport :=
  if generation ≠ transport.generation then transport
  else
    match result with
    | .aborted => transport
    | .failed => transport.failClose
    | .done data =>
        match transport.frameReader.feed data with
        | (.invalidLength, _, frameReader) => { transport with frameReader }.failClose
        | (_, frames, frameReader) =>
            ({ transport with frameReader, packets := transport.packets ++ frames }.callBack
              (closes ∧ frames ≠ [])).doRead

def onWritten (transport : TcpTransport) (succeeds closes : Bool) : TcpTransport :=
  let transport := { transport with writing := false }
  if !succeeds then
    (({ transport with sent := transport.sent ++ [SendResult.disconnected] }.callBack closes).drainQueue
      .disconnected).failClose
  else
    let transport := { transport with sent := transport.sent ++ [SendResult.ok] }.callBack closes
    if transport.writeQueue ≠ [] then transport.doWrite
    else if transport.closing then transport.shutdownSocket
    else transport

def runOperation (transport : TcpTransport) (operation : Operation) (result : OperationResult)
    (closes : Bool) : TcpTransport :=
  match operation with
  | .resolving generation => transport.connectStage generation result.succeeds fun transport =>
      { transport with
        state := .connecting
        operations := transport.operations ++ [.connecting generation] }
  | .connecting generation => transport.connectStage generation result.succeeds fun transport =>
      { transport with
        state := .tlsHandshaking
        socketOpen := true
        operations := transport.operations ++ [.handshaking generation] }
  | .handshaking generation => transport.connectStage generation result.succeeds onHandshaken
  | .reading generation => transport.onRead generation result closes
  | .writing _ => transport.onWritten result.succeeds closes

/-! The thread outside. -/

def startConnect (transport : TcpTransport) (sniSet : Bool) : TcpTransport :=
  let transport := { { transport with stopped := false }.resetConnectionState with
    state := .resolving
    stream := true
    socketOpen := false }
  if !sniSet then { transport with stream := false, state := .closed, outside := .ready }
  else
    { transport with
      posted := transport.posted ++ [.resolve transport.generation]
      thread := true
      outcome := none
      outside := .waiting }

def afterClose (transport : TcpTransport) : AfterClose → TcpTransport
  | .returns => { transport with outside := .ready }
  | .connects sniSet => transport.startConnect sniSet

/-- `join` comes back when the IO thread has no more work. -/
def joinable (transport : TcpTransport) : Bool := !transport.thread || transport.stopped

def goOn (transport : TcpTransport) : TcpTransport :=
  match transport.outside with
  | .ready => transport
  | .closing next => { transport.raiseGeneration with outside := .raised next }
  | .raised next =>
      if transport.neverStarted then transport.markClosed.afterClose next
      else { transport.markClosed with outside := .joining next }
  | .joining next =>
      if !transport.joinable then transport
      else
        ({ { transport with thread := false }.drainQueue .cancelled with
          state := .closed }.notifyClose).afterClose next
  | .waiting =>
      match transport.outcome with
      | none => transport
      | some true => { transport with outside := .ready }
      | some false =>
          { transport with isOpen := false, state := .closed, outside := .failing }
  | .failing =>
      if !transport.joinable then transport
      else { transport with thread := false, outside := .ready }

end TcpTransport

/-- `callback` events say whether a callback of the handler, where it has one, closes the
transport; `timeOut` is a `connect` that gives up; `runOut` is the IO thread at its end. -/
inductive TransportEvent
  | connect (sniSet : Bool)
  | close
  | goOn
  | timeOut
  | send (data : Bytes)
  | postToIo
  | runPosted (closes : Bool)
  | complete (operation : Operation) (result : OperationResult) (closes : Bool)
  | runOut
  deriving DecidableEq

namespace TcpTransport

def running (transport : TcpTransport) : Bool := transport.thread && !transport.stopped

def step (transport : TcpTransport) : TransportEvent → TcpTransport
  | .connect sniSet =>
      if transport.outside ≠ .ready ∨ transport.isOpen then transport
      else { transport with outside := .closing (.connects sniSet) }
  | .close =>
      if transport.outside ≠ .ready then transport
      else { transport with outside := .closing .returns }
  | .goOn => transport.goOn
  | .timeOut =>
      if transport.outside = .waiting ∧ transport.outcome = none then
        { transport with outside := .closing .returns }
      else transport
  | .send data => (transport.send data).2
  | .postToIo => { transport with posted := transport.posted ++ [.task] }
  | .runPosted closes =>
      match transport.posted with
      | [] => transport
      | work :: rest =>
          if !transport.running then transport
          else { transport with posted := rest }.runWork work closes
  | .complete operation result closes =>
      if !transport.running ∨ operation ∉ transport.operations ∨
          result = .aborted ∧ transport.socketOpen then transport
      else
        { transport with operations := transport.operations.erase operation }.runOperation operation
          result closes
  | .runOut =>
      if transport.running ∧ transport.posted = [] ∧ transport.operations = [] then
        { transport with stopped := true }
      else transport

end TcpTransport

end Jitong
