import Jitong.ClientSecureChannel
import Jitong.Lib.Run

/-!
`ClientCore.cpp` between its transport and its business handlers: the handshake, the
dispatch of what arrives and the encryption of what is sent. Each step is what one
thread does without another's in between; `postToIo` makes a step of its own.
-/

namespace Jitong

open Lib

def defProtCount : Nat := 36

def dealFunTypes : List UInt32 :=
  [1, 3, 4, 6, 5, 8, 7, 9, 11, 12, 14, 16, 24, 26, 28, 35, 33].map (defBase + ·)

/-- The core, with the calls of handlers, what `decrypt` returned, what was handed to the
transport and the frames that the channel made. -/
structure ClientCore where
  identityKeys : List (UInt32 × Bytes)
  channel : ClientSecureChannel := {}
  isOpen : Bool := false
  posted : List (UInt32 × Bytes) := []
  handled : List (UInt32 × Bytes) := []
  decrypted : List (UInt32 × Bytes) := []
  outgoing : List (UInt32 × Bytes) := []
  made : List (UInt32 × Bytes) := []

/-- `connect` tells whether the transport does; `reset`, `trust` and `hello` are the parts of
`performAppHandshake`, and `close` what follows its failure or `disconnect`; `runPosted` is
the IO thread at the next posted task. -/
inductive CoreEvent
  | connect (succeeds : Bool)
  | reset
  | trust
  | hello (privateKey nonce randomId : Option Bytes)
  | close
  | packet (type : UInt32) (payload : Bytes)
  | sendPacket (type : UInt32) (payload : Bytes)
  | runPosted (works : Bool)

namespace ClientCore

def established (core : ClientCore) : Bool := core.channel.status = .established

def sendRawPacket (core : ClientCore) (type : UInt32) (payload : Bytes) : ClientCore :=
  { core with outgoing := core.outgoing ++ [(type, payload)] }

def sendMade (core : ClientCore) (type : UInt32) (payload : Bytes) : ClientCore :=
  { core with made := core.made ++ [(type, payload)] }.sendRawPacket type payload

def closeTransport (core : ClientCore) : ClientCore := { core with isOpen := false }

def dispatchBusiness (core : ClientCore) (type : UInt32) (payload : Bytes) : ClientCore :=
  if type < defBase then core
  else if defProtCount ≤ (type - defBase).toNat then core
  else if type ∈ dealFunTypes then { core with handled := core.handled ++ [(type, payload)] }
  else core

variable (ssl : OpenSsl) (proto : AppProto)

def handleAppServerHello (core : ClientCore) (payload : Bytes) : ClientCore :=
  match core.channel.handleServerHello ssl proto payload with
  | (none, channel) => { core with channel }.closeTransport
  | (some finished, channel) => { core with channel }.sendMade appClientFinishedType finished

def handleAppServerFinished (core : ClientCore) (payload : Bytes) : ClientCore :=
  match core.channel.handleServerFinished ssl proto payload with
  | (false, channel) => { core with channel }.closeTransport
  | (true, channel) => { core with channel }

def handleAppEncryptedFrame (core : ClientCore) (payload : Bytes) : ClientCore :=
  if !core.established then core.closeTransport
  else
    match core.channel.decrypt ssl proto payload with
    | (none, channel) => { core with channel }.closeTransport
    | (some (innerType, inner), channel) =>
        { core with
          channel
          decrypted := core.decrypted ++ [(innerType, inner)] }.dispatchBusiness innerType inner

def dispatchPacket (core : ClientCore) (type : UInt32) (payload : Bytes) : ClientCore :=
  if type = appServerHelloType then core.handleAppServerHello ssl proto payload
  else if type = appServerFinishedType then core.handleAppServerFinished ssl proto payload
  else if type = appEncryptedFrameType then core.handleAppEncryptedFrame ssl proto payload
  else if core.established then core
  else core.dispatchBusiness type payload

def sendPacket (core : ClientCore) (type : UInt32) (payload : Bytes) : ClientCore :=
  if core.established then { core with posted := core.posted ++ [(type, payload)] }
  else core.sendRawPacket type payload

def runPosted (core : ClientCore) (works : Bool) : ClientCore :=
  match core.posted with
  | [] => core
  | (type, payload) :: rest =>
      let core := { core with posted := rest }
      if !core.established then core
      else
        match core.channel.encrypt ssl proto works type payload with
        | (none, channel) => { core with channel }
        | (some frame, channel) => { core with channel }.sendMade appEncryptedFrameType frame

def buildHello (core : ClientCore) (privateKey nonce randomId : Option Bytes) : ClientCore :=
  match core.channel.buildClientHello ssl proto privateKey nonce randomId with
  | (none, channel) => { core with channel }.closeTransport
  | (some hello, channel) => { core with channel }.sendMade appClientHelloType hello

def step (core : ClientCore) : CoreEvent → ClientCore
  | .connect succeeds => if core.isOpen then core else { core with isOpen := succeeds }
  | .reset => { core with channel := core.channel.reset }
  | .trust => { core with channel := core.channel.setTrustedIdentityKeys core.identityKeys }
  | .hello privateKey nonce randomId => core.buildHello ssl proto privateKey nonce randomId
  | .close => core.closeTransport
  | .packet type payload => core.dispatchPacket ssl proto type payload
  | .sendPacket type payload => core.sendPacket type payload
  | .runPosted works => core.runPosted ssl proto works

end ClientCore

end Jitong
