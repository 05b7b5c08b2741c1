import Jitong.ChannelBytes
import Jitong.Lib.Run

/-!
One client channel and any number of sessions of one server. The network brings either
end any bytes at any time; signatures, the key agreement, MACs and transcript hashes
are ideal in the runs they appear in.
-/

namespace Jitong

open Lib

/-- A hello that a session answered, with the session as it left it; `ours` says whether
the client channel had generated the hello's key. -/
structure Exchange where
  payload : Bytes
  hello : AppClientHello
  random : HelloRandomness
  serverPayload : Bytes
  session : SessionChannel
  ours : Bool

/-- `finished` are the client channel's copies at the time it sent a Finished, numbered by
its attempts; `serverMacs` are the keys and messages of the server's Finished. -/
structure ChannelWorld where
  client : ClientSecureChannel
  sessions : Nat → SessionChannel := fun _ => {}
  exchanges : List (Nat × Exchange) := []
  serverMacs : List (Nat × Bytes × Bytes) := []
  clientPublics : List Bytes := []
  attempts : Nat := 0
  finished : List (Nat × ClientSecureChannel) := []

inductive ChannelEvent
  | trust (keys : List (UInt32 × Bytes))
  | hello (privateKey nonce randomId : Option Bytes)
  | reset
  | serverHello (payload : Bytes)
  | serverFinished (payload : Bytes)
  | encrypt (works : Bool) (type : UInt32) (payload : Bytes)
  | decrypt (payload : Bytes)
  | accept (number : Nat)
  | body (number : Nat) (random : Option HelloRandomness) (type : UInt32) (payload : Bytes)
  | deliver (number : Nat) (works : Bool) (type : UInt32) (payload : Bytes)
  | closed (number : Nat)

def ChannelEvent.Restarts : ChannelEvent → Prop
  | .hello .. | .reset => True
  | _ => False

namespace Exchange

def signed (ssl : OpenSsl) (identity : AppIdentity) (exchange : Exchange) : Bytes :=
  SessionChannel.signingTranscript exchange.payload appSecurityVersion
    (ssl.x25519Public exchange.random.privateKey) exchange.random.serverNonce
    exchange.random.sessionId identity.keyId appCipherSuiteV1

def transcriptInput (exchange : Exchange) : Bytes :=
  u32Be (UInt32.ofNat exchange.payload.length) ++ exchange.payload ++
    u32Be (UInt32.ofNat exchange.serverPayload.length) ++ exchange.serverPayload

def serverMac (ssl : OpenSsl) (exchange : Exchange) : Bytes × Bytes :=
  (exchange.session.keys.serverFinishedKey,
    exchange.session.transcriptHash ++ exchange.session.expectedVerify ssl)

end Exchange

namespace ChannelWorld

def newExchange (proto : AppProto) (world : ChannelWorld) (number : Nat)
    (random : Option HelloRandomness) (payload : Bytes)
    (result : Option SessionOutput × SessionChannel) : List (Nat × Exchange) :=
  match (world.sessions number).securityState, random, proto.clientHello.parse payload,
    result with
  | .waitClientHello, some random, some hello, (some (.frame _ serverPayload), session) =>
      let ours := hello.clientEphemeralPublicKey ∈ world.clientPublics
      [(number, ⟨payload, hello, random, serverPayload, session, ours⟩)]
  | _, _, _, _ => []

def newMac (proto : AppProto) (world : ChannelWorld) (number : Nat) (payload : Bytes)
    (result : Option SessionOutput × SessionChannel) : List (Nat × Bytes × Bytes) :=
  let session := world.sessions number
  match session.securityState, proto.finished.parse payload, result with
  | .waitClientFinished, some finished, (some _, _) =>
      [(number, session.keys.serverFinishedKey, session.transcriptHash ++ finished.verifyData)]
  | _, _, _ => []

def setSession (world : ChannelWorld) (number : Nat) (session : SessionChannel) : ChannelWorld :=
  { world with sessions := Function.update world.sessions number session }

def step (ssl : OpenSsl) (proto : AppProto) (identity : AppIdentity) (world : ChannelWorld) :
    ChannelEvent → ChannelWorld
  | .trust keys => { world with client := world.client.setTrustedIdentityKeys keys }
  | .hello privateKey nonce randomId =>
      { world with
        client := (world.client.buildClientHello ssl proto privateKey nonce randomId).2
        clientPublics := (privateKey.map ssl.x25519Public).toList ++ world.clientPublics
        attempts := world.attempts + 1 }
  | .reset => { world with client := world.client.reset, attempts := world.attempts + 1 }
  | .serverHello payload =>
      let (sent, client) := world.client.handleServerHello ssl proto payload
      { world with
        client
        finished := if sent.isSome then (world.attempts, client) :: world.finished
          else world.finished }
  | .serverFinished payload =>
      { world with client := (world.client.handleServerFinished ssl proto payload).2 }
  | .encrypt works type payload =>
      { world with client := (world.client.encrypt ssl proto works type payload).2 }
  | .decrypt payload => { world with client := (world.client.decrypt ssl proto payload).2 }
  | .accept number =>
      if (world.sessions number).securityState = .tlsHandshake then
        world.setSession number (world.sessions number).doHandshake
      else world
  | .body number random type payload =>
      let result := (world.sessions number).readBody ssl proto identity random type payload
      { world.setSession number result.2 with
        exchanges := world.newExchange proto number random payload result ++ world.exchanges
        serverMacs := world.newMac proto number payload result ++ world.serverMacs }
  | .deliver number works type payload =>
      world.setSession number ((world.sessions number).deliver ssl proto works type payload).2
  | .closed number => world.setSession number (world.sessions number).onClosed

def Issued (world : ChannelWorld) (key message : Bytes) : Prop :=
  (key, message) ∈ world.serverMacs.map Prod.snd ∨ (key, message) ∈
    world.finished.map fun entry => (entry.2.keys.clientFinishedKey, entry.2.transcriptHash)

def CollisionFree (ssl : OpenSsl) (world : ChannelWorld) : Prop :=
  ∀ entry ∈ world.finished, ∀ exchange ∈ world.exchanges,
    ssl.sha256 entry.2.transcriptInput = ssl.sha256 exchange.2.transcriptInput →
    entry.2.transcriptInput = exchange.2.transcriptInput

end ChannelWorld

def ChannelEvent.Ideal (ssl : OpenSsl) (proto : AppProto) (identity : AppIdentity)
    (world : ChannelWorld) : ChannelEvent → Prop
  | .hello privateKey nonce randomId =>
      ∀ clientPriv ∈ privateKey, ∀ clientNonce ∈ nonce, ∀ clientRandomId ∈ randomId,
      let hello : AppClientHello := {
        version := appSecurityVersion
        clientEphemeralPublicKey := ssl.x25519Public clientPriv
        clientNonce
        clientRandomId
        cipherSuite := appCipher }
      proto.clientHello.parse (proto.clientHello.serialize hello) = some hello
  | .serverHello payload => world.client.status = .helloSent →
      ∀ hello ∈ proto.serverHello.parse payload,
      ∀ trusted ∈ world.client.identityKeys.lookup hello.keyId,
      let transcript := (world.client.takeServerHello payload hello).signingTranscript
      ClientSecureChannel.ed25519Verify ssl trusted transcript hello.signature = true →
      transcript ∈ world.exchanges.map fun entry => entry.2.signed ssl identity
  | .serverFinished payload => world.client.status = .finishedSent →
      ∀ finished ∈ proto.finished.parse payload,
      finished.verifyData = world.client.expectedVerify ssl →
      (world.client.serverPub ∈
        world.exchanges.map fun entry => ssl.x25519Public entry.2.random.privateKey) →
      world.Issued world.client.keys.serverFinishedKey
        (world.client.transcriptHash ++ world.client.clientVerify ssl)
  | .body number random _ payload =>
      let session := world.sessions number
      (session.securityState = .waitClientHello → ∀ drawn ∈ random,
        let answer := SessionChannel.helloAnswer ssl identity drawn payload
        proto.serverHello.parse (proto.serverHello.serialize answer) = some answer) ∧
      (session.securityState = .waitClientFinished →
        ∀ finished ∈ proto.finished.parse payload,
        finished.verifyData = session.expectedVerify ssl →
        (∃ entry ∈ world.exchanges, entry.1 = number ∧ entry.2.ours = true) →
        world.Issued session.keys.clientFinishedKey session.transcriptHash)
  | _ => True

def ChannelWorld.IdealStep (ssl : OpenSsl) (proto : AppProto) (identity : AppIdentity)
    (before : ChannelWorld) (event : ChannelEvent) (after : ChannelWorld) : Prop :=
  before.step ssl proto identity event = after ∧ event.Ideal ssl proto identity before ∧
    before.CollisionFree ssl

instance (world : ChannelWorld) (key message : Bytes) : Decidable (world.Issued key message) :=
  inferInstanceAs (Decidable (_ ∨ _))

instance (ssl : OpenSsl) (world : ChannelWorld) : Decidable (world.CollisionFree ssl) :=
  inferInstanceAs (Decidable (∀ entry ∈ world.finished, ∀ exchange ∈ world.exchanges, _ → _))

instance (ssl : OpenSsl) (proto : AppProto) (identity : AppIdentity) (world : ChannelWorld)
    (event : ChannelEvent) : Decidable (event.Ideal ssl proto identity world) :=
  match event with
  | .hello privateKey nonce randomId => inferInstanceAs (Decidable (∀ clientPriv ∈ privateKey,
      ∀ clientNonce ∈ nonce, ∀ clientRandomId ∈ randomId, _))
  | .serverHello _ => inferInstanceAs (Decidable (_ → _))
  | .serverFinished _ => inferInstanceAs (Decidable (_ → _))
  | .body .. => inferInstanceAs (Decidable ((_ → _) ∧ (_ → _)))
  | .trust _ | .reset | .encrypt .. | .decrypt _ | .accept _ | .deliver .. | .closed _ =>
      inferInstanceAs (Decidable True)

end Jitong
