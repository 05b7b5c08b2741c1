import Jitong.AppCrypto

/-!
`transport/ClientSecureChannel.cpp`: the client's end of the application channel. The
vectors that only tests inject are not here; a failed generator is a missing value.
-/

namespace Jitong

open Lib

inductive ClientStatus
  | notStarted
  | helloSent
  | finishedSent
  | established
  | failed
  deriving DecidableEq

inductive ClientError
  | none
  | cryptoInit
  | badVersion
  | badCipherSuite
  | badFieldLength
  | badKeyId
  | badSignature
  | badFinished
  | badState
  | badFrame
  | authentication
  | sequence
  | internal
  deriving DecidableEq

structure ClientSecureChannel where
  identityKeys : List (UInt32 × Bytes) := []
  status : ClientStatus := .notStarted
  lastError : ClientError := .none
  clientPriv : Bytes := []
  clientPub : Bytes := []
  clientNonce : Bytes := []
  randomId : Bytes := []
  clientPayload : Bytes := []
  serverPub : Bytes := []
  serverNonce : Bytes := []
  sessionId : Bytes := []
  keyId : UInt32 := 0
  serverPayload : Bytes := []
  transcriptHash : Bytes := []
  keys : ChannelKeys := {}
  sendSequence : UInt64 := 0
  receiveSequence : UInt64 := 0
  deriving DecidableEq

namespace ClientSecureChannel

def reset (channel : ClientSecureChannel) : ClientSecureChannel :=
  { identityKeys := channel.identityKeys }

def fail (channel : ClientSecureChannel) (error : ClientError) : ClientSecureChannel :=
  { channel with lastError := error, status := .failed }

def setTrustedIdentityKeys (channel : ClientSecureChannel) (keys : List (UInt32 × Bytes)) :
    ClientSecureChannel := { channel with identityKeys := keys }

/-! The bytes that both ends agree on. -/

def signingTranscript (channel : ClientSecureChannel) : Bytes :=
  ascii "jitong-app-handshake-v1" ++ u32Be (UInt32.ofNat channel.clientPayload.length) ++
    channel.clientPayload ++ u32Be appSecurityVersion ++ channel.serverPub ++
    channel.serverNonce ++ channel.sessionId ++ u32Be channel.keyId ++ u32Be appCipherSuiteV1

def transcriptInput (channel : ClientSecureChannel) : Bytes :=
  u32Be (UInt32.ofNat channel.clientPayload.length) ++ channel.clientPayload ++
    u32Be (UInt32.ofNat channel.serverPayload.length) ++ channel.serverPayload

def ed25519Verify (ssl : OpenSsl) (pub message signature : Bytes) : Bool :=
  if pub.length ≠ 32 ∨ signature.length ≠ 64 then false
  else ssl.ed25519Verify pub message signature

def hkdfSha256 (ssl : OpenSsl) (ikm salt info : Bytes) (outLen : Nat) : Bytes :=
  let prk := ssl.hmacSha256 salt ikm
  expand (fun previous counter =>
    ssl.hmacSha256 prk (previous ++ info ++ [UInt8.ofNat counter])) 32 outLen

def sliceKeys (material : Bytes) : ChannelKeys :=
  let slice := fun first last => (material.drop first).take (last - first)
  {
    clientToServerKey := slice 0 32
    serverToClientKey := slice 32 64
    clientNoncePrefix := slice 64 68
    serverNoncePrefix := slice 68 72
    clientFinishedKey := slice 72 104
    serverFinishedKey := slice 104 136
  }

def deriveKeys (ssl : OpenSsl) (channel : ClientSecureChannel) : Option ChannelKeys :=
  match ssl.x25519Derive channel.clientPriv channel.serverPub with
  | none => none
  | some sharedSecret =>
      if sharedSecret.all (· = 0) then none else
      let salt := ssl.sha256 (channel.clientNonce ++ channel.serverNonce)
      let info := ascii "jitong-app-channel-v1" ++ channel.sessionId ++ channel.transcriptHash
      some (sliceKeys (hkdfSha256 ssl sharedSecret salt info 136))

def clientVerify (ssl : OpenSsl) (channel : ClientSecureChannel) : Bytes :=
  ssl.hmacSha256 channel.keys.clientFinishedKey channel.transcriptHash

/-! The handshake. -/

def buildClientHello (ssl : OpenSsl) (proto : AppProto) (channel : ClientSecureChannel)
    (privateKey nonce randomId : Option Bytes) : Option Bytes × ClientSecureChannel :=
  let channel := channel.reset
  match privateKey with
  | none => (none, channel.fail .cryptoInit)
  | some clientPriv =>
      let channel := { channel with clientPriv, clientPub := ssl.x25519Public clientPriv }
      match nonce with
      | none => (none, channel.fail .cryptoInit)
      | some clientNonce =>
          let channel := { channel with clientNonce }
          match randomId with
          | none => (none, channel.fail .cryptoInit)
          | some randomId =>
              let channel := { channel with randomId }
              let clientPayload := proto.clientHello.serialize {
                version := appSecurityVersion
                clientEphemeralPublicKey := channel.clientPub
                clientNonce := channel.clientNonce
                clientRandomId := channel.randomId
                cipherSuite := appCipher }
              (some clientPayload, { channel with clientPayload, status := .helloSent })

def checkServerHello (hello : AppServerHello) : Option ClientError :=
  if hello.version ≠ appSecurityVersion then some .badVersion
  else if hello.cipherSuite ≠ appCipher then some .badCipherSuite
  else if hello.serverEphemeralPublicKey.length ≠ 32 ∨ hello.serverNonce.length ≠ 32 ∨
      hello.sessionId.length ≠ 16 ∨ hello.signature.length ≠ 64 then some .badFieldLength
  else none

def takeServerHello (channel : ClientSecureChannel) (serverPayload : Bytes)
    (hello : AppServerHello) : ClientSecureChannel :=
  { channel with
    serverPayload
    serverPub := hello.serverEphemeralPublicKey
    serverNonce := hello.serverNonce
    sessionId := hello.sessionId
    keyId := hello.keyId }

def handleServerHello (ssl : OpenSsl) (proto : AppProto) (channel : ClientSecureChannel)
    (serverPayload : Bytes) : Option Bytes × ClientSecureChannel :=
  if channel.status ≠ .helloSent then (none, channel.fail .badState) else
  match proto.serverHello.parse serverPayload with
  | none => (none, { channel with serverPayload }.fail .badFieldLength)
  | some hello =>
      match checkServerHello hello with
      | some error => (none, { channel with serverPayload }.fail error)
      | none =>
          let channel := channel.takeServerHello serverPayload hello
          match channel.identityKeys.lookup channel.keyId with
          | none => (none, channel.fail .badKeyId)
          | some identity =>
              if !ed25519Verify ssl identity channel.signingTranscript hello.signature then
                (none, channel.fail .badSignature)
              else
                let channel := {
                  channel with transcriptHash := ssl.sha256 channel.transcriptInput }
                match channel.deriveKeys ssl with
                | none => (none, channel.fail .cryptoInit)
                | some keys =>
                    let channel := { channel with keys }
                    (some (proto.finished.serialize ⟨channel.clientVerify ssl⟩),
                      { channel with status := .finishedSent })

def expectedVerify (ssl : OpenSsl) (channel : ClientSecureChannel) : Bytes :=
  ssl.hmacSha256 channel.keys.serverFinishedKey
    (channel.transcriptHash ++ channel.clientVerify ssl)

def handleServerFinished (ssl : OpenSsl) (proto : AppProto) (channel : ClientSecureChannel)
    (payload : Bytes) : Bool × ClientSecureChannel :=
  if channel.status ≠ .finishedSent then (false, channel.fail .badState) else
  match proto.finished.parse payload with
  | none => (false, channel.fail .badFinished)
  | some finished =>
      if finished.verifyData.length ≠ 32 then (false, channel.fail .badFinished)
      else if finished.verifyData ≠ channel.expectedVerify ssl then
        (false, channel.fail .badFinished)
      else (true, { channel with status := .established })

/-! Frames. -/

def frameNonce (noncePrefix : Bytes) (sequence : UInt64) : Bytes :=
  let head := noncePrefix.take 4
  head ++ List.replicate (4 - head.length) 0 ++ u64Be sequence

def frameAad (channel : ClientSecureChannel) (sequence : UInt64) : Bytes :=
  ascii "jitong-app-frame-v1" ++ u32Be appSecurityVersion ++ channel.sessionId ++ u64Be sequence

def encrypt (ssl : OpenSsl) (proto : AppProto) (works : Bool) (channel : ClientSecureChannel)
    (innerType : UInt32) (payload : Bytes) : Option Bytes × ClientSecureChannel :=
  if channel.status ≠ .established then (none, channel.fail .badState)
  else if isChannelType innerType then (none, channel.fail .badFrame)
  else if channel.sendSequence = maxSequence then (none, channel.fail .sequence)
  else
    let sequence := channel.sendSequence + 1
    let channel := { channel with sendSequence := sequence }
    if !works then (none, channel.fail .internal) else
    let sealed := ssl.gcmEncrypt channel.keys.clientToServerKey
      (frameNonce channel.keys.clientNoncePrefix sequence) (channel.frameAad sequence)
      (encodeType32 innerType ++ payload)
    (some (proto.frame.serialize {
      version := appSecurityVersion
      sessionId := channel.sessionId
      sequence
      ciphertext := sealed.1
      tag := sealed.2 }), channel)

def checkFrame (channel : ClientSecureChannel) (frame : AppEncryptedFrame) : Option ClientError :=
  if frame.version ≠ appSecurityVersion then some .badFrame
  else if frame.sessionId.length ≠ 16 ∨ frame.sessionId ≠ channel.sessionId then some .badFrame
  else if frame.tag.length ≠ 16 then some .badFrame
  else if frame.ciphertext.length < 4 then some .badFrame
  else if frame.sequence = 0 ∨ channel.receiveSequence = maxSequence ∨
      frame.sequence ≠ channel.receiveSequence + 1 then some .sequence
  else none

def decrypt (ssl : OpenSsl) (proto : AppProto) (channel : ClientSecureChannel)
    (framePayload : Bytes) : Option (UInt32 × Bytes) × ClientSecureChannel :=
  if channel.status ≠ .established then (none, channel.fail .badState) else
  match proto.frame.parse framePayload with
  | none => (none, channel.fail .badFrame)
  | some frame =>
      match channel.checkFrame frame with
      | some error => (none, channel.fail error)
      | none =>
          match ssl.gcmDecrypt channel.keys.serverToClientKey
              (frameNonce channel.keys.serverNoncePrefix frame.sequence)
              (channel.frameAad frame.sequence) frame.ciphertext frame.tag with
          | none => (none, channel.fail .authentication)
          | some plaintext =>
              let innerType := decodeType32 plaintext
              if isChannelType innerType then (none, channel.fail .badFrame) else
              (some (innerType, plaintext.drop 4),
                { channel with receiveSequence := frame.sequence })

section Cases

variable (ssl : OpenSsl) (proto : AppProto) (channel : ClientSecureChannel)

theorem buildClientHello_cases (privateKey nonce randomId : Option Bytes) :
    (∃ after : ClientSecureChannel, after.status = .failed ∧
      channel.buildClientHello ssl proto privateKey nonce randomId = (none, after)) ∨
    ∃ clientPriv ∈ privateKey, ∃ clientNonce ∈ nonce, ∃ clientRandomId ∈ randomId,
      let clientPub := ssl.x25519Public clientPriv
      let clientPayload := proto.clientHello.serialize {
        version := appSecurityVersion
        clientEphemeralPublicKey := clientPub
        clientNonce
        clientRandomId
        cipherSuite := appCipher }
      channel.buildClientHello ssl proto privateKey nonce randomId = (some clientPayload, {
        channel.reset with
        clientPriv, clientPub, clientNonce, clientPayload
        randomId := clientRandomId
        status := .helloSent }) := by
  unfold buildClientHello
  cases privateKey with
  | none => exact .inl ⟨_, rfl, rfl⟩
  | some clientPriv =>
      cases nonce with
      | none => exact .inl ⟨_, rfl, rfl⟩
      | some clientNonce =>
          cases randomId with
          | none => exact .inl ⟨_, rfl, rfl⟩
          | some clientRandomId =>
              exact .inr ⟨clientPriv, rfl, clientNonce, rfl, clientRandomId, rfl, rfl⟩

structure Accepts (hello : AppServerHello) (keys : ChannelKeys) : Prop where
  sized : checkServerHello hello = none
  verified : ∃ identity, channel.identityKeys.lookup hello.keyId = some identity ∧
    ed25519Verify ssl identity channel.signingTranscript hello.signature = true
  derived : { channel with transcriptHash := ssl.sha256 channel.transcriptInput }.deriveKeys ssl =
    some keys

theorem handleServerHello_cases (serverPayload : Bytes) :
    (∃ after : ClientSecureChannel, after.status = .failed ∧
      (channel.status = .helloSent ∨ after = channel.fail .badState) ∧
      channel.handleServerHello ssl proto serverPayload = (none, after)) ∨
    ∃ hello keys, channel.status = .helloSent ∧
      proto.serverHello.parse serverPayload = some hello ∧
      (channel.takeServerHello serverPayload hello).Accepts ssl hello keys ∧
      let taken := channel.takeServerHello serverPayload hello
      let after := {
        taken with
        transcriptHash := ssl.sha256 taken.transcriptInput
        keys
        status := .finishedSent }
      channel.handleServerHello ssl proto serverPayload =
        (some (proto.finished.serialize ⟨after.clientVerify ssl⟩), after) := by
  unfold handleServerHello
  split
  · exact .inl ⟨_, rfl, .inr rfl, rfl⟩
  · rename_i waiting
    simp only [not_not] at waiting
    split
    · exact .inl ⟨_, rfl, .inl waiting, rfl⟩
    · rename_i hello parsed
      split
      · exact .inl ⟨_, rfl, .inl waiting, rfl⟩
      · rename_i sized
        simp only
        split
        · exact .inl ⟨_, rfl, .inl waiting, rfl⟩
        · rename_i identity trusted
          split
          · exact .inl ⟨_, rfl, .inl waiting, rfl⟩
          · rename_i verified
            split
            · exact .inl ⟨_, rfl, .inl waiting, rfl⟩
            · rename_i keys derived
              simp only [Bool.not_eq_true, Bool.not_eq_false'] at verified
              exact .inr ⟨hello, keys, waiting, parsed,
                ⟨sized, ⟨identity, trusted, verified⟩, derived⟩, rfl⟩

theorem checkServerHello_sizes {hello : AppServerHello} (sized : checkServerHello hello = none) :
    hello.serverEphemeralPublicKey.length = 32 ∧ hello.serverNonce.length = 32 ∧
      hello.sessionId.length = 16 := by
  unfold checkServerHello at sized
  split at sized
  · simp at sized
  · split at sized
    · simp at sized
    · split at sized
      · simp at sized
      · rename_i sizes
        simp only [not_or, not_not] at sizes
        exact ⟨sizes.1, sizes.2.1, sizes.2.2.1⟩

theorem handleServerFinished_cases (payload : Bytes) :
    (∃ error, channel.handleServerFinished ssl proto payload = (false, channel.fail error)) ∨
      ∃ finished, channel.status = .finishedSent ∧ proto.finished.parse payload = some finished ∧
        finished.verifyData = channel.expectedVerify ssl ∧
        channel.handleServerFinished ssl proto payload =
          (true, { channel with status := .established }) := by
  unfold handleServerFinished
  split
  · exact .inl ⟨_, rfl⟩
  · rename_i waiting
    simp only [not_not] at waiting
    split
    · exact .inl ⟨_, rfl⟩
    · rename_i finished parsed
      split
      · exact .inl ⟨_, rfl⟩
      · split
        · exact .inl ⟨_, rfl⟩
        · rename_i verified
          simp only [not_not] at verified
          exact .inr ⟨finished, waiting, parsed, verified, rfl⟩

theorem encrypt_cases (works : Bool) (innerType : UInt32) (payload : Bytes) :
    (∃ error, channel.encrypt ssl proto works innerType payload = (none, channel.fail error)) ∨
      channel.status = .established ∧ channel.sendSequence ≠ maxSequence ∧
        channel.encrypt ssl proto works innerType payload =
          (none, { channel with sendSequence := channel.sendSequence + 1 }.fail .internal) ∨
      channel.status = .established ∧ channel.sendSequence ≠ maxSequence ∧
        ∃ frame, channel.encrypt ssl proto works innerType payload =
          (some frame, { channel with sendSequence := channel.sendSequence + 1 }) := by
  unfold encrypt
  split
  · exact .inl ⟨_, rfl⟩
  · rename_i established
    split
    · exact .inl ⟨_, rfl⟩
    · split
      · exact .inl ⟨_, rfl⟩
      · rename_i unspent
        simp only [not_not] at established
        cases works
        · exact .inr (.inl ⟨established, unspent, rfl⟩)
        · exact .inr (.inr ⟨established, unspent, _, rfl⟩)

theorem decrypt_cases (framePayload : Bytes) :
    (∃ error, channel.decrypt ssl proto framePayload = (none, channel.fail error)) ∨
      ∃ frame plaintext, channel.status = .established ∧
        proto.frame.parse framePayload = some frame ∧ channel.checkFrame frame = none ∧
        ssl.gcmDecrypt channel.keys.serverToClientKey
          (frameNonce channel.keys.serverNoncePrefix frame.sequence)
          (channel.frameAad frame.sequence) frame.ciphertext frame.tag = some plaintext ∧
        channel.decrypt ssl proto framePayload =
          (some (decodeType32 plaintext, plaintext.drop 4),
            { channel with receiveSequence := frame.sequence }) := by
  unfold decrypt
  split
  · exact .inl ⟨_, rfl⟩
  · rename_i established
    simp only [not_not] at established
    split
    · exact .inl ⟨_, rfl⟩
    · rename_i frame parsed
      split
      · exact .inl ⟨_, rfl⟩
      · rename_i sound
        split
        · exact .inl ⟨_, rfl⟩
        · rename_i plaintext opened
          simp only
          split
          · exact .inl ⟨_, rfl⟩
          · exact .inr ⟨frame, plaintext, established, parsed, sound, opened, rfl⟩

theorem checkFrame_next {channel : ClientSecureChannel} {frame : AppEncryptedFrame}
    (sound : channel.checkFrame frame = none) :
    channel.receiveSequence ≠ maxSequence ∧ frame.sequence = channel.receiveSequence + 1 := by
  unfold checkFrame at sound
  split at sound
  · simp at sound
  · split at sound
    · simp at sound
    · split at sound
      · simp at sound
      · split at sound
        · simp at sound
        · split at sound
          · simp at sound
          · rename_i next
            simp only [not_or, not_not] at next
            exact ⟨next.2.1, next.2.2⟩

end Cases

end ClientSecureChannel

/-! The client of the golden vector. -/

namespace Golden

def trusting : ClientSecureChannel := { identityKeys := [(1, identityPublic)] }

def helloSent : ClientSecureChannel :=
  { trusting with
    status := .helloSent
    clientPriv := clientPrivate
    clientPub := clientPublic
    clientNonce
    randomId := clientRandomId
    clientPayload }

def client : ClientSecureChannel :=
  { helloSent.takeServerHello serverPayload serverHello with
    status := .established
    transcriptHash
    keys }

example :
    let built := trusting.buildClientHello ssl proto (some clientPrivate) (some clientNonce)
      (some clientRandomId)
    let answered := built.2.handleServerHello ssl proto serverPayload
    built = (some clientPayload, helloSent) ∧ answered.1 = some clientFinished ∧
      answered.2.handleServerFinished ssl proto serverFinished = (true, client) := by
  decide +kernel

end Golden

end Jitong
