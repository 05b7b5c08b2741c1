import Jitong.AppCrypto

/-!
`session/Session.cpp` and `crypto/AppCrypto.cpp`: the server's end of the application
channel. What the server sends, and what it hands to its handlers, comes out as a
`SessionOutput`; where a primitive throws there is no value.
-/

namespace Jitong

open Lib

inductive SecurityState
  | tlsHandshake
  | waitClientHello
  | waitClientFinished
  | established
  | closed
  deriving DecidableEq

/-- The part of `Session` that the application channel uses. -/
structure SessionChannel where
  securityState : SecurityState := .tlsHandshake
  closedNotified : Bool := false
  transcriptHash : Bytes := []
  keys : ChannelKeys := {}
  appSessionId : Bytes := []
  sendSequence : UInt64 := 0
  receiveSequence : UInt64 := 0
  deriving DecidableEq

structure AppIdentity where
  keyId : UInt32
  privateKey : Bytes

/-- What `generateX25519KeyPair` and `randomBytes` give to one hello. -/
structure HelloRandomness where
  privateKey : Bytes
  serverNonce : Bytes
  sessionId : Bytes
  serverNonce_length : serverNonce.length = 32
  sessionId_length : sessionId.length = 16

inductive SessionOutput
  | frame (type : UInt32) (payload : Bytes)
  | dispatch (type : UInt32) (payload : Bytes)
  deriving DecidableEq

/-! `AppCrypto.cpp`. -/

def x25519SharedSecret (ssl : OpenSsl) (privateKey peerPublicKey : Bytes) : Option Bytes :=
  (ssl.x25519Derive privateKey peerPublicKey).filter fun secret => !secret.all (· = 0)

def hkdfSha256 (ssl : OpenSsl) (inputKeyMaterial salt info : Bytes) (outputLength : Nat) :
    Bytes :=
  let effectiveSalt := if salt = [] then List.replicate 32 0 else salt
  let pseudoRandomKey := ssl.hmacSha256 effectiveSalt inputKeyMaterial
  expandLoop (fun previous counter =>
    ssl.hmacSha256 pseudoRandomKey (previous ++ info ++ [UInt8.ofNat counter])) outputLength
    outputLength 1 [] []

def aes256GcmEncrypt (ssl : OpenSsl) (key nonce plaintext aad : Bytes) : Option (Bytes × Bytes) :=
  if key.length ≠ 32 ∨ nonce.length ≠ 12 then none
  else some (ssl.gcmEncrypt key nonce aad plaintext)

def aes256GcmDecrypt (ssl : OpenSsl) (key nonce ciphertext aad tag : Bytes) : Option Bytes :=
  if key.length ≠ 32 ∨ nonce.length ≠ 12 ∨ tag.length ≠ 16 then none
  else ssl.gcmDecrypt key nonce aad ciphertext tag

namespace SessionChannel

def signingTranscript (clientPayload : Bytes) (version : UInt32)
    (serverPublic serverNonce sessionId : Bytes) (keyId cipherSuite : UInt32) : Bytes :=
  ascii "jitong-app-handshake-v1" ++ u32Be (UInt32.ofNat clientPayload.length) ++
    clientPayload ++ u32Be version ++ serverPublic ++ serverNonce ++ sessionId ++ u32Be keyId ++
    u32Be cipherSuite

def finishedTranscriptHash (ssl : OpenSsl) (clientPayload serverPayload : Bytes) : Bytes :=
  ssl.sha256 (u32Be (UInt32.ofNat clientPayload.length) ++ clientPayload ++
    u32Be (UInt32.ofNat serverPayload.length) ++ serverPayload)

def slice (input : Bytes) (offset size : Nat) : Bytes := (input.drop offset).take size

def sliceKeys (material : Bytes) : ChannelKeys where
  clientToServerKey := slice material 0 32
  serverToClientKey := slice material 32 32
  clientNoncePrefix := slice material 64 4
  serverNoncePrefix := slice material 68 4
  clientFinishedKey := slice material 72 32
  serverFinishedKey := slice material 104 32

def frameNonce (noncePrefix : Bytes) (sequence : UInt64) : Option Bytes :=
  if noncePrefix.length ≠ 4 ∨ sequence = 0 then none else some (noncePrefix ++ u64Be sequence)

def frameAad (sessionId : Bytes) (sequence : UInt64) : Bytes :=
  ascii "jitong-app-frame-v1" ++ u32Be appSecurityVersion ++ sessionId ++ u64Be sequence

/-- The close that goes with it is posted: `onClosed` comes later. -/
def failApplicationHandshake (session : SessionChannel) : SessionChannel :=
  { session with securityState := .closed }

def onClosed (session : SessionChannel) : SessionChannel :=
  if session.closedNotified then session else
  let keys := {
    session.keys with
    clientFinishedKey := []
    serverFinishedKey := []
    clientToServerKey := []
    serverToClientKey := [] }
  { session with
    closedNotified := true
    securityState := .closed
    keys
    transcriptHash := []
    sendSequence := 0
    receiveSequence := 0 }

def doHandshake (session : SessionChannel) : SessionChannel :=
  { session with securityState := .waitClientHello }

def answerHello (ssl : OpenSsl) (proto : AppProto) (identity : AppIdentity)
    (session : SessionChannel) (random : HelloRandomness) (payload : Bytes)
    (hello : AppClientHello) : Option (Bytes × SessionChannel) :=
  let serverPublic := ssl.x25519Public random.privateKey
  let toSign := signingTranscript payload appSecurityVersion serverPublic random.serverNonce
    random.sessionId identity.keyId appCipherSuiteV1
  let serverPayload := proto.serverHello.serialize {
    version := appSecurityVersion
    serverEphemeralPublicKey := serverPublic
    serverNonce := random.serverNonce
    sessionId := random.sessionId
    keyId := identity.keyId
    signature := ssl.ed25519Sign identity.privateKey toSign
    cipherSuite := appCipher }
  let transcriptHash := finishedTranscriptHash ssl payload serverPayload
  match x25519SharedSecret ssl random.privateKey hello.clientEphemeralPublicKey with
  | none => none
  | some sharedSecret =>
      let salt := ssl.sha256 (hello.clientNonce ++ random.serverNonce)
      let info := ascii "jitong-app-channel-v1" ++ random.sessionId ++ transcriptHash
      let material := hkdfSha256 ssl sharedSecret salt info 136
      some (serverPayload, {
        session with
        appSessionId := random.sessionId
        transcriptHash
        keys := sliceKeys material
        securityState := .waitClientFinished })

def handleClientHello (ssl : OpenSsl) (proto : AppProto) (identity : AppIdentity)
    (session : SessionChannel) (random : Option HelloRandomness) (payload : Bytes) :
    Option SessionOutput × SessionChannel :=
  match proto.clientHello.parse payload with
  | none => (none, session.failApplicationHandshake)
  | some hello =>
      if hello.version ≠ appSecurityVersion ∨ hello.cipherSuite ≠ appCipher ∨
          hello.clientEphemeralPublicKey.length ≠ 32 ∨ hello.clientNonce.length ≠ 32 ∨
          hello.clientRandomId.length ≠ 16 then (none, session.failApplicationHandshake)
      else
        match random.bind fun random =>
            answerHello ssl proto identity session random payload hello with
        | none => (none, session.failApplicationHandshake)
        | some (serverPayload, session) => (some (.frame appServerHelloType serverPayload), session)

def expectedVerify (ssl : OpenSsl) (session : SessionChannel) : Bytes :=
  ssl.hmacSha256 session.keys.clientFinishedKey session.transcriptHash

def handleClientFinished (ssl : OpenSsl) (proto : AppProto) (session : SessionChannel)
    (payload : Bytes) : Option SessionOutput × SessionChannel :=
  match proto.finished.parse payload with
  | none => (none, session.failApplicationHandshake)
  | some finished =>
      let actual := finished.verifyData
      if actual.length ≠ 32 ∨ actual ≠ session.expectedVerify ssl then
        (none, session.failApplicationHandshake)
      else
        let serverVerify := ssl.hmacSha256 session.keys.serverFinishedKey
          (session.transcriptHash ++ actual)
        (some (.frame appServerFinishedType (proto.finished.serialize ⟨serverVerify⟩)),
          { session with securityState := .established })

def handleApplicationHandshake (ssl : OpenSsl) (proto : AppProto) (identity : AppIdentity)
    (session : SessionChannel) (random : Option HelloRandomness) (type : UInt32)
    (payload : Bytes) : Option SessionOutput × SessionChannel :=
  if appMaxHandshakePayload < payload.length then (none, session.failApplicationHandshake)
  else if session.securityState = .waitClientHello ∧ type = appClientHelloType then
    session.handleClientHello ssl proto identity random payload
  else if session.securityState = .waitClientFinished ∧ type = appClientFinishedType then
    session.handleClientFinished ssl proto payload
  else (none, session.failApplicationHandshake)

/-- `works` is whether the encryption itself does; the sequence number is used up
in any case. -/
def encryptBusinessFrame (ssl : OpenSsl) (proto : AppProto) (works : Bool)
    (session : SessionChannel) (type : UInt32) (payload : Bytes) :
    Option Bytes × SessionChannel :=
  if session.sendSequence = maxSequence then (none, session) else
  let sequence := session.sendSequence + 1
  let session := { session with sendSequence := sequence }
  let encrypted := (frameNonce session.keys.serverNoncePrefix sequence).bind fun nonce =>
    aes256GcmEncrypt ssl session.keys.serverToClientKey nonce (encodeType32 type ++ payload)
      (frameAad session.appSessionId sequence)
  match encrypted.filter fun _ => works with
  | none => (none, session)
  | some sealed =>
      (some (proto.frame.serialize {
        version := appSecurityVersion
        sessionId := session.appSessionId
        sequence
        ciphertext := sealed.1
        tag := sealed.2 }), session)

def deliver (ssl : OpenSsl) (proto : AppProto) (works : Bool) (session : SessionChannel)
    (type : UInt32) (payload : Bytes) : Option SessionOutput × SessionChannel :=
  if appClientHelloType ≤ type ∧ type ≤ appServerFinishedType then
    (some (.frame type payload), session)
  else if session.securityState ≠ .established then (none, session.failApplicationHandshake)
  else
    match session.encryptBusinessFrame ssl proto works type payload with
    | (some frame, session) => (some (.frame appEncryptedFrameType frame), session)
    | (none, session) => (none, session.failApplicationHandshake)

def checkFrame (session : SessionChannel) (frame : AppEncryptedFrame) : Bool :=
  frame.version = appSecurityVersion ∧ frame.sessionId = session.appSessionId ∧
    frame.tag.length = 16 ∧ 4 ≤ frame.ciphertext.length ∧ frame.sequence ≠ 0 ∧
    frame.sequence = session.receiveSequence + 1

def handleEncryptedFrame (ssl : OpenSsl) (proto : AppProto) (session : SessionChannel)
    (payload : Bytes) : Option SessionOutput × SessionChannel :=
  match (proto.frame.parse payload).filter session.checkFrame with
  | none => (none, session.failApplicationHandshake)
  | some frame =>
      let opened := (frameNonce session.keys.clientNoncePrefix frame.sequence).bind fun nonce =>
        aes256GcmDecrypt ssl session.keys.clientToServerKey nonce frame.ciphertext
          (frameAad session.appSessionId frame.sequence) frame.tag
      match opened with
      | none => (none, session.failApplicationHandshake)
      | some plaintext =>
          let innerType := decodeType32 plaintext
          if plaintext.length < 4 ∨ isChannelType innerType then
            (none, session.failApplicationHandshake)
          else
            (some (.dispatch innerType (plaintext.drop 4)),
              { session with receiveSequence := frame.sequence })

def readBody (ssl : OpenSsl) (proto : AppProto) (identity : AppIdentity)
    (session : SessionChannel) (random : Option HelloRandomness) (type : UInt32)
    (payload : Bytes) : Option SessionOutput × SessionChannel :=
  if session.securityState ≠ .established then
    session.handleApplicationHandshake ssl proto identity random type payload
  else if type ≠ appEncryptedFrameType then (none, session.failApplicationHandshake)
  else session.handleEncryptedFrame ssl proto payload

section Cases

variable (ssl : OpenSsl) (proto : AppProto) (session : SessionChannel)

def helloAnswer (identity : AppIdentity) (random : HelloRandomness) (payload : Bytes) :
    AppServerHello :=
  let serverPublic := ssl.x25519Public random.privateKey
  {
    version := appSecurityVersion
    serverEphemeralPublicKey := serverPublic
    serverNonce := random.serverNonce
    sessionId := random.sessionId
    keyId := identity.keyId
    signature := ssl.ed25519Sign identity.privateKey (signingTranscript payload
      appSecurityVersion serverPublic random.serverNonce random.sessionId identity.keyId
      appCipherSuiteV1)
    cipherSuite := appCipher }

theorem answerHello_cases {identity : AppIdentity} {session after : SessionChannel}
    {random : HelloRandomness} {payload serverPayload : Bytes} {hello : AppClientHello}
    (answered : answerHello ssl proto identity session random payload hello =
      some (serverPayload, after)) :
    serverPayload = proto.serverHello.serialize (helloAnswer ssl identity random payload) ∧
      ∃ secret, x25519SharedSecret ssl random.privateKey hello.clientEphemeralPublicKey =
        some secret ∧
      let transcriptHash := finishedTranscriptHash ssl payload serverPayload
      after = {
        session with
        appSessionId := random.sessionId
        transcriptHash
        keys := sliceKeys (hkdfSha256 ssl secret
          (ssl.sha256 (hello.clientNonce ++ random.serverNonce))
          (ascii "jitong-app-channel-v1" ++ random.sessionId ++ transcriptHash) 136)
        securityState := .waitClientFinished } := by
  simp only [answerHello] at answered
  split at answered
  · simp at answered
  · rename_i secret derived
    simp only [Option.some.injEq, Prod.mk.injEq] at answered
    obtain ⟨rfl, rfl⟩ := answered
    exact ⟨rfl, secret, derived, rfl⟩

theorem handleClientHello_cases (identity : AppIdentity) (random : Option HelloRandomness)
    (payload : Bytes) :
    session.handleClientHello ssl proto identity random payload =
        (none, session.failApplicationHandshake) ∨
      ∃ hello drawn serverPayload after, proto.clientHello.parse payload = some hello ∧
        random = some drawn ∧
        answerHello ssl proto identity session drawn payload hello = some (serverPayload, after) ∧
        session.handleClientHello ssl proto identity random payload =
          (some (.frame appServerHelloType serverPayload), after) := by
  unfold handleClientHello
  split
  · exact .inl rfl
  · rename_i hello parsed
    split
    · exact .inl rfl
    · split
      · exact .inl rfl
      · rename_i serverPayload after answered
        obtain ⟨drawn, given, answer⟩ := Option.bind_eq_some_iff.mp answered
        exact .inr ⟨hello, drawn, serverPayload, after, parsed, given, answer, rfl⟩

theorem handleClientFinished_cases (payload : Bytes) :
    session.handleClientFinished ssl proto payload = (none, session.failApplicationHandshake) ∨
      ∃ finished frame, proto.finished.parse payload = some finished ∧
        finished.verifyData = session.expectedVerify ssl ∧
        session.handleClientFinished ssl proto payload =
          (some (.frame appServerFinishedType frame),
            { session with securityState := .established }) := by
  unfold handleClientFinished
  split
  · exact .inl rfl
  · rename_i finished parsed
    simp only
    split
    · exact .inl rfl
    · rename_i verified
      simp only [not_or, not_not] at verified
      exact .inr ⟨finished, _, parsed, verified.2, rfl⟩

theorem encryptBusinessFrame_cases (works : Bool) (type : UInt32) (payload : Bytes) :
    session.encryptBusinessFrame ssl proto works type payload = (none, session) ∨
      session.sendSequence ≠ maxSequence ∧ ∃ frame,
        session.encryptBusinessFrame ssl proto works type payload =
          (frame, { session with sendSequence := session.sendSequence + 1 }) := by
  unfold encryptBusinessFrame
  split
  · exact .inl rfl
  · rename_i unspent
    simp only
    split
    · exact .inr ⟨unspent, none, rfl⟩
    · exact .inr ⟨unspent, some _, rfl⟩

theorem deliver_cases (works : Bool) (type : UInt32) (payload : Bytes) :
    session.deliver ssl proto works type payload = (some (.frame type payload), session) ∨
      session.deliver ssl proto works type payload = (none, session.failApplicationHandshake) ∨
      session.securityState = .established ∧ session.sendSequence ≠ maxSequence ∧
        session.deliver ssl proto works type payload = (none,
          { session with sendSequence := session.sendSequence + 1 }.failApplicationHandshake) ∨
      session.securityState = .established ∧ session.sendSequence ≠ maxSequence ∧
        ∃ frame, session.deliver ssl proto works type payload =
          (some (.frame appEncryptedFrameType frame),
            { session with sendSequence := session.sendSequence + 1 }) := by
  unfold deliver
  split
  · exact .inl rfl
  · split
    · exact .inr (.inl rfl)
    · rename_i established
      simp only [not_not] at established
      refine .inr ?_
      rcases session.encryptBusinessFrame_cases ssl proto works type payload with
        refused | ⟨unspent, frame, tried⟩
      · rw [refused]
        exact .inl rfl
      · rw [tried]
        cases frame with
        | none => exact .inr (.inl ⟨established, unspent, rfl⟩)
        | some frame => exact .inr (.inr ⟨established, unspent, frame, rfl⟩)

theorem handleEncryptedFrame_cases (payload : Bytes) :
    session.handleEncryptedFrame ssl proto payload = (none, session.failApplicationHandshake) ∨
      ∃ frame plaintext, proto.frame.parse payload = some frame ∧
        frame.sequence ≠ 0 ∧ frame.sequence = session.receiveSequence + 1 ∧
        ssl.gcmDecrypt session.keys.clientToServerKey
          (session.keys.clientNoncePrefix ++ u64Be frame.sequence)
          (frameAad session.appSessionId frame.sequence) frame.ciphertext frame.tag =
            some plaintext ∧
        session.handleEncryptedFrame ssl proto payload =
          (some (.dispatch (decodeType32 plaintext) (plaintext.drop 4)),
            { session with receiveSequence := frame.sequence }) := by
  unfold handleEncryptedFrame
  split
  · exact .inl rfl
  · rename_i frame accepted
    obtain ⟨parsed, sound⟩ := Option.filter_eq_some_iff.mp accepted
    simp only [checkFrame, Bool.decide_and, Bool.and_eq_true, decide_eq_true_eq] at sound
    simp only
    split
    · exact .inl rfl
    · rename_i plaintext opened
      obtain ⟨nonce, nonceGiven, decrypted⟩ := Option.bind_eq_some_iff.mp opened
      split
      · exact .inl rfl
      · refine .inr ⟨frame, plaintext, parsed, sound.2.2.2.2.1, sound.2.2.2.2.2, ?_, rfl⟩
        unfold frameNonce at nonceGiven
        split at nonceGiven
        · simp at nonceGiven
        · obtain rfl := Option.some.inj nonceGiven
          unfold aes256GcmDecrypt at decrypted
          split at decrypted
          · simp at decrypted
          · exact decrypted

theorem readBody_closed {session : SessionChannel} (closed : session.securityState = .closed)
    (identity : AppIdentity) (random : Option HelloRandomness) (type : UInt32) (payload : Bytes) :
    session.readBody ssl proto identity random type payload =
      (none, session.failApplicationHandshake) := by
  simp [readBody, handleApplicationHandshake, closed]

theorem readBody_established {session : SessionChannel}
    (established : session.securityState = .established) (identity : AppIdentity)
    (random : Option HelloRandomness) (type : UInt32) (payload : Bytes) :
    session.readBody ssl proto identity random type payload =
        (none, session.failApplicationHandshake) ∨
      session.readBody ssl proto identity random type payload =
        session.handleEncryptedFrame ssl proto payload := by
  unfold readBody
  simp only [established, ne_eq, not_true_eq_false, if_false]
  split
  · exact .inl rfl
  · exact .inr rfl

theorem readBody_cases (identity : AppIdentity) (random : Option HelloRandomness) (type : UInt32)
    (payload : Bytes) :
    session.readBody ssl proto identity random type payload =
        (none, session.failApplicationHandshake) ∨
      (session.securityState = .waitClientHello ∧ type = appClientHelloType ∧
        payload.length ≤ appMaxHandshakePayload ∧
        session.readBody ssl proto identity random type payload =
          session.handleClientHello ssl proto identity random payload) ∨
      (session.securityState = .waitClientFinished ∧ type = appClientFinishedType ∧
        session.readBody ssl proto identity random type payload =
          session.handleClientFinished ssl proto payload) ∨
      session.securityState = .established ∧ type = appEncryptedFrameType ∧
        session.readBody ssl proto identity random type payload =
          session.handleEncryptedFrame ssl proto payload := by
  unfold readBody
  split
  · unfold handleApplicationHandshake
    split
    · exact .inl rfl
    · rename_i short
      split
      · rename_i hello
        exact .inr (.inl ⟨hello.1, hello.2, by omega, rfl⟩)
      · split
        · rename_i finished
          exact .inr (.inr (.inl ⟨finished.1, finished.2, rfl⟩))
        · exact .inl rfl
  · rename_i established
    simp only [not_not] at established
    split
    · exact .inl rfl
    · rename_i encrypted
      simp only [not_not] at encrypted
      exact .inr (.inr (.inr ⟨established, encrypted, rfl⟩))

end Cases

end SessionChannel

/-! The session of the golden vector. -/

namespace Golden

def identity : AppIdentity := ⟨1, identityPrivate⟩

def random : HelloRandomness := ⟨serverPrivate, serverNonce, sessionId, rfl, rfl⟩

def session : SessionChannel where
  securityState := .established
  transcriptHash
  keys
  appSessionId := sessionId

example :
    let answered := (SessionChannel.doHandshake {}).readBody ssl proto identity (some random)
      appClientHelloType clientPayload
    answered.1 = some (.frame appServerHelloType serverPayload) ∧
      answered.2.readBody ssl proto identity none appClientFinishedType clientFinished =
        (some (.frame appServerFinishedType serverFinished), session) := by
  decide +kernel

end Golden

end Jitong
