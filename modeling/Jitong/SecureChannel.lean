import Jitong.SessionChannel

/-!
`net/SecureChannel.kt`: the channel of the Android client in Kotlin, on signed numbers. Where the
source throws there is no value. The functions of `AppCrypto.kt` are those of `AppCrypto.cpp`, with
more of the lengths checked.
-/

namespace Jitong

open Lib

structure AndroidFrame where
  type : Int32
  payload : Bytes
  deriving DecidableEq

abbrev AndroidPins := List (Int32 × Bytes)

/-- What `generateX25519KeyPair` and `randomBytes` give to `establish`. -/
structure ClientRandoms where
  privateKey : Bytes
  clientNonce : Bytes
  clientRandomId : Bytes
  privateKey_length : privateKey.length = 32
  clientNonce_length : clientNonce.length = 32
  clientRandomId_length : clientRandomId.length = 16

structure SecureChannel where
  sessionId : Bytes
  clientToServerKey : Bytes
  serverToClientKey : Bytes
  clientNoncePrefix : Bytes
  serverNoncePrefix : Bytes
  sendSequence : Int64 := 0
  receiveSequence : Int64 := 0
  deriving DecidableEq

structure AwaitingHello where
  privateKey : Bytes
  clientNonce : Bytes
  clientPayload : Bytes
  deriving DecidableEq

/-- The locals of `establish` once the Finished is sent. -/
structure AwaitingFinished where
  sessionId : Bytes
  transcriptHash : Bytes
  material : ChannelKeys
  clientVerify : Bytes
  deriving DecidableEq

namespace SecureChannel

/-! Numbers as bytes. -/

def u32 (value : Int32) : Bytes := u32Be value.toUInt32

def u64 (value : Int64) : Bytes := u64Be value.toUInt64

def le32 (value : Int32) : Bytes := encodeType32 value.toUInt32

def byteAt (value : Bytes) (index : Nat) : Int32 := (value.getD index 0).toUInt32.toInt32

def readLe32 (value : Bytes) : Int32 :=
  byteAt value 0 ||| byteAt value 1 <<< 8 ||| byteAt value 2 <<< 16 ||| byteAt value 3 <<< 24

def isControl (type : Int32) : Bool :=
  appClientHelloType.toInt32 ≤ type ∧ type ≤ appEncryptedFrameType.toInt32

/-! `AppCrypto.kt`. -/

def x25519SharedSecret (ssl : OpenSsl) (privateKey peerPublicKey : Bytes) : Option Bytes :=
  if privateKey.length ≠ 32 ∨ peerPublicKey.length ≠ 32 then none
  else Jitong.x25519SharedSecret ssl privateKey peerPublicKey

def ed25519Verify (ssl : OpenSsl) (publicKey message signature : Bytes) : Option Bool :=
  if publicKey.length ≠ 32 then none
  else if signature.length ≠ 64 then some false
  else some (ssl.ed25519Verify publicKey message signature)

/-! The handshake. -/

def clientHello (ssl : OpenSsl) (randoms : ClientRandoms) : AppClientHello where
  version := appSecurityVersion
  clientEphemeralPublicKey := ssl.x25519Public randoms.privateKey
  clientNonce := randoms.clientNonce
  clientRandomId := randoms.clientRandomId
  cipherSuite := appCipher

/-- `establish`, up to the read of the server's hello. -/
def establish (ssl : OpenSsl) (proto : AppProto) (randoms : ClientRandoms) : AwaitingHello where
  privateKey := randoms.privateKey
  clientNonce := randoms.clientNonce
  clientPayload := proto.clientHello.serialize (clientHello ssl randoms)

def validateServerHello (hello : AppServerHello) : Bool :=
  ¬ (hello.version.toInt32 ≠ appSecurityVersion.toInt32 ∨ hello.cipherSuite ≠ appCipher ∨
    hello.serverEphemeralPublicKey.length ≠ 32 ∨ hello.serverNonce.length ≠ 32 ∨
    hello.sessionId.length ≠ 16 ∨ hello.signature.length ≠ 64 ∨ hello.keyId.toInt32 = 0)

def signingTranscript (clientPayload : Bytes) (version : Int32)
    (serverPublic serverNonce sessionId : Bytes) (keyId cipherSuite : Int32) : Bytes :=
  ascii "jitong-app-handshake-v1" ++ u32 (Int32.ofNat clientPayload.length) ++ clientPayload ++
    u32 version ++ serverPublic ++ serverNonce ++ sessionId ++ u32 keyId ++ u32 cipherSuite

def finishedTranscriptHash (ssl : OpenSsl) (clientPayload serverPayload : Bytes) : Bytes :=
  ssl.sha256 (u32 (Int32.ofNat clientPayload.length) ++ clientPayload ++
    u32 (Int32.ofNat serverPayload.length) ++ serverPayload)

def copyOfRange (value : Bytes) (first last : Nat) : Bytes := (value.drop first).take (last - first)

def sliceKeys (material : Bytes) : ChannelKeys where
  clientToServerKey := copyOfRange material 0 32
  serverToClientKey := copyOfRange material 32 64
  clientNoncePrefix := copyOfRange material 64 68
  serverNoncePrefix := copyOfRange material 68 72
  clientFinishedKey := copyOfRange material 72 104
  serverFinishedKey := copyOfRange material 104 136

end SecureChannel

open SecureChannel

def AwaitingHello.verifies (ssl : OpenSsl) (awaiting : AwaitingHello) (pins : AndroidPins)
    (hello : AppServerHello) : Bool :=
  match pins.lookup hello.keyId.toInt32 with
  | none => false
  | some identityPublicKey =>
      let signatureInput := signingTranscript awaiting.clientPayload hello.version.toInt32
        hello.serverEphemeralPublicKey hello.serverNonce hello.sessionId hello.keyId.toInt32
        hello.cipherSuite
      SecureChannel.ed25519Verify ssl identityPublicKey signatureInput hello.signature = some true

def AwaitingHello.readServerHello (ssl : OpenSsl) (proto : AppProto) (pins : AndroidPins)
    (awaiting : AwaitingHello) (serverFrame : AndroidFrame) : Option (Bytes × AwaitingFinished) :=
  if serverFrame.type ≠ appServerHelloType.toInt32 ∨
      appMaxHandshakePayload < serverFrame.payload.length then none
  else
    match proto.serverHello.parse serverFrame.payload with
    | none => none
    | some serverHello =>
        if !validateServerHello serverHello then none
        else if !awaiting.verifies ssl pins serverHello then none
        else
          let sessionId := serverHello.sessionId
          let transcriptHash :=
            finishedTranscriptHash ssl awaiting.clientPayload serverFrame.payload
          match SecureChannel.x25519SharedSecret ssl awaiting.privateKey
              serverHello.serverEphemeralPublicKey with
          | none => none
          | some sharedSecret =>
              let salt := ssl.sha256 (awaiting.clientNonce ++ serverHello.serverNonce)
              let info := ascii "jitong-app-channel-v1" ++ sessionId ++ transcriptHash
              let material := sliceKeys (hkdfSha256 ssl sharedSecret salt info 136)
              let clientVerify := ssl.hmacSha256 material.clientFinishedKey transcriptHash
              some (proto.finished.serialize ⟨clientVerify⟩,
                { sessionId, transcriptHash, material, clientVerify })

def AwaitingFinished.expectedServerVerify (ssl : OpenSsl) (awaiting : AwaitingFinished) : Bytes :=
  ssl.hmacSha256 awaiting.material.serverFinishedKey (awaiting.transcriptHash ++ awaiting.clientVerify)

def AwaitingFinished.readServerFinished (ssl : OpenSsl) (proto : AppProto)
    (awaiting : AwaitingFinished) (finishedFrame : AndroidFrame) : Option SecureChannel :=
  if finishedFrame.type ≠ appServerFinishedType.toInt32 ∨
      appMaxHandshakePayload < finishedFrame.payload.length then none
  else
    match proto.finished.parse finishedFrame.payload with
    | none => none
    | some serverFinished =>
        if serverFinished.verifyData.length ≠ 32 then none
        else if awaiting.expectedServerVerify ssl ≠ serverFinished.verifyData then none
        else some {
          sessionId := awaiting.sessionId
          clientToServerKey := awaiting.material.clientToServerKey
          serverToClientKey := awaiting.material.serverToClientKey
          clientNoncePrefix := awaiting.material.clientNoncePrefix
          serverNoncePrefix := awaiting.material.serverNoncePrefix }

namespace SecureChannel

/-! Frames. -/

def nonce (noncePrefix : Bytes) (sequence : Int64) : Bytes := noncePrefix ++ u64 sequence

def frameAad (sessionId : Bytes) (sequence : Int64) : Bytes :=
  ascii "jitong-app-frame-v1" ++ u32 appSecurityVersion.toInt32 ++ sessionId ++ u64 sequence

def encrypt (ssl : OpenSsl) (proto : AppProto) (works : Bool) (channel : SecureChannel)
    (type : Int32) (payload : Bytes) : Option AndroidFrame × SecureChannel :=
  if isControl type then (none, channel)
  else if channel.sendSequence = Int64.maxValue then (none, channel)
  else
    let sequence := channel.sendSequence + 1
    let channel := { channel with sendSequence := sequence }
    if !works then (none, channel) else
    match aes256GcmEncrypt ssl channel.clientToServerKey
        (nonce channel.clientNoncePrefix sequence) (le32 type ++ payload)
        (frameAad channel.sessionId sequence) with
    | none => (none, channel)
    | some (ciphertext, tag) =>
        let encrypted : AppEncryptedFrame := {
          version := appSecurityVersion
          sessionId := channel.sessionId
          sequence := sequence.toUInt64
          ciphertext
          tag }
        (some ⟨appEncryptedFrameType.toInt32, proto.frame.serialize encrypted⟩, channel)

def isNext (channel : SecureChannel) (encrypted : AppEncryptedFrame) : Bool :=
  let sequence := encrypted.sequence.toInt64
  ¬ (encrypted.version.toInt32 ≠ appSecurityVersion.toInt32 ∨
    encrypted.sessionId ≠ channel.sessionId ∨ encrypted.tag.length ≠ 16 ∨
    encrypted.ciphertext.length < 4 ∨ sequence ≤ 0 ∨ sequence ≠ channel.receiveSequence + 1)

def decrypt (ssl : OpenSsl) (proto : AppProto) (channel : SecureChannel) (frame : AndroidFrame) :
    Option AndroidFrame × SecureChannel :=
  if frame.type ≠ appEncryptedFrameType.toInt32 then (none, channel)
  else
    match proto.frame.parse frame.payload with
    | none => (none, channel)
    | some encrypted =>
        let sequence := encrypted.sequence.toInt64
        if !channel.isNext encrypted then (none, channel)
        else
          match aes256GcmDecrypt ssl channel.serverToClientKey
              (nonce channel.serverNoncePrefix sequence) encrypted.ciphertext
              (frameAad channel.sessionId sequence) encrypted.tag with
          | none => (none, channel)
          | some plaintext =>
              if plaintext.length < 4 then (none, channel)
              else if isControl (readLe32 plaintext) then (none, channel)
              else (some ⟨readLe32 plaintext, plaintext.drop 4⟩,
                { channel with receiveSequence := sequence })

end SecureChannel

end Jitong
