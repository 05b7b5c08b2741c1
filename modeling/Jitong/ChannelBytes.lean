import Jitong.ClientSecureChannel
import Jitong.SessionChannel

/-!
The bytes of the handshake that both ends compute for themselves: the two programs
agree on transcripts, keys and frames, and a transcript tells what it was made of.
-/

namespace Jitong

open Lib

theorem sha256_ne_nil (ssl : OpenSsl) (input : Bytes) : ssl.sha256 input ≠ [] := by
  intro empty
  have size := ssl.sha256_length input
  simp [empty] at size

theorem hkdfSha256_eq (ssl : OpenSsl) (inputKeyMaterial info : Bytes) {salt : Bytes}
    (salted : salt ≠ []) (outputLength : Nat) :
    hkdfSha256 ssl inputKeyMaterial salt info outputLength =
      ClientSecureChannel.hkdfSha256 ssl inputKeyMaterial salt info outputLength := by
  simp only [hkdfSha256, ClientSecureChannel.hkdfSha256, if_neg salted]
  exact expandLoop_start (by decide) (fun _ _ => ssl.hmacSha256_length _ _) outputLength

theorem x25519SharedSecret_comm (ssl : OpenSsl) (left right : Bytes) :
    x25519SharedSecret ssl left (ssl.x25519Public right) =
      x25519SharedSecret ssl right (ssl.x25519Public left) := by
  rw [x25519SharedSecret, ssl.x25519Derive_comm, x25519SharedSecret]

namespace ClientSecureChannel

theorem signingTranscript_eq (channel : ClientSecureChannel) :
    channel.signingTranscript = SessionChannel.signingTranscript channel.clientPayload
      appSecurityVersion channel.serverPub channel.serverNonce channel.sessionId channel.keyId
      appCipherSuiteV1 := rfl

theorem sliceKeys_eq (material : Bytes) : sliceKeys material = SessionChannel.sliceKeys material :=
  rfl

theorem frameAad_eq (channel : ClientSecureChannel) (sequence : UInt64) :
    channel.frameAad sequence = SessionChannel.frameAad channel.sessionId sequence := rfl

theorem frameNonce_eq {noncePrefix : Bytes} (sized : noncePrefix.length = 4) (sequence : UInt64) :
    frameNonce noncePrefix sequence = noncePrefix ++ u64Be sequence := by
  have whole : noncePrefix.take 4 = noncePrefix := List.take_of_length_le sized.le
  simp [frameNonce, whole, sized]

theorem deriveKeys_eq (ssl : OpenSsl) (channel : ClientSecureChannel) :
    channel.deriveKeys ssl = (x25519SharedSecret ssl channel.clientPriv channel.serverPub).map
      fun secret => SessionChannel.sliceKeys (Jitong.hkdfSha256 ssl secret
        (ssl.sha256 (channel.clientNonce ++ channel.serverNonce))
        (ascii "jitong-app-channel-v1" ++ channel.sessionId ++ channel.transcriptHash) 136) := by
  have salted := sha256_ne_nil ssl (channel.clientNonce ++ channel.serverNonce)
  unfold deriveKeys x25519SharedSecret
  cases ssl.x25519Derive channel.clientPriv channel.serverPub with
  | none => rfl
  | some secret =>
      by_cases zero : secret.all (· = 0)
      · simp [zero, Option.filter]
      · simp only [Bool.not_eq_true] at zero
        simp only [zero, Bool.false_eq_true, if_false, Option.filter, Bool.not_false, if_true,
          Option.map_some, hkdfSha256_eq ssl secret _ salted, sliceKeys_eq]

end ClientSecureChannel

namespace SessionChannel

theorem hkdfSha256_length (ssl : OpenSsl) (secret input info : Bytes) :
    (hkdfSha256 ssl secret (ssl.sha256 input) info 136).length = 136 := by
  rw [hkdfSha256_eq ssl secret info (sha256_ne_nil ssl input)]
  exact length_expand (by decide) (fun _ _ => ssl.hmacSha256_length _ _) 136

theorem sliceKeys_sizes {material : Bytes} (sized : material.length = 136) :
    (sliceKeys material).clientNoncePrefix.length = 4 ∧
      (sliceKeys material).serverNoncePrefix.length = 4 := by
  simp [sliceKeys, slice, sized]

theorem signingTranscript_injective {payload other : Bytes} {version otherVersion : UInt32}
    {serverPublic otherPublic serverNonce otherNonce sessionId otherId : Bytes}
    {keyId otherKeyId cipherSuite otherSuite : UInt32}
    (publicSize : serverPublic.length = otherPublic.length)
    (nonceSize : serverNonce.length = otherNonce.length)
    (idSize : sessionId.length = otherId.length)
    (same : signingTranscript payload version serverPublic serverNonce sessionId keyId cipherSuite =
      signingTranscript other otherVersion otherPublic otherNonce otherId otherKeyId otherSuite) :
    payload = other ∧ serverPublic = otherPublic := by
  have four (left right : UInt32) : (u32Be left).length = (u32Be right).length :=
    (u32Be_length left).trans (u32Be_length right).symm
  obtain ⟨beforeSuite, -⟩ := List.append_inj' same (four ..)
  obtain ⟨beforeKeyId, -⟩ := List.append_inj' beforeSuite (four ..)
  obtain ⟨beforeId, -⟩ := List.append_inj' beforeKeyId idSize
  obtain ⟨beforeNonce, -⟩ := List.append_inj' beforeId nonceSize
  obtain ⟨beforePublic, publics⟩ := List.append_inj' beforeNonce publicSize
  obtain ⟨beforeVersion, -⟩ := List.append_inj' beforePublic (four ..)
  refine ⟨(List.append_inj beforeVersion ?_).2, publics⟩
  rw [List.length_append, List.length_append, four]

theorem u32Be_ofNat_injective {left right : Nat} (leftSmall : left < 2 ^ 32)
    (rightSmall : right < 2 ^ 32) (same : u32Be (UInt32.ofNat left) = u32Be (UInt32.ofNat right)) :
    left = right := by
  have numbers := congrArg UInt32.toNat (u32Be_injective same)
  rwa [UInt32.toNat_ofNat_of_lt' leftSmall, UInt32.toNat_ofNat_of_lt' rightSmall] at numbers

theorem transcriptInput_injective {clientPayload otherClient serverPayload otherServer : Bytes}
    (small : clientPayload.length < 2 ^ 32) (otherSmall : otherClient.length < 2 ^ 32)
    (same : u32Be (UInt32.ofNat clientPayload.length) ++ clientPayload ++
        u32Be (UInt32.ofNat serverPayload.length) ++ serverPayload =
      u32Be (UInt32.ofNat otherClient.length) ++ otherClient ++
        u32Be (UInt32.ofNat otherServer.length) ++ otherServer) :
    clientPayload = otherClient ∧ serverPayload = otherServer := by
  simp only [List.append_assoc] at same
  have four (left right : UInt32) : (u32Be left).length = (u32Be right).length :=
    (u32Be_length left).trans (u32Be_length right).symm
  obtain ⟨lengths, rest⟩ := List.append_inj same (four ..)
  obtain ⟨payloads, server⟩ := List.append_inj rest (u32Be_ofNat_injective small otherSmall lengths)
  exact ⟨payloads, (List.append_inj server (four ..)).2⟩

end SessionChannel

end Jitong
