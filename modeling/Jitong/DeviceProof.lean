import Jitong.Protocol

/-!
Device proofs (`auth/DeviceProof.cpp`) over the primitives that the server
takes from OpenSSL and libargon2.
-/

namespace Jitong

/-- The primitives that are linked in: SHA-256 digests, ECDSA P-256 verification
of a DER key, a message and a DER signature, and the Argon2id check of an
encoded hash. -/
structure Crypto where
  sha256 : Bytes → Bytes
  ecdsaVerify : Bytes → Bytes → Bytes → Bool
  argon2idVerify : Bytes → Bytes → Bool

def Crypto.tokenHash (crypto : Crypto) (token : Bytes) : Bytes := toHex (crypto.sha256 token)

def Crypto.hashText (crypto : Crypto) (token : Bytes) : Text := cstr (crypto.tokenHash token)

theorem Crypto.hashText_injective {crypto : Crypto}
    (collisionFree : Function.Injective crypto.sha256) :
    Function.Injective crypto.hashText :=
  fun _ _ same => collisionFree (cstr_toHex_injective same)

def recordedDigest (digests : List (Bytes × Bytes)) (input : Bytes) : Bytes :=
  (digests.lookup input).getD (List.replicate 33 0 ++ input)

theorem mem_of_lookup {Key Value : Type} [BEq Key] [LawfulBEq Key] {entries : List (Key × Value)}
    {key : Key} {value : Value} (found : entries.lookup key = some value) :
    (key, value) ∈ entries := by
  obtain ⟨first, last, split, _⟩ := List.lookup_eq_some_iff.mp found
  rw [split]
  exact List.mem_append_right _ List.mem_cons_self

def Crypto.recorded (digests : List (Bytes × Bytes)) (signatures : List (Bytes × Bytes × Bytes)) :
    Crypto where
  sha256 := recordedDigest digests
  ecdsaVerify := fun publicKey message signature => (publicKey, message, signature) ∈ signatures
  argon2idVerify := fun _ _ => false

theorem recordedDigest_ne_nil {digests : List (Bytes × Bytes)}
    (sizes : ∀ entry ∈ digests, entry.2.length = 32) (input : Bytes) :
    recordedDigest digests input ≠ [] := by
  intro empty
  unfold recordedDigest at empty
  cases found : digests.lookup input with
  | none => simp [found] at empty
  | some digest =>
      have size := sizes _ (mem_of_lookup found)
      simp only [found, Option.getD_some] at empty
      simp [empty] at size

theorem recordedDigest_injective {digests : List (Bytes × Bytes)}
    (sizes : ∀ entry ∈ digests, entry.2.length = 32) (distinct : (digests.map (·.2)).Nodup) :
    Function.Injective (recordedDigest digests) := by
  have apart {input other digest : Bytes} (found : digests.lookup input = some digest) :
      digest ≠ List.replicate 33 0 ++ other := by
    rintro rfl
    have size := sizes _ (mem_of_lookup found)
    simp only [List.length_append, List.length_replicate] at size
    omega
  intro left right same
  unfold recordedDigest at same
  cases leftFound : digests.lookup left with
  | none =>
      cases rightFound : digests.lookup right with
      | none => simpa [leftFound, rightFound] using same
      | some digest => exact absurd (by simpa [leftFound, rightFound] using same.symm) (apart rightFound)
  | some digest =>
      cases rightFound : digests.lookup right with
      | none => exact absurd (by simpa [leftFound, rightFound] using same) (apart leftFound)
      | some other =>
          rw [leftFound, rightFound, Option.getD_some, Option.getD_some] at same
          have entry := List.inj_on_of_nodup_map distinct (mem_of_lookup leftFound)
            (mem_of_lookup rightFound) same
          exact (Prod.mk.inj entry).1

def numberedToken (number : UInt8) : Bytes := toHex (List.replicate 32 number)

def tokenDigests : List (Bytes × Bytes) :=
  [(3, 0x83a538df07046f4430303faf09e9c6933306b5e7f4157b5c0cdc35d16f0f9033),
    (4, 0x419a701fd185ed1ad0f6409698fbf426e1bee041fe167531a68493b2778f8718),
    (5, 0x052a67d218c39aad73acb31691d68f8aff33321746c1a31c24fb4bcbadb39672),
    (6, 0x5a3523fb327e01f8a1f328b4731fd59004d1f8fc2e174de25d40c75c22e5e1c8),
    (13, 0xe6d52a976e79bfba158b482530b6cbd9bdf9738c67eeac4deec90b436c4811cb),
    (14, 0x4db04ce6848ee9470b75208f45bde6391bc522cae22cd73adb41859bc0dc40c7),
    (15, 0x7152f9958a983e3313fb2498d743af1e83a0ff5999650fd341f0368d1678992c),
    (16, 0xe258aadafda9cb9f483e9b93bf4353cf93ce1f0c6fc8a53942d2c2359ec1a99a)].map
    fun (number, digest) => (numberedToken number, bigEndian 32 digest)

namespace DeviceProof

def bigEndian32 (size : Nat) : Bytes :=
  let n := UInt32.ofNat size
  [(n >>> 24).toUInt8, (n >>> 16).toUInt8, (n >>> 8).toUInt8, n.toUInt8]

def field (value : Bytes) : Bytes := bigEndian32 value.length ++ value

def message (operation appSessionId deviceId credentialBinding publicKey : Bytes) : Bytes :=
  ascii "jitong-device-proof-v1" ++ field operation ++ field appSessionId ++ field deviceId ++
    field credentialBinding ++ field publicKey

def publicKeyDer (x y : Nat) : Bytes :=
  bigEndian 27 0x3059301306072a8648ce3d020106082a8648ce3d03010703420004 ++
    bigEndian 32 x ++ bigEndian 32 y

/-- The DER `ECDSA-Sig-Value` of two numbers below 2 to the 255. -/
def signatureDer (r s : Nat) : Bytes :=
  bigEndian 4 0x30440220 ++ bigEndian 32 r ++ bigEndian 2 0x0220 ++ bigEndian 32 s

def verifyP256 (crypto : Crypto) (publicKeyDer signedMessage signatureDer : Bytes) : Bool :=
  if publicKeyDer = [] ∨ 512 < publicKeyDer.length ∨ signatureDer = [] ∨ 144 < signatureDer.length
  then false
  else crypto.ecdsaVerify publicKeyDer signedMessage signatureDer

end DeviceProof

end Jitong
