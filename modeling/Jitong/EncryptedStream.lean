import Jitong.ChannelBytes
import Jitong.Lib.Run

/-!
The stream of encrypted frames between two ends that hold the same keys. The network
delivers what it likes; the AEAD is ideal in that an end decrypts nothing that was
not encrypted.
-/

namespace Jitong

open Lib

structure Sealed where
  key : Bytes
  nonce : Bytes
  aad : Bytes
  plaintext : Bytes
  deriving DecidableEq

/-- Both ends, with what each has encrypted and accepted as (type, payload), every pair of
key and nonce that an encryption took, and the encryptions that came out. -/
structure Link where
  client : ClientSecureChannel
  session : SessionChannel
  clientSent : List (UInt32 × Bytes) := []
  serverSent : List (UInt32 × Bytes) := []
  clientAccepted : List (UInt32 × Bytes) := []
  serverAccepted : List (UInt32 × Bytes) := []
  clientUses : List (Bytes × Bytes) := []
  serverUses : List (Bytes × Bytes) := []
  sealed : List Sealed := []

inductive LinkEvent
  | clientEncrypt (works : Bool) (type : UInt32) (payload : Bytes)
  | serverDeliver (works : Bool) (type : UInt32) (payload : Bytes)
  | toClient (payload : Bytes)
  | toServer (random : Option HelloRandomness) (type : UInt32) (payload : Bytes)
  | serverHello (payload : Bytes)
  | serverFinished (payload : Bytes)
  | reset
  | closed

namespace ClientSecureChannel

def nextSealed (channel : ClientSecureChannel) (type : UInt32) (payload : Bytes) : Sealed :=
  let sequence := channel.sendSequence + 1
  ⟨channel.keys.clientToServerKey, frameNonce channel.keys.clientNoncePrefix sequence,
    channel.frameAad sequence, encodeType32 type ++ payload⟩

end ClientSecureChannel

namespace SessionChannel

def nextSealed (session : SessionChannel) (type : UInt32) (payload : Bytes) : Sealed :=
  let sequence := session.sendSequence + 1
  ⟨session.keys.serverToClientKey, session.keys.serverNoncePrefix ++ u64Be sequence,
    frameAad session.appSessionId sequence, encodeType32 type ++ payload⟩

end SessionChannel

namespace Link

def step (ssl : OpenSsl) (proto : AppProto) (identity : AppIdentity) (link : Link) :
    LinkEvent → Link
  | .clientEncrypt works type payload =>
      let item := link.client.nextSealed type payload
      let (frame, client) := link.client.encrypt ssl proto works type payload
      let tried := client.sendSequence ≠ link.client.sendSequence
      { link with
        client
        clientUses := if tried then link.clientUses ++ [(item.key, item.nonce)] else link.clientUses
        clientSent := if frame.isSome then link.clientSent ++ [(type, payload)] else link.clientSent
        sealed := if frame.isSome then link.sealed ++ [item] else link.sealed }
  | .serverDeliver works type payload =>
      let item := link.session.nextSealed type payload
      let (output, session) := link.session.deliver ssl proto works type payload
      let tried := session.sendSequence ≠ link.session.sendSequence
      let encrypted := tried ∧ output.isSome
      { link with
        session
        serverUses := if tried then link.serverUses ++ [(item.key, item.nonce)] else link.serverUses
        serverSent := if encrypted then link.serverSent ++ [(type, payload)] else link.serverSent
        sealed := if encrypted then link.sealed ++ [item] else link.sealed }
  | .toClient payload =>
      let (accepted, client) := link.client.decrypt ssl proto payload
      { link with client, clientAccepted := link.clientAccepted ++ accepted.toList }
  | .toServer random type payload =>
      match link.session.readBody ssl proto identity random type payload with
      | (some (.dispatch innerType inner), session) =>
          { link with session, serverAccepted := link.serverAccepted ++ [(innerType, inner)] }
      | (_, session) => { link with session }
  | .serverHello payload =>
      { link with client := (link.client.handleServerHello ssl proto payload).2 }
  | .serverFinished payload =>
      { link with client := (link.client.handleServerFinished ssl proto payload).2 }
  | .reset => { link with client := link.client.reset }
  | .closed => { link with session := link.session.onClosed }

/-- Both ends hold the same values, the session is established and the client is or waits
for the server's Finished; each direction has a key or a nonce prefix of its own. -/
structure Linked (client : ClientSecureChannel) (session : SessionChannel) : Prop where
  client_status : client.status = .finishedSent ∨ client.status = .established
  session_established : session.securityState = .established
  sessionId : client.sessionId = session.appSessionId
  keys : client.keys = session.keys
  clientNoncePrefix : session.keys.clientNoncePrefix.length = 4
  serverNoncePrefix : session.keys.serverNoncePrefix.length = 4
  apart : (session.keys.clientToServerKey, session.keys.clientNoncePrefix) ≠
    (session.keys.serverToClientKey, session.keys.serverNoncePrefix)
  client_fresh : client.sendSequence = 0 ∧ client.receiveSequence = 0
  session_fresh : session.sendSequence = 0 ∧ session.receiveSequence = 0

end Link

def LinkEvent.Authentic (ssl : OpenSsl) (proto : AppProto) (link : Link) : LinkEvent → Prop
  | .toClient payload => link.client.status = .established →
      ∀ frame ∈ proto.frame.parse payload,
      let nonce := ClientSecureChannel.frameNonce link.client.keys.serverNoncePrefix frame.sequence
      let aad := link.client.frameAad frame.sequence
      ∀ plaintext ∈ ssl.gcmDecrypt link.client.keys.serverToClientKey nonce aad frame.ciphertext
        frame.tag,
      ⟨link.client.keys.serverToClientKey, nonce, aad, plaintext⟩ ∈ link.sealed
  | .toServer _ _ payload => link.session.securityState = .established →
      ∀ frame ∈ proto.frame.parse payload,
      let nonce := link.session.keys.clientNoncePrefix ++ u64Be frame.sequence
      let aad := SessionChannel.frameAad link.session.appSessionId frame.sequence
      ∀ plaintext ∈ ssl.gcmDecrypt link.session.keys.clientToServerKey nonce aad frame.ciphertext
        frame.tag,
      ⟨link.session.keys.clientToServerKey, nonce, aad, plaintext⟩ ∈ link.sealed
  | _ => True

instance (ssl : OpenSsl) (proto : AppProto) (link : Link) (event : LinkEvent) :
    Decidable (event.Authentic ssl proto link) :=
  match event with
  | .toClient _ => inferInstanceAs (Decidable (_ → _))
  | .toServer .. => inferInstanceAs (Decidable (_ → _))
  | .clientEncrypt .. | .serverDeliver .. | .serverHello _ | .serverFinished _ | .reset | .closed =>
      inferInstanceAs (Decidable True)

/-! One direction of a link. -/

structure Direction where
  key : Bytes
  noncePrefix : Bytes
  sessionId : Bytes

namespace Direction

def item (direction : Direction) (sequence : UInt64) (inner : UInt32 × Bytes) : Sealed :=
  ⟨direction.key, direction.noncePrefix ++ u64Be sequence,
    SessionChannel.frameAad direction.sessionId sequence, encodeType32 inner.1 ++ inner.2⟩

def uses (direction : Direction) (count : Nat) : List (Bytes × Bytes) :=
  (List.range count).map fun index =>
    (direction.key, direction.noncePrefix ++ u64Be (UInt64.ofNat (index + 1)))

def Holds (direction : Direction) (sent : List (UInt32 × Bytes)) (item : Sealed) : Prop :=
  ∃ index inner, sent[index]? = some inner ∧ index + 1 < UInt64.size ∧
    item = direction.item (UInt64.ofNat (index + 1)) inner

variable {direction : Direction} {sent accepted : List (UInt32 × Bytes)}

theorem uses_succ (direction : Direction) (count : Nat) :
    direction.uses (count + 1) = direction.uses count ++
      [(direction.key, direction.noncePrefix ++ u64Be (UInt64.ofNat (count + 1)))] := by
  simp [uses, List.range_succ]

theorem uses_nodup (direction : Direction) {count : Nat} (bounded : count < UInt64.size) :
    (direction.uses count).Nodup := by
  refine List.Nodup.map_on ?_ List.nodup_range
  intro left leftMember right rightMember same
  rw [List.mem_range] at leftMember rightMember
  simp only [Prod.mk.injEq, List.append_cancel_left_eq, true_and] at same
  have numbers := congrArg UInt64.toNat (u64Be_injective same)
  rw [UInt64.toNat_ofNat_of_lt' (by omega), UInt64.toNat_ofNat_of_lt' (by omega)] at numbers
  omega

theorem uses_disjoint {other : Direction} {count otherCount : Nat}
    (sized : direction.noncePrefix.length = other.noncePrefix.length)
    (apart : (direction.key, direction.noncePrefix) ≠ (other.key, other.noncePrefix)) :
    (direction.uses count).Disjoint (other.uses otherCount) := by
  intro used member otherMember
  obtain ⟨index, -, rfl⟩ := List.mem_map.mp member
  obtain ⟨otherIndex, -, same⟩ := List.mem_map.mp otherMember
  obtain ⟨keys, nonces⟩ := Prod.mk.injEq .. ▸ same
  exact apart (Prod.ext keys.symm (List.append_inj nonces.symm sized).1)

theorem Holds.mono {longer : List (UInt32 × Bytes)} {item : Sealed}
    (holds : direction.Holds sent item) (grown : sent <+: longer) :
    direction.Holds longer item := by
  obtain ⟨index, inner, found, bounded, made⟩ := holds
  obtain ⟨rest, rfl⟩ := grown
  have inside := (List.getElem?_eq_some_iff.mp found).1
  exact ⟨index, inner, (List.getElem?_append_left inside).trans found, bounded, made⟩

theorem Holds.last {inner : UInt32 × Bytes} (bounded : sent.length + 1 < UInt64.size) :
    direction.Holds (sent ++ [inner]) (direction.item (UInt64.ofNat (sent.length + 1)) inner) :=
  ⟨sent.length, inner, by simp, bounded, rfl⟩

theorem Holds.next {plaintext : Bytes} {sequence : UInt64}
    (holds : direction.Holds sent ⟨direction.key, direction.noncePrefix ++ u64Be sequence,
      SessionChannel.frameAad direction.sessionId sequence, plaintext⟩)
    (next : sequence.toNat = accepted.length + 1) (ordered : accepted <+: sent) :
    accepted ++ [(decodeType32 plaintext, plaintext.drop 4)] <+: sent := by
  obtain ⟨index, ⟨type, payload⟩, found, bounded, made⟩ := holds
  simp only [Direction.item, Sealed.mk.injEq, true_and, List.append_cancel_left_eq] at made
  obtain ⟨nonce, -, plain⟩ := made
  have place : index = accepted.length := by
    have numbers := congrArg UInt64.toNat (u64Be_injective nonce)
    rw [UInt64.toNat_ofNat_of_lt' bounded] at numbers
    omega
  rw [plain, decodeType32_encodeType32, List.drop_left' (by rfl)]
  obtain ⟨rest, rfl⟩ := ordered
  rw [place, List.getElem?_append_right (Nat.le_refl _), Nat.sub_self] at found
  obtain ⟨tail, rfl⟩ := List.head?_eq_some_iff.mp (List.head?_eq_getElem? ▸ found)
  exact ⟨tail, by simp⟩

theorem Holds.apart (direction : Direction) {other : Direction} {plaintext aad : Bytes}
    {sequence : UInt64}
    (holds : other.Holds sent
      ⟨direction.key, direction.noncePrefix ++ u64Be sequence, aad, plaintext⟩)
    (sized : direction.noncePrefix.length = other.noncePrefix.length) :
    (direction.key, direction.noncePrefix) = (other.key, other.noncePrefix) := by
  obtain ⟨index, inner, -, -, made⟩ := holds
  simp only [Direction.item, Sealed.mk.injEq] at made
  exact Prod.ext made.1 (List.append_inj made.2.1 sized).1

end Direction

/-! The invariant. -/

theorem next_ne (sequence : UInt64) : sequence + 1 ≠ sequence := by
  simp

theorem next_toNat {sequence : UInt64} (unspent : sequence ≠ maxSequence) :
    (sequence + 1).toNat = sequence.toNat + 1 ∧ sequence.toNat + 1 < UInt64.size := by
  have bound := sequence.toNat_lt
  have small : sequence.toNat ≠ UInt64.size - 1 := fun last => unspent (UInt64.toNat_inj.mp last)
  have size : UInt64.size = 2 ^ 64 := rfl
  rw [UInt64.toNat_add]
  exact ⟨Nat.mod_eq_of_lt (by change sequence.toNat + 1 < 2 ^ 64; omega), by omega⟩

theorem next_pos {sequence : UInt64} (unspent : sequence ≠ maxSequence) : sequence + 1 ≠ 0 := by
  intro zero
  have number := (next_toNat unspent).1
  simp [zero] at number

theorem ofNat_next {sequence : UInt64} {count : Nat} (same : count = sequence.toNat) :
    UInt64.ofNat (count + 1) = sequence + 1 := by
  rw [same, UInt64.ofNat_add, UInt64.ofNat_toNat]
  rfl

namespace Link

def toServer (session : SessionChannel) : Direction :=
  ⟨session.keys.clientToServerKey, session.keys.clientNoncePrefix, session.appSessionId⟩

def toClient (session : SessionChannel) : Direction :=
  ⟨session.keys.serverToClientKey, session.keys.serverNoncePrefix, session.appSessionId⟩

structure ClientFaithful (start : SessionChannel) (client : ClientSecureChannel)
    (uses : List (Bytes × Bytes)) (sent accepted : List (UInt32 × Bytes)) : Prop where
  keys : client.keys = start.keys
  sessionId : client.sessionId = start.appSessionId
  uses : uses = (toServer start).uses client.sendSequence.toNat
  sent : sent.length = client.sendSequence.toNat
  accepted : accepted.length = client.receiveSequence.toNat

/-- What holds of the session while it is established: `start` is the session at first. -/
structure SessionFaithful (start session : SessionChannel) (uses : List (Bytes × Bytes))
    (sent accepted : List (UInt32 × Bytes)) : Prop where
  keys : session.keys = start.keys
  sessionId : session.appSessionId = start.appSessionId
  uses : uses = (toClient start).uses session.sendSequence.toNat
  sent : sent.length = session.sendSequence.toNat
  accepted : accepted.length = session.receiveSequence.toNat

structure Faithful (start : SessionChannel) (link : Link) : Prop where
  client : link.client.status = .failed ∨ link.client.status = .notStarted ∨
    (link.client.status = .finishedSent ∨ link.client.status = .established) ∧
      ClientFaithful start link.client link.clientUses link.clientSent link.clientAccepted
  session : link.session.securityState = .closed ∨
    link.session.securityState = .established ∧
      SessionFaithful start link.session link.serverUses link.serverSent link.serverAccepted
  clientUses : ∃ count < UInt64.size, link.clientUses = (toServer start).uses count
  serverUses : ∃ count < UInt64.size, link.serverUses = (toClient start).uses count
  sealed : ∀ item ∈ link.sealed, (toServer start).Holds link.clientSent item ∨
    (toClient start).Holds link.serverSent item
  clientOrdered : link.clientAccepted <+: link.serverSent
  serverOrdered : link.serverAccepted <+: link.clientSent

section Steps

variable {ssl : OpenSsl} {proto : AppProto} {identity : AppIdentity}
variable {start : SessionChannel} {link : Link}

theorem Faithful.client_held (faithful : link.Faithful start)
    (established : link.client.status = .established) :
    ClientFaithful start link.client link.clientUses link.clientSent link.clientAccepted := by
  rcases faithful.client with failed | fresh | ⟨-, held⟩
  · simp [established] at failed
  · simp [established] at fresh
  · exact held

theorem clientEncrypt_faithful (faithful : link.Faithful start)
    (sized : start.keys.clientNoncePrefix.length = 4) (works : Bool) (type : UInt32)
    (payload : Bytes) :
    (link.step ssl proto identity (.clientEncrypt works type payload)).Faithful start := by
  have established_item (established : link.client.status = .established) :
      link.client.nextSealed type payload =
        (toServer start).item (link.client.sendSequence + 1) (type, payload) := by
    have held := faithful.client_held established
    simp only [ClientSecureChannel.nextSealed, Direction.item, toServer, held.keys,
      ClientSecureChannel.frameNonce_eq sized, ClientSecureChannel.frameAad_eq, held.sessionId]
  have uses (established : link.client.status = .established) :
      link.clientUses ++ [((toServer start).key,
        ((toServer start).item (link.client.sendSequence + 1) (type, payload)).nonce)] =
        (toServer start).uses (link.client.sendSequence.toNat + 1) := by
    rw [(faithful.client_held established).uses, Direction.uses_succ, ofNat_next rfl]
    rfl
  rcases link.client.encrypt_cases ssl proto works type payload with
    ⟨error, refused⟩ | ⟨established, unspent, failed⟩ | ⟨established, unspent, frame, encrypted⟩
  · unfold step
    simp only [refused, ClientSecureChannel.fail, ne_eq, not_true_eq_false, if_false,
      Option.isSome_none, Bool.false_eq_true]
    exact { faithful with client := .inl rfl }
  · obtain ⟨number, bounded⟩ := next_toNat unspent
    unfold step
    simp only [failed, established_item established, ClientSecureChannel.fail, ne_eq,
      next_ne, not_false_eq_true, if_true, Option.isSome_none, Bool.false_eq_true, if_false]
    exact { faithful with client := .inl rfl, clientUses := ⟨_, bounded, uses established⟩ }
  · obtain ⟨number, bounded⟩ := next_toNat unspent
    have held := faithful.client_held established
    unfold step
    simp only [encrypted, established_item established, ne_eq, next_ne, not_false_eq_true,
      if_true, Option.isSome_some]
    have grown : link.clientSent <+: link.clientSent ++ [(type, payload)] :=
      List.prefix_append _ _
    refine { faithful with
      client := .inr (.inr ⟨.inr established, { held with uses := ?_, sent := ?_ }⟩)
      clientUses := ⟨_, bounded, uses established⟩
      sealed := ?_
      serverOrdered := faithful.serverOrdered.trans grown }
    · rw [number]
      exact uses established
    · rw [List.length_append, held.sent, number]
      rfl
    · intro found member
      rcases List.mem_append.mp member with earlier | last
      · exact (faithful.sealed found earlier).imp_left fun holds => holds.mono grown
      · rw [List.mem_singleton.mp last, ← ofNat_next held.sent]
        exact .inl (.last (held.sent ▸ bounded))

theorem serverDeliver_faithful (faithful : link.Faithful start)
    (works : Bool) (type : UInt32) (payload : Bytes) :
    (link.step ssl proto identity (.serverDeliver works type payload)).Faithful start := by
  have established_item (established : link.session.securityState = .established) :
      ∃ held : SessionFaithful start link.session link.serverUses link.serverSent
          link.serverAccepted, link.session.nextSealed type payload =
        (toClient start).item (link.session.sendSequence + 1) (type, payload) := by
    rcases faithful.session with closed | ⟨-, held⟩
    · simp [established] at closed
    · refine ⟨held, ?_⟩
      simp only [SessionChannel.nextSealed, Direction.item, toClient, held.keys, held.sessionId]
  rcases link.session.deliver_cases ssl proto works type payload with
    plain | refused | ⟨established, unspent, failed⟩ | ⟨established, unspent, frame, encrypted⟩
  · unfold step
    simp only [plain, ne_eq, not_true_eq_false, if_false, false_and]
    exact faithful
  · unfold step
    simp only [refused, SessionChannel.failApplicationHandshake, ne_eq, not_true_eq_false,
      if_false, false_and]
    exact { faithful with session := .inl rfl }
  · obtain ⟨held, item⟩ := established_item established
    obtain ⟨number, bounded⟩ := next_toNat unspent
    unfold step
    simp only [failed, item, SessionChannel.failApplicationHandshake, ne_eq, next_ne,
      not_false_eq_true, if_true, Option.isSome_none, Bool.false_eq_true, and_false, if_false]
    refine { faithful with session := .inl rfl, serverUses := ⟨_, bounded, ?_⟩ }
    rw [held.uses, Direction.uses_succ, ofNat_next rfl]
    rfl
  · obtain ⟨held, item⟩ := established_item established
    obtain ⟨number, bounded⟩ := next_toNat unspent
    unfold step
    simp only [encrypted, item, ne_eq, next_ne, not_false_eq_true, if_true,
      Option.isSome_some, and_true]
    have grown : link.serverSent <+: link.serverSent ++ [(type, payload)] :=
      List.prefix_append _ _
    have uses : link.serverUses ++ [((toClient start).key,
        ((toClient start).item (link.session.sendSequence + 1) (type, payload)).nonce)] =
        (toClient start).uses (link.session.sendSequence.toNat + 1) := by
      rw [held.uses, Direction.uses_succ, ofNat_next rfl]
      rfl
    refine { faithful with
      session := .inr ⟨established, { held with uses := ?_, sent := ?_ }⟩
      serverUses := ⟨_, bounded, uses⟩
      sealed := ?_
      clientOrdered := faithful.clientOrdered.trans grown }
    · rw [number]
      exact uses
    · rw [List.length_append, held.sent, number]
      rfl
    · intro found member
      rcases List.mem_append.mp member with earlier | last
      · exact (faithful.sealed found earlier).imp_right fun holds => holds.mono grown
      · rw [List.mem_singleton.mp last, ← ofNat_next held.sent]
        exact .inr (.last (held.sent ▸ bounded))

theorem toClient_faithful (faithful : link.Faithful start)
    (sized : start.keys.clientNoncePrefix.length = 4)
    (sizedBack : start.keys.serverNoncePrefix.length = 4)
    (apart : (start.keys.clientToServerKey, start.keys.clientNoncePrefix) ≠
      (start.keys.serverToClientKey, start.keys.serverNoncePrefix)) {payload : Bytes}
    (authentic : LinkEvent.Authentic ssl proto link (.toClient payload)) :
    (link.step ssl proto identity (.toClient payload)).Faithful start := by
  rcases link.client.decrypt_cases ssl proto payload with
    ⟨error, refused⟩ | ⟨frame, plaintext, established, parsed, sound, opened, accepted⟩
  · unfold step
    simp only [refused, ClientSecureChannel.fail, Option.toList_none, List.append_nil]
    exact { faithful with client := .inl rfl }
  · obtain ⟨unspent, next⟩ := ClientSecureChannel.checkFrame_next sound
    have held := faithful.client_held established
    have number : frame.sequence.toNat = link.clientAccepted.length + 1 := by
      rw [next, (next_toNat unspent).1, held.accepted]
    have member := authentic established frame parsed plaintext opened
    rw [held.keys, ClientSecureChannel.frameNonce_eq sizedBack, ClientSecureChannel.frameAad_eq,
      held.sessionId] at member
    unfold step
    simp only [accepted, Option.toList_some]
    rcases faithful.sealed _ member with wrong | holds
    · exact absurd (wrong.apart (toClient start) (sizedBack.trans sized.symm)).symm apart
    · refine { faithful with
        client := .inr (.inr ⟨.inr established, { held with accepted := ?_ }⟩)
        clientOrdered := holds.next number faithful.clientOrdered }
      rw [List.length_append, number]
      rfl

theorem toServer_faithful (faithful : link.Faithful start)
    (sized : start.keys.clientNoncePrefix.length = 4)
    (sizedBack : start.keys.serverNoncePrefix.length = 4)
    (apart : (start.keys.clientToServerKey, start.keys.clientNoncePrefix) ≠
      (start.keys.serverToClientKey, start.keys.serverNoncePrefix))
    {random : Option HelloRandomness} {type : UInt32} {payload : Bytes}
    (authentic : LinkEvent.Authentic ssl proto link (.toServer random type payload)) :
    (link.step ssl proto identity (.toServer random type payload)).Faithful start := by
  have refused (closed : link.session.readBody ssl proto identity random type payload =
      (none, link.session.failApplicationHandshake)) :
      (link.step ssl proto identity (.toServer random type payload)).Faithful start := by
    unfold step
    simp only [closed]
    exact { faithful with session := .inl rfl }
  rcases faithful.session with closed | ⟨established, held⟩
  · exact refused (SessionChannel.readBody_closed ssl proto closed identity random type payload)
  · rcases SessionChannel.readBody_established ssl proto established identity random type payload
      with wrongType | encrypted
    · exact refused wrongType
    · rcases link.session.handleEncryptedFrame_cases ssl proto payload with
        invalid | ⟨frame, plaintext, parsed, positive, next, opened, accepted⟩
      · exact refused (encrypted.trans invalid)
      · have number : frame.sequence.toNat = link.serverAccepted.length + 1 := by
          have unspent : link.session.receiveSequence ≠ maxSequence := by
            intro spent
            rw [next, spent] at positive
            exact positive rfl
          rw [next, (next_toNat unspent).1, held.accepted]
        have member := authentic established frame parsed plaintext opened
        rw [held.keys, held.sessionId] at member
        unfold step
        simp only [encrypted, accepted]
        rcases faithful.sealed _ member with holds | wrong
        · refine { faithful with
            session := .inr ⟨established, { held with accepted := ?_ }⟩
            serverOrdered := holds.next number faithful.serverOrdered }
          rw [List.length_append, number]
          rfl
        · exact absurd (wrong.apart (toServer start) (sized.trans sizedBack.symm)) apart

theorem serverHello_faithful (faithful : link.Faithful start) (payload : Bytes) :
    (link.step ssl proto identity (.serverHello payload)).Faithful start := by
  have late : link.client.status ≠ .helloSent := by
    rcases faithful.client with failed | fresh | ⟨finished | established, -⟩ <;> simp [*]
  unfold step
  simp only [ClientSecureChannel.handleServerHello, if_pos late]
  exact { faithful with client := .inl rfl }

theorem serverFinished_faithful (faithful : link.Faithful start) (payload : Bytes) :
    (link.step ssl proto identity (.serverFinished payload)).Faithful start := by
  rcases link.client.handleServerFinished_cases ssl proto payload with
    ⟨error, refused⟩ | ⟨-, waiting, -, -, verified⟩
  · unfold step
    simp only [refused]
    exact { faithful with client := .inl rfl }
  · unfold step
    simp only [verified]
    rcases faithful.client with failed | fresh | ⟨-, held⟩
    · simp [waiting] at failed
    · simp [waiting] at fresh
    · exact { faithful with client := .inr (.inr ⟨.inr rfl, { held with }⟩) }

theorem closed_faithful (faithful : link.Faithful start) :
    (link.step ssl proto identity .closed).Faithful start := by
  unfold step
  simp only [SessionChannel.onClosed]
  split
  · exact faithful
  · exact { faithful with session := .inl rfl }

end Steps

theorem Linked.faithful {client : ClientSecureChannel} {session : SessionChannel}
    (linked : Linked client session) : (Link.mk client session [] [] [] [] [] [] []).Faithful
      session where
  client := .inr (.inr ⟨linked.client_status, {
    keys := linked.keys
    sessionId := linked.sessionId
    uses := by simp [linked.client_fresh.1, Direction.uses]
    sent := by simp [linked.client_fresh.1]
    accepted := by simp [linked.client_fresh.2] }⟩)
  session := .inr ⟨linked.session_established, {
    keys := rfl
    sessionId := rfl
    uses := by simp [linked.session_fresh.1, Direction.uses]
    sent := by simp [linked.session_fresh.1]
    accepted := by simp [linked.session_fresh.2] }⟩
  clientUses := ⟨0, by decide, rfl⟩
  serverUses := ⟨0, by decide, rfl⟩
  sealed := nofun
  clientOrdered := List.prefix_rfl
  serverOrdered := List.prefix_rfl

theorem step_faithful {ssl : OpenSsl} {proto : AppProto} {identity : AppIdentity}
    {client : ClientSecureChannel} {start : SessionChannel} (linked : Linked client start)
    {link : Link} (faithful : link.Faithful start) (event : LinkEvent)
    (authentic : event.Authentic ssl proto link) :
    (link.step ssl proto identity event).Faithful start := by
  cases event with
  | clientEncrypt works type payload =>
      exact clientEncrypt_faithful faithful linked.clientNoncePrefix works type payload
  | serverDeliver works type payload => exact serverDeliver_faithful faithful works type payload
  | toClient payload =>
      exact toClient_faithful faithful linked.clientNoncePrefix linked.serverNoncePrefix
        linked.apart authentic
  | toServer random type payload =>
      exact toServer_faithful faithful linked.clientNoncePrefix linked.serverNoncePrefix
        linked.apart authentic
  | serverHello payload => exact serverHello_faithful faithful payload
  | serverFinished payload => exact serverFinished_faithful faithful payload
  | reset => exact { faithful with client := .inr (.inl rfl) }
  | closed => exact closed_faithful faithful

theorem Faithful.uses_nodup {client : ClientSecureChannel} {start : SessionChannel}
    (linked : Linked client start) {link : Link} (faithful : link.Faithful start) :
    (link.clientUses ++ link.serverUses).Nodup := by
  obtain ⟨clientCount, clientBounded, clientUses⟩ := faithful.clientUses
  obtain ⟨serverCount, serverBounded, serverUses⟩ := faithful.serverUses
  rw [clientUses, serverUses]
  exact List.Nodup.append (Direction.uses_nodup _ clientBounded)
    (Direction.uses_nodup _ serverBounded)
    (Direction.uses_disjoint (linked.clientNoncePrefix.trans linked.serverNoncePrefix.symm)
      linked.apart)

end Link

/-- In a run from two linked ends each side accepts a prefix of what the other one
encrypted, and no key and nonce are used twice. -/
theorem encryptedStream_run (ssl : OpenSsl) (proto : AppProto) (identity : AppIdentity)
    {client : ClientSecureChannel} {session : SessionChannel} (linked : Link.Linked client session)
    {events : List LinkEvent} {link : Link}
    (run : Run (fun before event after => before.step ssl proto identity event = after ∧
      event.Authentic ssl proto before) { client, session } events link) :
    link.serverAccepted <+: link.clientSent ∧ link.clientAccepted <+: link.serverSent ∧
      (link.clientUses ++ link.serverUses).Nodup := by
  have preserved (before : Link) (event : LinkEvent) (after : Link)
      (faithful : before.Faithful session)
      (taken : before.step ssl proto identity event = after ∧ event.Authentic ssl proto before) :
      after.Faithful session := by
    obtain ⟨rfl, authentic⟩ := taken
    exact Link.step_faithful linked faithful event authentic
  have faithful : link.Faithful session := run.invariant linked.faithful preserved
  exact ⟨faithful.serverOrdered, faithful.clientOrdered, faithful.uses_nodup linked⟩

def Golden.stream : List LinkEvent :=
  [.clientEncrypt true heartbeatRqType (ascii "jitong-golden-payload"),
    .toServer none appEncryptedFrameType framePayload,
    .toServer none appEncryptedFrameType framePayload]

def Golden.link : Link := { client, session }

theorem encryptedStream_run_golden :
    let step := Link.step Golden.ssl Golden.proto Golden.identity
    let link := Golden.stream.foldl step Golden.link
    link.serverAccepted = [(heartbeatRqType, ascii "jitong-golden-payload")] ∧
      link.session.securityState = .closed ∧
      link.serverAccepted <+: link.clientSent ∧ link.clientAccepted <+: link.serverSent ∧
      (link.clientUses ++ link.serverUses).Nodup := by
  have linked : Link.Linked Golden.client Golden.session := {
    client_status := by decide +kernel
    session_established := by decide +kernel
    sessionId := by decide +kernel
    keys := by decide +kernel
    clientNoncePrefix := by decide +kernel
    serverNoncePrefix := by decide +kernel
    apart := by decide +kernel
    client_fresh := by decide +kernel
    session_fresh := by decide +kernel }
  let step := Link.step Golden.ssl Golden.proto Golden.identity
  have passed : guarded step
      (fun link event => decide (event.Authentic Golden.ssl Golden.proto link)) Golden.link
      Golden.stream = true := by decide +kernel
  have run : Run (fun before event after => step before event = after ∧
      event.Authentic Golden.ssl Golden.proto before) Golden.link Golden.stream
      (Golden.stream.foldl step Golden.link) :=
    Run.of_guarded (fun _ _ allowed => ⟨rfl, of_decide_eq_true allowed⟩) passed
  exact ⟨by decide +kernel, by decide +kernel,
    encryptedStream_run Golden.ssl Golden.proto Golden.identity linked run⟩

end Jitong
