import Jitong.ChannelWorld

/-!
The agreement of the two ends: what the client channel and the sessions of a world
know of each other's hellos, keys and Finished messages.
-/

namespace Jitong

open Lib

structure Agreement (client : ClientSecureChannel) (exchange : Exchange) : Prop where
  clientPayload : exchange.payload = client.clientPayload
  serverPayload : exchange.serverPayload = client.serverPayload
  sessionId : exchange.session.appSessionId = client.sessionId
  transcriptHash : exchange.session.transcriptHash = client.transcriptHash
  keys : exchange.session.keys = client.keys

namespace ClientSecureChannel

def values (channel : ClientSecureChannel) : ClientSecureChannel :=
  { channel with
    identityKeys := []
    status := .notStarted
    lastError := .none
    sendSequence := 0
    receiveSequence := 0 }

structure HelloBuilt (ssl : OpenSsl) (proto : AppProto) (channel : ClientSecureChannel) : Prop where
  clientPub : channel.clientPub = ssl.x25519Public channel.clientPriv
  parsed : proto.clientHello.parse channel.clientPayload = some {
    version := appSecurityVersion
    clientEphemeralPublicKey := channel.clientPub
    clientNonce := channel.clientNonce
    clientRandomId := channel.randomId
    cipherSuite := appCipher }

structure FinishedSent (ssl : OpenSsl) (proto : AppProto) (identity : AppIdentity)
    (exchanges : List (Nat × Exchange)) (channel : ClientSecureChannel) : Prop where
  built : channel.HelloBuilt ssl proto
  parsed : ∃ hello, proto.serverHello.parse channel.serverPayload = some hello ∧
    checkServerHello hello = none ∧ channel.serverPub = hello.serverEphemeralPublicKey ∧
    channel.serverNonce = hello.serverNonce ∧ channel.sessionId = hello.sessionId
  signed : channel.signingTranscript ∈ exchanges.map fun entry => entry.2.signed ssl identity
  transcriptHash : channel.transcriptHash = ssl.sha256 channel.transcriptInput
  derived : channel.deriveKeys ssl = some channel.keys

end ClientSecureChannel

namespace Exchange

structure Made (ssl : OpenSsl) (proto : AppProto) (identity : AppIdentity) (exchange : Exchange) :
    Prop where
  short : exchange.payload.length ≤ appMaxHandshakePayload
  parsed : proto.clientHello.parse exchange.payload = some exchange.hello
  kept : proto.serverHello.parse exchange.serverPayload =
    some (SessionChannel.helloAnswer ssl identity exchange.random exchange.payload)
  sessionId : exchange.session.appSessionId = exchange.random.sessionId
  transcriptHash : exchange.session.transcriptHash = ssl.sha256 exchange.transcriptInput
  keys : ∃ secret, x25519SharedSecret ssl exchange.random.privateKey
      exchange.hello.clientEphemeralPublicKey = some secret ∧
    exchange.session.keys = SessionChannel.sliceKeys (hkdfSha256 ssl secret
      (ssl.sha256 (exchange.hello.clientNonce ++ exchange.random.serverNonce))
      (ascii "jitong-app-channel-v1" ++ exchange.random.sessionId ++
        exchange.session.transcriptHash) 136)

def Matches (exchange : Exchange) (session : SessionChannel) : Prop :=
  session.appSessionId = exchange.session.appSessionId ∧
    session.transcriptHash = exchange.session.transcriptHash ∧
    session.keys = exchange.session.keys

def HeldBy (exchange : Exchange) (session : SessionChannel) : Prop :=
  (session.securityState = .closed ∧ session.closedNotified = true) ∨
    (session.securityState = .waitClientFinished ∨ session.securityState = .established ∨
      session.securityState = .closed) ∧ exchange.Matches session

end Exchange

section Agreement

variable {ssl : OpenSsl} {proto : AppProto} {identity : AppIdentity}

theorem Agreement.of_values {client other : ClientSecureChannel} {exchange : Exchange}
    (agreed : Agreement other exchange) (same : client.values = other.values) :
    Agreement client exchange where
  clientPayload := agreed.clientPayload.trans
    (congrArg ClientSecureChannel.clientPayload same).symm
  serverPayload := agreed.serverPayload.trans
    (congrArg ClientSecureChannel.serverPayload same).symm
  sessionId := agreed.sessionId.trans (congrArg ClientSecureChannel.sessionId same).symm
  transcriptHash := agreed.transcriptHash.trans
    (congrArg ClientSecureChannel.transcriptHash same).symm
  keys := agreed.keys.trans (congrArg ClientSecureChannel.keys same).symm

namespace ClientSecureChannel.FinishedSent

variable {exchanges : List (Nat × Exchange)} {channel : ClientSecureChannel}

theorem mono {longer : List (Nat × Exchange)}
    (sent : channel.FinishedSent ssl proto identity exchanges) (grown : exchanges ⊆ longer) :
    channel.FinishedSent ssl proto identity longer :=
  { sent with signed := List.map_subset _ grown sent.signed }

theorem signed_by (sent : channel.FinishedSent ssl proto identity exchanges) :
    ∃ entry ∈ exchanges, entry.2.payload = channel.clientPayload ∧
      ssl.x25519Public entry.2.random.privateKey = channel.serverPub := by
  obtain ⟨hello, -, sized, serverPub, serverNonce, sessionId⟩ := sent.parsed
  have lengths : channel.serverPub.length = 32 ∧ channel.serverNonce.length = 32 ∧
      channel.sessionId.length = 16 := by
    rw [serverPub, serverNonce, sessionId]
    exact checkServerHello_sizes sized
  obtain ⟨entry, member, same⟩ := List.mem_map.mp sent.signed
  rw [signingTranscript_eq] at same
  obtain ⟨payload, publicKey⟩ := SessionChannel.signingTranscript_injective
    ((ssl.x25519Public_length _).trans lengths.1.symm)
    (entry.2.random.serverNonce_length.trans lengths.2.1.symm)
    (entry.2.random.sessionId_length.trans lengths.2.2.symm) same
  exact ⟨entry, member, payload, publicKey⟩

theorem agrees (sent : channel.FinishedSent ssl proto identity exchanges)
    (made : ∀ entry ∈ exchanges, entry.2.Made ssl proto identity) {exchange : Exchange}
    (madeHere : exchange.Made ssl proto identity)
    (collisionFree : ssl.sha256 channel.transcriptInput = ssl.sha256 exchange.transcriptInput →
      channel.transcriptInput = exchange.transcriptInput)
    (same : exchange.session.transcriptHash = channel.transcriptHash) :
    Agreement channel exchange := by
  have small (payload : Bytes) (short : payload.length ≤ appMaxHandshakePayload) :
      payload.length < 2 ^ 32 := by
    simp only [appMaxHandshakePayload] at short
    omega
  obtain ⟨entry, member, payload, -⟩ := sent.signed_by
  have clientSmall : channel.clientPayload.length < 2 ^ 32 := by
    rw [← payload]
    exact small _ (made entry member).short
  have inputs : exchange.transcriptInput = channel.transcriptInput := by
    refine (collisionFree ?_).symm
    rw [← sent.transcriptHash, ← same, madeHere.transcriptHash]
  obtain ⟨clientPayload, serverPayload⟩ := SessionChannel.transcriptInput_injective
    (small _ madeHere.short) clientSmall inputs
  obtain ⟨hello, parsed, -, serverPub, serverNonce, sessionId⟩ := sent.parsed
  obtain rfl : SessionChannel.helloAnswer ssl identity exchange.random exchange.payload = hello := by
    rw [← serverPayload, madeHere.kept] at parsed
    exact Option.some.inj parsed
  have clientHello := sent.built.parsed
  rw [← clientPayload, madeHere.parsed] at clientHello
  have hello := Option.some.inj clientHello
  have idSame : exchange.random.sessionId = channel.sessionId := sessionId.symm
  have keys : exchange.session.keys = channel.keys := by
    obtain ⟨secret, shared, exchangeKeys⟩ := madeHere.keys
    have derived := sent.derived
    rw [hello, sent.built.clientPub, x25519SharedSecret_comm] at shared
    rw [deriveKeys_eq, serverPub, serverNonce, SessionChannel.helloAnswer, shared] at derived
    rw [exchangeKeys, hello, same, idSame]
    exact Option.some.inj derived
  exact ⟨clientPayload, serverPayload, madeHere.sessionId.trans idSame, same, keys⟩

end ClientSecureChannel.FinishedSent

end Agreement

/-! What a step keeps on the server's side. -/

structure SessionChannel.Continues (before after : SessionChannel) : Prop where
  state : after.securityState = before.securityState ∨ after.securityState = .closed
  notified : before.closedNotified = true → after.closedNotified = true
  values : (after.securityState = .closed ∧ after.closedNotified = true) ∨
    after.appSessionId = before.appSessionId ∧ after.transcriptHash = before.transcriptHash ∧
      after.keys = before.keys

namespace SessionChannel

variable {ssl : OpenSsl} {proto : AppProto} (session : SessionChannel)

theorem failApplicationHandshake_continues : session.Continues session.failApplicationHandshake :=
  ⟨.inr rfl, id, .inr ⟨rfl, rfl, rfl⟩⟩

theorem onClosed_continues : session.Continues session.onClosed := by
  unfold onClosed
  split
  · exact ⟨.inl rfl, id, .inr ⟨rfl, rfl, rfl⟩⟩
  · exact ⟨.inr rfl, fun _ => rfl, .inl ⟨rfl, rfl⟩⟩

theorem deliver_continues (works : Bool) (type : UInt32) (payload : Bytes) :
    session.Continues (session.deliver ssl proto works type payload).2 := by
  rcases session.deliver_cases ssl proto works type payload with
    plain | refused | ⟨-, -, failed⟩ | ⟨-, -, frame, encrypted⟩
  · rw [plain]
    exact ⟨.inl rfl, id, .inr ⟨rfl, rfl, rfl⟩⟩
  · rw [refused]
    exact session.failApplicationHandshake_continues
  · rw [failed]
    exact ⟨.inr rfl, id, .inr ⟨rfl, rfl, rfl⟩⟩
  · rw [encrypted]
    exact ⟨.inl rfl, id, .inr ⟨rfl, rfl, rfl⟩⟩

theorem handleEncryptedFrame_continues (payload : Bytes) :
    session.Continues (session.handleEncryptedFrame ssl proto payload).2 := by
  rcases session.handleEncryptedFrame_cases ssl proto payload with
    invalid | ⟨frame, plaintext, -, -, -, -, accepted⟩
  · rw [invalid]
    exact session.failApplicationHandshake_continues
  · rw [accepted]
    exact ⟨.inl rfl, id, .inr ⟨rfl, rfl, rfl⟩⟩

end SessionChannel

theorem Exchange.HeldBy.continues {exchange : Exchange} {before after : SessionChannel}
    (held : exchange.HeldBy before) (continued : before.Continues after) :
    exchange.HeldBy after := by
  rcases held with ⟨closed, notified⟩ | ⟨state, sessionId, transcriptHash, keys⟩
  · refine .inl ⟨?_, continued.notified notified⟩
    rcases continued.state with kept | now
    · exact kept.trans closed
    · exact now
  · rcases continued.values with erased | ⟨sameId, sameHash, sameKeys⟩
    · exact .inl erased
    · refine .inr ⟨?_, sameId.trans sessionId, sameHash.trans transcriptHash,
        sameKeys.trans keys⟩
      rcases continued.state with kept | now
      · rwa [kept]
      · exact .inr (.inr now)

def SessionChannel.Expects (session : SessionChannel) (type : UInt32) : Prop :=
  match session.securityState with
  | .waitClientHello => type = appClientHelloType
  | .waitClientFinished => type = appClientFinishedType
  | .established => type = appEncryptedFrameType
  | .tlsHandshake | .closed => False

structure ServerSound (ssl : OpenSsl) (proto : AppProto) (identity : AppIdentity)
    (sessions : Nat → SessionChannel) (exchanges : List (Nat × Exchange))
    (serverMacs : List (Nat × Bytes × Bytes)) (finished : List (Nat × ClientSecureChannel)) :
    Prop where
  made : ∀ entry ∈ exchanges, entry.2.Made ssl proto identity
  held : ∀ entry ∈ exchanges, entry.2.HeldBy (sessions entry.1)
  answered : ∀ number, (sessions number).securityState = .waitClientFinished ∨
    (sessions number).securityState = .established → ∃ exchange, (number, exchange) ∈ exchanges
  macs : ∀ mac ∈ serverMacs, ((sessions mac.1).securityState = .established ∨
      (sessions mac.1).securityState = .closed) ∧
    ∃ exchange, (mac.1, exchange) ∈ exchanges ∧ mac.2 = exchange.serverMac ssl
  established : ∀ entry ∈ exchanges, (sessions entry.1).securityState = .established →
    entry.2.ours = true → ∃ copy ∈ finished, Agreement copy.2 entry.2

namespace ServerSound

variable {ssl : OpenSsl} {proto : AppProto} {identity : AppIdentity}
variable {sessions : Nat → SessionChannel} {exchanges : List (Nat × Exchange)}
variable {serverMacs : List (Nat × Bytes × Bytes)} {finished : List (Nat × ClientSecureChannel)}

theorem mono (sound : ServerSound ssl proto identity sessions exchanges serverMacs finished)
    {longer : List (Nat × ClientSecureChannel)} (grown : finished ⊆ longer) :
    ServerSound ssl proto identity sessions exchanges serverMacs longer :=
  { sound with
    established := fun entry member established ours =>
      (sound.established entry member established ours).imp fun _ found =>
        ⟨grown found.1, found.2⟩ }

theorem continues
    (sound : ServerSound ssl proto identity sessions exchanges serverMacs finished)
    {number : Nat} {after : SessionChannel} (continued : (sessions number).Continues after) :
    ServerSound ssl proto identity (Function.update sessions number after) exchanges serverMacs
      finished where
  made := sound.made
  held entry member := by
    by_cases here : entry.1 = number
    · have held := sound.held entry member
      rw [here] at held ⊢
      rw [Function.update_self]
      exact held.continues continued
    · rw [Function.update_of_ne here]
      exact sound.held entry member
  answered other state := by
    by_cases here : other = number
    · rw [here, Function.update_self] at state
      rcases continued.state with kept | closed
      · rw [kept] at state
        exact here ▸ sound.answered number state
      · simp [closed] at state
    · rw [Function.update_of_ne here] at state
      exact sound.answered other state
  macs mac member := by
    obtain ⟨state, computed⟩ := sound.macs mac member
    refine ⟨?_, computed⟩
    by_cases here : mac.1 = number
    · rw [here] at state ⊢
      rw [Function.update_self]
      rcases continued.state with kept | closed
      · rwa [kept]
      · exact .inr closed
    · rwa [Function.update_of_ne here]
  established entry member := by
    by_cases here : entry.1 = number
    · rw [here, Function.update_self]
      intro established
      rcases continued.state with kept | closed
      · exact sound.established entry member (by rw [here, ← kept, established])
      · simp [established] at closed
    · rw [Function.update_of_ne here]
      exact sound.established entry member

theorem matches_session
    (sound : ServerSound ssl proto identity sessions exchanges serverMacs finished)
    {number : Nat} {exchange : Exchange} (member : (number, exchange) ∈ exchanges)
    (alive : (sessions number).securityState ≠ .closed) :
    exchange.Matches (sessions number) := by
  rcases sound.held _ member with ⟨closed, -⟩ | ⟨-, held⟩
  · exact absurd closed alive
  · exact held

theorem fresh (sound : ServerSound ssl proto identity sessions exchanges serverMacs finished)
    {number : Nat} (early : (sessions number).securityState = .tlsHandshake ∨
      (sessions number).securityState = .waitClientHello) :
    (∀ entry ∈ exchanges, entry.1 ≠ number) ∧ ∀ mac ∈ serverMacs, mac.1 ≠ number := by
  constructor
  · rintro entry member rfl
    rcases sound.held entry member with ⟨closed, -⟩ | ⟨waiting | established | closed, -⟩ <;>
      simp_all
  · rintro mac member rfl
    rcases (sound.macs mac member).1 with established | closed <;> simp_all

theorem accepted (sound : ServerSound ssl proto identity sessions exchanges serverMacs finished)
    {number : Nat} (early : (sessions number).securityState = .tlsHandshake) :
    ServerSound ssl proto identity
      (Function.update sessions number (sessions number).doHandshake) exchanges serverMacs
      finished := by
  obtain ⟨noExchange, noMac⟩ := sound.fresh (.inl early)
  refine { made := sound.made, held := ?_, answered := ?_, macs := ?_, established := ?_ }
  · intro entry member
    rw [Function.update_of_ne (noExchange entry member)]
    exact sound.held entry member
  · intro other state
    by_cases here : other = number
    · rw [here, Function.update_self] at state
      simp [SessionChannel.doHandshake] at state
    · rw [Function.update_of_ne here] at state
      exact sound.answered other state
  · intro mac member
    rw [Function.update_of_ne (noMac mac member)]
    exact sound.macs mac member
  · intro entry member
    rw [Function.update_of_ne (noExchange entry member)]
    exact sound.established entry member

theorem exchanged (sound : ServerSound ssl proto identity sessions exchanges serverMacs finished)
    {number : Nat} (early : (sessions number).securityState = .waitClientHello)
    {exchange : Exchange} (made : exchange.Made ssl proto identity)
    (waits : exchange.session.securityState = .waitClientFinished) :
    ServerSound ssl proto identity (Function.update sessions number exchange.session)
      ((number, exchange) :: exchanges) serverMacs finished := by
  obtain ⟨noExchange, noMac⟩ := sound.fresh (.inr early)
  refine { made := ?_, held := ?_, answered := ?_, macs := ?_, established := ?_ }
  · exact List.forall_mem_cons.mpr ⟨made, sound.made⟩
  · refine List.forall_mem_cons.mpr ⟨?_, fun entry member => ?_⟩
    · rw [Function.update_self]
      exact .inr ⟨.inl waits, rfl, rfl, rfl⟩
    · rw [Function.update_of_ne (noExchange entry member)]
      exact sound.held entry member
  · intro other state
    by_cases here : other = number
    · exact ⟨exchange, here ▸ List.mem_cons_self⟩
    · rw [Function.update_of_ne here] at state
      exact (sound.answered other state).imp fun _ member => List.mem_cons_of_mem _ member
  · intro mac member
    rw [Function.update_of_ne (noMac mac member)]
    obtain ⟨state, other, found, computed⟩ := sound.macs mac member
    exact ⟨state, other, List.mem_cons_of_mem _ found, computed⟩
  · refine List.forall_mem_cons.mpr ⟨?_, fun entry member => ?_⟩
    · rw [Function.update_self, waits]
      simp
    · rw [Function.update_of_ne (noExchange entry member)]
      exact sound.established entry member

theorem confirmed (sound : ServerSound ssl proto identity sessions exchanges serverMacs finished)
    {number : Nat} (waiting : (sessions number).securityState = .waitClientFinished)
    {verify : Bytes} (verified : verify = (sessions number).expectedVerify ssl)
    (agreed : ∀ exchange, (number, exchange) ∈ exchanges → exchange.ours = true →
      ∃ copy ∈ finished, Agreement copy.2 exchange) :
    ServerSound ssl proto identity
      (Function.update sessions number { sessions number with securityState := .established })
      exchanges ((number, (sessions number).keys.serverFinishedKey,
        (sessions number).transcriptHash ++ verify) :: serverMacs) finished := by
  have alive : (sessions number).securityState ≠ .closed := by simp [waiting]
  refine { made := sound.made, held := ?_, answered := ?_, macs := ?_, established := ?_ }
  · rintro ⟨other, exchange⟩ member
    by_cases here : other = number
    · subst here
      rw [Function.update_self]
      exact .inr ⟨.inr (.inl rfl), sound.matches_session member alive⟩
    · rw [Function.update_of_ne here]
      exact sound.held _ member
  · intro other state
    by_cases here : other = number
    · exact here ▸ sound.answered number (.inl waiting)
    · rw [Function.update_of_ne here] at state
      exact sound.answered other state
  · refine List.forall_mem_cons.mpr ⟨?_, fun mac member => ?_⟩
    · obtain ⟨exchange, member⟩ := sound.answered number (.inl waiting)
      obtain ⟨-, transcriptHash, keys⟩ := sound.matches_session member alive
      refine ⟨.inl (by rw [Function.update_self]), exchange, member, ?_⟩
      simp only [Exchange.serverMac, verified, SessionChannel.expectedVerify, transcriptHash, keys]
    · obtain ⟨state, computed⟩ := sound.macs mac member
      refine ⟨?_, computed⟩
      by_cases here : mac.1 = number
      · exact .inl (by rw [here, Function.update_self])
      · rwa [Function.update_of_ne here]
  · rintro ⟨other, exchange⟩ member
    by_cases here : other = number
    · subst here
      exact fun _ ours => agreed exchange member ours
    · rw [Function.update_of_ne here]
      exact sound.established _ member

end ServerSound

/-! What a step keeps on the client's side. -/

structure ClientSecureChannel.Continues (before after : ClientSecureChannel) : Prop where
  values : after.values = before.values
  status : after.status = before.status ∨ after.status = .failed

namespace ClientSecureChannel

variable {ssl : OpenSsl} {proto : AppProto} (channel : ClientSecureChannel)

theorem fail_continues (error : ClientError) : channel.Continues (channel.fail error) :=
  ⟨rfl, .inr rfl⟩

theorem encrypt_continues (works : Bool) (type : UInt32) (payload : Bytes) :
    channel.Continues (channel.encrypt ssl proto works type payload).2 := by
  rcases channel.encrypt_cases ssl proto works type payload with
    ⟨error, refused⟩ | ⟨-, -, failed⟩ | ⟨-, -, frame, encrypted⟩
  · rw [refused]
    exact channel.fail_continues error
  · rw [failed]
    exact ⟨rfl, .inr rfl⟩
  · rw [encrypted]
    exact ⟨rfl, .inl rfl⟩

theorem decrypt_continues (payload : Bytes) :
    channel.Continues (channel.decrypt ssl proto payload).2 := by
  rcases channel.decrypt_cases ssl proto payload with
    ⟨error, refused⟩ | ⟨frame, plaintext, -, -, -, -, accepted⟩
  · rw [refused]
    exact channel.fail_continues error
  · rw [accepted]
    exact ⟨rfl, .inl rfl⟩

theorem HelloBuilt.of_values {channel other : ClientSecureChannel}
    (built : other.HelloBuilt ssl proto) (same : channel.values = other.values) :
    channel.HelloBuilt ssl proto := by
  have moved : other.values.HelloBuilt ssl proto := ⟨built.clientPub, built.parsed⟩
  rw [← same] at moved
  exact ⟨moved.clientPub, moved.parsed⟩

end ClientSecureChannel

structure ClientSound (ssl : OpenSsl) (proto : AppProto) (identity : AppIdentity)
    (client : ClientSecureChannel) (attempts : Nat) (finished : List (Nat × ClientSecureChannel))
    (exchanges : List (Nat × Exchange)) (serverMacs : List (Nat × Bytes × Bytes)) : Prop where
  copies : ∀ copy ∈ finished, copy.1 ≤ attempts ∧
    copy.2.FinishedSent ssl proto identity exchanges
  current : ∀ copy ∈ finished, copy.1 = attempts →
    client.values = copy.2.values ∧ client.status ≠ .helloSent
  waiting : client.status = .helloSent → client.HelloBuilt ssl proto
  sent : client.status = .finishedSent ∨ client.status = .established →
    ∃ copy ∈ finished, copy.1 = attempts
  agreed : client.status = .established → ∃ entry ∈ exchanges,
    entry.1 ∈ serverMacs.map Prod.fst ∧ Agreement client entry.2

namespace ClientSound

variable {ssl : OpenSsl} {proto : AppProto} {identity : AppIdentity}
variable {client after : ClientSecureChannel} {attempts : Nat}
variable {finished : List (Nat × ClientSecureChannel)} {exchanges : List (Nat × Exchange)}
variable {serverMacs : List (Nat × Bytes × Bytes)}

theorem mono
    (sound : ClientSound ssl proto identity client attempts finished exchanges serverMacs)
    {longer : List (Nat × Exchange)} {more : List (Nat × Bytes × Bytes)}
    (grown : exchanges ⊆ longer) (grownMacs : serverMacs ⊆ more) :
    ClientSound ssl proto identity client attempts finished longer more :=
  { sound with
    copies := fun copy member =>
      ⟨(sound.copies copy member).1, (sound.copies copy member).2.mono grown⟩
    agreed := fun established => (sound.agreed established).imp fun _ found =>
      ⟨grown found.1, List.map_subset _ grownMacs found.2.1, found.2.2⟩ }

theorem continues
    (sound : ClientSound ssl proto identity client attempts finished exchanges serverMacs)
    (continued : client.Continues after) :
    ClientSound ssl proto identity after attempts finished exchanges serverMacs := by
  have status {state : ClientStatus} (alive : state ≠ .failed) (now : after.status = state) :
      client.status = state := by
    rcases continued.status with kept | failed
    · exact kept.symm.trans now
    · exact absurd (now.symm.trans failed) alive
  refine { copies := sound.copies, current := ?_, waiting := ?_, sent := ?_, agreed := ?_ }
  · intro copy member latest
    obtain ⟨values, late⟩ := sound.current copy member latest
    exact ⟨continued.values.trans values, fun now => late (status nofun now)⟩
  · exact fun now => (sound.waiting (status nofun now)).of_values continued.values
  · rintro (now | now)
    · exact sound.sent (.inl (status nofun now))
    · exact sound.sent (.inr (status nofun now))
  · intro now
    obtain ⟨entry, member, confirmed, agreed⟩ := sound.agreed (status nofun now)
    exact ⟨entry, member, confirmed, agreed.of_values continued.values⟩

theorem restarted
    (sound : ClientSound ssl proto identity client attempts finished exchanges serverMacs)
    (early : after.status ≠ .finishedSent ∧ after.status ≠ .established)
    (built : after.status = .helloSent → after.HelloBuilt ssl proto) :
    ClientSound ssl proto identity after (attempts + 1) finished exchanges serverMacs where
  copies copy member :=
    ⟨(sound.copies copy member).1.trans (Nat.le_succ _), (sound.copies copy member).2⟩
  current copy member latest := by
    have earlier := (sound.copies copy member).1
    omega
  waiting := built
  sent now := absurd now (not_or.mpr early)
  agreed now := absurd now early.2

theorem lost (sound : ClientSound ssl proto identity client attempts finished exchanges serverMacs)
    (waiting : client.status = .helloSent) (failed : after.status = .failed) :
    ClientSound ssl proto identity after attempts finished exchanges serverMacs where
  copies := sound.copies
  current copy member latest := absurd waiting (sound.current copy member latest).2
  waiting now := by simp [failed] at now
  sent now := by simp [failed] at now
  agreed now := by simp [failed] at now

theorem sent_now
    (sound : ClientSound ssl proto identity client attempts finished exchanges serverMacs)
    (waiting : client.status = .helloSent) (now : after.status = .finishedSent)
    (sent : after.FinishedSent ssl proto identity exchanges) :
    ClientSound ssl proto identity after attempts ((attempts, after) :: finished) exchanges
      serverMacs where
  copies := List.forall_mem_cons.mpr ⟨⟨Nat.le_refl _, sent⟩, sound.copies⟩
  current := List.forall_mem_cons.mpr ⟨fun _ => ⟨rfl, by simp [now]⟩, fun copy member latest =>
    absurd waiting (sound.current copy member latest).2⟩
  waiting early := by simp [now] at early
  sent _ := ⟨_, List.mem_cons_self, rfl⟩
  agreed late := by simp [now] at late

theorem confirmed
    (sound : ClientSound ssl proto identity client attempts finished exchanges serverMacs)
    (waiting : client.status = .finishedSent)
    (agreed : ∃ entry ∈ exchanges, entry.1 ∈ serverMacs.map Prod.fst ∧
      Agreement client entry.2) :
    ClientSound ssl proto identity { client with status := .established } attempts finished
      exchanges serverMacs where
  copies := sound.copies
  current copy member latest := ⟨(sound.current copy member latest).1, nofun⟩
  waiting := nofun
  sent _ := sound.sent (.inl waiting)
  agreed _ := agreed.imp fun _ found => ⟨found.1, found.2.1, found.2.2.of_values rfl⟩

end ClientSound

end Jitong
