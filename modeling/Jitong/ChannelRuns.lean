import Jitong.ChannelAgreement
import Jitong.EncryptedStream

/-!
Runs of the client channel and the sessions: every step keeps what both sides know, so
that two established ends agree, and no frame out of order goes unpunished.
-/

namespace Jitong

open Lib

namespace ChannelWorld

structure Sound (ssl : OpenSsl) (proto : AppProto) (identity : AppIdentity)
    (world : ChannelWorld) : Prop where
  server : ServerSound ssl proto identity world.sessions world.exchanges world.serverMacs
    world.finished
  client : ClientSound ssl proto identity world.client world.attempts world.finished
    world.exchanges world.serverMacs

section Macs

variable {ssl : OpenSsl} {proto : AppProto} {identity : AppIdentity} {world : ChannelWorld}

theorem Sound.transcriptHash_length (sound : world.Sound ssl proto identity) :
    (∀ copy ∈ world.finished, copy.2.transcriptHash.length = 32) ∧
      ∀ entry ∈ world.exchanges, entry.2.session.transcriptHash.length = 32 := by
  constructor
  · intro copy member
    rw [(sound.client.copies copy member).2.transcriptHash]
    exact ssl.sha256_length _
  · intro entry member
    rw [(sound.server.made entry member).transcriptHash]
    exact ssl.sha256_length _

theorem Sound.issued_long (sound : world.Sound ssl proto identity) {key message : Bytes}
    (issued : world.Issued key message) (long : message.length = 64) :
    ∃ mac ∈ world.serverMacs, mac.2 = (key, message) := by
  rcases issued with server | client
  · exact List.mem_map.mp server
  · obtain ⟨copy, member, same⟩ := List.mem_map.mp client
    have size := sound.transcriptHash_length.1 copy member
    rw [(Prod.mk.inj same).2, long] at size
    omega

theorem Sound.issued_short (sound : world.Sound ssl proto identity) {key message : Bytes}
    (issued : world.Issued key message) (short : message.length = 32) :
    ∃ copy ∈ world.finished, copy.2.transcriptHash = message := by
  rcases issued with server | client
  · obtain ⟨mac, member, same⟩ := List.mem_map.mp server
    obtain ⟨-, exchange, found, computed⟩ := sound.server.macs mac member
    have size := sound.transcriptHash_length.2 _ found
    have message := congrArg (fun pair => pair.2.length) (computed.symm.trans same)
    simp only [Exchange.serverMac, List.length_append, SessionChannel.expectedVerify,
      ssl.hmacSha256_length, size, short] at message
    omega
  · obtain ⟨copy, member, same⟩ := List.mem_map.mp client
    exact ⟨copy, member, (Prod.mk.inj same).2⟩

theorem Sound.current_copy (sound : world.Sound ssl proto identity)
    (sent : world.client.status = .finishedSent ∨ world.client.status = .established) :
    ∃ copy ∈ world.finished, copy.1 = world.attempts ∧
      world.client.values = copy.2.values ∧
      copy.2.FinishedSent ssl proto identity world.exchanges := by
  obtain ⟨copy, member, latest⟩ := sound.client.sent sent
  exact ⟨copy, member, latest, (sound.client.current copy member latest).1,
    (sound.client.copies copy member).2⟩

theorem Sound.agreement (sound : world.Sound ssl proto identity)
    (collisionFree : world.CollisionFree ssl) {copy : Nat × ClientSecureChannel}
    (member : copy ∈ world.finished) {entry : Nat × Exchange} (found : entry ∈ world.exchanges)
    (same : entry.2.session.transcriptHash = copy.2.transcriptHash) :
    Agreement copy.2 entry.2 :=
  (sound.client.copies copy member).2.agrees sound.server.made (sound.server.made entry found)
    (collisionFree copy member entry found) same

end Macs

section Steps

variable {ssl : OpenSsl} {proto : AppProto} {identity : AppIdentity} {world : ChannelWorld}

theorem hello_sound (sound : world.Sound ssl proto identity)
    {privateKey nonce randomId : Option Bytes}
    (ideal : ChannelEvent.Ideal ssl proto identity world (.hello privateKey nonce randomId)) :
    (world.step ssl proto identity (.hello privateKey nonce randomId)).Sound ssl proto
      identity := by
  refine ⟨sound.server, ?_⟩
  rcases world.client.buildClientHello_cases ssl proto privateKey nonce randomId with
    ⟨after, failed, missing⟩ |
    ⟨clientPriv, drawn, clientNonce, drawnNonce, clientRandomId, drawnId, built⟩
  · unfold step
    simp only [missing]
    exact sound.client.restarted (by simp [failed]) (by simp [failed])
  · unfold step
    simp only [built]
    exact sound.client.restarted ⟨nofun, nofun⟩ fun _ =>
      ⟨rfl, ideal clientPriv drawn clientNonce drawnNonce clientRandomId drawnId⟩

theorem serverHello_sound (sound : world.Sound ssl proto identity) {payload : Bytes}
    (ideal : ChannelEvent.Ideal ssl proto identity world (.serverHello payload)) :
    (world.step ssl proto identity (.serverHello payload)).Sound ssl proto identity := by
  rcases world.client.handleServerHello_cases ssl proto payload with
    ⟨after, failed, cause, lost⟩ | ⟨hello, keys, waiting, parsed, accepted, sent⟩
  · unfold step
    simp only [lost]
    refine ⟨sound.server, ?_⟩
    rcases cause with waiting | rfl
    · exact sound.client.lost waiting failed
    · exact sound.client.continues (world.client.fail_continues .badState)
  · unfold step
    simp only [sent, Option.isSome_some, if_true]
    refine ⟨sound.server.mono (List.subset_cons_self _ _),
      sound.client.sent_now waiting rfl ?_⟩
    obtain ⟨trusted, given, verified⟩ := accepted.verified
    exact {
      built := ⟨(sound.client.waiting waiting).clientPub, (sound.client.waiting waiting).parsed⟩
      parsed := ⟨hello, parsed, accepted.sized, rfl, rfl, rfl⟩
      signed := ideal waiting hello parsed trusted given verified
      transcriptHash := rfl
      derived := accepted.derived }

theorem serverFinished_sound (sound : world.Sound ssl proto identity)
    (collisionFree : world.CollisionFree ssl) {payload : Bytes}
    (ideal : ChannelEvent.Ideal ssl proto identity world (.serverFinished payload)) :
    (world.step ssl proto identity (.serverFinished payload)).Sound ssl proto identity := by
  rcases world.client.handleServerFinished_cases ssl proto payload with
    ⟨error, refused⟩ | ⟨finished, waiting, parsed, verified, confirmed⟩
  · unfold step
    simp only [refused]
    exact ⟨sound.server, sound.client.continues (world.client.fail_continues error)⟩
  · unfold step
    simp only [confirmed]
    refine ⟨sound.server, sound.client.confirmed waiting ?_⟩
    obtain ⟨copy, member, -, values, sent⟩ := sound.current_copy (.inl waiting)
    have hash : world.client.transcriptHash = copy.2.transcriptHash :=
      (congrArg ClientSecureChannel.transcriptHash values :)
    have hashSize := sound.transcriptHash_length.1 copy member
    have honest : world.client.serverPub ∈
        world.exchanges.map fun entry => ssl.x25519Public entry.2.random.privateKey := by
      obtain ⟨entry, found, -, publicKey⟩ := sent.signed_by
      have serverPub : world.client.serverPub = copy.2.serverPub :=
        (congrArg ClientSecureChannel.serverPub values :)
      exact List.mem_map.mpr ⟨entry, found, publicKey.trans serverPub.symm⟩
    have issued := ideal waiting finished parsed verified honest
    obtain ⟨mac, issuedMac, same⟩ := sound.issued_long issued (by
      rw [List.length_append, hash, hashSize, ClientSecureChannel.clientVerify,
        ssl.hmacSha256_length])
    obtain ⟨-, exchange, found, computed⟩ := sound.server.macs mac issuedMac
    have messages : exchange.session.transcriptHash ++ exchange.session.expectedVerify ssl =
        world.client.transcriptHash ++ world.client.clientVerify ssl :=
      (Prod.mk.inj (computed.symm.trans same)).2
    have sameHash := (List.append_inj messages (by
      rw [hash, hashSize]
      exact sound.transcriptHash_length.2 _ found)).1
    have agreed := sound.agreement collisionFree member found (sameHash.trans hash)
    exact ⟨_, found, List.mem_map.mpr ⟨mac, issuedMac, rfl⟩, agreed.of_values values⟩

theorem newExchange_of_state {number : Nat} (late : (world.sessions number).securityState ≠
    .waitClientHello) (random : Option HelloRandomness) (payload : Bytes)
    (result : Option SessionOutput × SessionChannel) :
    world.newExchange proto number random payload result = [] := by
  unfold newExchange
  generalize (world.sessions number).securityState = state at late ⊢
  cases state with
  | waitClientHello => exact absurd rfl late
  | tlsHandshake | waitClientFinished | established | closed => rfl

theorem newMac_of_state {number : Nat} (other : (world.sessions number).securityState ≠
    .waitClientFinished) (payload : Bytes) (result : Option SessionOutput × SessionChannel) :
    world.newMac proto number payload result = [] := by
  unfold newMac
  simp only
  generalize (world.sessions number).securityState = state at other ⊢
  cases state with
  | waitClientFinished => exact absurd rfl other
  | tlsHandshake | waitClientHello | established | closed => rfl

theorem new_of_none {number : Nat} (random : Option HelloRandomness) (payload : Bytes)
    (session : SessionChannel) :
    world.newExchange proto number random payload (none, session) = [] ∧
      world.newMac proto number payload (none, session) = [] := by
  unfold newExchange newMac
  simp only
  generalize (world.sessions number).securityState = state
  cases state <;> cases random <;> cases proto.clientHello.parse payload <;>
    cases proto.finished.parse payload <;> exact ⟨rfl, rfl⟩

theorem body_continues (sound : world.Sound ssl proto identity) {number : Nat}
    {random : Option HelloRandomness} {type : UInt32} {payload : Bytes}
    (continued : (world.sessions number).Continues
      ((world.sessions number).readBody ssl proto identity random type payload).2)
    (nothing : world.newExchange proto number random payload
        ((world.sessions number).readBody ssl proto identity random type payload) = [] ∧
      world.newMac proto number payload
        ((world.sessions number).readBody ssl proto identity random type payload) = []) :
    (world.step ssl proto identity (.body number random type payload)).Sound ssl proto identity := by
  unfold step
  simp only [setSession, nothing.1, nothing.2, List.nil_append]
  exact ⟨sound.server.continues continued, sound.client⟩

theorem body_sound (sound : world.Sound ssl proto identity)
    (collisionFree : world.CollisionFree ssl) {number : Nat} {random : Option HelloRandomness}
    {type : UInt32} {payload : Bytes}
    (ideal : ChannelEvent.Ideal ssl proto identity world (.body number random type payload)) :
    (world.step ssl proto identity (.body number random type payload)).Sound ssl proto identity := by
  have refused (failed : (world.sessions number).readBody ssl proto identity random type payload =
      (none, (world.sessions number).failApplicationHandshake)) :
      (world.step ssl proto identity (.body number random type payload)).Sound ssl proto
        identity := by
    refine body_continues sound ?_ ?_
    · rw [failed]
      exact SessionChannel.failApplicationHandshake_continues _
    · rw [failed]
      exact new_of_none random payload _
  rcases (world.sessions number).readBody_cases ssl proto identity random type payload with
    failed | ⟨early, -, short, read⟩ | ⟨waiting, -, read⟩ | ⟨established, -, read⟩
  · exact refused failed
  · rcases (world.sessions number).handleClientHello_cases ssl proto identity random payload with
      failed | ⟨hello, drawn, serverPayload, after, parsed, given, answer, sent⟩
    · exact refused (read.trans failed)
    · obtain ⟨serverPayloadMade, secret, shared, afterMade⟩ :=
        SessionChannel.answerHello_cases ssl proto answer
      have kept : proto.serverHello.parse serverPayload =
          some (SessionChannel.helloAnswer ssl identity drawn payload) := by
        rw [serverPayloadMade]
        exact ideal.1 early drawn given
      have noMac : (world.sessions number).securityState ≠ .waitClientFinished := by simp [early]
      unfold step
      simp only [setSession, read, sent, newMac_of_state noMac, List.nil_append]
      simp only [newExchange, early, given, parsed, List.cons_append, List.nil_append]
      have waits : after.securityState = .waitClientFinished := by rw [afterMade]
      let exchange : Exchange := ⟨payload, hello, drawn, serverPayload, after,
        hello.clientEphemeralPublicKey ∈ world.clientPublics⟩
      have made : exchange.Made ssl proto identity := {
        short
        parsed
        kept
        sessionId := by simp only [exchange, afterMade]
        transcriptHash := by
          simp only [exchange, afterMade]
          rfl
        keys := ⟨secret, shared, by simp only [exchange, afterMade]⟩ }
      exact ⟨sound.server.exchanged early made waits,
        sound.client.mono (List.subset_cons_self _ _) (List.Subset.refl _)⟩
  · rcases (world.sessions number).handleClientFinished_cases ssl proto payload with
      failed | ⟨finished, frame, parsed, verified, sent⟩
    · exact refused (read.trans failed)
    · have noExchange : (world.sessions number).securityState ≠ .waitClientHello := by
        simp [waiting]
      unfold step
      simp only [setSession, read, sent, newExchange_of_state noExchange, List.nil_append]
      simp only [newMac, waiting, parsed, List.cons_append, List.nil_append]
      refine ⟨sound.server.confirmed waiting verified ?_,
        sound.client.mono (List.Subset.refl _) (List.subset_cons_self _ _)⟩
      intro exchange member ours
      obtain ⟨-, hash, -⟩ := sound.server.matches_session member (by simp [waiting])
      have issued := ideal.2 waiting finished parsed verified ⟨_, member, rfl, ours⟩
      obtain ⟨copy, copied, same⟩ := sound.issued_short issued (by
        rw [hash]
        exact sound.transcriptHash_length.2 _ member)
      exact ⟨copy, copied, sound.agreement collisionFree copied member (hash.symm.trans same.symm)⟩
  · refine body_continues sound ?_ ⟨newExchange_of_state (by simp [established]) _ _ _,
      newMac_of_state (by simp [established]) _ _⟩
    rw [read]
    exact SessionChannel.handleEncryptedFrame_continues _ _

theorem step_sound (sound : world.Sound ssl proto identity)
    (collisionFree : world.CollisionFree ssl) (event : ChannelEvent)
    (ideal : event.Ideal ssl proto identity world) :
    (world.step ssl proto identity event).Sound ssl proto identity := by
  cases event with
  | trust keys => exact ⟨sound.server, sound.client.continues ⟨rfl, .inl rfl⟩⟩
  | hello privateKey nonce randomId => exact hello_sound sound ideal
  | reset => exact ⟨sound.server, sound.client.restarted ⟨nofun, nofun⟩ nofun⟩
  | serverHello payload => exact serverHello_sound sound ideal
  | serverFinished payload => exact serverFinished_sound sound collisionFree ideal
  | encrypt works type payload =>
      exact ⟨sound.server, sound.client.continues (world.client.encrypt_continues works type payload)⟩
  | decrypt payload =>
      exact ⟨sound.server, sound.client.continues (world.client.decrypt_continues payload)⟩
  | accept number =>
      unfold step
      dsimp only
      split
      · rename_i early
        exact ⟨sound.server.accepted early, sound.client⟩
      · exact sound
  | body number random type payload => exact body_sound sound collisionFree ideal
  | deliver number works type payload =>
      exact ⟨sound.server.continues ((world.sessions number).deliver_continues works type payload),
        sound.client⟩
  | closed number =>
      exact ⟨sound.server.continues (world.sessions number).onClosed_continues, sound.client⟩

theorem start_sound (ssl : OpenSsl) (proto : AppProto) (identity : AppIdentity)
    (keys : List (UInt32 × Bytes)) :
    (ChannelWorld.mk { identityKeys := keys } (fun _ => {}) [] [] [] 0 []).Sound ssl proto
      identity where
  server := {
    made := List.forall_mem_nil _
    held := List.forall_mem_nil _
    answered := by simp
    macs := List.forall_mem_nil _
    established := List.forall_mem_nil _ }
  client := {
    copies := fun _ member => absurd member List.not_mem_nil
    current := fun _ member => absurd member List.not_mem_nil
    waiting := nofun
    sent := by simp
    agreed := nofun }

end Steps

section Order

variable {ssl : OpenSsl} {proto : AppProto} {identity : AppIdentity} {world : ChannelWorld}

theorem serverHello_early (early : world.client.status ≠ .helloSent) (payload : Bytes) :
    (world.step ssl proto identity (.serverHello payload)).client.status = .failed := by
  unfold step
  simp only [ClientSecureChannel.handleServerHello, if_pos early]
  rfl

theorem serverFinished_early (early : world.client.status ≠ .finishedSent) (payload : Bytes) :
    (world.step ssl proto identity (.serverFinished payload)).client.status = .failed := by
  unfold step
  simp only [ClientSecureChannel.handleServerFinished, if_pos early]
  rfl

theorem body_unexpected {number : Nat} {type : UInt32}
    (unexpected : ¬(world.sessions number).Expects type) (random : Option HelloRandomness)
    (payload : Bytes) :
    ((world.step ssl proto identity (.body number random type payload)).sessions
      number).securityState = .closed := by
  unfold step
  simp only [setSession, Function.update_self]
  rcases (world.sessions number).readBody_cases ssl proto identity random type payload with
    refused | ⟨early, hello, -⟩ | ⟨waiting, finished, -⟩ | ⟨established, encrypted, -⟩
  · rw [refused]
    rfl
  · exact absurd (by rwa [SessionChannel.Expects, early]) unexpected
  · exact absurd (by rwa [SessionChannel.Expects, waiting]) unexpected
  · exact absurd (by rwa [SessionChannel.Expects, established]) unexpected

theorem step_failed (failed : world.client.status = .failed) {event : ChannelEvent}
    (goesOn : ¬event.Restarts) :
    (world.step ssl proto identity event).client.status = .failed := by
  have stays {after : ClientSecureChannel} (continued : world.client.Continues after) :
      after.status = .failed := by
    rcases continued.status with kept | now
    · exact kept.trans failed
    · exact now
  cases event with
  | hello | reset => exact absurd trivial goesOn
  | serverHello payload => exact serverHello_early (by simp [failed]) payload
  | serverFinished payload => exact serverFinished_early (by simp [failed]) payload
  | encrypt works type payload => exact stays (world.client.encrypt_continues works type payload)
  | decrypt payload => exact stays (world.client.decrypt_continues payload)
  | accept number =>
      unfold step
      dsimp only
      split <;> exact failed
  | trust | body | deliver | closed => exact failed

theorem step_closed {number : Nat} (closed : (world.sessions number).securityState = .closed)
    (event : ChannelEvent) :
    ((world.step ssl proto identity event).sessions number).securityState = .closed := by
  have updated {other : Nat} {after : SessionChannel}
      (stays : other = number → after.securityState = .closed) :
      (Function.update world.sessions other after number).securityState = .closed := by
    by_cases here : number = other
    · rw [here, Function.update_self]
      exact stays here.symm
    · rwa [Function.update_of_ne here]
  have continues {other : Nat} {after : SessionChannel}
      (continued : (world.sessions other).Continues after) :
      (Function.update world.sessions other after number).securityState = .closed := by
    refine updated fun here => ?_
    rcases continued.state with kept | now
    · rw [kept, here, closed]
    · exact now
  cases event with
  | accept other =>
      unfold step
      dsimp only
      split
      · rename_i early
        refine updated fun here => ?_
        simp [here, closed] at early
      · exact closed
  | body other random type payload =>
      refine updated fun here => ?_
      subst here
      rw [SessionChannel.readBody_closed ssl proto closed]
      rfl
  | deliver other works type payload =>
      exact continues ((world.sessions other).deliver_continues works type payload)
  | closed other => exact continues (world.sessions other).onClosed_continues
  | trust | hello | reset | serverHello | serverFinished | encrypt | decrypt => exact closed

end Order

end ChannelWorld

/-- An established client channel agrees with the session that took its hello and sent that
answer, an established session with the channel whose hello it took; a frame out of order
ends the handshake of the end that gets it. -/
theorem channelAgreement_run (ssl : OpenSsl) (proto : AppProto) (identity : AppIdentity)
    {keys : List (UInt32 × Bytes)} {events : List ChannelEvent} {world : ChannelWorld}
    (run : Run (ChannelWorld.IdealStep ssl proto identity) { client := { identityKeys := keys } }
      events world) :
    (world.client.status = .established → ∃ entry ∈ world.exchanges,
      Agreement world.client entry.2 ∧
      ((world.sessions entry.1).securityState = .established ∨
        (world.sessions entry.1).securityState = .closed) ∧
      ((world.sessions entry.1).closedNotified = true ∨
        entry.2.Matches (world.sessions entry.1))) ∧
    (∀ number, (world.sessions number).securityState = .established →
      ∃ exchange, (number, exchange) ∈ world.exchanges ∧
        exchange.Matches (world.sessions number) ∧
        (exchange.ours = true → ∃ copy ∈ world.finished, Agreement copy.2 exchange ∧
          (copy.1 = world.attempts → world.client.values = copy.2.values))) ∧
    (∀ payload, world.client.status ≠ .helloSent →
      (world.step ssl proto identity (.serverHello payload)).client.status = .failed) ∧
    (∀ payload, world.client.status ≠ .finishedSent →
      (world.step ssl proto identity (.serverFinished payload)).client.status = .failed) ∧
    (∀ number random type payload, ¬(world.sessions number).Expects type →
      ((world.step ssl proto identity (.body number random type payload)).sessions
        number).securityState = .closed) ∧
    ∀ later final, Run (fun before event after => before.step ssl proto identity event = after)
        world later final →
      (world.client.status = .failed → (∀ event ∈ later, ¬event.Restarts) →
        final.client.status = .failed) ∧
      ∀ number, (world.sessions number).securityState = .closed →
        (final.sessions number).securityState = .closed := by
  have preserved (before : ChannelWorld) (event : ChannelEvent) (after : ChannelWorld)
      (sound : before.Sound ssl proto identity)
      (taken : before.IdealStep ssl proto identity event after) :
      after.Sound ssl proto identity := by
    obtain ⟨rfl, ideal, collisionFree⟩ := taken
    exact ChannelWorld.step_sound sound collisionFree event ideal
  have sound : world.Sound ssl proto identity :=
    run.invariant (ChannelWorld.start_sound ssl proto identity keys) preserved
  refine ⟨?_, ?_, fun payload early => ChannelWorld.serverHello_early early payload,
    fun payload early => ChannelWorld.serverFinished_early early payload,
    fun number random type payload unexpected =>
      ChannelWorld.body_unexpected unexpected random payload, ?_⟩
  · intro established
    obtain ⟨entry, member, confirmed, agreed⟩ := sound.client.agreed established
    obtain ⟨mac, issued, same⟩ := List.mem_map.mp confirmed
    refine ⟨entry, member, agreed, same ▸ (sound.server.macs mac issued).1, ?_⟩
    exact (sound.server.held entry member).imp And.right And.right
  · intro number established
    obtain ⟨exchange, member⟩ := sound.server.answered number (.inr established)
    refine ⟨exchange, member, sound.server.matches_session member (by simp [established]), ?_⟩
    intro ours
    obtain ⟨copy, copied, agreed⟩ := sound.server.established _ member established ours
    exact ⟨copy, copied, agreed, fun latest => (sound.client.current copy copied latest).1⟩
  · intro later final laterRun
    constructor
    · intro failed goesOn
      induction laterRun with
      | nil => exact failed
      | snoc _ taken ih =>
          rw [← taken]
          exact ChannelWorld.step_failed (ih fun event member =>
            goesOn event (List.mem_append_left _ member)) (goesOn _ (by simp))
    · intro number closed
      have stays (before : ChannelWorld) (event : ChannelEvent) (after : ChannelWorld)
          (now : (before.sessions number).securityState = .closed)
          (taken : before.step ssl proto identity event = after) :
          (after.sessions number).securityState = .closed := by
        rw [← taken]
        exact ChannelWorld.step_closed now event
      exact laterRun.invariant closed stays

/-! The handshake of the golden vector. -/

namespace Golden

def untilFinished : List ChannelEvent :=
  [.hello (some clientPrivate) (some clientNonce) (some clientRandomId), .accept 0,
    .body 0 (some random) appClientHelloType clientPayload, .serverHello serverPayload,
    .body 0 none appClientFinishedType clientFinished]

def worldAfter (events : List ChannelEvent) : ChannelWorld :=
  events.foldl (ChannelWorld.step ssl proto identity) { client := trusting }

def idealSteps (events : List ChannelEvent) : Bool :=
  guarded (ChannelWorld.step ssl proto identity) (fun world event =>
    decide (event.Ideal ssl proto identity world ∧ world.CollisionFree ssl))
    { client := trusting } events

theorem worldAfter_run (events : List ChannelEvent) (ideal : idealSteps events = true) :
    Run (ChannelWorld.IdealStep ssl proto identity) { client := trusting } events
      (worldAfter events) :=
  Run.of_guarded (fun _ _ holds => ⟨rfl, of_decide_eq_true holds⟩) ideal

end Golden

theorem channelAgreement_run_golden :
    let world := Golden.worldAfter (Golden.untilFinished ++ [.serverFinished Golden.serverFinished])
    (world.sessions 0).securityState = .established ∧ ∃ entry ∈ world.exchanges,
      Agreement world.client entry.2 ∧
      ((world.sessions entry.1).securityState = .established ∨
        (world.sessions entry.1).securityState = .closed) ∧
      ((world.sessions entry.1).closedNotified = true ∨
        entry.2.Matches (world.sessions entry.1)) := by
  intro world
  have reached : Golden.idealSteps
        (Golden.untilFinished ++ [ChannelEvent.serverFinished Golden.serverFinished]) = true ∧
      world.client.status = .established ∧
      (world.sessions 0).securityState = .established := by
    decide +kernel
  have agreed := channelAgreement_run Golden.ssl Golden.proto Golden.identity
    (Golden.worldAfter_run _ reached.1)
  exact ⟨reached.2.2, agreed.1 reached.2.1⟩

namespace Golden

def closedEarly : List ChannelEvent := untilFinished ++ [.closed 0, .serverFinished serverFinished]

def resetEarly : List ChannelEvent :=
  untilFinished.dropLast ++ [.reset, .body 0 none appClientFinishedType clientFinished]

def otherClient : List ChannelEvent :=
  [.accept 0, .body 0 (some random) appClientHelloType clientPayload,
    .body 0 none appClientFinishedType clientFinished]

end Golden

theorem channelAgreement_disagrees :
    let step := ChannelWorld.IdealStep Golden.ssl Golden.proto Golden.identity
    let closed := Golden.worldAfter Golden.closedEarly
    let reset := Golden.worldAfter Golden.resetEarly
    let other := Golden.worldAfter Golden.otherClient
    (Run step { client := Golden.trusting } Golden.closedEarly closed ∧
      closed.client.status = .established ∧ ∀ entry ∈ closed.exchanges,
        (closed.sessions entry.1).transcriptHash ≠ closed.client.transcriptHash ∧
        (closed.sessions entry.1).keys ≠ closed.client.keys) ∧
    (Run step { client := Golden.trusting } Golden.resetEarly reset ∧
      (reset.sessions 0).securityState = .established ∧
      (reset.sessions 0).keys ≠ reset.client.keys) ∧
    Run step { client := Golden.trusting } Golden.otherClient other ∧
      (other.sessions 0).securityState = .established ∧ other.client = Golden.trusting := by
  intro step closed reset other
  have closedEarly : Golden.idealSteps Golden.closedEarly = true ∧
      closed.client.status = .established ∧ ∀ entry ∈ closed.exchanges,
        (closed.sessions entry.1).transcriptHash ≠ closed.client.transcriptHash ∧
        (closed.sessions entry.1).keys ≠ closed.client.keys := by
    decide +kernel
  have resetEarly : Golden.idealSteps Golden.resetEarly = true ∧
      (reset.sessions 0).securityState = .established ∧
      (reset.sessions 0).keys ≠ reset.client.keys := by
    decide +kernel
  have otherClient : Golden.idealSteps Golden.otherClient = true ∧
      (other.sessions 0).securityState = .established ∧ other.client = Golden.trusting := by
    decide +kernel
  exact ⟨⟨Golden.worldAfter_run _ closedEarly.1, closedEarly.2⟩,
    ⟨Golden.worldAfter_run _ resetEarly.1, resetEarly.2⟩,
    Golden.worldAfter_run _ otherClient.1, otherClient.2⟩

end Jitong
