import Jitong.ClientCore
import Jitong.EncryptedStream
import Jitong.FrameSize
import Jitong.TcpTransport

/-!
What `sendPacket` gets into the write queue of one open connection: the core encrypts on the IO
thread, and the transport takes or refuses what comes out.
-/

namespace Jitong

open Lib FrameCodec

structure CoreSender where
  core : ClientCore
  transport : TcpTransport
  queued : List Bytes := []

/-- `written` is the end of a write, `lost` that of the connection. -/
inductive SendEvent
  | sendPacket (type : UInt32) (payload : Bytes)
  | runPosted (works closes : Bool)
  | packet (type : UInt32) (payload : Bytes)
  | written (frame : Bytes) (result : OperationResult) (closes : Bool)
  | lost
  | close

def PostedWork.frame? : PostedWork → Option Bytes
  | enqueue frame => some frame
  | _ => none

def TcpTransport.waiting (transport : TcpTransport) : List Bytes :=
  transport.posted.filterMap PostedWork.frame?

namespace CoreSender

/-- `sendRawPacket` hands a body to the transport; where it is refused, that is logged. -/
def handOver (sender : CoreSender) (core : ClientCore) : CoreSender :=
  { sender with
    core
    transport := (core.outgoing.drop sender.core.outgoing.length).foldl
      (fun transport packet => (transport.send (encodeType32 packet.1 ++ packet.2)).2)
      sender.transport }

def sendPacket (sender : CoreSender) (type : UInt32) (payload : Bytes) : CoreSender :=
  let after := sender.handOver (sender.core.sendPacket type payload)
  if sender.core.established then { after with transport := after.transport.step .postToIo }
  else after

variable (ssl : OpenSsl) (proto : AppProto)

def runPosted (sender : CoreSender) (works closes : Bool) : CoreSender :=
  if !sender.transport.running then sender
  else
    match sender.transport.posted with
    | .task :: rest =>
        { sender with transport := { sender.transport with posted := rest } }.handOver
          (sender.core.runPosted ssl proto works)
    | .enqueue frame :: _ =>
        { sender with
          transport := sender.transport.step (.runPosted closes)
          queued :=
            if !sender.transport.isOpen ∨ sender.transport.closing then sender.queued
            else sender.queued ++ [frame] }
    | _ => { sender with transport := sender.transport.step (.runPosted closes) }

def packet (sender : CoreSender) (type : UInt32) (payload : Bytes) : CoreSender :=
  let after := sender.handOver
    ({ sender.core with isOpen := true }.dispatchPacket ssl proto type payload)
  if after.core.isOpen then after
  else { after with transport := after.transport.closeFromIo }

def step (sender : CoreSender) : SendEvent → CoreSender
  | .sendPacket type payload => sender.sendPacket type payload
  | .runPosted works closes => sender.runPosted ssl proto works closes
  | .packet type payload => sender.packet ssl proto type payload
  | .written frame result closes =>
      { sender with transport := sender.transport.step (.complete (.writing frame) result closes) }
  | .lost => { sender with transport := sender.transport.failClose }
  | .close => { sender with transport := sender.transport.closeFromIo }

end CoreSender

def sentFrame (proto : AppProto) (frame : AppEncryptedFrame) : Bytes :=
  let body := encodeType32 appEncryptedFrameType ++ proto.frame.serialize frame
  encodeLength (UInt32.ofNat body.length) ++ body

def encryptedFrames (frames : List Bytes) : List Bytes :=
  frames.filter fun frame => decodeType32 (frame.drop kLengthFieldSize) = appEncryptedFrameType

structure NumberedFrames (proto : AppProto) (sessionId : Bytes) (frames : List Bytes)
    (sent : List AppEncryptedFrame) : Prop where
  written : encryptedFrames frames = sent.map (sentFrame proto)
  numbers : sent.map (fun frame => frame.sequence.toNat) = List.range' 1 sent.length
  session : ∀ frame ∈ sent, frame.version = appSecurityVersion ∧ frame.sessionId = sessionId

namespace CoreSender

def Gapless (proto : AppProto) (sessionId : Bytes) (sender : CoreSender) : Prop :=
  ∃ sent, NumberedFrames proto sessionId sender.queued sent

def RefusesWhole (ssl : OpenSsl) (proto : AppProto) (sender : CoreSender) (event : SendEvent) :
    Prop :=
  ∀ works closes rest type payload others, event = .runPosted works closes →
    sender.transport.running = true → sender.transport.isOpen = true →
    sender.transport.posted = .task :: rest → sender.core.posted = (type, payload) :: others →
    sender.core.established = true →
    framable (sender.core.channel.sendSequence + 1) payload = false →
      (sender.step ssl proto event).core.channel.sendSequence = sender.core.channel.sendSequence

def fits (sender : CoreSender) : SendEvent → Bool
  | .runPosted .. =>
      match sender.transport.posted, sender.core.posted with
      | .task :: _, (_, payload) :: _ =>
          !sender.transport.running || !sender.transport.isOpen || !sender.core.established ||
            sender.core.channel.sendSequence = maxSequence ||
            framable (sender.core.channel.sendSequence + 1) payload
      | _, _ => true
  | _ => true

structure Opened (sender : CoreSender) : Prop where
  isOpen : sender.transport.isOpen = true
  closing : sender.transport.closing = false
  idle : encryptedFrames (sender.queued ++ sender.transport.waiting) = []
  established : sender.core.channel.status = .established
  sessionId : sender.core.channel.sessionId.length = 16
  fresh : sender.core.channel.sendSequence = 0
  unposted : sender.core.posted = []

end CoreSender

def SendEvent.Business : SendEvent → Prop
  | sendPacket type _ => isChannelType type = false
  | _ => True

namespace TcpTransport

structure Quiet (before after : TcpTransport) : Prop where
  waiting : after.waiting = before.waiting
  closing : after.closing = before.closing
  isOpen : after.isOpen = true → before.isOpen = true

variable {transport : TcpTransport}

theorem Quiet.refl : transport.Quiet transport := ⟨rfl, rfl, id⟩

theorem Quiet.trans {middle after : TcpTransport} (first : transport.Quiet middle)
    (second : middle.Quiet after) : transport.Quiet after :=
  ⟨second.waiting.trans first.waiting, second.closing.trans first.closing,
    first.isOpen ∘ second.isOpen⟩

theorem closeFromIo_quiet : transport.Quiet transport.closeFromIo := by
  unfold closeFromIo markClosed
  simp only
  split
  · exact ⟨rfl, rfl, by simp⟩
  · exact ⟨by simp [waiting, raiseGeneration, PostedWork.frame?], rfl, by simp⟩

theorem callBack_quiet (closes : Bool) : transport.Quiet (transport.callBack closes) := by
  cases closes with
  | false => exact .refl
  | true => exact closeFromIo_quiet

theorem doWrite_quiet : transport.Quiet transport.doWrite := by
  unfold doWrite
  split
  · exact .refl
  · split
    · exact .refl
    · exact ⟨rfl, rfl, id⟩

theorem shutdownSocket_quiet : transport.Quiet transport.shutdownSocket := by
  unfold shutdownSocket
  split
  · exact .refl
  · exact ⟨rfl, rfl, id⟩

theorem notifyClose_quiet : transport.Quiet transport.notifyClose := by
  unfold notifyClose
  simp only
  split <;> exact ⟨rfl, rfl, by simp⟩

theorem drainQueue_quiet (result : SendResult) : transport.Quiet (transport.drainQueue result) :=
  ⟨rfl, rfl, id⟩

theorem failClose_quiet : transport.Quiet transport.failClose := by
  unfold failClose
  split
  · exact .refl
  · have closed : transport.Quiet { transport with isOpen := false, state := .closed } :=
      ⟨rfl, rfl, by simp⟩
    exact ((closed.trans shutdownSocket_quiet).trans (drainQueue_quiet _)).trans notifyClose_quiet

theorem runWork_quiet (work : PostedWork) (closes : Bool) :
    transport.Quiet (transport.runWork work closes) := by
  cases work with
  | task => exact callBack_quiet closes
  | enqueue frame =>
      simp only [runWork]
      unfold runEnqueue
      split
      · have refused : transport.Quiet
            { transport with sent := transport.sent ++ [SendResult.cancelled] } := ⟨rfl, rfl, id⟩
        exact refused.trans (callBack_quiet closes)
      · have taken : transport.Quiet
            { transport with writeQueue := transport.writeQueue ++ [frame] } := ⟨rfl, rfl, id⟩
        simp only
        split
        · exact taken.trans doWrite_quiet
        · exact taken
  | shutdown => exact (drainQueue_quiet .cancelled).trans shutdownSocket_quiet
  | resolve generation => exact ⟨rfl, rfl, id⟩

theorem onWritten_quiet (succeeds closes : Bool) :
    transport.Quiet (transport.onWritten succeeds closes) := by
  have called (sent : List SendResult) :
      transport.Quiet ({ transport with writing := false, sent }.callBack closes) := by
    have idle : transport.Quiet { transport with writing := false, sent } := ⟨rfl, rfl, id⟩
    exact idle.trans (callBack_quiet closes)
  unfold onWritten
  simp only
  split
  · exact ((called _).trans (drainQueue_quiet _)).trans failClose_quiet
  · split
    · exact (called _).trans doWrite_quiet
    · split
      · exact (called _).trans shutdownSocket_quiet
      · exact called _

theorem written_quiet (frame : Bytes) (result : OperationResult) (closes : Bool) :
    transport.Quiet (transport.step (.complete (.writing frame) result closes)) := by
  simp only [step]
  split
  · exact .refl
  · have ended : transport.Quiet
        { transport with operations := transport.operations.erase (.writing frame) } :=
      ⟨rfl, rfl, id⟩
    exact ended.trans (onWritten_quiet _ closes)

theorem runPosted_quiet {work : PostedWork} {rest : List PostedWork}
    (runs : transport.running = true) (posted : transport.posted = work :: rest) (closes : Bool) :
    { transport with posted := rest }.Quiet (transport.step (.runPosted closes)) := by
  simp only [step, posted, runs, Bool.not_true, Bool.false_eq_true, if_false]
  exact runWork_quiet work closes

theorem send_taken {data : Bytes} (live : transport.isOpen = true)
    (long : kTypeFieldSize ≤ data.length) (short : data.length ≤ kMaxBodyLen.toNat) :
    (transport.send data).2 = { transport with posted := transport.posted ++
      [.enqueue (encodeLength (UInt32.ofNat data.length) ++ data)] } := by
  have some : data ≠ [] := by
    rintro rfl
    simp [kTypeFieldSize] at long
  have check : transport.sendCheck data = .ok := by
    unfold sendCheck
    rw [if_neg (by simp [live]), if_neg some, if_neg (by omega)]
  unfold send
  rw [check]

theorem send_refused {data : Bytes} (long : kMaxBodyLen.toNat < data.length) :
    (transport.send data).2 = transport := by
  have check : transport.sendCheck data ≠ .ok := by
    unfold sendCheck
    split
    · simp
    · split
      · simp
      · rw [if_pos (.inr long)]
        simp
  unfold send
  split
  · rename_i ok
    exact absurd ok check
  · rfl

theorem send_cases (transport : TcpTransport) (data : Bytes) :
    (transport.send data).2 = transport ∨
      (transport.send data).2 = { transport with posted := transport.posted ++
        [.enqueue (encodeLength (UInt32.ofNat data.length) ++ data)] } := by
  unfold send
  split
  · exact .inr rfl
  · exact .inl rfl

end TcpTransport

namespace ClientCore

variable {ssl : OpenSsl} {proto : AppProto} {core : ClientCore}

structure Holds (before after : ClientCore) : Prop where
  posted : after.posted = before.posted
  outgoing : after.outgoing = before.outgoing
  channel : after.channel.status = .failed ∨
    after.channel.status = before.channel.status ∧
      after.channel.sendSequence = before.channel.sendSequence ∧
      after.channel.sessionId = before.channel.sessionId

theorem dispatchBusiness_holds (core : ClientCore) (type : UInt32) (payload : Bytes) :
    core.Holds (core.dispatchBusiness type payload) := by
  unfold dispatchBusiness
  split
  · exact ⟨rfl, rfl, .inr ⟨rfl, rfl, rfl⟩⟩
  · split
    · exact ⟨rfl, rfl, .inr ⟨rfl, rfl, rfl⟩⟩
    · split <;> exact ⟨rfl, rfl, .inr ⟨rfl, rfl, rfl⟩⟩

theorem dispatchPacket_holds (ssl : OpenSsl) (proto : AppProto) (core : ClientCore)
    (finished : core.channel.status = .established ∨ core.channel.status = .failed) (type : UInt32)
    (payload : Bytes) :
    core.Holds (core.dispatchPacket ssl proto type payload) := by
  unfold dispatchPacket
  split
  · unfold handleAppServerHello
    rcases core.channel.handleServerHello_cases ssl proto payload with
      ⟨after, failed, _, same⟩ | ⟨_, _, waiting, _⟩
    · rw [same]
      exact ⟨rfl, rfl, .inl failed⟩
    · rcases finished with status | status <;> simp [status] at waiting
  · split
    · unfold handleAppServerFinished
      rcases core.channel.handleServerFinished_cases ssl proto payload with
        ⟨error, same⟩ | ⟨_, waiting, _⟩
      · rw [same]
        exact ⟨rfl, rfl, .inl rfl⟩
      · rcases finished with status | status <;> simp [status] at waiting
    · split
      · unfold handleAppEncryptedFrame
        split
        · exact ⟨rfl, rfl, .inr ⟨rfl, rfl, rfl⟩⟩
        · rcases core.channel.decrypt_cases ssl proto payload with
            ⟨error, same⟩ | ⟨frame, plaintext, _, _, _, _, same⟩
          · rw [same]
            exact ⟨rfl, rfl, .inl rfl⟩
          · simp only [same]
            obtain ⟨posted, outgoing, channel⟩ := dispatchBusiness_holds
              { core with
                channel := { core.channel with receiveSequence := frame.sequence }
                decrypted := core.decrypted ++ [(decodeType32 plaintext, plaintext.drop 4)] }
              (decodeType32 plaintext) (plaintext.drop 4)
            exact ⟨posted, outgoing, channel⟩
      · split
        · exact ⟨rfl, rfl, .inr ⟨rfl, rfl, rfl⟩⟩
        · exact dispatchBusiness_holds ..

end ClientCore

namespace ClientSecureChannel

variable {ssl : OpenSsl} {proto : AppProto} {channel : ClientSecureChannel} {innerType : UInt32}

theorem encrypt_tried (established : channel.status = .established)
    (business : isChannelType innerType = false) (unspent : channel.sendSequence ≠ maxSequence)
    (works : Bool) (payload : Bytes) :
    let sequence := channel.sendSequence + 1
    let after := { channel with sendSequence := sequence }
    channel.encrypt ssl proto works innerType payload =
      if works then
        (some (proto.frame.serialize (sealedFrame channel.sessionId sequence
          (ssl.gcmEncrypt channel.keys.clientToServerKey
            (frameNonce channel.keys.clientNoncePrefix sequence) (channel.frameAad sequence)
            (encodeType32 innerType ++ payload)))), after)
      else (none, after.fail .internal) := by
  intro sequence after
  unfold encrypt
  rw [if_neg (by simp [established]), if_neg (by simp [business]), if_neg unspent]
  cases works <;> rfl

theorem encrypt_spent (established : channel.status = .established)
    (business : isChannelType innerType = false) (spent : channel.sendSequence = maxSequence)
    (works : Bool) (payload : Bytes) :
    channel.encrypt ssl proto works innerType payload = (none, channel.fail .sequence) := by
  unfold encrypt
  rw [if_neg (by simp [established]), if_neg (by simp [business]), if_pos spent]

end ClientSecureChannel

namespace ClientCore

variable {ssl : OpenSsl} {proto : AppProto} {core : ClientCore}

theorem runPosted_cases (ssl : OpenSsl) (proto : AppProto) (core : ClientCore)
    (business : ∀ packet ∈ core.posted, isChannelType packet.1 = false) (works : Bool) :
    ((core.runPosted ssl proto works).posted = core.posted.tail ∧
      (core.runPosted ssl proto works).outgoing = core.outgoing ∧
      ((core.runPosted ssl proto works).channel.status = .failed ∨
        (core.runPosted ssl proto works).channel = core.channel)) ∨
    ∃ type payload rest key nonce aad, core.channel.status = .established ∧
      core.channel.sendSequence ≠ maxSequence ∧ core.posted = (type, payload) :: rest ∧
      core.runPosted ssl proto works =
        { core with
          posted := rest
          channel := { core.channel with sendSequence := core.channel.sendSequence + 1 }
        }.sendMade appEncryptedFrameType (proto.frame.serialize (sealedFrame
          core.channel.sessionId (core.channel.sendSequence + 1)
          (ssl.gcmEncrypt key nonce aad (encodeType32 type ++ payload)))) := by
  unfold runPosted
  split
  · rename_i none
    exact .inl ⟨by simp [none], rfl, .inr rfl⟩
  · rename_i type payload rest posted
    simp only
    split
    · exact .inl ⟨by simp [posted], rfl, .inr rfl⟩
    · rename_i established
      have established : core.channel.status = .established := by
        simpa [ClientCore.established] using established
      have inner : isChannelType type = false := business (type, payload) (by simp [posted])
      by_cases spent : core.channel.sendSequence = maxSequence
      · rw [ClientSecureChannel.encrypt_spent established inner spent]
        exact .inl ⟨by simp [posted], rfl, .inl rfl⟩
      · rw [ClientSecureChannel.encrypt_tried established inner spent]
        cases works with
        | false => exact .inl ⟨by simp [posted], rfl, .inl rfl⟩
        | true => exact .inr ⟨type, payload, rest, _, _, _, established, spent, posted, rfl⟩

variable {sessionId : Bytes}

theorem runPosted_number {type : UInt32} {payload : Bytes} {rest : List (UInt32 × Bytes)}
    (posted : core.posted = (type, payload) :: rest) (business : isChannelType type = false)
    (established : core.channel.status = .established) (works : Bool) :
    (core.runPosted ssl proto works).channel.sendSequence =
      if core.channel.sendSequence = maxSequence then core.channel.sendSequence
      else core.channel.sendSequence + 1 := by
  unfold runPosted
  rw [posted]
  simp only
  rw [if_neg (by simp [ClientCore.established, established])]
  by_cases spent : core.channel.sendSequence = maxSequence
  · rw [ClientSecureChannel.encrypt_spent established business spent, if_pos spent]
    rfl
  · rw [ClientSecureChannel.encrypt_tried established business spent, if_neg spent]
    cases works <;> rfl

/-- What holds of a core whose handshake is done: the channel is established or failed for good,
and the payloads on their way to it are those of its callers. -/
structure Settled (sessionId : Bytes) (core : ClientCore) : Prop where
  status : core.channel.status = .established ∨ core.channel.status = .failed
  sessionId : core.channel.status = .established → core.channel.sessionId = sessionId
  business : ∀ packet ∈ core.posted, isChannelType packet.1 = false

theorem Settled.sendPacket (settled : core.Settled sessionId) {type : UInt32}
    (business : isChannelType type = false) (payload : Bytes) :
    (core.sendPacket type payload).Settled sessionId := by
  unfold ClientCore.sendPacket
  split
  · refine ⟨settled.status, settled.sessionId, fun packet member => ?_⟩
    rcases List.mem_append.mp member with before | new
    · exact settled.business packet before
    · rw [List.mem_singleton.mp new]
      exact business
  · exact ⟨settled.status, settled.sessionId, settled.business⟩

theorem Settled.runPosted (settled : core.Settled sessionId) (works : Bool) :
    (core.runPosted ssl proto works).Settled sessionId := by
  rcases core.runPosted_cases ssl proto settled.business works with
    ⟨posted, _, failed | same⟩ | ⟨type, payload, rest, _, _, _, established, _, posted, after⟩
  · refine ⟨.inr failed, by simp [failed], ?_⟩
    rw [posted]
    exact fun packet member => settled.business packet (List.mem_of_mem_tail member)
  · refine ⟨by rw [same]; exact settled.status, by rw [same]; exact settled.sessionId, ?_⟩
    rw [posted]
    exact fun packet member => settled.business packet (List.mem_of_mem_tail member)
  · rw [after]
    refine ⟨settled.status, settled.sessionId, fun packet member => ?_⟩
    exact settled.business packet (posted ▸ List.mem_cons_of_mem _ member)

theorem Settled.holds (settled : core.Settled sessionId) {after : ClientCore}
    (holds : core.Holds after) :
    after.Settled sessionId := by
  obtain ⟨posted, _, channel⟩ := holds
  refine ⟨?_, ?_, by rw [posted]; exact settled.business⟩
  · rcases channel with failed | ⟨same, _⟩
    · exact .inr failed
    · rw [same]
      exact settled.status
  · intro established
    rcases channel with failed | ⟨same, _, sessionId⟩
    · simp [failed] at established
    · rw [sessionId]
      exact settled.sessionId (same ▸ established)

end ClientCore

theorem length_body (frame : Bytes) :
    (encodeType32 appEncryptedFrameType ++ frame).length = kTypeFieldSize + frame.length := by
  rw [List.length_append]
  rfl

section Numbers

variable {proto : AppProto} {sessionId : Bytes} {frames : List Bytes}
  {sent : List AppEncryptedFrame}

theorem encryptedFrames_append (first second : List Bytes) :
    encryptedFrames (first ++ second) = encryptedFrames first ++ encryptedFrames second :=
  List.filter_append ..

theorem drop_encodeLength (bodyLen : UInt32) (body : Bytes) :
    (encodeLength bodyLen ++ body).drop kLengthFieldSize = body := rfl

theorem encryptedFrames_sentFrame (frame : AppEncryptedFrame) :
    encryptedFrames [sentFrame proto frame] = [sentFrame proto frame] := by
  unfold encryptedFrames sentFrame
  rw [List.filter_cons_of_pos]
  · rfl
  · simp only [drop_encodeLength, decodeType32_encodeType32, decide_true]

theorem encryptedFrames_plain {type : UInt32} (business : isChannelType type = false)
    (bodyLen : UInt32) (payload : Bytes) :
    encryptedFrames [encodeLength bodyLen ++ (encodeType32 type ++ payload)] = [] := by
  have other : type ≠ appEncryptedFrameType := by
    rintro rfl
    revert business
    decide
  unfold encryptedFrames
  rw [List.filter_cons_of_neg]
  · rfl
  · simp only [drop_encodeLength, decodeType32_encodeType32, other, decide_false]
    simp

theorem NumberedFrames.front {others : List Bytes}
    (numbered : NumberedFrames proto sessionId (frames ++ others) sent) :
    ∃ first, NumberedFrames proto sessionId frames first := by
  obtain ⟨written, numbers, session⟩ := numbered
  rw [encryptedFrames_append] at written
  obtain ⟨first, second, rfl, left, _⟩ := List.append_eq_map_iff.mp written
  refine ⟨first, left.symm, ?_, fun frame member => session frame (List.mem_append_left _ member)⟩
  rw [List.map_append, List.length_append, ← List.range'_append] at numbers
  exact List.append_inj_left numbers (by simp)

theorem NumberedFrames.snoc (numbered : NumberedFrames proto sessionId frames sent)
    {frame : AppEncryptedFrame} (next : frame.sequence.toNat = sent.length + 1)
    (session : frame.version = appSecurityVersion ∧ frame.sessionId = sessionId) :
    NumberedFrames proto sessionId (frames ++ [sentFrame proto frame]) (sent ++ [frame]) := by
  refine ⟨?_, ?_, fun other member => ?_⟩
  · rw [encryptedFrames_append, numbered.written, encryptedFrames_sentFrame, List.map_append,
      List.map_singleton]
  · rw [List.map_append, numbered.numbers, List.map_singleton, next, List.length_append,
      List.length_singleton, List.range'_concat, Nat.one_mul, Nat.add_comm 1]
  · rcases List.mem_append.mp member with before | last
    · exact numbered.session other before
    · rw [List.mem_singleton.mp last]
      exact session

theorem NumberedFrames.plain (numbered : NumberedFrames proto sessionId frames sent) {frame : Bytes}
    (other : encryptedFrames [frame] = []) : NumberedFrames proto sessionId (frames ++ [frame]) sent :=
  ⟨by rw [encryptedFrames_append, other, List.append_nil, numbered.written], numbered.numbers,
    numbered.session⟩

end Numbers

namespace CoreSender

/-- While the connection is open, the frames in the queue and on their way carry the numbers up
to that of the channel. -/
structure Counted (proto : AppProto) (sessionId : Bytes) (sender : CoreSender) : Prop where
  gapless : sender.Gapless proto sessionId
  live : sender.transport.isOpen = true → sender.transport.closing = false ∧
    ∃ sent, NumberedFrames proto sessionId (sender.queued ++ sender.transport.waiting) sent ∧
      (sender.core.channel.status = .established →
        sender.core.channel.sendSequence.toNat = sent.length)

variable {ssl : OpenSsl} {proto : AppProto} {sessionId : Bytes} {sender : CoreSender}

theorem handOver_nothing (sender : CoreSender) {core : ClientCore}
    (quiet : core.outgoing = sender.core.outgoing) :
    sender.handOver core = { sender with core } := by
  unfold handOver
  rw [quiet, List.drop_length]
  rfl

theorem handOver_one (sender : CoreSender) {core : ClientCore} {type : UInt32} {payload : Bytes}
    (one : core.outgoing = sender.core.outgoing ++ [(type, payload)]) :
    sender.handOver core = { sender with
      core, transport := (sender.transport.send (encodeType32 type ++ payload)).2 } := by
  unfold handOver
  rw [one, List.drop_left]
  rfl

theorem Counted.quiet {transport : TcpTransport} {core : ClientCore}
    (counted : sender.Counted proto sessionId) (still : sender.transport.Quiet transport)
    (kept : core.channel.status = .established →
      sender.core.channel.status = .established ∧
        core.channel.sendSequence = sender.core.channel.sendSequence) :
    ({ sender with core, transport } : CoreSender).Counted proto sessionId := by
  refine ⟨counted.gapless, fun live => ?_⟩
  obtain ⟨unclosed, sent, numbered, number⟩ := counted.live (still.isOpen live)
  refine ⟨still.closing.trans unclosed, sent, ?_, fun established => ?_⟩
  · rw [show ({ sender with core, transport } : CoreSender).transport.waiting =
      sender.transport.waiting from still.waiting]
    exact numbered
  · obtain ⟨before, same⟩ := kept established
    rw [show ({ sender with core, transport } : CoreSender).core.channel.sendSequence =
      sender.core.channel.sendSequence from same]
    exact number before

theorem sendPacket_core (type : UInt32) (payload : Bytes) :
    (sender.sendPacket type payload).core = sender.core.sendPacket type payload := by
  unfold sendPacket
  split <;> rfl

theorem packet_core (type : UInt32) (payload : Bytes) :
    (sender.packet ssl proto type payload).core =
      { sender.core with isOpen := true }.dispatchPacket ssl proto type payload := by
  unfold packet
  simp only
  split <;> rfl

theorem runPosted_core (works closes : Bool) :
    (sender.runPosted ssl proto works closes).core = sender.core ∨
      (sender.runPosted ssl proto works closes).core = sender.core.runPosted ssl proto works := by
  unfold runPosted
  split
  · exact .inl rfl
  · split
    · exact .inr rfl
    · exact .inl rfl
    · exact .inl rfl

theorem step_settled (ssl : OpenSsl) (proto : AppProto) (settled : sender.core.Settled sessionId)
    {event : SendEvent}
    (business : event.Business) : (sender.step ssl proto event).core.Settled sessionId := by
  cases event with
  | sendPacket type payload =>
      simp only [step, sendPacket_core]
      exact settled.sendPacket business payload
  | runPosted works closes =>
      simp only [step]
      rcases sender.runPosted_core works closes with same | after
      · rw [same]
        exact settled
      · rw [after]
        exact settled.runPosted works
  | packet type payload =>
      simp only [step, packet_core]
      have opened : { sender.core with isOpen := true }.Settled sessionId :=
        ⟨settled.status, settled.sessionId, settled.business⟩
      exact opened.holds (ClientCore.dispatchPacket_holds ssl proto _ opened.status type payload)
  | written frame result closes => exact settled
  | lost => exact settled
  | close => exact settled

theorem sendPacket_eq (type : UInt32) (payload : Bytes) :
    sender.sendPacket type payload = { sender with
      core := sender.core.sendPacket type payload
      transport :=
        if sender.core.established then sender.transport.step .postToIo
        else (sender.transport.send (encodeType32 type ++ payload)).2 } := by
  unfold sendPacket
  cases established : sender.core.established with
  | true =>
      have quiet : (sender.core.sendPacket type payload).outgoing = sender.core.outgoing := by
        simp [ClientCore.sendPacket, established]
      rw [sender.handOver_nothing quiet]
      rfl
  | false =>
      have one : (sender.core.sendPacket type payload).outgoing =
          sender.core.outgoing ++ [(type, payload)] := by
        simp [ClientCore.sendPacket, ClientCore.sendRawPacket, established]
      rw [sender.handOver_one one]
      rfl

theorem Counted.sendPacket (counted : sender.Counted proto sessionId) {type : UInt32}
    (business : isChannelType type = false) (payload : Bytes) :
    (sender.sendPacket type payload).Counted proto sessionId := by
  have channel : (sender.core.sendPacket type payload).channel = sender.core.channel := by
    unfold ClientCore.sendPacket
    split <;> rfl
  rw [sendPacket_eq]
  split
  · refine counted.quiet ?_ fun status => ?_
    · exact ⟨by simp [TcpTransport.step, TcpTransport.waiting, PostedWork.frame?], rfl, id⟩
    · rw [channel] at status ⊢
      exact ⟨status, rfl⟩
  · rcases sender.transport.send_cases (encodeType32 type ++ payload) with same | posted
    · rw [same]
      refine counted.quiet .refl fun status => ?_
      rw [channel] at status ⊢
      exact ⟨status, rfl⟩
    · rw [posted]
      refine ⟨counted.gapless, fun live => ?_⟩
      obtain ⟨unclosed, sent, numbered, number⟩ := counted.live live
      refine ⟨unclosed, sent, ?_, by rw [channel]; exact number⟩
      have plain := numbered.plain (encryptedFrames_plain business
        (UInt32.ofNat (encodeType32 type ++ payload).length) payload)
      simpa [TcpTransport.waiting, PostedWork.frame?] using plain

theorem Counted.packet (counted : sender.Counted proto sessionId)
    (settled : sender.core.Settled sessionId)
    (type : UInt32) (payload : Bytes) :
    (sender.packet ssl proto type payload).Counted proto sessionId := by
  obtain ⟨_, outgoing, channel⟩ := ClientCore.dispatchPacket_holds ssl proto
    { sender.core with isOpen := true } settled.status type payload
  have kept (established :
      ({ sender.core with isOpen := true }.dispatchPacket ssl proto type payload).channel.status =
        .established) : sender.core.channel.status = .established ∧
      ({ sender.core with isOpen := true }.dispatchPacket ssl proto type
        payload).channel.sendSequence = sender.core.channel.sendSequence := by
    rcases channel with failed | ⟨same, number, _⟩
    · simp [failed] at established
    · exact ⟨same ▸ established, number⟩
  unfold CoreSender.packet
  rw [sender.handOver_nothing outgoing]
  simp only
  split
  · exact counted.quiet .refl kept
  · exact counted.quiet TcpTransport.closeFromIo_quiet kept

theorem Counted.enqueue (counted : sender.Counted proto sessionId) {frame : Bytes}
    {rest : List PostedWork}
    (runs : sender.transport.running = true)
    (posted : sender.transport.posted = .enqueue frame :: rest) (closes : Bool) :
    ({ sender with
      transport := sender.transport.step (.runPosted closes)
      queued :=
        if !sender.transport.isOpen ∨ sender.transport.closing then sender.queued
        else sender.queued ++ [frame] } : CoreSender).Counted proto sessionId := by
  have quiet := TcpTransport.runPosted_quiet runs posted closes
  by_cases live : sender.transport.isOpen = true
  · obtain ⟨unclosed, sent, numbered, number⟩ := counted.live live
    have waiting : sender.transport.waiting = frame :: rest.filterMap PostedWork.frame? := by
      simp [TcpTransport.waiting, posted, PostedWork.frame?]
    rw [waiting, List.append_cons] at numbered
    simp only [live, unclosed, Bool.not_true, Bool.false_eq_true, or_self, if_false]
    refine ⟨numbered.front, fun _ => ⟨quiet.closing.trans unclosed, sent, ?_, number⟩⟩
    rw [show (sender.transport.step (.runPosted closes)).waiting =
      rest.filterMap PostedWork.frame? from quiet.waiting]
    exact numbered
  · have lost : sender.transport.isOpen = false := by simpa using live
    simp only [lost, Bool.not_false, true_or, if_true]
    refine ⟨counted.gapless, fun later => ?_⟩
    exact absurd (quiet.isOpen later) live

theorem Counted.task (counted : sender.Counted proto sessionId)
    (settled : sender.core.Settled sessionId)
    (lengths : FrameLengths ssl proto) (sized : sessionId.length = 16) (works : Bool)
    (fits : sender.transport.isOpen = true → sender.core.channel.status = .established →
      sender.core.channel.sendSequence ≠ maxSequence → ∀ type payload others,
        sender.core.posted = (type, payload) :: others →
          framable (sender.core.channel.sendSequence + 1) payload = true) :
    (sender.handOver (sender.core.runPosted ssl proto works)).Counted proto sessionId := by
  rcases sender.core.runPosted_cases ssl proto settled.business works with
    ⟨_, outgoing, channel⟩ |
      ⟨type, payload, others, key, nonce, aad, established, unspent, head, after⟩
  · rw [sender.handOver_nothing outgoing]
    refine counted.quiet .refl fun established => ?_
    rcases channel with failed | same
    · simp [failed] at established
    · rw [same] at established ⊢
      exact ⟨established, rfl⟩
  · obtain ⟨number, _⟩ := next_toNat unspent
    let frame := sealedFrame sender.core.channel.sessionId (sender.core.channel.sendSequence + 1)
      (ssl.gcmEncrypt key nonce aad (encodeType32 type ++ payload))
    have one : (sender.core.runPosted ssl proto works).outgoing =
        sender.core.outgoing ++ [(appEncryptedFrameType, proto.frame.serialize frame)] := by
      rw [after]
      rfl
    have channel : (sender.core.runPosted ssl proto works).channel.sendSequence =
        sender.core.channel.sendSequence + 1 := by
      rw [after]
      rfl
    rw [sender.handOver_one one]
    by_cases live : sender.transport.isOpen = true
    · obtain ⟨unclosed, sent, before, count⟩ := counted.live live
      have short : kTypeFieldSize + (proto.frame.serialize frame).length ≤ kMaxBodyLen.toNat :=
        sealedFrame_fits lengths type payload key nonce aad
          (by rw [settled.sessionId established]; exact sized) (next_pos unspent)
          (fits live established unspent type payload others head)
      have body := length_body (proto.frame.serialize frame)
      rw [TcpTransport.send_taken live (by omega) (by omega)]
      refine ⟨counted.gapless, fun _ => ⟨unclosed, sent ++ [frame], ?_, fun _ => ?_⟩⟩
      · have next : frame.sequence.toNat = sent.length + 1 := by
          rw [← count established]
          exact number
        have written := before.snoc next ⟨rfl, settled.sessionId established⟩
        simpa [TcpTransport.waiting, PostedWork.frame?, sentFrame] using written
      · rw [channel, number, count established, List.length_append]
        rfl
    · have closed : (sender.transport.send (encodeType32 appEncryptedFrameType ++
          proto.frame.serialize frame)).2 = sender.transport := by
        simp [TcpTransport.send, TcpTransport.sendCheck, live]
      rw [closed]
      exact ⟨counted.gapless, fun later => absurd later live⟩

theorem Counted.runPosted (counted : sender.Counted proto sessionId)
    (settled : sender.core.Settled sessionId)
    (lengths : FrameLengths ssl proto) (sized : sessionId.length = 16) (works closes : Bool)
    (fits : sender.fits (.runPosted works closes) = true) :
    (sender.runPosted ssl proto works closes).Counted proto sessionId := by
  unfold CoreSender.runPosted
  split
  · exact counted
  · rename_i runs
    have runs : sender.transport.running = true := by simpa using runs
    split
    · rename_i rest posted
      have quiet : sender.transport.Quiet { sender.transport with posted := rest } :=
        ⟨by rw [TcpTransport.waiting, TcpTransport.waiting, posted]; rfl, rfl, id⟩
      have taken : ({ sender with transport := { sender.transport with posted := rest } } :
          CoreSender).Counted proto sessionId := counted.quiet quiet fun established => ⟨established, rfl⟩
      refine taken.task settled lengths sized works fun live established unspent type payload others head => ?_
      have live : sender.transport.isOpen = true := live
      simpa [CoreSender.fits, posted, show sender.core.posted = (type, payload) :: others from head,
        runs, live, ClientCore.established, show sender.core.channel.status = .established from
          established, show sender.core.channel.sendSequence ≠ maxSequence from unspent] using fits
    · rename_i frame rest posted
      exact counted.enqueue runs posted closes
    · rename_i noTask noFrame
      refine counted.quiet ?_ fun established => ⟨established, rfl⟩
      cases posted : sender.transport.posted with
      | nil =>
          simp only [TcpTransport.step, posted]
          exact .refl
      | cons work rest =>
          have quiet := TcpTransport.runPosted_quiet runs posted closes
          have dropped : sender.transport.Quiet { sender.transport with posted := rest } := by
            refine ⟨?_, rfl, id⟩
            rw [TcpTransport.waiting, TcpTransport.waiting, posted]
            cases work with
            | task => exact absurd posted (noTask rest)
            | enqueue frame => exact absurd posted (noFrame frame rest)
            | shutdown => rfl
            | resolve generation => rfl
          exact dropped.trans quiet

theorem Counted.step (counted : sender.Counted proto sessionId)
    (settled : sender.core.Settled sessionId)
    (lengths : FrameLengths ssl proto) (sized : sessionId.length = 16)
    {event : SendEvent} (business : event.Business) (fits : sender.fits event = true) :
    (sender.step ssl proto event).Counted proto sessionId := by
  cases event with
  | sendPacket type payload => exact counted.sendPacket business payload
  | runPosted works closes => exact counted.runPosted settled lengths sized works closes fits
  | packet type payload => exact counted.packet settled type payload
  | written frame result closes =>
      exact counted.quiet (TcpTransport.written_quiet ..) fun status => ⟨status, rfl⟩
  | lost => exact counted.quiet TcpTransport.failClose_quiet fun status => ⟨status, rfl⟩
  | close => exact counted.quiet TcpTransport.closeFromIo_quiet fun status => ⟨status, rfl⟩

theorem refusesWhole_iff (settled : sender.core.Settled sessionId) (event : SendEvent) :
    sender.RefusesWhole ssl proto event ↔ sender.fits event = true := by
  cases event with
  | runPosted works closes =>
      simp only [CoreSender.fits]
      split
      · rename_i rest type payload others posted head
        have business : isChannelType type = false :=
          settled.business (type, payload) (by simp [head])
        have after (runs : sender.transport.running = true) :
            (sender.step ssl proto (.runPosted works closes)).core =
              sender.core.runPosted ssl proto works := by
          simp only [step, CoreSender.runPosted, runs, posted, Bool.not_true, Bool.false_eq_true,
            if_false]
          rfl
        constructor
        · intro whole
          by_contra lapse
          simp only [Bool.or_eq_true, Bool.not_eq_true', decide_eq_true_eq, not_or,
            Bool.not_eq_false, Bool.not_eq_true] at lapse
          obtain ⟨⟨⟨⟨runs, live⟩, established⟩, unspent⟩, large⟩ := lapse
          have same := whole works closes rest type payload others rfl runs live posted head
            established large
          have status : sender.core.channel.status = .established := by
            simpa [ClientCore.established] using established
          rw [after runs, ClientCore.runPosted_number head business status, if_neg unspent] at same
          exact next_ne _ same
        · rintro fits _ _ _ _ _ _ ⟨⟩ runs live first second established large
          rw [posted, List.cons.injEq] at first
          rw [head, List.cons.injEq, Prod.mk.injEq] at second
          obtain ⟨⟨rfl, rfl⟩, rfl⟩ := second
          have spent : sender.core.channel.sendSequence = maxSequence := by
            simpa [runs, live, established, large] using fits
          have status : sender.core.channel.status = .established := by
            simpa [ClientCore.established] using established
          rw [after runs, ClientCore.runPosted_number head business status, if_pos spent]
      · rename_i none
        refine iff_of_true ?_ rfl
        rintro works closes rest type payload others - - - posted head
        exact absurd head (none _ _ _ _ posted)
  | _ => exact iff_of_true (by intro _ _ _ _ _ _ other; simp at other) rfl

theorem Opened.counted (opened : sender.Opened) : sender.Counted proto sessionId := by
  have none := opened.idle
  rw [encryptedFrames_append, List.append_eq_nil_iff] at none
  refine ⟨⟨[], none.1, rfl, by simp⟩, fun _ => ⟨opened.closing, [], ⟨opened.idle, rfl, by simp⟩, ?_⟩⟩
  intro _
  rw [opened.fresh]
  rfl

theorem Opened.settled (opened : sender.Opened) :
    sender.core.Settled sender.core.channel.sessionId :=
  ⟨.inl opened.established, fun _ => rfl, by simp [opened.unposted]⟩

end CoreSender

/-- On one open connection the encrypted frames in the write queue are numbered without a gap, and
what cannot be framed uses up no number, exactly when no payload is encrypted that cannot be
framed. -/
theorem secureSends_iff (ssl : OpenSsl) (proto : AppProto) (lengths : FrameLengths ssl proto)
    (sender : CoreSender) (opened : sender.Opened) (events : List SendEvent)
    (business : ∀ event ∈ events, event.Business) :
    ((∀ front back, front ++ back = events →
        (front.foldl (CoreSender.step ssl proto) sender).Gapless proto
          sender.core.channel.sessionId) ∧
      ∀ front event back, front ++ event :: back = events →
        (front.foldl (CoreSender.step ssl proto) sender).RefusesWhole ssl proto event) ↔
      guarded (CoreSender.step ssl proto) CoreSender.fits sender events = true := by
  have whole := permitted_iff_guarded
    (fun state : CoreSender => state.core.Settled sender.core.channel.sessionId)
    SendEvent.Business (CoreSender.RefusesWhole ssl proto)
    (fun state event permitted settled => CoreSender.step_settled ssl proto settled permitted)
    (fun state event _ settled => CoreSender.refusesWhole_iff settled event)
    sender opened.settled events business
  rw [whole, and_iff_right_iff_imp]
  intro passed front back split
  have kept := prefixes_of_guarded
    (fun state : CoreSender => state.core.Settled sender.core.channel.sessionId ∧
      state.Counted proto sender.core.channel.sessionId)
    SendEvent.Business
    (fun state event permitted holds fits =>
      ⟨CoreSender.step_settled ssl proto holds.1 permitted,
        holds.2.step holds.1 lengths opened.sessionId permitted fits⟩)
    sender ⟨opened.settled, opened.counted⟩ events business passed front back split
  exact kept.2.gapless

namespace Golden

def sender : CoreSender where
  core := { identityKeys := [(1, identityPublic)], channel := client, isOpen := true }
  transport := { isOpen := true, state := .connected, stream := true, thread := true }

def heartbeat : List SendEvent :=
  [.sendPacket heartbeatRqType (ascii "jitong-golden-payload"), .runPosted true false,
    .runPosted true false]

end Golden

/-- The frame of the vector is the first one in the queue. -/
theorem secureSends_golden :
    (Golden.heartbeat.foldl (CoreSender.step Golden.sizedSsl Golden.sizedProto)
        Golden.sender).queued = [sentFrame Golden.sizedProto Golden.frame] ∧
      ∀ front back, front ++ back = Golden.heartbeat →
        (front.foldl (CoreSender.step Golden.sizedSsl Golden.sizedProto) Golden.sender).Gapless
          Golden.sizedProto Golden.sessionId :=
  ⟨by decide +kernel,
    ((secureSends_iff Golden.sizedSsl Golden.sizedProto Golden.sizedLengths Golden.sender
      ⟨rfl, rfl, by decide, by decide, by decide, by decide, rfl⟩ Golden.heartbeat
      (by simp [Golden.heartbeat, SendEvent.Business]; decide)).mpr (by decide +kernel)).1⟩

namespace CoreSender

variable {ssl : OpenSsl} {proto : AppProto} {sender : CoreSender} {type : UInt32}

structure Ready (sessionId : Bytes) (number : UInt64) (sender : CoreSender) : Prop where
  running : sender.transport.running = true
  isOpen : sender.transport.isOpen = true
  closing : sender.transport.closing = false
  established : sender.core.channel.status = .established
  sessionId : sender.core.channel.sessionId = sessionId
  number : sender.core.channel.sendSequence = number
  unposted : sender.core.posted = [] ∧ sender.transport.posted = []

variable {sessionId : Bytes} {number : UInt64}

theorem Ready.encrypts (ssl : OpenSsl) (proto : AppProto) (ready : sender.Ready sessionId number)
    (business : isChannelType type = false) (unspent : number ≠ maxSequence) (payload : Bytes) :
    ∃ core key nonce aad, core.channel.status = .established ∧
      core.channel.sessionId = sessionId ∧ core.channel.sendSequence = number + 1 ∧
      core.posted = [] ∧
      (sender.sendPacket type payload).runPosted ssl proto true false = { sender with
        core
        transport := (sender.transport.send (encodeType32 appEncryptedFrameType ++
          proto.frame.serialize (sealedFrame sessionId (number + 1)
            (ssl.gcmEncrypt key nonce aad (encodeType32 type ++ payload))))).2 } := by
  obtain ⟨runs, live, unclosed, established, rfl, rfl, unposted, still⟩ := ready
  have early : sender.core.established = true := by simp [ClientCore.established, established]
  let core : ClientCore := { sender.core with posted := [(type, payload)] }
  have sent : sender.sendPacket type payload =
      { sender with core, transport := { sender.transport with posted := [.task] } } := by
    rw [sendPacket_eq]
    simp [core, ClientCore.sendPacket, early, unposted, still, TcpTransport.step]
  let key := core.channel.keys.clientToServerKey
  let nonce := ClientSecureChannel.frameNonce core.channel.keys.clientNoncePrefix
    (core.channel.sendSequence + 1)
  let aad := core.channel.frameAad (core.channel.sendSequence + 1)
  let frame := sealedFrame core.channel.sessionId (core.channel.sendSequence + 1)
    (ssl.gcmEncrypt key nonce aad (encodeType32 type ++ payload))
  have made : core.runPosted ssl proto true =
      { core with
        posted := []
        channel := { core.channel with sendSequence := core.channel.sendSequence + 1 }
      }.sendMade appEncryptedFrameType (proto.frame.serialize frame) := by
    have tried : core.channel.encrypt ssl proto true type payload = _ :=
      ClientSecureChannel.encrypt_tried established business unspent true payload
    unfold ClientCore.runPosted
    simp only [core]
    rw [if_neg (by simp [ClientCore.established, established]), tried]
    rfl
  have one : (core.runPosted ssl proto true).outgoing =
      core.outgoing ++ [(appEncryptedFrameType, proto.frame.serialize frame)] := by
    rw [made]
    rfl
  refine ⟨core.runPosted ssl proto true, key, nonce, aad, ?_, ?_, ?_, ?_, ?_⟩
  · rw [made]
    exact established
  · rw [made]
    rfl
  · rw [made]
    rfl
  · rw [made]
    rfl
  · have runs : ({ sender.transport with posted := [.task] } : TcpTransport).running = true := runs
    rw [sent]
    simp only [CoreSender.runPosted, runs, Bool.not_true, Bool.false_eq_true, if_false]
    have rest : { sender.transport with posted := [] } = sender.transport := by rw [← still]
    rw [rest]
    exact handOver_one { sender with core } one

theorem Ready.queues (ready : sender.Ready sessionId number) (lengths : FrameLengths ssl proto)
    (sized : sessionId.length = 16) (business : isChannelType type = false)
    (unspent : number ≠ maxSequence) {payload : Bytes}
    (fits : framable (number + 1) payload = true) :
    ∃ sealed, sealed.1.length = 4 + payload.length ∧ sealed.2.length = 16 ∧
      (((sender.sendPacket type payload).runPosted ssl proto true false).runPosted ssl proto true
        false).queued =
          sender.queued ++ [sentFrame proto (sealedFrame sessionId (number + 1) sealed)] := by
  obtain ⟨core, key, nonce, aad, _, _, _, _, after⟩ := ready.encrypts ssl proto business unspent payload
  refine ⟨ssl.gcmEncrypt key nonce aad (encodeType32 type ++ payload), ?_, lengths.tag .., ?_⟩
  · rw [lengths.ciphertext, List.length_append]
    rfl
  have body := length_body (proto.frame.serialize (sealedFrame sessionId (number + 1)
    (ssl.gcmEncrypt key nonce aad (encodeType32 type ++ payload))))
  have short := sealedFrame_fits lengths type payload key nonce aad sized (next_pos unspent) fits
  rw [after, TcpTransport.send_taken ready.isOpen (by omega) (by omega)]
  have runs : sender.transport.running = true := ready.running
  simp only [TcpTransport.running] at runs
  simp [CoreSender.runPosted, TcpTransport.running, runs, ready.isOpen, ready.closing,
    ready.unposted.2, sentFrame]

theorem Ready.consumes (ready : sender.Ready sessionId number) (lengths : FrameLengths ssl proto)
    (sized : sessionId.length = 16) (business : isChannelType type = false)
    (unspent : number ≠ maxSequence) {payload : Bytes}
    (large : framable (number + 1) payload = false)
    (bounded : payload.length < 2 ^ 30) :
    let after := (sender.sendPacket type payload).runPosted ssl proto true false
    after.Ready sessionId (number + 1) ∧ after.queued = sender.queued := by
  obtain ⟨core, key, nonce, aad, established, session, sequence, unposted, after⟩ :=
    ready.encrypts ssl proto business unspent payload
  have body := length_body (proto.frame.serialize (sealedFrame sessionId (number + 1)
    (ssl.gcmEncrypt key nonce aad (encodeType32 type ++ payload))))
  have long := sealedFrame_long lengths type payload key nonce aad sized (next_pos unspent) large
    bounded
  intro sent
  simp only [sent, after]
  rw [TcpTransport.send_refused (by omega)]
  exact ⟨⟨ready.running, ready.isOpen, ready.closing, established, session, sequence,
    unposted, ready.unposted.2⟩, trivial⟩

end CoreSender

namespace Golden

theorem sender_ready : sender.Ready sessionId 0 :=
  ⟨rfl, rfl, rfl, by decide, by decide, by decide, rfl, rfl⟩

def heartbeatAfter (payload : Bytes) : List SendEvent :=
  [.sendPacket heartbeatRqType payload, .runPosted true false, .sendPacket heartbeatRqType [],
    .runPosted true false, .runPosted true false]

theorem heartbeatAfter_queued {payload : Bytes} (large : framable 1 payload = false)
    (bounded : payload.length < 2 ^ 30) :
    ∃ sealed, sealed.1.length = 4 ∧ sealed.2.length = 16 ∧
      ((heartbeatAfter payload).foldl (CoreSender.step sizedSsl sizedProto) sender).queued =
        [sentFrame sizedProto (sealedFrame sessionId 2 sealed)] := by
  have heartbeat : isChannelType heartbeatRqType = false := by decide
  have sized : sessionId.length = 16 := by decide
  have small : framable (0 + 1 + 1) [] = true := by decide
  have unspent : (0 : UInt64) ≠ maxSequence ∧ (0 : UInt64) + 1 ≠ maxSequence := by decide
  obtain ⟨ready, empty⟩ := sender_ready.consumes sizedLengths sized heartbeat unspent.1 large
    bounded
  obtain ⟨sealed, inner, tag, queued⟩ := ready.queues sizedLengths sized heartbeat unspent.2 small
  refine ⟨sealed, inner, tag, ?_⟩
  rw [empty] at queued
  simp only [heartbeatAfter, List.foldl_cons, List.foldl_nil, CoreSender.step]
  exact queued

theorem second_not_first {sealed : Bytes × Bytes} {frame : AppEncryptedFrame}
    (inner : sealed.1.length = 4) (tag : sealed.2.length = 16) (first : frame.sequence.toNat = 1)
    (session : frame.version = appSecurityVersion ∧ frame.sessionId = sessionId) :
    sentFrame sizedProto frame ≠ sentFrame sizedProto (sealedFrame sessionId 2 sealed) := by
  intro same
  have full : sealed.1 ≠ [] := by
    intro none
    simp [none] at inner
  have length := sealedFrame_wire_length (by decide : sessionId.length = 16)
    (by decide : (2 : UInt64) ≠ 0) full tag
  have whole : serialized (sealedFrame sessionId 2 sealed).wire =
      (sealedFrame sessionId 2 sealed).wire := by
    rw [inner] at length
    have groups := varint_length_le 4
    have number := varint_length_le (2 : UInt64).toNat
    rw [serialized, if_pos (by omega)]
  have wires : serialized frame.wire = (sealedFrame sessionId 2 sealed).wire := by
    rw [← whole]
    exact congrArg (List.drop 8) same
  have numbers : varintField 3 1 = [24, 1] ∧ varintField 3 (2 : UInt64).toNat = [24, 2] := by decide
  unfold serialized at wires
  split at wires
  · simp only [AppEncryptedFrame.wire, sealedFrame, session, first, List.append_assoc,
      List.append_cancel_left_eq, numbers] at wires
    simp at wires
  · rw [← wires] at length
    simp only [List.length_nil] at length
    omega

def oversized : Bytes := List.replicate 10485708 0

theorem oversized_length : oversized.length = 10485708 := by
  rw [oversized, List.length_replicate]

theorem oversized_large : framable 1 oversized = false := by
  have number : (varint (1 : UInt64).toNat).length = 1 := by decide
  have limit : kMaxBodyLen.toNat = 10485760 := by decide
  have overhead : frameOverhead = 52 := rfl
  have length := oversized_length
  apply framable_eq_false
  omega

end Golden

/-- The payload is refused with its number, and the heartbeat goes out under the next one. -/
theorem secureSends_gap :
    ¬((Golden.heartbeatAfter Golden.oversized).foldl
      (CoreSender.step Golden.sizedSsl Golden.sizedProto) Golden.sender).Gapless Golden.sizedProto
        Golden.sessionId := by
  obtain ⟨sealed, inner, tag, queued⟩ := Golden.heartbeatAfter_queued Golden.oversized_large
    (by rw [Golden.oversized_length]; norm_num)
  rintro ⟨sent, written, numbers, session⟩
  rw [queued, encryptedFrames_sentFrame] at written
  obtain ⟨frame, rfl, same⟩ := List.map_eq_singleton_iff.mp written.symm
  refine Golden.second_not_first inner tag ?_ (session frame (by simp)) same
  simpa using numbers

end Jitong
