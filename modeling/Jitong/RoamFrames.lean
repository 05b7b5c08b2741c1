import Jitong.Dispatch
import Jitong.EncryptedStream
import Jitong.FramedStream
import Jitong.RoamHandler
import Jitong.ServerRuns

/-!
What a session of the server writes, and whether the client's reader takes it: the server puts
its frames together without a look at their length.
-/

namespace Jitong

open Lib FrameCodec

namespace SessionChannel

def encodeLen32 (value : UInt32) : Bytes :=
  [(value >>> 24).toUInt8, (value >>> 16).toUInt8, (value >>> 8).toUInt8, value.toUInt8]

def enqueueRawFrame (frame : Frame) : Bytes :=
  encodeLen32 (UInt32.ofNat (4 + frame.payload.length)) ++ encodeType32 frame.type ++ frame.payload

def frames : Option SessionOutput → List Frame
  | some (.frame type payload) => [{ type, payload }]
  | _ => []

end SessionChannel

def Frame.Readable (frame : Frame) : Prop :=
  FrameReader.feed {} (SessionChannel.enqueueRawFrame frame) = (.frameReady, [frame], {})

structure Host where
  crypto : Crypto
  ssl : OpenSsl
  proto : AppProto
  identity : AppIdentity
  roam : RoamProto
  conn : ConnId

structure ServedSession where
  server : Server := .empty
  channel : SessionChannel := {}
  written : List Frame := []

/-- `deliver` is that of any other handler. What is posted to the strand of a session keeps its
order, so that a reply is delivered where it is made. -/
inductive ServedEvent
  | server (event : ServerEvent)
  | handshake
  | body (random : Option HelloRandomness) (type : UInt32) (payload : Bytes)
  | deliver (works : Bool) (type : UInt32) (payload : Bytes)
  | roamConversations (works : Bool)
  | roamMessages (works : Bool) (rq : RoamMsgRq)
  | closed

namespace ServedSession

def userId (served : ServedSession) (conn : ConnId) : Int32 :=
  ((served.server.sessions conn).map (·.userId)).getD 0

def write (served : ServedSession) (outcome : Option SessionOutput × SessionChannel) :
    ServedSession :=
  { served with
    channel := outcome.2
    written := served.written ++ SessionChannel.frames outcome.1 }

def reply (host : Host) (served : ServedSession) (works : Bool) :
    Option (UInt32 × Bytes) → ServedSession
  | none => served
  | some (type, payload) =>
      served.write (served.channel.deliver host.ssl host.proto works type payload)

def step (host : Host) (served : ServedSession) : ServedEvent → ServedSession
  | .server event => { served with server := event.apply host.crypto served.server }
  | .handshake =>
      if served.channel.securityState = .tlsHandshake then
        { served with channel := served.channel.doHandshake }
      else served
  | .body random type payload =>
      served.write (served.channel.readBody host.ssl host.proto host.identity random type payload)
  | .deliver works type payload => served.reply host works (some (type, payload))
  | .roamConversations works =>
      served.reply host works (served.server.onConversations host.roam (served.userId host.conn))
  | .roamMessages works rq =>
      served.reply host works (served.server.onMessages host.roam (served.userId host.conn) rq)
  | .closed => { served with channel := served.channel.onClosed }

end ServedSession

/-! When a frame is not too long. -/

def sealedFits (sequence : UInt64) (length : Nat) : Bool :=
  length + frameOverhead + (varint sequence.toNat).length ≤ kMaxBodyLen.toNat ∨
    2 ^ 31 ≤ sealedLength sequence length

def SessionChannel.fits (session : SessionChannel) (works : Bool) (type : UInt32) (length : Nat) :
    Bool :=
  if appClientHelloType ≤ type ∧ type ≤ appServerFinishedType then
    kTypeFieldSize + length ≤ kMaxBodyLen.toNat
  else session.securityState ≠ .established || session.sendSequence = maxSequence || !works ||
    sealedFits (session.sendSequence + 1) length

def ServedSession.fits (host : Host) (served : ServedSession) : ServedEvent → Bool
  | .deliver works type payload => served.channel.fits works type payload.length
  | .roamConversations works =>
      let rows := served.server.messages.roamConversations (served.userId host.conn)
      served.userId host.conn ≤ 0 ||
        served.channel.fits works roamConvRsType (serializedLength (rowsLength rows))
  | .roamMessages works rq =>
      let rows := served.server.page (served.userId host.conn) rq
      served.userId host.conn ≤ 0 ||
        served.channel.fits works roamMsgRsType (serializedLength (rq.replyLength rows))
  | _ => true

/-! The frames of the handshake. -/

def AppServerHello.wire (hello : AppServerHello) : Bytes :=
  varintField 1 hello.version.toNat ++ bytesField 2 hello.serverEphemeralPublicKey ++
    bytesField 3 hello.serverNonce ++ bytesField 4 hello.sessionId ++
    varintField 5 hello.keyId.toNat ++ bytesField 6 hello.signature ++
    signedField 7 hello.cipherSuite.toInt

def AppFinished.wire (finished : AppFinished) : Bytes := bytesField 1 finished.verifyData

structure HandshakeLengths (ssl : OpenSsl) (proto : AppProto) : Prop where
  signature : ∀ key message, (ssl.ed25519Sign key message).length = 64
  serverHello : ∀ hello, (proto.serverHello.serialize hello).length =
    serializedLength hello.wire.length
  finished : ∀ finished, (proto.finished.serialize finished).length =
    serializedLength finished.wire.length

structure Host.Lengths (host : Host) : Prop where
  frames : FrameLengths host.ssl host.proto
  handshake : HandshakeLengths host.ssl host.proto
  roam : RoamLengths host.roam

theorem serializedLength_le (length : Nat) : serializedLength length ≤ length := by
  unfold serializedLength
  split <;> omega

theorem encodeLen32_eq (value : UInt32) :
    SessionChannel.encodeLen32 value = encodeLength value := rfl

theorem Frame.encodeFrame_fits (frame : Frame)
    (fits : kTypeFieldSize + frame.payload.length ≤ kMaxBodyLen.toNat) :
    encodeFrame frame.type frame.payload = some (SessionChannel.enqueueRawFrame frame) := by
  unfold encodeFrame
  simp only
  rw [if_neg (by omega), SessionChannel.enqueueRawFrame, encodeLen32_eq]
  rfl

theorem Frame.readable_iff (frame : Frame) :
    frame.Readable ↔ kTypeFieldSize + frame.payload.length ≤ kMaxBodyLen.toNat := by
  unfold Readable FrameReader.feed
  simp only [List.nil_append]
  constructor
  · intro read
    rcases FrameReader.nextFrame_cases (SessionChannel.enqueueRawFrame frame) with
      ⟨found, _⟩ | ⟨found, _⟩ | ⟨holds, found⟩
    · rw [Decides.cut_incomplete found] at read
      simp at read
    · rw [Decides.cut_invalid found] at read
      simp at read
    · rw [FrameReader.nextFrame_decides.cut_item found] at read
      have bounds := (FrameReader.isValidBodyLen_iff _).mp holds.2.1
      have largest : kMaxBodyLen.toNat = 10485760 := rfl
      have first : FrameReader.frameAt (SessionChannel.enqueueRawFrame frame) = frame := by
        split at read
        · simp at read
        · rename_i items left split
          simp only [Prod.mk.injEq] at read split
          have same := split.1.trans read.2.1
          simp only [List.cons.injEq] at same
          exact same.1
      have short := congrArg (fun read : Frame => read.payload.length) first
      simp only [FrameReader.frameAt, List.length_take, kTypeFieldSize] at short ⊢
      omega
  · intro fits
    have found := FrameReader.nextFrame_encodeFrame (frame.encodeFrame_fits fits) []
    rw [List.append_nil] at found
    rw [FrameReader.nextFrame_decides.cut_item found]
    rfl

theorem Frame.readable_of_cut {frames : List Frame} (whole : cut FrameReader.nextFrame
    (frames.flatMap SessionChannel.enqueueRawFrame) = (frames, some [])) :
    ∀ frame ∈ frames, frame.Readable := by
  induction frames with
  | nil => simp
  | cons frame later ih =>
      rw [List.flatMap_cons] at whole
      have short : kTypeFieldSize + frame.payload.length ≤ kMaxBodyLen.toNat := by
        rcases FrameReader.nextFrame_cases (SessionChannel.enqueueRawFrame frame ++
          later.flatMap SessionChannel.enqueueRawFrame) with ⟨found, _⟩ | ⟨found, _⟩ | ⟨holds, found⟩
        · simp [Decides.cut_incomplete found] at whole
        · simp [Decides.cut_invalid found] at whole
        · rw [FrameReader.nextFrame_decides.cut_item found, Prod.mk.injEq, List.cons.injEq] at whole
          have bounds := (FrameReader.isValidBodyLen_iff _).mp holds.2.1
          have largest : kMaxBodyLen.toNat = 10485760 := rfl
          have length := congrArg (fun read : Frame => read.payload.length) whole.1.1
          simp only [FrameReader.frameAt, List.length_take, kTypeFieldSize] at length ⊢
          omega
      rw [FrameReader.nextFrame_decides.cut_item
        (FrameReader.nextFrame_encodeFrame (frame.encodeFrame_fits short) _)] at whole
      simp only [Prod.mk.injEq, List.cons.injEq, true_and] at whole
      intro other member
      rcases List.mem_cons.mp member with rfl | member
      · exact other.readable_iff.mpr short
      · exact ih (Prod.ext whole.1 whole.2) other member

/-- The client reads back the frames of a session, however they are cut into reads, exactly when it
reads each of them alone. -/
theorem readable_reads_iff (frames : List Frame) :
    (∀ reads : List Bytes, reads.flatten = frames.flatMap SessionChannel.enqueueRawFrame →
      FrameReader.feedAll {} reads = (frames, some {})) ↔ ∀ frame ∈ frames, frame.Readable := by
  constructor
  · intro all
    have once := all [_] (List.flatten_singleton)
    rw [FrameReader.feedAll_new, List.flatten_singleton, Prod.mk.injEq,
      Option.map_eq_some_iff] at once
    obtain ⟨items, left, none, same⟩ := once
    obtain rfl : left = [] := congrArg FrameReader.pending same
    exact Frame.readable_of_cut (Prod.ext items none)
  · intro readable reads sent
    have whole := FrameReader.nextFrame_decides.cut_written [] fun frame member rest =>
      FrameReader.nextFrame_encodeFrame
        (frame.encodeFrame_fits (frame.readable_iff.mp (readable frame member))) rest
    have nothing : cut FrameReader.nextFrame [] = ([], some []) := rfl
    rw [nothing, List.append_nil, List.append_nil] at whole
    rw [FrameReader.feedAll_new, sent, validFrames, whole]
    rfl

theorem sealedFits_iff (sequence : UInt64) (length : Nat) :
    sealedFits sequence length = true ↔
      kTypeFieldSize + serializedLength (sealedLength sequence length) ≤ kMaxBodyLen.toNat := by
  have exact := sealedLength_fits sequence length
  have limit : kMaxBodyLen.toNat = 10485760 := rfl
  simp only [sealedFits, decide_eq_true_eq, ← exact, serializedLength, kTypeFieldSize]
  split
  · omega
  · omega

theorem sealedFits_eq_false {sequence : UInt64} {length : Nat} (long : 10485760 < length)
    (bounded : length < 2 ^ 30) : sealedFits sequence length = false := by
  have limit : kMaxBodyLen.toNat = 10485760 := rfl
  have number := varint_length_le sequence.toNat
  have groups := varint_length_le (4 + length)
  rw [sealedFits, decide_eq_false_iff_not, not_or, frameOverhead, sealedLength]
  omega

namespace SessionChannel

def Prepared (session : SessionChannel) : Prop :=
  session.securityState = .waitClientFinished ∨ session.securityState = .established →
    session.appSessionId.length = 16 ∧ session.keys.serverToClientKey.length = 32 ∧
      session.keys.serverNoncePrefix.length = 4

theorem failApplicationHandshake_prepared (session : SessionChannel) :
    session.failApplicationHandshake.Prepared := by
  simp [Prepared, failApplicationHandshake]

theorem onClosed_prepared {session : SessionChannel} (prepared : session.Prepared) :
    session.onClosed.Prepared := by
  unfold onClosed
  split
  · exact prepared
  · simp [Prepared]

variable {ssl : OpenSsl} {proto : AppProto} {session : SessionChannel}

theorem deliver_prepared (prepared : session.Prepared) (works : Bool) (type : UInt32)
    (payload : Bytes) : (session.deliver ssl proto works type payload).2.Prepared := by
  rcases session.deliver_cases ssl proto works type payload with
    same | same | ⟨_, _, same⟩ | ⟨_, _, frame, same⟩
  · rw [same]
    exact prepared
  · rw [same]
    exact failApplicationHandshake_prepared session
  · rw [same]
    exact failApplicationHandshake_prepared _
  · rw [same]
    exact prepared

theorem sliceKeys_key {material : Bytes} (sized : material.length = 136) :
    (sliceKeys material).serverToClientKey.length = 32 := by
  simp [sliceKeys, slice, sized]

theorem answerHello_prepared {identity : AppIdentity} {random : HelloRandomness}
    {payload serverPayload : Bytes} {hello : AppClientHello} {after : SessionChannel}
    (answered : answerHello ssl proto identity session random payload hello =
      some (serverPayload, after)) : after.Prepared := by
  obtain ⟨_, secret, _, rfl⟩ := answerHello_cases ssl proto answered
  intro _
  have sized := hkdfSha256_length ssl secret (hello.clientNonce ++ random.serverNonce)
    (ascii "jitong-app-channel-v1" ++ random.sessionId ++
      finishedTranscriptHash ssl payload serverPayload)
  exact ⟨random.sessionId_length, sliceKeys_key sized, (sliceKeys_sizes sized).2⟩

theorem readBody_prepared (prepared : session.Prepared) (identity : AppIdentity)
    (random : Option HelloRandomness) (type : UInt32) (payload : Bytes) :
    (session.readBody ssl proto identity random type payload).2.Prepared := by
  rcases session.readBody_cases ssl proto identity random type payload with
    same | ⟨_, _, _, same⟩ | ⟨waiting, _, same⟩ | ⟨established, _, same⟩
  · rw [same]
    exact failApplicationHandshake_prepared session
  · rw [same]
    rcases session.handleClientHello_cases ssl proto identity random payload with
      failed | ⟨_, _, _, _, _, _, answered, found⟩
    · rw [failed]
      exact failApplicationHandshake_prepared session
    · rw [found]
      exact answerHello_prepared answered
  · rw [same]
    rcases session.handleClientFinished_cases ssl proto payload with
      failed | ⟨_, _, _, _, found⟩
    · rw [failed]
      exact failApplicationHandshake_prepared session
    · rw [found]
      intro _
      exact prepared (.inl waiting)
  · rw [same]
    rcases session.handleEncryptedFrame_cases ssl proto payload with
      failed | ⟨_, _, _, _, _, _, found⟩
    · rw [failed]
      exact failApplicationHandshake_prepared session
    · rw [found]
      exact prepared

theorem serverHello_length (lengths : HandshakeLengths ssl proto) (identity : AppIdentity)
    (random : HelloRandomness) (payload : Bytes) :
    (proto.serverHello.serialize (helloAnswer ssl identity random payload)).length ≤ 1000 := by
  let hello := helloAnswer ssl identity random payload
  have wire := (lengths.serverHello hello).trans_le (serializedLength_le _)
  have publicKey : hello.serverEphemeralPublicKey.length = 32 := ssl.x25519Public_length _
  have nonce : hello.serverNonce.length = 32 := random.serverNonce_length
  have session : hello.sessionId.length = 16 := random.sessionId_length
  have signature : hello.signature.length = 64 := lengths.signature ..
  have second := bytesField_length_le 2 hello.serverEphemeralPublicKey
  have third := bytesField_length_le 3 hello.serverNonce
  have fourth := bytesField_length_le 4 hello.sessionId
  have sixth := bytesField_length_le 6 hello.signature
  have first := varintField_length_le 1 hello.version.toNat
  have fifth := varintField_length_le 5 hello.keyId.toNat
  have seventh : (signedField 7 hello.cipherSuite.toInt).length ≤ 20 := varintField_length_le ..
  rw [AppServerHello.wire] at wire
  simp only [List.length_append] at wire
  change (proto.serverHello.serialize hello).length ≤ 1000
  omega

theorem serverFinished_length (lengths : HandshakeLengths ssl proto) (key message : Bytes) :
    (proto.finished.serialize ⟨ssl.hmacSha256 key message⟩).length ≤ 1000 := by
  have wire := (lengths.finished ⟨ssl.hmacSha256 key message⟩).trans_le (serializedLength_le _)
  have field := bytesField_length_le 1 (ssl.hmacSha256 key message)
  rw [ssl.hmacSha256_length] at field
  simp only [AppFinished.wire] at wire
  omega

theorem readable_of_short {type : UInt32} {payload : Bytes} (short : payload.length ≤ 1000) :
    Frame.Readable { type, payload } := by
  rw [Frame.readable_iff]
  have limit : kMaxBodyLen.toNat = 10485760 := rfl
  simp only [kTypeFieldSize]
  omega

theorem readBody_readable (lengths : HandshakeLengths ssl proto) (identity : AppIdentity)
    (random : Option HelloRandomness) (type : UInt32) (payload : Bytes) :
    ∀ frame ∈ frames (session.readBody ssl proto identity random type payload).1,
      frame.Readable := by
  rcases session.readBody_cases ssl proto identity random type payload with
    same | ⟨_, _, _, same⟩ | ⟨_, _, same⟩ | ⟨_, _, same⟩
  · simp [same, frames]
  · rw [same]
    rcases session.handleClientHello_cases ssl proto identity random payload with
      failed | ⟨_, drawn, _, _, _, _, answered, found⟩
    · simp [failed, frames]
    · obtain ⟨rfl, _⟩ := answerHello_cases ssl proto answered
      simp only [found, frames, List.mem_singleton, forall_eq]
      exact readable_of_short (serverHello_length lengths identity drawn payload)
  · rw [same]
    unfold handleClientFinished
    split
    · simp [frames]
    · simp only
      split
      · simp [frames]
      · simp only [frames, List.mem_singleton, forall_eq]
        exact readable_of_short (serverFinished_length lengths ..)
  · rw [same]
    rcases session.handleEncryptedFrame_cases ssl proto payload with
      failed | ⟨_, _, _, _, _, _, found⟩
    · simp [failed, frames]
    · simp [found, frames]

theorem encryptBusinessFrame_works (prepared : session.Prepared)
    (established : session.securityState = .established)
    (unspent : session.sendSequence ≠ maxSequence) (type : UInt32) (payload : Bytes) :
    (session.encryptBusinessFrame ssl proto true type payload).1 =
      some (proto.frame.serialize (sealedFrame session.appSessionId (session.sendSequence + 1)
        (ssl.gcmEncrypt session.keys.serverToClientKey
          (session.keys.serverNoncePrefix ++ u64Be (session.sendSequence + 1))
          (frameAad session.appSessionId (session.sendSequence + 1))
          (encodeType32 type ++ payload)))) := by
  obtain ⟨_, key, noncePrefix⟩ := prepared (.inr established)
  have number := next_pos unspent
  have nonce : frameNonce session.keys.serverNoncePrefix (session.sendSequence + 1) =
      some (session.keys.serverNoncePrefix ++ u64Be (session.sendSequence + 1)) := by
    rw [frameNonce, if_neg (by simp [noncePrefix, number])]
  have size : (session.keys.serverNoncePrefix ++ u64Be (session.sendSequence + 1)).length = 12 := by
    rw [List.length_append, noncePrefix]
    rfl
  have encrypted (plaintext aad : Bytes) : aes256GcmEncrypt ssl session.keys.serverToClientKey
      (session.keys.serverNoncePrefix ++ u64Be (session.sendSequence + 1)) plaintext aad =
        some (ssl.gcmEncrypt session.keys.serverToClientKey
          (session.keys.serverNoncePrefix ++ u64Be (session.sendSequence + 1)) aad plaintext) := by
    rw [aes256GcmEncrypt, if_neg (by simp [key, size])]
  rw [encryptBusinessFrame, if_neg unspent]
  simp only [nonce, Option.bind_some, encrypted]
  rfl

theorem deliver_established (business : ¬(appClientHelloType ≤ type ∧ type ≤ appServerFinishedType))
    (established : session.securityState = .established) (works : Bool) (payload : Bytes) :
    (session.deliver ssl proto works type payload).1 =
      (session.encryptBusinessFrame ssl proto works type payload).1.map
        (.frame appEncryptedFrameType) := by
  unfold deliver
  rw [if_neg business, if_neg (by simp [established])]
  split
  · rename_i frame after encrypted
    rw [encrypted]
    rfl
  · rename_i after encrypted
    rw [encrypted]
    rfl

theorem deliver_readable_iff (lengths : FrameLengths ssl proto) (prepared : session.Prepared)
    (works : Bool) (type : UInt32) (payload : Bytes) :
    (∀ frame ∈ frames (session.deliver ssl proto works type payload).1, frame.Readable) ↔
      session.fits works type payload.length = true := by
  unfold fits
  split
  · rename_i raw
    simp only [deliver, raw, and_self, if_true, frames, List.mem_singleton, forall_eq,
      Frame.readable_iff, decide_eq_true_eq]
  · rename_i business
    by_cases established : session.securityState = .established
    · rw [deliver_established business established]
      by_cases spent : session.sendSequence = maxSequence
      · simp [encryptBusinessFrame, spent, frames]
      · cases works with
        | false => simp [encryptBusinessFrame, spent, frames]
        | true =>
            rw [encryptBusinessFrame_works prepared established spent]
            have length := sealedFrame_length lengths type payload
              session.keys.serverToClientKey
              (session.keys.serverNoncePrefix ++ u64Be (session.sendSequence + 1))
              (frameAad session.appSessionId (session.sendSequence + 1))
              (prepared (.inr established)).1 (next_pos spent)
            simp only [Option.map_some, frames, List.mem_singleton, forall_eq, Frame.readable_iff,
              length, ← sealedFits_iff]
            simp [established, spent]
    · simp [deliver, business, established, frames]

end SessionChannel

namespace ServedSession

variable {host : Host} {served : ServedSession}

theorem reply_prepared (prepared : served.channel.Prepared) (works : Bool)
    (packet : Option (UInt32 × Bytes)) : (served.reply host works packet).channel.Prepared := by
  cases packet with
  | none => exact prepared
  | some packet => exact SessionChannel.deliver_prepared prepared works packet.1 packet.2

theorem step_prepared (prepared : served.channel.Prepared) (event : ServedEvent) :
    (served.step host event).channel.Prepared := by
  cases event with
  | server event => exact prepared
  | handshake =>
      simp only [step]
      split
      · simp [SessionChannel.Prepared, SessionChannel.doHandshake]
      · exact prepared
  | body random type payload =>
      exact SessionChannel.readBody_prepared prepared host.identity random type payload
  | deliver works type payload => exact reply_prepared prepared works (some (type, payload))
  | roamConversations works => exact reply_prepared prepared works _
  | roamMessages works rq => exact reply_prepared prepared works _
  | closed => exact SessionChannel.onClosed_prepared prepared

theorem reply_written (lengths : FrameLengths host.ssl host.proto)
    (prepared : served.channel.Prepared) (works : Bool) (type : UInt32) (payload : Bytes) :
    ∃ new, (served.reply host works (some (type, payload))).written = served.written ++ new ∧
      ((∀ frame ∈ new, frame.Readable) ↔
        served.channel.fits works type payload.length = true) :=
  ⟨_, rfl, SessionChannel.deliver_readable_iff lengths prepared works type payload⟩

theorem nothing_written {after : ServedSession} (same : after.written = served.written) :
    ∃ new, after.written = served.written ++ new ∧
      ((∀ frame ∈ new, frame.Readable) ↔ true = true) :=
  ⟨[], by rw [same, List.append_nil], by simp⟩

theorem replies_written (lengths : FrameLengths host.ssl host.proto)
    (prepared : served.channel.Prepared) (works : Bool) {userId : Int32}
    {packet : Option (UInt32 × Bytes)} {type : UInt32} {length : Nat}
    (replies : Server.Replies userId packet type length) :
    ∃ new, (served.reply host works packet).written = served.written ++ new ∧
      ((∀ frame ∈ new, frame.Readable) ↔
        (decide (userId ≤ 0) || served.channel.fits works type length) = true) := by
  rcases replies with ⟨nobody, rfl⟩ | ⟨user, payload, rfl, rfl⟩
  · rw [decide_eq_true nobody, Bool.true_or]
    exact nothing_written rfl
  · simp only [user, decide_false, Bool.false_or]
    exact reply_written lengths prepared works type payload

theorem step_written (lengths : host.Lengths) (prepared : served.channel.Prepared)
    (event : ServedEvent) :
    ∃ new, (served.step host event).written = served.written ++ new ∧
      ((∀ frame ∈ new, frame.Readable) ↔ served.fits host event = true) := by
  cases event with
  | server event => exact nothing_written rfl
  | handshake =>
      refine nothing_written ?_
      simp only [step]
      split <;> rfl
  | body random type payload =>
      exact ⟨_, rfl, iff_of_true
        (SessionChannel.readBody_readable lengths.handshake host.identity random type payload) rfl⟩
  | deliver works type payload => exact reply_written lengths.frames prepared works type payload
  | roamConversations works =>
      exact replies_written lengths.frames prepared works
        (Server.onConversations_replies lengths.roam ..)
  | roamMessages works rq =>
      exact replies_written lengths.frames prepared works
        (Server.onMessages_replies lengths.roam ..)
  | closed => exact nothing_written rfl

def AllRead (served : ServedSession) : Prop :=
  served.channel.Prepared ∧ ∀ frame ∈ served.written, frame.Readable

def Unread (served : ServedSession) : Prop :=
  served.channel.Prepared ∧ ∃ frame ∈ served.written, ¬frame.Readable

theorem step_allRead (lengths : host.Lengths) (read : served.AllRead) (event : ServedEvent)
    (fits : served.fits host event = true) : (served.step host event).AllRead := by
  obtain ⟨new, written, exact⟩ := step_written lengths read.1 event
  refine ⟨step_prepared read.1 event, fun frame member => ?_⟩
  rw [written] at member
  rcases List.mem_append.mp member with old | fresh
  · exact read.2 frame old
  · exact exact.mpr fits frame fresh

theorem step_unread (lengths : host.Lengths) (prepared : served.channel.Prepared)
    (event : ServedEvent) (long : served.fits host event = false) :
    (served.step host event).Unread := by
  obtain ⟨new, written, exact⟩ := step_written lengths prepared event
  have unread : ¬∀ frame ∈ new, frame.Readable := by
    rw [exact, long]
    simp
  push Not at unread
  obtain ⟨frame, fresh, unread⟩ := unread
  exact ⟨step_prepared prepared event, frame, written ▸ List.mem_append_right _ fresh, unread⟩

theorem Unread.step (lengths : host.Lengths) (unread : served.Unread) (event : ServedEvent) :
    (served.step host event).Unread := by
  obtain ⟨prepared, frame, member, bad⟩ := unread
  obtain ⟨new, written, _⟩ := step_written lengths prepared event
  exact ⟨step_prepared prepared event, frame, written ▸ List.mem_append_left _ member, bad⟩

end ServedSession

/-- In every run of the server, the client's reader takes all the frames of a connection exactly
when no payload is delivered on it that makes a frame of more than 10 MiB. -/
theorem readableFrames_iff (host : Host) (lengths : host.Lengths) (events : List ServedEvent) :
    (∀ frame ∈ (events.foldl (ServedSession.step host) {}).written, frame.Readable) ↔
      guarded (ServedSession.step host) (ServedSession.fits host) {} events = true := by
  have apart (served : ServedSession) (read : served.AllRead) : ¬served.Unread := by
    rintro ⟨_, frame, member, bad⟩
    exact bad (read.2 frame member)
  have initial : ({} : ServedSession).AllRead :=
    ⟨by simp [SessionChannel.Prepared], by simp⟩
  have prepared : (events.foldl (ServedSession.step host) {}).channel.Prepared :=
    List.foldlRecOn (motive := fun served => served.channel.Prepared) events
      (ServedSession.step host) initial.1 fun _ before event _ => ServedSession.step_prepared before event
  have exact : (events.foldl (ServedSession.step host) {}).AllRead ↔ _ :=
    foldl_iff_guarded apart (fun _ event read fits => ServedSession.step_allRead lengths read event fits)
      (fun _ event read long => ServedSession.step_unread lengths read.1 event long)
      (fun _ event unread => unread.step lengths event) events initial
  rw [← exact]
  exact ⟨fun read => ⟨prepared, read⟩, And.right⟩

/-! A server whose messages are as long as their wire formats say. -/

namespace Golden

def wireProto : AppProto :=
  { sizedProto with
    serverHello := { proto.serverHello with serialize := fun hello => serialized hello.wire }
    finished := { proto.finished with serialize := fun finished => serialized finished.wire } }

def aliceHere : LoginRq :=
  { aliceLogin with
    devicePublicKey := DeviceProof.publicKeyDer
      0xd3f2821f4c38259db42d20737b6aa31ca722922a130be4006ecd14e305007237
      0x30eaee75cfe5fbca841af8a4ba439b0ada793927a1534269089ba0c48b793109
    deviceSignature := DeviceProof.signatureDer
      0x7d4e0c59be954c2ff4492c8922c86a760d4469caa0cdc5c9859867806093591a
      0x7d9f8dc383265c100232a9c721f5f62cfbecec225348fb9404daad619578b546 }

def host : Host where
  crypto := .recorded (passwordDigests ++ tokenDigests) [signedLogin sessionId aliceHere]
  ssl := sizedSsl
  proto := wireProto
  identity := identity
  roam := {
    messages := fun rs => serialized rs.wire
    conversations := fun rs => serialized rs.wire }
  conn := 0

theorem host_lengths : host.Lengths where
  frames := ⟨sizedLengths.ciphertext, sizedLengths.tag, sizedLengths.frame⟩
  handshake := {
    signature := by
      intro key message
      change (if (key, message) = (identityPrivate, signed) then signature
        else List.replicate 64 0).length = 64
      split
      · decide
      · simp
    serverHello := fun hello => length_serialized hello.wire
    finished := fun finished => length_serialized finished.wire }
  roam := ⟨fun rs => length_serialized rs.wire, fun rs => length_serialized rs.wire⟩

def handshake : List ServedEvent :=
  [.handshake, .body (some random) appClientHelloType clientPayload,
    .body none appClientFinishedType clientFinished]

end Golden

theorem readableFrames_handshake :
    (Golden.handshake.foldl (ServedSession.step Golden.host) {}).written =
        [⟨appServerHelloType, Golden.serverPayload⟩,
          ⟨appServerFinishedType, Golden.serverFinished⟩] ∧
      ∀ frame ∈ (Golden.handshake.foldl (ServedSession.step Golden.host) {}).written,
        frame.Readable :=
  ⟨by decide +kernel,
    (readableFrames_iff Golden.host Golden.host_lengths Golden.handshake).mpr (by decide +kernel)⟩

namespace Server

theorem onChat_content (crypto : Crypto) (env : Env) (server : Server) (conn : ConnId)
    (rq : ChatInfoRq) {row : MessageRow}
    (stored : row ∈ (server.onChat crypto env conn rq).messages.rows) :
    row ∈ server.messages.rows ∨ row.columns.content = cstr (chatContent rq) := by
  rcases server.onChat_rows crypto env conn rq with
    same | ⟨session, draft, chatCounter, new, _, accepted, columns, rows⟩
  · rw [same] at stored
    exact .inl stored
  · rw [rows] at stored
    rcases List.mem_append.mp stored with old | fresh
    · exact .inl old
    · obtain ⟨_, _, _, _, _, content, _⟩ := prepareChat_message accepted
      rw [List.mem_singleton.mp fresh, columns, ← content]
      exact .inr rfl

theorem chatPacket_content (crypto : Crypto) (env : Env) (server : Server) (conn : ConnId)
    (rq : ChatInfoRq) {row : MessageRow}
    (stored : row ∈ ((ServerEvent.packet env conn (.chatInfo rq)).apply crypto server).messages.rows) :
    row ∈ server.messages.rows ∨ row.columns.content = cstr (chatContent rq) := by
  rw [ServerEvent.apply, dispatchPacket] at stored
  split at stored
  · exact .inl stored
  · rename_i session live
    have touched : (server.touchSession env.now session).messages = server.messages := by
      unfold touchSession touch
      split <;> rfl
    dsimp only at stored
    split at stored
    · rw [close, modify_messages, touched] at stored
      exact .inl stored
    · rw [← touched]
      exact onChat_content crypto env _ conn rq stored

end Server

namespace Golden

def longText : Bytes := List.replicate 6000000 97

def longChat (msgId : String) : ChatInfoRq := { friid := 2, msg := longText, msgId := ascii msgId }

def loggedIn : List ServedEvent :=
  handshake ++
    [.server (.directory [alice, bob] [(1, 2), (2, 1)]),
      .server (.connect 0 sessionId (ascii "192.0.2.1")),
      .server (.packet (countingEnv 1700000000 1) 0 (.login aliceHere))]

def twoChats : List ServedEvent :=
  loggedIn ++
    [.server (.packet (countingEnv 1700000060 5) 0 (.chatInfo (longChat "m-1"))),
      .server (.packet (countingEnv 1700000070 6) 0 (.chatInfo (longChat "m-2")))]

def latest : RoamMsgRq := { peerId := 2 }

def roamed : List ServedEvent := twoChats ++ [.roamMessages true latest]

def afterChats : ServedSession := twoChats.foldl (ServedSession.step host) {}

theorem afterChats_session :
    afterChats.channel = session ∧ afterChats.userId 0 = 1 ∧
      (afterChats.server.page 1 latest).length = 2 ∧
      ∀ message ∈ afterChats.server.page 1 latest, message.type = 0 ∧ message.msgId.length = 3 := by
  decide +kernel

theorem longText_stored : (cstr longText).bytes = longText :=
  cstr_bytes fun zero => by simpa using List.eq_of_mem_replicate zero

theorem afterChats_content {message : StoredMessage Bytes}
    (found : message ∈ afterChats.server.page 1 latest) : message.content = longText := by
  obtain ⟨row, taken, rfl⟩ := List.mem_map.mp found
  have sorted := List.mem_of_mem_take taken
  rw [List.mem_insertionSort] at sorted
  have stored := (List.mem_filter.mp sorted).1
  have none : (loggedIn.foldl (ServedSession.step host) {}).server.messages.rows = [] := by
    decide +kernel
  rw [afterChats, twoChats, List.foldl_append] at stored
  generalize loggedIn.foldl (ServedSession.step host) {} = before at stored none
  have content : row.columns.content = cstr longText := by
    rcases Server.chatPacket_content _ _ _ _ _ stored with earlier | same
    · rcases Server.chatPacket_content _ _ _ _ _ earlier with old | same
      · simp [none] at old
      · exact same
    · exact same
  change row.columns.content.bytes = longText
  rw [content, longText_stored]

theorem afterChats_long :
    10485760 < latest.replyLength (afterChats.server.page 1 latest) ∧
      latest.replyLength (afterChats.server.page 1 latest) < 2 ^ 30 := by
  obtain ⟨_, _, two, texts⟩ := afterChats_session
  have content {message : StoredMessage Bytes}
      (found : message ∈ afterChats.server.page 1 latest) := afterChats_content found
  generalize afterChats.server.page 1 latest = rows at two texts content
  obtain ⟨first, second, rfl⟩ := List.length_eq_two.mp two
  have size : longText.length = 6000000 := List.length_replicate
  have one := rowLength_text (texts first (by simp)).1
  have other := rowLength_text (texts second (by simp)).1
  rw [content (by simp), (texts first (by simp)).2, size] at one
  rw [content (by simp), (texts second (by simp)).2, size] at other
  have peer := varintField_length_le 1 (signedBits latest.peerId.toInt)
  have number := varintField_length_le 4 (signedBits (minSeq [first, second]))
  simp only [RoamMsgRq.replyLength, rowsLength, List.map_cons, List.map_nil, List.sum_cons,
    List.sum_nil, signedField]
  split <;> omega

end Golden

/-- Two messages that were accepted make a reply that the client's reader refuses. -/
theorem readableFrames_roamed :
    ¬∀ frame ∈ (Golden.roamed.foldl (ServedSession.step Golden.host) {}).written,
      frame.Readable := by
  obtain ⟨channel, user, _, _⟩ := Golden.afterChats_session
  obtain ⟨long, bounded⟩ := Golden.afterChats_long
  have prepared : Golden.afterChats.channel.Prepared := by
    rw [channel]
    intro _
    decide
  have whole : serializedLength (Golden.latest.replyLength
      (Golden.afterChats.server.page 1 Golden.latest)) =
        Golden.latest.replyLength (Golden.afterChats.server.page 1 Golden.latest) := by
    rw [serializedLength, if_pos (by omega)]
  have unfit : Golden.afterChats.fits Golden.host (.roamMessages true Golden.latest) = false := by
    have zero : ¬(1 : Int32) ≤ 0 := by decide
    have business : ¬(appClientHelloType ≤ roamMsgRsType ∧ roamMsgRsType ≤ appServerFinishedType) := by
      decide
    have established : Golden.session.securityState = .established ∧
        Golden.session.sendSequence ≠ maxSequence := by decide
    simp only [ServedSession.fits, Golden.host, user, whole, SessionChannel.fits, channel, business,
      established, sealedFits_eq_false long bounded, zero]
    rfl
  obtain ⟨_, frame, member, unread⟩ :=
    ServedSession.step_unread Golden.host_lengths prepared (.roamMessages true Golden.latest) unfit
  intro all
  refine unread (all frame ?_)
  rw [Golden.roamed, List.foldl_append]
  exact member

end Jitong
