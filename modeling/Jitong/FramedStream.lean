import Jitong.TcpTransport

/-!
Frames through the reader and through the transport, however a stream is cut into reads.
-/

namespace Jitong

open Lib FrameCodec

def validFrames (stream : Bytes) : List Frame := (cut FrameReader.nextFrame stream).1

def broken (stream : Bytes) : Bool := (cut FrameReader.nextFrame stream).2.isNone

namespace FrameReader

def feedAll : FrameReader → List Bytes → List Frame × Option FrameReader
  | reader, [] => ([], some reader)
  | reader, read :: reads =>
      match reader.feed read with
      | (.invalidLength, frames, _) => (frames, none)
      | (_, frames, reader) =>
          let (later, left) := feedAll reader reads
          (frames ++ later, left)

theorem feed_cases (reader : FrameReader) (data : Bytes) :
    (broken (reader.pending ++ data) = true ∧
      reader.feed data = (.invalidLength, validFrames (reader.pending ++ data), {})) ∨
    ∃ status pending, status ≠ Status.invalidLength ∧
      cut nextFrame (reader.pending ++ data) = (validFrames (reader.pending ++ data), some pending) ∧
      reader.feed data = (status, validFrames (reader.pending ++ data), { pending }) := by
  unfold feed broken validFrames
  rcases cut nextFrame (reader.pending ++ data) with ⟨frames, left⟩
  cases left with
  | none => exact .inl ⟨rfl, rfl⟩
  | some pending =>
      refine .inr ⟨if frames = [] then .needMore else .frameReady, pending, ?_, rfl, rfl⟩
      split <;> simp

theorem feedAll_eq (reader : FrameReader) (reads : List Bytes) :
    reader.feedAll reads = ((cutAll nextFrame reader.pending reads).1,
      (cutAll nextFrame reader.pending reads).2.map FrameReader.mk) := by
  induction reads generalizing reader with
  | nil => rfl
  | cons read reads ih =>
      rw [feedAll, cutAll]
      unfold feed
      rcases cut nextFrame (reader.pending ++ read) with ⟨frames, left⟩
      cases left with
      | none => rfl
      | some pending =>
          have later := ih { pending }
          simp only at later
          by_cases empty : frames = []
          · simp only [empty, if_true, later]
          · simp only [empty, if_false, later]

theorem feedAll_new (reads : List Bytes) :
    feedAll {} reads = (validFrames reads.flatten,
      (cut nextFrame reads.flatten).2.map FrameReader.mk) := by
  have empty : cut nextFrame ([] : Bytes) = ([], some []) := rfl
  rw [feedAll_eq, nextFrame_decides.cutAll_eq reads empty]
  rfl

theorem feed_pending (reader : FrameReader) (data : Bytes)
    (valid : (reader.feed data).1 ≠ .invalidLength) :
    (reader.feed data).2.2.pending.length < kLengthFieldSize + kMaxBodyLen.toNat := by
  rcases reader.feed_cases data with ⟨_, answered⟩ | ⟨status, pending, _, done, answered⟩
  · simp [answered] at valid
  · rw [answered]
    exact nextFrame_incomplete_length (nextFrame_decides.front_left done)

theorem validFrames_written {frames : List Frame} {written : List Bytes}
    (encoded : frames.mapM (fun frame => encodeFrame frame.type frame.payload) = some written) :
    cut nextFrame written.flatten = (frames, some []) := by
  induction frames generalizing written with
  | nil =>
      obtain rfl : [] = written := by simpa using encoded
      rfl
  | cons frame frames ih =>
      simp only [List.mapM_cons, Option.bind_eq_bind, Option.bind_eq_some_iff] at encoded
      obtain ⟨first, one, rest, others, same⟩ := encoded
      obtain rfl : first :: rest = written := by simpa using same
      rw [List.flatten_cons, nextFrame_decides.cut_item (nextFrame_encodeFrame one rest.flatten),
        ih others]

end FrameReader

def BreaksApart (pending : Bytes) (reads : List Bytes) : Prop :=
  ∀ front read back, front ++ read :: back = reads → broken (pending ++ front.flatten) = false →
    broken (pending ++ front.flatten ++ read) = true →
      validFrames (pending ++ front.flatten ++ read) = validFrames (pending ++ front.flatten)

namespace TcpTransport

def readAll (transport : TcpTransport) (reads : List Bytes) : TcpTransport :=
  reads.foldl (fun transport data =>
    if transport.isOpen then transport.onRead transport.generation (.done data) false
    else transport) transport

theorem readAll_closed {transport : TcpTransport} (closed : transport.isOpen = false)
    (reads : List Bytes) : transport.readAll reads = transport := by
  unfold readAll
  induction reads with
  | nil => rfl
  | cons read reads ih =>
      rw [List.foldl_cons, closed]
      exact ih

theorem readAll_cons {transport : TcpTransport} (live : transport.isOpen = true) (read : Bytes)
    (reads : List Bytes) :
    transport.readAll (read :: reads) =
      (transport.onRead transport.generation (.done read) false).readAll reads := by
  unfold readAll
  rw [List.foldl_cons, live, if_pos rfl]

theorem failClose_packets (transport : TcpTransport) (live : transport.isOpen = true) :
    transport.failClose.isOpen = false ∧ transport.failClose.packets = transport.packets := by
  unfold failClose notifyClose drainQueue shutdownSocket
  simp only [live, Bool.not_true, Bool.false_eq_true, if_false]
  constructor
  · split <;> split <;> rfl
  · split <;> split <;> rfl

theorem onRead_cases {transport : TcpTransport} (live : transport.isOpen = true) (data : Bytes) :
    let after := transport.onRead transport.generation (.done data) false
    let stream := transport.frameReader.pending ++ data
    (broken stream = true ∧ after.isOpen = false ∧ after.packets = transport.packets) ∨
      ∃ pending, cut FrameReader.nextFrame stream = (validFrames stream, some pending) ∧
        after.isOpen = true ∧ after.frameReader = { pending } ∧
        after.packets = transport.packets ++ validFrames stream := by
  intro after stream
  rcases transport.frameReader.feed_cases data with
    ⟨invalid, answered⟩ | ⟨status, pending, valid, done, answered⟩
  · refine .inl ⟨invalid, ?_⟩
    have closed : after = { transport with frameReader := {} }.failClose := by
      simp [after, onRead, answered]
    rw [closed]
    exact failClose_packets _ live
  · refine .inr ⟨pending, done, ?_⟩
    have handed : after = { transport with
        frameReader := { pending }
        packets := transport.packets ++ validFrames stream }.doRead := by
      cases status with
      | invalidLength => exact absurd rfl valid
      | _ => simp [after, stream, onRead, answered, callBack]
    rw [handed]
    unfold doRead
    split
    · exact ⟨live, rfl, rfl⟩
    · exact ⟨live, rfl, rfl⟩

end TcpTransport

theorem validFrames_broken {stream : Bytes} (invalid : broken stream = true) (more : Bytes) :
    broken (stream ++ more) = true ∧ validFrames (stream ++ more) = validFrames stream := by
  have later := FrameReader.nextFrame_decides.cut_append stream more
  unfold broken at invalid
  rcases found : cut FrameReader.nextFrame stream with ⟨frames, left⟩
  rw [found] at later invalid
  cases left with
  | none => simp [broken, validFrames, later, found]
  | some pending => simp at invalid

theorem validFrames_left {stream pending : Bytes} {frames : List Frame}
    (done : cut FrameReader.nextFrame stream = (frames, some pending)) (more : Bytes) :
    broken (stream ++ more) = broken (pending ++ more) ∧
      validFrames (stream ++ more) = frames ++ validFrames (pending ++ more) := by
  have later := FrameReader.nextFrame_decides.cut_append stream more
  simp only [done] at later
  unfold broken validFrames
  rw [later]
  exact ⟨rfl, rfl⟩

theorem BreaksApart.cons_broken {pending read : Bytes} {reads : List Bytes}
    (waits : cut FrameReader.nextFrame pending = ([], some pending))
    (invalid : broken (pending ++ read) = true) :
    BreaksApart pending (read :: reads) ↔ validFrames (pending ++ read) = [] := by
  have none : validFrames pending = [] := by simp [validFrames, waits]
  have sound : broken pending = false := by simp [broken, waits]
  constructor
  · intro apart
    have first := apart [] read reads rfl (by simpa using sound) (by simpa using invalid)
    simpa [none] using first
  · intro empty front other back split unbroken _
    cases front with
    | nil =>
        simp only [List.nil_append, List.cons.injEq] at split
        obtain ⟨rfl, _⟩ := split
        simpa [none] using empty
    | cons head front =>
        simp only [List.cons_append, List.cons.injEq] at split
        obtain ⟨rfl, _⟩ := split
        rw [List.flatten_cons, ← List.append_assoc,
          (validFrames_broken invalid front.flatten).1] at unbroken
        simp at unbroken

theorem BreaksApart.cons_left {pending read left : Bytes} {reads : List Bytes}
    {frames : List Frame}
    (done : cut FrameReader.nextFrame (pending ++ read) = (frames, some left)) :
    BreaksApart pending (read :: reads) ↔ BreaksApart left reads := by
  have sound : broken (pending ++ read) = false := by simp [broken, done]
  have continues := validFrames_left done
  constructor
  · intro apart front other back split unbroken invalid
    have later := apart (read :: front) other back (by rw [← split]; rfl)
    rw [List.flatten_cons, ← List.append_assoc, List.append_assoc _ front.flatten other,
      (continues _).1, (continues _).1, (continues _).2, (continues _).2,
      ← List.append_assoc left] at later
    exact List.append_cancel_left (later unbroken invalid)
  · intro apart front other back split unbroken invalid
    cases front with
    | nil =>
        simp only [List.nil_append, List.cons.injEq] at split
        obtain ⟨rfl, _⟩ := split
        simp [sound] at invalid
    | cons head front =>
        simp only [List.cons_append, List.cons.injEq] at split
        obtain ⟨rfl, split⟩ := split
        rw [List.flatten_cons, ← List.append_assoc] at unbroken invalid ⊢
        rw [List.append_assoc _ front.flatten other] at invalid ⊢
        rw [(continues _).1] at unbroken invalid
        rw [(continues _).2, (continues _).2]
        rw [← List.append_assoc left] at invalid ⊢
        exact congrArg (frames ++ ·) (apart front other back split unbroken invalid)

theorem TcpTransport.readAll_iff {transport : TcpTransport} (live : transport.isOpen = true)
    (waits : cut FrameReader.nextFrame transport.frameReader.pending =
      ([], some transport.frameReader.pending)) (reads : List Bytes) :
    (transport.readAll reads).packets =
        transport.packets ++ validFrames (transport.frameReader.pending ++ reads.flatten) ↔
      BreaksApart transport.frameReader.pending reads := by
  induction reads generalizing transport with
  | nil =>
      refine iff_of_true ?_ ?_
      · simp [readAll, validFrames, waits]
      · intro front read back split
        simp at split
  | cons read reads ih =>
      rw [readAll_cons live, List.flatten_cons, ← List.append_assoc]
      rcases onRead_cases live read with
        ⟨invalid, closed, handed⟩ | ⟨left, done, still, reader, handed⟩
      · rw [readAll_closed closed, handed, (validFrames_broken invalid reads.flatten).2,
          BreaksApart.cons_broken waits invalid]
        exact List.self_eq_append_right
      · have again := FrameReader.nextFrame_decides.cut_left done
        have rest := ih still (by rw [reader]; exact again)
        rw [reader] at rest
        rw [BreaksApart.cons_left done, (validFrames_left done reads.flatten).2, ← List.append_assoc,
          ← handed]
        exact rest

/-- Frames survive every cutting of their bytes, every stream has one reading, what waits is
bounded, and the transport hands on the valid frames exactly when no read that brings an invalid
length completes one as well. -/
theorem framedStream (transport : TcpTransport) (reads : List Bytes) :
    (∀ frames written, frames.mapM (fun frame : Frame => encodeFrame frame.type frame.payload) =
        some written → reads.flatten = written.flatten →
          FrameReader.feedAll {} reads = (frames, some {})) ∧
    (∀ others : List Bytes, reads.flatten = others.flatten →
      (FrameReader.feedAll {} reads).1 = (FrameReader.feedAll {} others).1) ∧
    (∀ (reader : FrameReader) data, (reader.feed data).1 ≠ .invalidLength →
      (reader.feed data).2.2.pending.length < kLengthFieldSize + kMaxBodyLen.toNat) ∧
    ((({ transport with isOpen := true, frameReader := {} } : TcpTransport).readAll reads).packets =
        transport.packets ++ (FrameReader.feedAll {} reads).1 ↔
      BreaksApart [] reads) := by
  refine ⟨?_, ?_, fun reader data valid => reader.feed_pending data valid, ?_⟩
  · intro frames written encoded same
    rw [FrameReader.feedAll_new, validFrames, same, FrameReader.validFrames_written encoded]
    rfl
  · intro others same
    rw [FrameReader.feedAll_new, FrameReader.feedAll_new, same]
  · rw [FrameReader.feedAll_new]
    let fresh : TcpTransport := { transport with isOpen := true, frameReader := {} }
    have live : fresh.isOpen = true := rfl
    exact TcpTransport.readAll_iff live rfl reads

/-- Two frames in three reads, with a length split between two of them. -/
theorem framedStream_chunks :
    FrameReader.feedAll {} [[0, 0, 0], [4, 0xF2, 3, 0, 0, 0, 0, 0], [6, 0xEA, 3, 0, 0, 1, 2]] =
      ([{ type := 1010, payload := [] }, { type := 1002, payload := [1, 2] }], some {}) :=
  (framedStream {} [[0, 0, 0], [4, 0xF2, 3, 0, 0, 0, 0, 0], [6, 0xEA, 3, 0, 0, 1, 2]]).1
    [{ type := 1010, payload := [] }, { type := 1002, payload := [1, 2] }]
    [[0, 0, 0, 4, 0xF2, 3, 0, 0], [0, 0, 0, 6, 0xEA, 3, 0, 0, 1, 2]] (by decide) (by decide)

/-- A heartbeat and a broken length in one read: the reader has the frame and nobody gets it. -/
theorem framedStream_dropped :
    let transport : TcpTransport := { isOpen := true }
    let read := [0, 0, 0, 4, 0xF2, 3, 0, 0, 0xFF, 0xFF, 0xFF, 0xFF]
    (FrameReader.feedAll {} [read]).1 = [{ type := 1010, payload := [] }] ∧
      (transport.readAll [read]).packets = [] := by
  decide

end Jitong
