import Jitong.HttpFileServer

/-!
`ClientCore::downloadMedia`: a download that goes on from the part that an earlier one left, and the
server's answers to it. Every content that the destination has had is kept, the last one first.
-/

namespace Jitong

def safeMediaId (id : Bytes) : Bool :=
  id ≠ [] && id.length ≤ 128 && id.all fun c =>
    (0x61 ≤ c && c ≤ 0x7A) || (0x41 ≤ c && c ≤ 0x5A) || (0x30 ≤ c && c ≤ 0x39) ||
      c = 0x2E || c = 0x5F || c = 0x2D

/-- The members of `ClientCore` without which no download starts. -/
structure DownloadClient where
  tlsServerName : Bytes
  httpPort : UInt16
  accessToken : Bytes

structure Destination where
  content : Option Bytes := none
  past : List (Option Bytes) := []
  deriving DecidableEq

namespace Destination

def set (dest : Destination) (content : Option Bytes) : Destination :=
  ⟨content, dest.content :: dest.past⟩

def bytes (dest : Destination) : Bytes := dest.content.getD []

def append (dest : Destination) (data : Bytes) : Destination := dest.set (some (dest.bytes ++ data))

end Destination

/-- A piece of the body: `canceled` and `stopped` are what `canceled()` says before it is written
and after the progress was told; `stored` is how much a write that fails leaves in the file. -/
structure BodyChunk where
  data : Bytes
  canceled : Bool := false
  stored : Option Nat := none
  stopped : Bool := false
  deriving DecidableEq

/-- What a `Get` receives: a head, and the pieces of the body that arrive. `whole` is that the
announced body was handed over to its end. -/
structure HttpAnswer where
  status : Nat
  contentRange : Bytes := []
  chunks : List BodyChunk := []
  whole : Bool := true
  deriving DecidableEq

def HttpAnswer.body (answer : HttpAnswer) : Bytes := answer.chunks.flatMap BodyChunk.data

/-- One attempt: what the other side makes of a request for the bytes from an offset, what
`canceled()` says where it is asked, and what fails on the disk. `closed` is how much of the file
is left when closing it fails. -/
structure DownloadLuck where
  answer : Nat → Option HttpAnswer
  canceledAtStart : Bool := false
  statFails : Bool := false
  canceledAtHead : Bool := false
  openFails : Bool := false
  closed : Option Nat := none
  canceledAtRestart : Bool := false
  removeFails : Bool := false
  canceledAtEnd : Bool := false

/-- What the response handler decides: to stop, to take the answer with no file open, or to write
the body to the file. -/
inductive HeadDecision
  | stop
  | pass
  | write (append : Bool)
  deriving DecidableEq

def downloadHead (luck : DownloadLuck) (existing : Nat) (answer : HttpAnswer) : HeadDecision :=
  if luck.canceledAtHead then .stop
  else if answer.status = 416 ∧ 0 < existing then .pass
  else if answer.status ≠ 200 ∧ answer.status ≠ 206 then .stop
  else if answer.status = 206 ∧ (existing = 0 ∨
      ¬ascii "bytes " ++ decimal existing ++ ascii "-" <+: answer.contentRange) then .stop
  else if luck.openFails then .stop
  else .write (answer.status = 206)

def receiveChunks (isOpen : Bool) (dest : Destination) : List BodyChunk → Bool × Destination
  | [] => (true, dest)
  | chunk :: rest =>
      if chunk.canceled || !isOpen then (false, dest)
      else
        match chunk.stored with
        | some stored => (false, dest.append (chunk.data.take stored))
        | none =>
            let dest := dest.append chunk.data
            if chunk.stopped then (false, dest) else receiveChunks isOpen dest rest

inductive AttemptEnd
  | returned (success : Bool)
  | restart
  deriving DecidableEq

def downloadAttempt (client : DownloadClient) (fileId : Bytes) (luck : DownloadLuck)
    (dest : Destination) : AttemptEnd × Destination :=
  if client.tlsServerName = [] || client.httpPort = 0 || client.accessToken = [] ||
      !safeMediaId fileId || luck.canceledAtStart then (.returned false, dest)
  else
    let existing := dest.bytes.length
    if luck.statFails ∨ fileMaxSize < existing then (.returned false, dest)
    else
      match luck.answer existing with
      | none => (.returned false, dest)
      | some answer =>
          if answer.status = 204 then (.returned false, dest)
          else
            match downloadHead luck existing answer with
            | .stop => (.returned false, dest)
            | .pass =>
                let res := (receiveChunks false dest answer.chunks).1 && answer.whole
                if res && !luck.canceledAtRestart then
                  if luck.removeFails then (.returned false, dest)
                  else (.restart, dest.set none)
                else (.returned false, dest)
            | .write append =>
                let opened := if append then dest else dest.set (some [])
                let (taken, dest) := receiveChunks true opened answer.chunks
                let dest := match luck.closed with
                  | none => dest
                  | some left => dest.set (some (dest.bytes.take left))
                (.returned (!luck.canceledAtEnd && taken && answer.whole && luck.closed.isNone), dest)

/-- The attempts of a call, which calls itself after a 416; `none` when the fuel is not enough. -/
def downloadMedia (client : DownloadClient) (fileId : Bytes) :
    Nat → (Nat → DownloadLuck) → Destination → Option (Bool × Destination)
  | 0, _, _ => none
  | fuel + 1, lucks, dest =>
      match downloadAttempt client fileId (lucks 0) dest with
      | (.returned success, dest) => some (success, dest)
      | (.restart, dest) => downloadMedia client fileId fuel (fun attempt => lucks (attempt + 1)) dest

/-! The server. -/

structure HttpReply where
  status : Nat
  contentRange : Bytes := []
  body : Bytes := []

/-- `set_file_content` under a `Range` for the bytes from an offset, whose `If-Range` is the `ETag`
of the file; without a part there is no `Range`. -/
def serveFile (reply : FileReply) (offset : Nat) : HttpReply :=
  match reply with
  | .status code => { status := code }
  | .content bytes _ =>
      if offset = 0 ∨ bytes = [] then { status := 200, body := bytes }
      else if bytes.length ≤ offset then { status := 416 }
      else {
        status := 206
        contentRange := ascii "bytes " ++ decimal offset ++ ascii "-" ++
          decimal (bytes.length - 1) ++ ascii "/" ++ decimal bytes.length
        body := bytes.drop offset }
  | _ => { status := 500 }

structure HttpReply.Delivers (sent : HttpReply) (answer : HttpAnswer) : Prop where
  status : answer.status = sent.status
  contentRange : answer.contentRange = sent.contentRange
  body : answer.body <+: sent.body
  whole : answer.whole = true → answer.body = sent.body

/-- A sequence of calls, with what each returned and left; `none` when one had not enough fuel. -/
def downloads (client : DownloadClient) (fileId : Bytes) (fuel : Nat) :
    Destination → List (Nat → DownloadLuck) → Option (List (Bool × Destination))
  | _, [] => some []
  | dest, lucks :: rest => do
      let answer ← downloadMedia client fileId fuel lucks dest
      let later ← downloads client fileId fuel answer.2 rest
      return answer :: later

structure HttpAnswer.Honest (file : Bytes) (offset : Nat) (answer : HttpAnswer) : Prop where
  full : answer.status = 200 → answer.body <+: file ∧ (answer.whole = true → answer.body = file)
  rest : answer.status = 206 → answer.body <+: file.drop offset ∧
    (answer.whole = true → answer.body = file.drop offset)

def DownloadLuck.Honest (file : Bytes) (luck : DownloadLuck) : Prop :=
  ∀ offset answer, luck.answer offset = some answer → answer.Honest file offset

theorem serveFile_honest {file : Bytes} {attachment : Option Bytes} {offset : Nat}
    {answer : HttpAnswer} (delivered : (serveFile (.content file attachment) offset).Delivers answer) :
    answer.Honest file offset := by
  unfold serveFile at delivered
  dsimp only at delivered
  split at delivered
  · exact ⟨fun _ => ⟨delivered.body, delivered.whole⟩, by simp [delivered.status]⟩
  · split at delivered
    · exact ⟨by simp [delivered.status], by simp [delivered.status]⟩
    · exact ⟨by simp [delivered.status], fun _ => ⟨delivered.body, delivered.whole⟩⟩

theorem handleDownload_honest {fs : HttpFileServer} {pick offset : Nat} {userId : Int32}
    {fileId file : Bytes} {answer : HttpAnswer}
    (same : ∀ bytes attachment, fs.handleDownload pick userId fileId = .content bytes attachment →
      bytes = file)
    (delivered : (serveFile (fs.handleDownload pick userId fileId) offset).Delivers answer) :
    answer.Honest file offset := by
  have refused (code : Nat) (other : code ≠ 200 ∧ code ≠ 206)
      (delivered : (serveFile (.status code) offset).Delivers answer) :
      answer.Honest file offset :=
    ⟨fun is => absurd (delivered.status.symm.trans is) other.1,
      fun is => absurd (delivered.status.symm.trans is) other.2⟩
  unfold HttpFileServer.handleDownload at same delivered
  split at delivered
  · exact refused 400 (by decide) delivered
  · rename_i safe
    rw [if_neg safe] at same
    split at delivered
    · exact refused 404 (by decide) delivered
    · rename_i m found
      rw [found] at same
      dsimp only at same
      split at delivered
      · exact refused 404 (by decide) delivered
      · rename_i stored
        rw [if_neg stored] at same
        split at delivered
        · exact refused 403 (by decide) delivered
        · rename_i participant
          rw [if_neg participant] at same
          split at delivered
          · exact refused 404 (by decide) delivered
          · rename_i bytes opened
            rw [opened] at same
            obtain rfl := same bytes _ rfl
            exact serveFile_honest delivered

def Destination.Prefixes (file : Bytes) (dest : Destination) : Prop :=
  ∀ content ∈ dest.content :: dest.past, content.getD [] <+: file

namespace Destination

variable {file : Bytes} {dest : Destination} {content : Option Bytes}

theorem Prefixes.set (kept : dest.Prefixes file) (begins : content.getD [] <+: file) :
    (dest.set content).Prefixes file := by
  intro other member
  rcases List.mem_cons.mp member with rfl | earlier
  · exact begins
  · exact kept other earlier

theorem Prefixes.bytes (kept : dest.Prefixes file) : dest.bytes <+: file :=
  kept dest.content (List.mem_cons_self ..)

@[simp] theorem set_bytes (data : Bytes) : (dest.set (some data)).bytes = data := rfl

@[simp] theorem append_bytes (data : Bytes) : (dest.append data).bytes = dest.bytes ++ data := rfl

end Destination

theorem receiveChunks_prefixes {file : Bytes} (chunks : List BodyChunk) {dest : Destination}
    (kept : dest.Prefixes file)
    (continues : dest.bytes ++ chunks.flatMap BodyChunk.data <+: file) (isOpen : Bool) :
    (receiveChunks isOpen dest chunks).2.Prefixes file := by
  induction chunks generalizing dest with
  | nil => exact kept
  | cons chunk rest ih =>
      rw [List.flatMap_cons, ← List.append_assoc] at continues
      have through : dest.bytes ++ chunk.data <+: file :=
        (List.prefix_append _ _).trans continues
      unfold receiveChunks
      split
      · exact kept
      · split
        · rename_i stored _
          refine kept.set (List.IsPrefix.trans ?_ through)
          exact (List.prefix_append_right_inj _).mpr (List.take_prefix stored chunk.data)
        · have next : (dest.append chunk.data).Prefixes file := kept.set through
          dsimp only
          split
          · exact next
          · exact ih next continues

theorem receiveChunks_taken (chunks : List BodyChunk) {dest : Destination}
    (taken : (receiveChunks true dest chunks).1 = true) (present : dest.content ≠ none) :
    (receiveChunks true dest chunks).2.content =
      some (dest.bytes ++ chunks.flatMap BodyChunk.data) := by
  induction chunks generalizing dest with
  | nil =>
      obtain ⟨bytes, content⟩ := Option.ne_none_iff_exists'.mp present
      simp [receiveChunks, Destination.bytes, content]
  | cons chunk rest ih =>
      unfold receiveChunks at taken ⊢
      split at taken
      · simp at taken
      · rename_i proceeds
        rw [if_neg proceeds]
        split at taken
        · simp at taken
        · dsimp only at taken ⊢
          split at taken
          · simp at taken
          · rename_i continues
            rw [if_neg continues, ih taken (by simp [Destination.append, Destination.set]),
              Destination.append_bytes, List.flatMap_cons, List.append_assoc]

theorem downloadHead_write {luck : DownloadLuck} {existing : Nat} {answer : HttpAnswer}
    {append : Bool} (writes : downloadHead luck existing answer = .write append) :
    append = true ∧ answer.status = 206 ∧ 0 < existing ∨ append = false ∧ answer.status = 200 := by
  unfold downloadHead at writes
  split at writes
  · simp at writes
  · split at writes
    · simp at writes
    · split at writes
      · simp at writes
      · rename_i accepted
        split at writes
        · simp at writes
        · rename_i resumes
          split at writes
          · simp at writes
          · rw [HeadDecision.write.injEq] at writes
            by_cases resumed : answer.status = 206
            · refine .inl ⟨by rw [← writes, decide_eq_true resumed], resumed, ?_⟩
              simp only [resumed, true_and, not_or] at resumes
              omega
            · refine .inr ⟨by rw [← writes, decide_eq_false resumed], ?_⟩
              by_contra other
              exact accepted ⟨other, resumed⟩

theorem downloadHead_pass {luck : DownloadLuck} {existing : Nat} {answer : HttpAnswer}
    (passes : downloadHead luck existing answer = .pass) : 0 < existing := by
  unfold downloadHead at passes
  split at passes
  · simp at passes
  · split at passes
    · rename_i unsatisfiable
      exact unsatisfiable.2
    · split at passes
      · simp at passes
      · split at passes
        · simp at passes
        · split at passes <;> simp at passes

/-- What an attempt keeps, and what it has when it returns `true`. -/
structure AttemptSound (file : Bytes) (before : Destination) (answer : AttemptEnd × Destination) :
    Prop where
  prefixes : answer.2.Prefixes file
  complete : answer.1 = .returned true → answer.2.content = some file
  restarts : answer.1 = .restart → before.content ≠ none ∧ answer.2.content = none

variable {client : DownloadClient} {fileId file : Bytes} {luck : DownloadLuck} {dest : Destination}

theorem AttemptSound.stop (kept : dest.Prefixes file) :
    AttemptSound file dest (.returned false, dest) :=
  ⟨kept, by simp, by simp⟩

theorem receive_sound {answer : HttpAnswer} {opened : Destination} (success : Bool)
    (kept : opened.Prefixes file) (present : opened.content ≠ none)
    (begins : opened.bytes ++ answer.body <+: file)
    (ends : answer.whole = true → opened.bytes ++ answer.body = file) :
    AttemptSound file dest
      (let received := receiveChunks true opened answer.chunks
        let left := match luck.closed with
          | none => received.2
          | some left => received.2.set (some (received.2.bytes.take left))
        (.returned (success && received.1 && answer.whole && luck.closed.isNone), left)) := by
  have prefixes := receiveChunks_prefixes answer.chunks kept begins true
  refine ⟨?_, fun succeeded => ?_, fun restart => by simp at restart⟩
  · dsimp only
    split
    · exact prefixes
    · exact prefixes.set ((List.take_prefix _ _).trans prefixes.bytes)
  · simp only [AttemptEnd.returned.injEq, Bool.and_eq_true, Option.isNone_iff_eq_none] at succeeded
    obtain ⟨⟨⟨_, taken⟩, whole⟩, closed⟩ := succeeded
    simp only [closed]
    rw [receiveChunks_taken answer.chunks taken present]
    exact congrArg some (ends whole)

theorem downloadAttempt_sound (honest : luck.Honest file) (kept : dest.Prefixes file) :
    AttemptSound file dest (downloadAttempt client fileId luck dest) := by
  have stop := AttemptSound.stop kept
  unfold downloadAttempt
  split
  · exact stop
  · dsimp only
    split
    · exact stop
    · split
      · exact stop
      · rename_i answer answered
        have honest := honest _ _ answered
        split
        · exact stop
        · split
          · exact stop
          · rename_i passes
            have some : dest.content ≠ none := fun absent => by
              have empty := downloadHead_pass passes
              simp [Destination.bytes, absent] at empty
            split
            · split
              · exact stop
              · exact ⟨kept.set List.nil_prefix, by simp, fun _ => ⟨some, rfl⟩⟩
            · exact stop
          · rename_i append writes
            rcases downloadHead_write writes with ⟨rfl, resumed, existing⟩ | ⟨rfl, status⟩
            · have some : dest.content ≠ none := fun absent => by
                simp [Destination.bytes, absent] at existing
              obtain ⟨begins, ends⟩ := honest.rest resumed
              obtain ⟨tail, split⟩ := kept.bytes
              rw [← split, List.drop_left] at begins ends
              refine receive_sound _ kept some ?_ fun whole => ?_
              · rw [← split]
                exact (List.prefix_append_right_inj _).mpr begins
              · rw [ends whole]
                exact split
            · obtain ⟨begins, ends⟩ := honest.full status
              exact receive_sound _ (kept.set List.nil_prefix)
                (by simp [Destination.set]) begins ends

theorem downloadMedia_sound {lucks : Nat → DownloadLuck} (honest : ∀ n, (lucks n).Honest file)
    (kept : dest.Prefixes file) {fuel : Nat} (enough : 2 ≤ fuel) :
    ∃ success after, downloadMedia client fileId fuel lucks dest = some (success, after) ∧
      after.Prefixes file ∧ (success = true → after.content = some file) := by
  obtain ⟨fuel, rfl⟩ : ∃ more, fuel = more + 2 := ⟨fuel - 2, by omega⟩
  have first : AttemptSound file dest (downloadAttempt client fileId (lucks 0) dest) :=
    downloadAttempt_sound (honest 0) kept
  unfold downloadMedia
  rcases attempted : downloadAttempt client fileId (lucks 0) dest with ⟨_ | _, after⟩
  · rename_i success
    rw [attempted] at first
    exact ⟨success, after, rfl, first.prefixes, fun yes => first.complete (by rw [yes])⟩
  · rw [attempted] at first
    have second : AttemptSound file after (downloadAttempt client fileId (lucks 1) after) :=
      downloadAttempt_sound (honest 1) first.prefixes
    dsimp only
    unfold downloadMedia
    rcases again : downloadAttempt client fileId (lucks 1) after with ⟨_ | _, last⟩
    · rename_i success
      rw [again] at second
      exact ⟨success, last, rfl, second.prefixes, fun yes => second.complete (by rw [yes])⟩
    · rw [again] at second
      exact absurd (first.restarts rfl).2 (second.restarts rfl).1

theorem downloads_sound {fuel : Nat} (enough : 2 ≤ fuel) (calls : List (Nat → DownloadLuck))
    (honest : ∀ lucks ∈ calls, ∀ n, (lucks n).Honest file) (kept : dest.Prefixes file) :
    ∃ answers, downloads client fileId fuel dest calls = some answers ∧
      answers.length = calls.length ∧
      ∀ answer ∈ answers, answer.2.Prefixes file ∧
        (answer.1 = true → answer.2.content = some file) := by
  induction calls generalizing dest with
  | nil => exact ⟨[], rfl, rfl, fun answer member => absurd member List.not_mem_nil⟩
  | cons lucks rest ih =>
      obtain ⟨success, after, called, prefixes, complete⟩ :
          ∃ success after, downloadMedia client fileId fuel lucks dest = some (success, after) ∧
            after.Prefixes file ∧ (success = true → after.content = some file) :=
        downloadMedia_sound (honest lucks (List.mem_cons_self ..)) kept enough
      obtain ⟨later, went, length, sound⟩ :=
        ih (fun lucks member => honest lucks (List.mem_cons_of_mem _ member)) prefixes
      refine ⟨(success, after) :: later, ?_, by simp [length], ?_⟩
      · simp [downloads, called, went]
      · intro answer member
        rcases List.mem_cons.mp member with rfl | inLater
        · exact ⟨prefixes, complete⟩
        · exact sound answer inLater

/-- The calls with one file id to a path where nothing is yet: each ends, the file there has only
ever been the beginning of the server's file, and it is all of it after a call that succeeds. -/
theorem downloads_resume (client : DownloadClient) (fileId file : Bytes) (fuel : Nat)
    (calls : List (Nat → DownloadLuck)) (enough : 2 ≤ fuel)
    (honest : ∀ lucks ∈ calls, ∀ n, (lucks n).Honest file) :
    ∃ answers, downloads client fileId fuel {} calls = some answers ∧
      answers.length = calls.length ∧
      ∀ answer ∈ answers,
        (∀ content ∈ answer.2.content :: answer.2.past, content.getD [] <+: file) ∧
        (answer.1 = true → answer.2.content = some file) := by
  refine downloads_sound enough calls honest fun content member => ?_
  rw [List.mem_singleton.mp member]
  exact List.nil_prefix

def firstBytes (file : Bytes) (count offset : Nat) : Option HttpAnswer :=
  let sent := serveFile (.content file none) offset
  some {
    status := sent.status
    contentRange := sent.contentRange
    chunks := (sent.body.take count).map fun byte => { data := [byte] }
    whole := sent.body.length ≤ count }

theorem firstBytes_honest (file : Bytes) (count : Nat) :
    DownloadLuck.Honest file { answer := firstBytes file count } := by
  intro offset answer answered
  rw [← Option.some.inj answered]
  have delivered : (serveFile (.content file none) offset).Delivers
      ((firstBytes file count offset).get rfl) := by
    have body : ((firstBytes file count offset).get rfl).body =
        (serveFile (.content file none) offset).body.take count := by
      simp only [firstBytes, Option.get_some, HttpAnswer.body, List.flatMap_map]
      exact List.flatMap_singleton' _
    refine ⟨rfl, rfl, ?_, fun whole => ?_⟩
    · rw [body]
      exact List.take_prefix _ _
    · rw [body]
      exact List.take_of_length_le (of_decide_eq_true whole)
  exact serveFile_honest delivered

def letterCalls : List (Nat → DownloadLuck) :=
  [2, 1, 9, 9].map fun count _ => { answer := firstBytes (ascii "abcd") count }

theorem downloads_resume_letters :
    ∃ answers, downloads ⟨ascii "im", 443, ascii "token"⟩ (ascii "f") 2 {} letterCalls = some answers ∧
      answers.length = letterCalls.length ∧
      ∀ answer ∈ answers,
        (∀ content ∈ answer.2.content :: answer.2.past, content.getD [] <+: ascii "abcd") ∧
        (answer.1 = true → answer.2.content = some (ascii "abcd")) :=
  downloads_resume _ _ _ 2 _ (Nat.le_refl 2) fun lucks member n => by
    obtain ⟨count, _, rfl⟩ := List.mem_map.mp member
    exact firstBytes_honest _ count

example : (downloads ⟨ascii "im", 443, ascii "token"⟩ (ascii "f") 2 {} letterCalls).map
    (·.map fun answer => (answer.1, answer.2.content)) =
      some [(false, some (ascii "ab")), (false, some (ascii "abc")), (true, some (ascii "abcd")),
        (true, some (ascii "abcd"))] := by
  decide +kernel

end Jitong
