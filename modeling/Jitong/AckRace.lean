import Jitong.OperationResults
import Jitong.OutboxInvariant

/-!
The outbox pump and the acknowledgements: threads that send messages and flush the outbox, and the
IO thread that handles what the server answers, in any order of their steps.
-/

namespace Jitong

open NativeRepository Jitong.Lib

structure ChatProtocolAck where
  peerId : Int
  conversationSeq : Int := 0
  result : Int32 := 0
  msgId : Bytes
  deriving DecidableEq

/-- `MessageService::onProtocolAck`; a refusal, or a transaction that fails, gives `none`. -/
def NativeRepository.onProtocolAck (db : NativeRepository) (ack : ChatProtocolAck)
    (attempt now jitter : Int) : Option NativeRepository :=
  if now < 0 ∨ maxInt64 - 90 < now then none
  else if ack.result = chatResultSucc ∨ ack.result = chatResultFail then
    if ack.conversationSeq ≤ 0 then none
    else
      db.commitAck ack.msgId 0 ack.conversationSeq (if ack.result = chatResultSucc then 1 else 3)
  else if ack.result = chatResultNotFriend then
    db.finishOutboxAttempt ack.msgId attempt true 0 (ascii "not_friend")
  else if ack.result = chatResultFileNotOwned then
    db.finishOutboxAttempt ack.msgId attempt true 0 (ascii "file_not_owned")
  else if ack.result = chatResultServerError then
    if attempt ≤ 0 then none
    else
      let delay := min 60 (2 ^ (min (attempt - 1) 6).toNat : Int)
      db.finishOutboxAttempt ack.msgId attempt false (now + delay + jitter % (delay / 4 + 1))
        (ascii "server_error")
  else none

def NativeRepository.prepareOutgoing (db : NativeRepository) (m : MessageDto) (now : Int) :
    Option NativeRepository :=
  if m.peerId ≤ 0 ∨ 0x7FFFFFFF < m.peerId ∨ m.conversationId ≤ 0 then none
  else
    (db.commitOutgoingDraft
      { m with localOrder := 0, seq := 0, ts := 0, status := 0, fromMe := true } now).map Prod.snd

namespace AckRace

structure InflightMessage where
  attempt : Int := 0
  operationId : OperationId := []
  deriving DecidableEq

/-- What a thread is about: `flushOutbox` at the head of its attempts, or after
`sendChatPayload` took the payload of one; `sendText` or `sendMedia` after the draft is stored. -/
inductive Job
  | sending (now : Int) (attempts : List OutboxAttempt)
  | registering (now : Int) (attempt : OutboxAttempt) (rest : List OutboxAttempt)
  | tracking (msgId : Bytes) (operationId : OperationId)
  deriving DecidableEq

inductive Stage
  | looked | found | applied | erased
  deriving DecidableEq

/-- `handleChatAck` after its look at `m_inflightMessages`. Where the acknowledgement is owed an
effect, `operations` are those of its message. -/
structure Handling where
  ack : ChatProtocolAck
  inflight : InflightMessage
  operations : Option (List OperationId)
  stage : Stage := .looked
  deriving DecidableEq

inductive Event (threads : Nat)
  | operation (call : OperationCall)
  | setAccountAuthenticated (authenticated : Bool)
  | store (call : OutboxCall)
  | prepareOutgoing (thread : Fin threads) (domain : Bytes) (m : MessageDto) (now : Int)
  | track (thread : Fin threads)
  | claim (thread : Fin threads) (connected : Bool) (now : Int) (limit : Nat)
  | sendChatPayload (thread : Fin threads) (taken : Bool)
  | register (thread : Fin threads)
  | look (ack : ChatProtocolAck)
  | findMessage
  | apply (now jitter : Int) (written reported : Bool)
  | erase
  | complete (now : Int)

end AckRace

open AckRace

/-- `handed` are the attempts whose payload the core took, `drawn` the operations of the messages,
and `concluded` the owed acknowledgements whose handling has ended. -/
structure AckRace (threads : Nat) where
  history : OperationHistory
  db : NativeRepository := {}
  inflight : Bytes → Option InflightMessage := fun _ => none
  jobs : Fin threads → Option Job := fun _ => none
  io : Option Handling := none
  handed : List (Bytes × Int) := []
  drawn : List (Bytes × OperationId) := []
  concluded : List (Bytes × List OperationId) := []

namespace AckRace

variable {threads : Nat}

/-- Which steps of the life cycle clear `m_inflightMessages`. -/
def clears (runtime : ClientRuntime) : OperationCall → Bool
  | .advance => runtime.control = some .clearAccount
  | .destroy _ => runtime.control = none && runtime.state ≠ .destroyed
  | _ => false

def operation (world : AckRace threads) (call : OperationCall) : AckRace threads :=
  { world with
    history := world.history.step call
    inflight := if clears world.history.runtime call then fun _ => none else world.inflight }

def setAccountAuthenticated (world : AckRace threads) (authenticated : Bool) : AckRace threads :=
  { world with
    history := { world.history with
      runtime := { world.history.runtime with accountAuthenticated := authenticated } } }

def set (world : AckRace threads) (thread : Fin threads) (job : Option Job) : AckRace threads :=
  { world with jobs := Function.update world.jobs thread job }

/-- `sendText` and `sendMedia`, up to the stored draft. -/
def prepareOutgoing (world : AckRace threads) (thread : Fin threads) (domain : Bytes)
    (m : MessageDto) (now : Int) : AckRace threads :=
  let id := (world.history.runtime.nextOperationId domain).1
  let entered := world.operation (.nextOperationId domain)
  if id = [] then entered
  else
    match world.db.prepareOutgoing m now with
    | none => entered.operation (.completeOperation id .failed [] now)
    | some db =>
        { entered.set thread (some (.tracking m.msgId id)) with
          db := db
          drawn := (m.msgId, id) :: world.drawn }

def claim (world : AckRace threads) (thread : Fin threads) (connected : Bool) (now : Int)
    (limit : Nat) : AckRace threads :=
  if world.history.runtime.state ≠ .running ∨ !world.history.runtime.accountAuthenticated ∨
      !connected then world
  else
    { world.set thread (some (.sending now (world.db.attempts now 30 limit))) with
      db := world.db.outboxCall (.claimOutbox now 30 limit) }

def register (world : AckRace threads) (msgId : Bytes) (attempt : Int) : AckRace threads :=
  { world with
    inflight := Function.update world.inflight msgId
      (some { (world.inflight msgId).getD {} with attempt := attempt }) }

def work (world : AckRace threads) (thread : Fin threads) (move : Job → AckRace threads) :
    AckRace threads :=
  match world.jobs thread with
  | none => world
  | some job => move job

def operationsOf (world : AckRace threads) (msgId : Bytes) : List OperationId :=
  (world.drawn.filter fun entry => entry.1 = msgId).map Prod.snd

def accepted (world : AckRace threads) (ack : ChatProtocolAck) : Bool :=
  (ack.result = chatResultSucc || ack.result = chatResultFail) && 0 < ack.conversationSeq &&
    (world.db.message ack.msgId).any fun row => row.fromMe && row.peerId = ack.peerId

def owed (world : AckRace threads) (ack : ChatProtocolAck) : Bool :=
  world.accepted ack &&
    (world.db.queued ack.msgId).any fun row => (ack.msgId, row.retryCount) ∈ world.handed

def conclude (world : AckRace threads) (handling : Handling) : AckRace threads :=
  { world with
    io := none
    concluded := match handling.operations with
      | none => world.concluded
      | some operations => (handling.ack.msgId, operations) :: world.concluded }

def look (world : AckRace threads) (ack : ChatProtocolAck) : AckRace threads :=
  let inflight := (world.inflight ack.msgId).getD {}
  let handling : Handling :=
    { ack := ack
      inflight := inflight
      operations := if world.owed ack then some (world.operationsOf ack.msgId) else none }
  if world.history.runtime.state ≠ .running ∨ ack.msgId = [] ∨ inflight.attempt ≤ 0 then
    world.conclude handling
  else { world with io := some handling }

def findMessage (world : AckRace threads) (handling : Handling) : AckRace threads :=
  if (world.db.message handling.ack.msgId).any fun row =>
      row.fromMe && row.peerId = handling.ack.peerId then
    { world with io := some { handling with stage := .found } }
  else world.conclude handling

def apply (world : AckRace threads) (handling : Handling) (now jitter : Int)
    (written reported : Bool) : AckRace threads :=
  match world.db.onProtocolAck handling.ack handling.inflight.attempt now jitter with
  | none => world.conclude handling
  | some db =>
      let after := if written then { world with db := db } else world
      if written && reported then { after with io := some { handling with stage := .applied } }
      else after.conclude handling

def erase (world : AckRace threads) (handling : Handling) : AckRace threads :=
  if handling.ack.result = chatResultServerError then world.conclude handling
  else
    { world with
      inflight := Function.update world.inflight handling.ack.msgId none
      io := some { handling with stage := .erased } }

def complete (world : AckRace threads) (handling : Handling) (now : Int) : AckRace threads :=
  let result : CompletionRegistry.Result :=
    if handling.ack.result = chatResultSucc ∨ handling.ack.result = chatResultFail then .ok
    else .failed
  (world.operation (.completeOperation handling.inflight.operationId result [] now)).conclude
    handling

def step (world : AckRace threads) : Event threads → AckRace threads
  | .operation call => world.operation call
  | .setAccountAuthenticated authenticated => world.setAccountAuthenticated authenticated
  | .store call => { world with db := world.db.outboxCall call }
  | .prepareOutgoing thread domain m now =>
      match world.jobs thread with
      | none => world.prepareOutgoing thread domain m now
      | some _ => world
  | .track thread => world.work thread fun job =>
      match job with
      | .tracking msgId operationId =>
          { world.set thread none with
            inflight := Function.update world.inflight msgId (some ⟨0, operationId⟩) }
      | _ => world
  | .claim thread connected now limit =>
      match world.jobs thread with
      | none => world.claim thread connected now limit
      | some _ => world
  | .sendChatPayload thread taken => world.work thread fun job =>
      match job with
      | .sending _ [] => world.set thread none
      | .sending now (attempt :: rest) =>
          if taken then
            { world.set thread (some (.registering now attempt rest)) with
              handed := (attempt.msgId, attempt.attempt) :: world.handed }
          else
            { world.set thread (some (.sending now rest)) with
              db := world.db.outboxCall (.finishOutboxAttempt attempt.msgId attempt.attempt false
                (now + 1) (ascii "not_connected")) }
      | _ => world
  | .register thread => world.work thread fun job =>
      match job with
      | .registering now attempt rest =>
          (world.register attempt.msgId attempt.attempt).set thread (some (.sending now rest))
      | _ => world
  | .look ack => if world.io = none then world.look ack else world
  | .findMessage => world.io.elim world fun handling =>
      if handling.stage = .looked then world.findMessage handling else world
  | .apply now jitter written reported => world.io.elim world fun handling =>
      if handling.stage = .found then world.apply handling now jitter written reported else world
  | .erase => world.io.elim world fun handling =>
      if handling.stage = .applied then world.erase handling else world
  | .complete now => world.io.elim world fun handling =>
      if handling.stage = .erased then world.complete handling now else world

def completed (world : AckRace threads) (id : OperationId) : Bool :=
  id ∈ world.history.results.map Prod.fst

def NoneLost (world : AckRace threads) : Prop :=
  ∀ msgId operations, (msgId, operations) ∈ world.concluded →
    world.db.queued msgId = none ∧ ∀ id ∈ operations, world.completed id = true

def numberFree (db : NativeRepository) (msgId : Bytes) (seq status : Int) : Bool :=
  (db.message msgId).any fun row =>
    (row.conversationSeq ≤ 0 || row.conversationSeq = seq) &&
      (db.messages.rows.filter fun other => other.msgId ≠ msgId).all fun other =>
        !(row.advance seq 0 status).clashes other

def permits (world : AckRace threads) : Event threads → Bool
  | .operation (.nextOperationId _) => world.history.handedOut.length < 2 ^ 64
  | .prepareOutgoing _ _ _ _ => world.history.handedOut.length < 2 ^ 64
  | .look ack =>
      !world.owed ack || world.history.runtime.state = .running && ack.msgId ≠ [] &&
        (world.inflight ack.msgId).any fun inflight =>
          0 < inflight.attempt && (world.operationsOf ack.msgId).all fun id =>
            world.completed id || id = inflight.operationId
  | .apply now _ written reported => world.io.all fun handling =>
      handling.operations = none || 0 ≤ now && now ≤ maxInt64 - 90 && written && reported &&
        numberFree world.db handling.ack.msgId handling.ack.conversationSeq
          (if handling.ack.result = chatResultSucc then 1 else 3)
  | _ => true

def create (ownerId : Int) (instanceId : UInt64) : AckRace threads where
  history := .fresh ownerId 256 instanceId

variable {world : AckRace threads} {msgId : Bytes} {id : OperationId}

/-! Results are never taken back, and completing an operation gives it one. -/

theorem results_kept {history : OperationHistory} (call : OperationCall)
    (member : id ∈ history.results.map Prod.fst) : id ∈ (history.step call).results.map Prod.fst := by
  have append (more : List (OperationId × CompletionRegistry.Result)) :
      id ∈ (history.results ++ more).map Prod.fst := by
    rw [List.map_append]
    exact List.mem_append_left _ member
  cases call with
  | nextOperationId domain => exact member
  | completeOperation other result error now =>
      simp only [OperationHistory.step]
      split
      · exact member
      · exact append _
  | consumeOperation other =>
      simp only [OperationHistory.step]
      split <;> exact member
  | start databaseFits => exact member
  | stop now => exact append _
  | logout now => exact append _
  | destroy now => exact append _
  | advance => exact member

theorem handedOut_kept {history : OperationHistory} (call : OperationCall)
    (member : id ∈ history.handedOut) : id ∈ (history.step call).handedOut := by
  cases call with
  | nextOperationId domain =>
      simp only [OperationHistory.step]
      split
      · exact member
      · exact List.mem_append_left _ member
  | completeOperation other result error now =>
      simp only [OperationHistory.step]
      split <;> exact member
  | consumeOperation other =>
      simp only [OperationHistory.step]
      split <;> exact member
  | start | stop | logout | destroy | advance => exact member

def ConsumedResults (history : OperationHistory) : Prop :=
  ∀ id ∈ history.consumed, id ∈ history.results.map Prod.fst

theorem ConsumedResults.step {history : OperationHistory} (consumed : ConsumedResults history)
    (sound : history.Sound) (call : OperationCall) : ConsumedResults (history.step call) := by
  have same (kept : (history.step call).consumed = history.consumed) :
      ConsumedResults (history.step call) := by
    intro id member
    rw [kept] at member
    exact results_kept call (consumed id member)
  cases call with
  | consumeOperation other =>
      intro id member
      refine results_kept _ ?_
      simp only [OperationHistory.step, ClientRuntime.consumeOperation,
        CompletionRegistry.consume] at member
      cases found : history.runtime.completions.peek other with
      | none =>
          simp only [found, Option.map_none] at member
          exact consumed id member
      | some record =>
          simp only [found, Option.map_some] at member
          rcases List.mem_append.mp member with earlier | own
          · exact consumed id earlier
          · obtain ⟨inRecords, named⟩ := CompletionRegistry.peek_member found
            rw [List.mem_singleton.mp own, ← named]
            exact List.mem_map_of_mem (sound.agrees.recorded record inRecords)
  | completeOperation other result error now =>
      refine same ?_
      simp only [OperationHistory.step]
      split <;> rfl
  | nextOperationId | start | stop | logout | destroy | advance => exact same rfl

theorem complete_results {history : OperationHistory} (sound : history.Sound)
    (consumed : ConsumedResults history) (known : id ∈ history.handedOut)
    (result : CompletionRegistry.Result) (error : Bytes) (now : Int) :
    id ∈ (history.step (.completeOperation id result error now)).results.map Prod.fst := by
  by_cases used : id ∈ history.consumed
  · exact results_kept _ (consumed id used)
  · have admitted := sound.outstanding id known used
    cases found : history.runtime.completions.peek id with
    | some record =>
        obtain ⟨inRecords, named⟩ := CompletionRegistry.peek_member found
        refine results_kept _ ?_
        rw [← named]
        exact List.mem_map_of_mem (sound.agrees.recorded record inRecords)
    | none =>
        have running : history.runtime.state = .running := by
          by_contra stopped
          have settled := sound.settled stopped id admitted
          simp [found] at settled
        obtain ⟨after, completed⟩ :=
          sound.agrees.admits.complete_granted admitted found result error now
        obtain ⟨peeked, _⟩ := sound.agrees.complete admitted completed
        simp [OperationHistory.step, ClientRuntime.completeOperation, running, admitted, completed,
          peeked, CompletionRegistry.Record.of]

/-! What an acknowledgement does to the tables. -/

inductive Answers (ack : ChatProtocolAck) (attempt now jitter : Int) :
    OutboxCall → Prop
  | numbered (status : Int) :
      Answers ack attempt now jitter
        (.message (.commitAck ack.msgId 0 ack.conversationSeq status))
  | refused (error : Bytes) :
      Answers ack attempt now jitter (.finishOutboxAttempt ack.msgId attempt true 0 error)
  | again (error : Bytes) (result : ack.result = chatResultServerError) (clock : 0 ≤ now) :
      Answers ack attempt now jitter
        (.finishOutboxAttempt ack.msgId attempt false
          (now + min 60 (2 ^ (min (attempt - 1) 6).toNat : Int) +
            jitter % (min 60 (2 ^ (min (attempt - 1) 6).toNat : Int) / 4 + 1)) error)

theorem onProtocolAck_call {db after : NativeRepository} {ack : ChatProtocolAck}
    {attempt now jitter : Int} (done : db.onProtocolAck ack attempt now jitter = some after) :
    ∃ call, after = db.outboxCall call ∧ Answers ack attempt now jitter call := by
  unfold NativeRepository.onProtocolAck at done
  have finished {terminal : Bool} {retryAt : Int} {error : Bytes}
      (done : db.finishOutboxAttempt ack.msgId attempt terminal retryAt error = some after) :
      after = db.outboxCall (.finishOutboxAttempt ack.msgId attempt terminal retryAt error) := by
    simp [outboxCall, done]
  split at done
  · simp at done
  · rename_i range
    split at done
    · split at done
      · simp at done
      · exact ⟨.message (.commitAck ack.msgId 0 ack.conversationSeq
          (if ack.result = chatResultSucc then 1 else 3)),
          by simp [outboxCall, NativeRepository.call, done], .numbered _⟩
    · split at done
      · exact ⟨_, finished done, .refused _⟩
      · split at done
        · exact ⟨_, finished done, .refused _⟩
        · split at done
          · rename_i again
            split at done
            · simp at done
            · exact ⟨_, finished done, .again _ again (by omega)⟩
          · simp at done

theorem onProtocolAck_granted {db : NativeRepository} {ack : ChatProtocolAck} {row : NativeMessageRow}
    {attempt now jitter : Int} (stored : db.message ack.msgId = some row)
    (result : ack.result = chatResultSucc ∨ ack.result = chatResultFail)
    (numbered : 0 < ack.conversationSeq) (clock : 0 ≤ now ∧ now ≤ maxInt64 - 90)
    (free : numberFree db ack.msgId ack.conversationSeq
      (if ack.result = chatResultSucc then 1 else 3) = true) :
    ∃ after, db.onProtocolAck ack attempt now jitter = some after ∧
      after.queued ack.msgId = none := by
  unfold NativeRepository.onProtocolAck
  rw [if_neg (by omega), if_pos result, if_neg (by omega)]
  generalize sameStatus : (if ack.result = chatResultSucc then (1 : Int) else 3) = status at free ⊢
  have range : 0 < status ∧ status ≤ 3 := by
    subst sameStatus
    split <;> omega
  have holds : db.Holds ack.msgId row
      (db.messages.rows.filter fun other => other.msgId ≠ ack.msgId) := ⟨stored, rfl⟩
  simp only [numberFree, stored, Option.any_some, Bool.and_eq_true, Bool.or_eq_true,
    decide_eq_true_eq, List.all_eq_true, Bool.not_eq_true'] at free
  have granted := (@commitAck_isSome db ack.msgId row _ 0 ack.conversationSeq status holds).mpr
    ⟨by omega, by omega, free.2⟩
  obtain ⟨after, committed⟩ := Option.isSome_iff_exists.mp granted
  exact ⟨after, committed, (holds.acked range.1 committed).2.2.2⟩

theorem outboxCall_gone {db : NativeRepository} (call : OutboxCall)
    (stored : (db.message msgId).isSome) (gone : db.queued msgId = none) :
    (db.outboxCall call).queued msgId = none := by
  by_contra back
  obtain ⟨later, found⟩ := Option.ne_none_iff_exists'.mp back
  rcases outboxCall_queued found with ⟨_, _, ⟨unknown, _⟩, _⟩ | ⟨row, queued, _⟩
  · simp [unknown] at stored
  · simp [gone] at queued

/-! What a run keeps where every step is permitted. -/

/-- An owed acknowledgement on its way: its message is stored, and its operations have ended or are
ended by it. -/
structure Owes (world : AckRace threads) (handling : Handling) (operations : List OperationId) :
    Prop where
  result : handling.ack.result = chatResultSucc ∨ handling.ack.result = chatResultFail
  numbered : 0 < handling.ack.conversationSeq
  stored : ∃ row, world.db.message handling.ack.msgId = some row ∧ row.fromMe = true ∧
    row.peerId = handling.ack.peerId
  operations : ∀ id ∈ operations, id ∈ world.history.handedOut ∧
    (world.completed id = true ∨ id = handling.inflight.operationId)
  gone : handling.stage = .applied ∨ handling.stage = .erased →
    world.db.queued handling.ack.msgId = none

def Paid (world : AckRace threads) (msgId : Bytes) (operations : List OperationId) : Prop :=
  (world.db.message msgId).isSome ∧ world.db.queued msgId = none ∧
    ∀ id ∈ operations, world.completed id = true

structure Sound (world : AckRace threads) : Prop where
  history : world.history.Sound
  consumed : ConsumedResults world.history
  drawn : ∀ entry ∈ world.drawn, entry.2 ∈ world.history.handedOut
  io : ∀ handling operations, world.io = some handling → handling.operations = some operations →
    world.Owes handling operations
  concluded : ∀ msgId operations, (msgId, operations) ∈ world.concluded →
    world.Paid msgId operations

theorem Owes.outboxCall {handling : Handling} {operations : List OperationId}
    (owes : world.Owes handling operations) (call : OutboxCall) :
    ({ world with db := world.db.outboxCall call } : AckRace threads).Owes handling operations := by
  obtain ⟨row, stored, mine, peer⟩ := owes.stored
  obtain ⟨later, storedLater, evolves⟩ := outboxCall_message call stored
  refine ⟨owes.result, owes.numbered, ⟨later, storedLater, ?_, ?_⟩, owes.operations, ?_⟩
  · exact evolves.identity.2.2.2.1.trans mine
  · exact evolves.identity.2.2.1.trans peer
  · exact fun stage => outboxCall_gone call (by rw [stored]; rfl) (owes.gone stage)

theorem Paid.outboxCall {operations : List OperationId} (paid : world.Paid msgId operations)
    (call : OutboxCall) :
    ({ world with db := world.db.outboxCall call } : AckRace threads).Paid msgId operations := by
  obtain ⟨row, stored⟩ := Option.isSome_iff_exists.mp paid.1
  obtain ⟨later, storedLater, _⟩ := outboxCall_message call stored
  refine ⟨?_, outboxCall_gone call paid.1 paid.2.1, paid.2.2⟩
  rw [storedLater]
  rfl

theorem Sound.outboxCall (sound : world.Sound) (call : OutboxCall) :
    ({ world with db := world.db.outboxCall call } : AckRace threads).Sound where
  history := sound.history
  consumed := sound.consumed
  drawn := sound.drawn
  io := fun handling operations busy owed => (sound.io handling operations busy owed).outboxCall call
  concluded := fun msgId operations member =>
    (sound.concluded msgId operations member).outboxCall call

theorem completed_step (call : OperationCall) (done : world.completed id = true) :
    (world.operation call).completed id = true := by
  simp only [completed, decide_eq_true_eq] at done ⊢
  exact results_kept call done

theorem Sound.operation (sound : world.Sound) (call : OperationCall)
    (history : (world.history.step call).Sound) : (world.operation call).Sound where
  history := history
  consumed := sound.consumed.step sound.history call
  drawn := fun entry member => handedOut_kept call (sound.drawn entry member)
  io := by
    intro handling operations busy owed
    obtain ⟨result, numbered, stored, allOperations, gone⟩ :=
      sound.io handling operations busy owed
    refine ⟨result, numbered, stored, fun id member => ?_, gone⟩
    obtain ⟨known, done | own⟩ := allOperations id member
    · exact ⟨handedOut_kept call known, .inl (completed_step call done)⟩
    · exact ⟨handedOut_kept call known, .inr own⟩
  concluded := by
    intro msgId operations member
    obtain ⟨stored, gone, done⟩ := sound.concluded msgId operations member
    exact ⟨stored, gone, fun id listed => completed_step call (done id listed)⟩

theorem Sound.conclude (sound : world.Sound) {handling : Handling}
    (paid : ∀ operations, handling.operations = some operations →
      world.Paid handling.ack.msgId operations) : (world.conclude handling).Sound where
  history := sound.history
  consumed := sound.consumed
  drawn := sound.drawn
  io := fun _ _ busy => by simp [AckRace.conclude] at busy
  concluded := by
    intro msgId operations member
    unfold AckRace.conclude at member
    dsimp only at member
    cases owed : handling.operations with
    | none =>
        rw [owed] at member
        exact sound.concluded msgId operations member
    | some own =>
        rw [owed] at member
        rcases List.mem_cons.mp member with same | earlier
        · obtain ⟨rfl, rfl⟩ := Prod.mk.inj same
          exact paid operations owed
        · exact sound.concluded msgId operations earlier

theorem Sound.congr {after : AckRace threads} (sound : world.Sound)
    (history : after.history = world.history) (db : after.db = world.db)
    (drawn : after.drawn = world.drawn) (io : after.io = world.io)
    (concluded : after.concluded = world.concluded) : after.Sound := by
  cases after
  cases world
  dsimp only at history db drawn io concluded
  subst history db drawn io concluded
  exact ⟨sound.history, sound.consumed, sound.drawn,
    fun handling operations busy owed =>
      let owes := sound.io handling operations busy owed
      ⟨owes.result, owes.numbered, owes.stored, owes.operations, owes.gone⟩,
    fun msgId operations member => sound.concluded msgId operations member⟩

theorem Sound.proceed (sound : world.Sound) {handling : Handling}
    (owes : ∀ operations, handling.operations = some operations → world.Owes handling operations) :
    ({ world with io := some handling } : AckRace threads).Sound where
  history := sound.history
  consumed := sound.consumed
  drawn := sound.drawn
  io := by
    intro other operations busy owed
    obtain rfl := Option.some.inj busy
    obtain ⟨result, numbered, stored, allOperations, gone⟩ := owes operations owed
    exact ⟨result, numbered, stored, allOperations, gone⟩
  concluded := fun msgId operations member => sound.concluded msgId operations member

theorem Sound.prepareOutgoing (sound : world.Sound) (thread : Fin threads) (domain : Bytes)
    (m : MessageDto) (now : Int) (room : world.history.handedOut.length < 2 ^ 64) :
    (world.prepareOutgoing thread domain m now).Sound := by
  have oneMore : (world.history.step (.nextOperationId domain)).handedOut.length ≤
      world.history.handedOut.length + 1 := by
    simp only [OperationHistory.step]
    split <;> simp
  have entered := sound.operation (.nextOperationId domain)
    (sound.history.nextOperationId domain (by omega))
  unfold AckRace.prepareOutgoing
  dsimp only
  split <;> rename_i named
  · exact entered
  · split <;> rename_i prepared
    · exact entered.operation _ (entered.history.completeOperation _ _ _ _)
    · unfold NativeRepository.prepareOutgoing at prepared
      split at prepared
      · simp at prepared
      · obtain ⟨result, committed, rfl⟩ := Option.map_eq_some_iff.mp prepared
        have stored := entered.outboxCall (.message (.commitOutgoingDraft
          { m with localOrder := 0, seq := 0, ts := 0, status := 0, fromMe := true } now))
        have same : (world.operation (.nextOperationId domain)).db.outboxCall
            (.message (.commitOutgoingDraft
              { m with localOrder := 0, seq := 0, ts := 0, status := 0, fromMe := true } now)) =
              result.2 := by
          simp [AckRace.operation, NativeRepository.outboxCall, NativeRepository.call, committed]
        rw [same] at stored
        refine ⟨stored.history, stored.consumed, ?_, ?_, ?_⟩
        · intro entry member
          rcases List.mem_cons.mp member with rfl | earlier
          · simp only [AckRace.set, AckRace.operation, OperationHistory.step, if_neg named]
            exact List.mem_append_right _ (List.mem_singleton_self _)
          · exact stored.drawn entry earlier
        · intro handling operations busy owed
          obtain ⟨answer, numbered, row, allOperations, gone⟩ :=
            stored.io handling operations busy owed
          exact ⟨answer, numbered, row, allOperations, gone⟩
        · exact fun msgId operations member => stored.concluded msgId operations member

theorem Sound.look (sound : world.Sound) {ack : ChatProtocolAck}
    (permitted : world.permits (.look ack) = true) : (world.look ack).Sound := by
  unfold AckRace.look
  dsimp only
  simp only [permits, Bool.or_eq_true, Bool.not_eq_true', Bool.and_eq_true, decide_eq_true_eq,
    Option.any_eq_true, List.all_eq_true] at permitted
  split <;> rename_i refused
  · refine sound.conclude fun operations owed => ?_
    split at owed <;> rename_i isOwed
    · rcases permitted with free | ⟨⟨running, named⟩, inflight, registered, positive, _⟩
      · simp [free] at isOwed
      · simp only [registered, Option.getD_some] at refused
        rcases refused with stopped | empty | low
        · exact absurd running stopped
        · exact absurd empty named
        · omega
    · simp at owed
  · refine sound.proceed fun operations owed => ?_
    split at owed <;> rename_i isOwed
    · obtain rfl := Option.some.inj owed
      rcases permitted with free | ⟨_, inflight, registered, _, covers⟩
      · simp [free] at isOwed
      · simp only [AckRace.owed, accepted, Bool.and_eq_true, Bool.or_eq_true, decide_eq_true_eq,
          Option.any_eq_true] at isOwed
        obtain ⟨⟨⟨result, numbered⟩, row, stored, mine, peer⟩, _⟩ := isOwed
        refine ⟨result, numbered, ⟨row, stored, mine, peer⟩, fun id member => ⟨?_, ?_⟩, by simp⟩
        · obtain ⟨entry, listed, rfl⟩ := List.mem_map.mp member
          exact sound.drawn entry (List.mem_of_mem_filter listed)
        · simpa [registered] using covers id member
    · simp at owed

theorem Sound.findMessage (sound : world.Sound) {handling : Handling}
    (busy : world.io = some handling) : (world.findMessage handling).Sound := by
  unfold AckRace.findMessage
  split <;> rename_i found
  · refine sound.proceed fun operations owed => ?_
    obtain ⟨result, numbered, stored, allOperations, _⟩ := sound.io handling operations busy owed
    exact ⟨result, numbered, stored, allOperations, by simp⟩
  · refine sound.conclude fun operations owed => ?_
    obtain ⟨row, stored, mine, peer⟩ := (sound.io handling operations busy owed).stored
    simp [stored, mine, peer] at found

theorem Sound.apply (sound : world.Sound) {handling : Handling} (busy : world.io = some handling)
    {now jitter : Int} {written reported : Bool}
    (permitted : world.permits (.apply now jitter written reported) = true) :
    (world.apply handling now jitter written reported).Sound := by
  simp only [permits, busy, Option.all_some, Bool.or_eq_true, Bool.and_eq_true,
    decide_eq_true_eq] at permitted
  have granted (operations : List OperationId) (owed : handling.operations = some operations) :
      written = true ∧ reported = true ∧
        ∃ after, world.db.onProtocolAck handling.ack handling.inflight.attempt now jitter =
          some after ∧ after.queued handling.ack.msgId = none := by
    obtain ⟨result, numbered, ⟨row, stored, _⟩, _⟩ := sound.io handling operations busy owed
    rcases permitted with none | ⟨⟨⟨clock, isWritten⟩, isReported⟩, free⟩
    · simp [none] at owed
    · exact ⟨isWritten, isReported, onProtocolAck_granted stored result numbered clock free⟩
  unfold AckRace.apply
  split <;> rename_i done
  · refine sound.conclude fun operations owed => ?_
    obtain ⟨_, _, after, applied, _⟩ := granted operations owed
    simp [applied] at done
  · rename_i after
    obtain ⟨call, rfl, _⟩ := onProtocolAck_call done
    have moved : (if written then { world with db := world.db.outboxCall call }
        else world : AckRace threads).Sound := by
      split
      · exact sound.outboxCall call
      · exact sound
    have busyMoved : (if written then { world with db := world.db.outboxCall call }
        else world : AckRace threads).io = some handling := by
      split <;> exact busy
    dsimp only
    split <;> rename_i both
    · refine moved.proceed fun operations owed => ?_
      obtain ⟨isWritten, _, after, applied, gone⟩ := granted operations owed
      obtain ⟨result, numbered, stored, allOperations, _⟩ :=
        moved.io handling operations busyMoved owed
      refine ⟨result, numbered, stored, allOperations, fun _ => ?_⟩
      rw [done] at applied
      obtain rfl := Option.some.inj applied
      rw [if_pos isWritten]
      exact gone
    · refine moved.conclude fun operations owed => ?_
      obtain ⟨isWritten, isReported, _⟩ := granted operations owed
      simp [isWritten, isReported] at both

theorem Sound.erase (sound : world.Sound) {handling : Handling} (busy : world.io = some handling)
    (applied : handling.stage = .applied) : (world.erase handling).Sound := by
  unfold AckRace.erase
  split <;> rename_i failed
  · refine sound.conclude fun operations owed => ?_
    have result := (sound.io handling operations busy owed).result
    rw [failed] at result
    simp [chatResultServerError, chatResultSucc, chatResultFail] at result
  · have proceeded := @Sound.proceed _ world sound { handling with stage := .erased }
      fun operations owed => by
        obtain ⟨result, numbered, stored, allOperations, gone⟩ :=
          sound.io handling operations busy owed
        exact ⟨result, numbered, stored, allOperations, fun _ => gone (.inl applied)⟩
    exact proceeded.congr rfl rfl rfl rfl rfl

theorem Sound.complete (sound : world.Sound) {handling : Handling}
    (busy : world.io = some handling) (erased : handling.stage = .erased) (now : Int) :
    (world.complete handling now).Sound := by
  unfold AckRace.complete
  dsimp only
  generalize (if handling.ack.result = chatResultSucc ∨ handling.ack.result = chatResultFail then
    CompletionRegistry.Result.ok else .failed) = result
  have moved := sound.operation (.completeOperation handling.inflight.operationId result [] now)
    (sound.history.completeOperation _ _ _ _)
  refine moved.conclude fun operations owed => ?_
  obtain ⟨_, _, ⟨row, stored, _⟩, allOperations, gone⟩ := sound.io handling operations busy owed
  refine ⟨?_, gone (.inr erased), fun id member => ?_⟩
  · simp only [AckRace.operation, stored]
    rfl
  · obtain ⟨known, done | rfl⟩ := allOperations id member
    · exact completed_step _ done
    · simp only [completed, decide_eq_true_eq]
      exact complete_results sound.history sound.consumed known result [] now

theorem Sound.called (sound : world.Sound) {call : OperationCall}
    (permitted : world.permits (.operation call) = true) : (world.operation call).Sound := by
  refine sound.operation call ?_
  cases call with
  | nextOperationId domain =>
      simp only [permits, decide_eq_true_eq] at permitted
      refine sound.history.nextOperationId domain ?_
      simp only [OperationHistory.step]
      split
      · omega
      · simp only [List.length_append, List.length_singleton]
        omega
  | completeOperation id result error now => exact sound.history.completeOperation id result error now
  | consumeOperation id => exact sound.history.consumeOperation id
  | start databaseFits => exact sound.history.start databaseFits
  | stop now => exact sound.history.stop now
  | logout now => exact sound.history.logout now
  | destroy now => exact sound.history.destroy now
  | advance => exact sound.history.advance

theorem Sound.authenticated (sound : world.Sound) (authenticated : Bool) :
    (world.setAccountAuthenticated authenticated).Sound where
  history := sound.history.moved rfl rfl rfl rfl rfl id sound.history.quiet
  consumed := sound.consumed
  drawn := sound.drawn
  io := by
    intro handling operations busy owed
    obtain ⟨result, numbered, stored, allOperations, gone⟩ :=
      sound.io handling operations busy owed
    exact ⟨result, numbered, stored, allOperations, gone⟩
  concluded := fun msgId operations member => sound.concluded msgId operations member

theorem Sound.step (sound : world.Sound) {event : Event threads}
    (permitted : world.permits event = true) : (world.step event).Sound := by
  -- The steps of a thread that change its own work and what is registered.
  have aside {after : AckRace threads} (history : after.history = world.history)
      (db : after.db = world.db) (drawn : after.drawn = world.drawn) (io : after.io = world.io)
      (concluded : after.concluded = world.concluded) : after.Sound :=
    sound.congr history db drawn io concluded
  cases event with
  | operation call => exact sound.called permitted
  | setAccountAuthenticated authenticated => exact sound.authenticated authenticated
  | store call => exact sound.outboxCall call
  | prepareOutgoing thread domain m now =>
      simp only [AckRace.step]
      split
      · exact sound.prepareOutgoing thread domain m now (by simpa [permits] using permitted)
      · exact sound
  | track thread =>
      simp only [AckRace.step, work]
      split
      · exact sound
      · split
        · exact aside rfl rfl rfl rfl rfl
        · exact sound
  | claim thread connected now limit =>
      simp only [AckRace.step]
      split
      · unfold AckRace.claim
        split
        · exact sound
        · exact (sound.outboxCall _).congr rfl rfl rfl rfl rfl
      · exact sound
  | sendChatPayload thread taken =>
      simp only [AckRace.step, work]
      split
      · exact sound
      · split
        · exact aside rfl rfl rfl rfl rfl
        · split
          · exact aside rfl rfl rfl rfl rfl
          · exact (sound.outboxCall _).congr rfl rfl rfl rfl rfl
        · exact sound
  | register thread =>
      simp only [AckRace.step, work]
      split
      · exact sound
      · split
        · exact aside rfl rfl rfl rfl rfl
        · exact sound
  | look ack =>
      simp only [AckRace.step]
      split
      · exact sound.look permitted
      · exact sound
  | findMessage =>
      cases busy : world.io with
      | none => simpa [AckRace.step, busy] using sound
      | some handling =>
          simp only [AckRace.step, busy, Option.elim_some]
          split
          · exact sound.findMessage busy
          · exact sound
  | apply now jitter written reported =>
      cases busy : world.io with
      | none => simpa [AckRace.step, busy] using sound
      | some handling =>
          simp only [AckRace.step, busy, Option.elim_some]
          split
          · exact sound.apply busy permitted
          · exact sound
  | erase =>
      cases busy : world.io with
      | none => simpa [AckRace.step, busy] using sound
      | some handling =>
          simp only [AckRace.step, busy, Option.elim_some]
          split
          · exact sound.erase busy ‹_›
          · exact sound
  | complete now =>
      cases busy : world.io with
      | none => simpa [AckRace.step, busy] using sound
      | some handling =>
          simp only [AckRace.step, busy, Option.elim_some]
          split
          · exact sound.complete busy ‹_› now
          · exact sound

theorem create_sound (ownerId : Int) (instanceId : UInt64) :
    (create ownerId instanceId : AckRace threads).Sound where
  history := OperationHistory.fresh_sound ownerId 256 instanceId
  consumed := fun id member => by simp [create, OperationHistory.fresh] at member
  drawn := fun entry member => by simp [create] at member
  io := fun handling operations busy => by simp [create] at busy
  concluded := fun msgId operations member => by simp [create] at member

end AckRace

/-- No owed acknowledgement is lost in a run whose steps all meet the condition. -/
theorem acknowledgements_kept {threads : Nat} (ownerId : Int) (instanceId : UInt64)
    (events : List (AckRace.Event threads))
    (passed : guarded AckRace.step AckRace.permits (create ownerId instanceId) events = true) :
    ∀ front back, front ++ back = events →
      (front.foldl AckRace.step (create ownerId instanceId)).NoneLost := by
  intro front back split
  have sound := prefixes_of_guarded AckRace.Sound (fun _ => True)
    (fun world event _ sound permitted => sound.step permitted) (create ownerId instanceId)
    (create_sound ownerId instanceId) events (fun _ _ => trivial) passed front back split
  intro msgId operations member
  exact (sound.concluded msgId operations member).2

namespace AckRace

def sentHello : List (Event 2) :=
  [.operation (.start true), .operation .advance, .setAccountAuthenticated true,
    .prepareOutgoing 0 (ascii "send_text") hello 9, .track 0, .claim 1 true 10 32,
    .sendChatPayload 1 true]

def helloAck : ChatProtocolAck where
  peerId := 2
  conversationSeq := 7
  msgId := ascii "m"

def ackedLate : List (Event 2) :=
  sentHello ++ [.register 1, .look helloAck, .findMessage, .apply 11 0 true true, .erase,
    .complete 11]

def ackedEarly : List (Event 2) := sentHello ++ [.look helloAck, .register 1, .sendChatPayload 1 true]

end AckRace

theorem acknowledgements_kept_late :
    (ackedLate.foldl AckRace.step (create 1 1)).concluded.length = 1 ∧
      (ackedLate.foldl AckRace.step (create 1 1)).NoneLost :=
  ⟨by decide +kernel, acknowledgements_kept 1 1 ackedLate (by decide +kernel) ackedLate [] (by simp)⟩

/-- Flush and handler are done, and the message is still queued and its operation open. -/
theorem acknowledgement_lost :
    let world := ackedEarly.foldl AckRace.step (create 1 1)
    world.io = none ∧ (∀ thread, world.jobs thread = none) ∧
      world.concluded.length = 1 ∧ (world.db.queued hello.msgId).isSome ∧
      ¬world.NoneLost := by
  have queued : ((ackedEarly.foldl AckRace.step (create 1 1)).db.queued hello.msgId).isSome := by
    decide +kernel
  have listed : (ackedEarly.foldl AckRace.step (create 1 1)).concluded.map Prod.fst =
      [hello.msgId] := by decide +kernel
  refine ⟨by decide +kernel, by decide +kernel, by decide +kernel, queued, fun kept => ?_⟩
  have member : hello.msgId ∈ (ackedEarly.foldl AckRace.step (create 1 1)).concluded.map Prod.fst := by
    rw [listed]
    exact List.mem_singleton_self _
  obtain ⟨⟨_, operations⟩, inConcluded, rfl⟩ := List.mem_map.mp member
  have gone := (kept hello.msgId operations inConcluded).1
  rw [gone] at queued
  simp at queued

end Jitong
