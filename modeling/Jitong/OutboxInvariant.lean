import Jitong.MessageMerge

/-!
The outbox over whole runs: which rows are there, which of them a claim may take, and which finishes
still count.
-/

namespace Jitong

open NativeRepository Jitong.Lib

namespace NativeRepository

inductive OutboxCall
  | message (call : MessageCall)
  | claimOutbox (now lease : Int) (limit : Nat)
  | finishOutboxAttempt (msgId : Bytes) (attempt : Int) (terminal : Bool) (retryAt : Int)
      (error : Bytes)
  | cancelOutbox (msgId : Bytes)

namespace OutboxCall

/-- Drafts are the account's own and still to be sent; a copy of an own message is numbered and
sent, as `storeProtocolMessage` builds it. -/
def Admissible : OutboxCall → Prop
  | .message (.commitOutgoingDraft m _) => m.fromMe = true ∧ m.status = 0
  | .message (.mergeIncoming m _) => m.fromMe = true → 0 < m.seq ∧ 0 < m.status
  | _ => True

def claimTime : OutboxCall → Option Int
  | .claimOutbox now _ _ => some now
  | _ => none

end OutboxCall

def outboxCall (db : NativeRepository) : OutboxCall → NativeRepository
  | .message call => db.call call
  | .claimOutbox now lease limit => ((db.claimOutbox now lease limit).map Prod.snd).getD db
  | .finishOutboxAttempt msgId attempt terminal retryAt error =>
      (db.finishOutboxAttempt msgId attempt terminal retryAt error).getD db
  | .cancelOutbox msgId => db.cancelOutbox msgId

def attempts (db : NativeRepository) (now lease : Int) (limit : Nat) : List OutboxAttempt :=
  ((db.claimOutbox now lease limit).map Prod.fst).getD []

inductive OutboxRow.Moves (call : OutboxCall) (row : OutboxRow) : OutboxRow → Prop
  | kept (error : Option Bytes) : Moves call row { row with lastError := error }
  | claimed {now lease : Int} {limit : Nat} (own : call = .claimOutbox now lease limit)
      (due : row.nextRetryAt ≤ now) (fits : now < maxInt64) :
      Moves call row
        { row with
          retryCount := row.retryCount + 1
          nextRetryAt := now + lease
          payloadVersion := 1 }
  | finished {terminal : Bool} {retryAt : Int} {error : Bytes}
      (own : call = .finishOutboxAttempt row.msgId row.retryCount terminal retryAt error)
      (unfinished : row.finishedAttempt < row.retryCount)
      (running : row.nextRetryAt ≠ maxInt64) :
      Moves call row
        { row with
          lastError := some (error.take 1024)
          nextRetryAt := if terminal then maxInt64 else retryAt
          finishedAttempt := row.retryCount }
  | cancelled (own : call = .cancelOutbox row.msgId) :
      Moves call row { row with nextRetryAt := maxInt64, lastError := some (ascii "cancelled") }

variable {db after : NativeRepository} {msgId : Bytes} {call : OutboxCall}

theorem queued_map {revise : OutboxRow → OutboxRow}
    (rows : after.outbox.rows = db.outbox.rows.map revise)
    (keeps : ∀ row, (revise row).msgId = row.msgId) (msgId : Bytes) :
    after.queued msgId = (db.queued msgId).map revise := by
  unfold queued
  rw [rows, List.find?_map]
  congr 1
  refine congrArg (fun matching => List.find? matching db.outbox.rows) ?_
  funext row
  simp [keeps]

theorem queued_congr (same : after.outbox = db.outbox) : after.queued msgId = db.queued msgId := by
  unfold queued
  rw [same]

theorem queued_dequeue {other : Bytes} (later : OutboxRow)
    (stays : (db.dequeue other).queued msgId = some later) : db.queued msgId = some later := by
  obtain ⟨member, named⟩ := queued_eq_some.mp stays
  exact queued_eq_some.mpr ⟨List.mem_of_mem_filter member, named⟩

def Drafts (db : NativeRepository) (call : MessageCall) (msgId : Bytes) : Prop :=
  db.message msgId = none ∧ ∃ m now row, call = .commitOutgoingDraft m now ∧
    (db.call call).message msgId = some row ∧ row.fromMe = m.fromMe ∧ row.status = m.status

theorem messageCall_queued {call : MessageCall} {later : OutboxRow}
    (stays : (db.call call).queued msgId = some later) :
    db.Drafts call msgId ∧ later.retryCount = 0 ∨
      ∃ row, db.queued msgId = some row ∧ ∃ error, later = { row with lastError := error } := by
  have same (stays : db.queued msgId = some later) : db.Drafts call msgId ∧ later.retryCount = 0 ∨
      ∃ row, db.queued msgId = some row ∧ ∃ error, later = { row with lastError := error } :=
    .inr ⟨later, stays, later.lastError, rfl⟩
  cases call with
  | commitOutgoingDraft m now =>
      cases committed : db.commitOutgoingDraft m now with
      | none => exact same (by simpa [NativeRepository.call, committed] using stays)
      | some result =>
          obtain ⟨order, after⟩ := result
          simp only [NativeRepository.call, committed, Option.map_some, Option.getD_some] at stays
          obtain ⟨_, ⟨rfl, _⟩ | ⟨unknown, _, messages, rows⟩⟩ := commitOutgoingDraft_rows committed
          · exact same stays
          · obtain ⟨member, named⟩ := queued_eq_some.mp stays
            rw [rows] at member
            rcases List.mem_append.mp member with old | new
            · exact same (queued_eq_some.mpr ⟨old, named⟩)
            · obtain rfl := List.mem_singleton.mp new
              obtain rfl : m.msgId = msgId := named
              refine .inl ⟨⟨unknown, m, now, .stored { m with localOrder := order }, rfl, ?_, rfl, rfl⟩,
                rfl⟩
              simp only [NativeRepository.call, committed, Option.map_some, Option.getD_some]
              refine message_eq_some.mpr ⟨?_, rfl⟩
              rw [messages]
              exact List.mem_append_right _ (List.mem_singleton_self _)
  | commitAck id time seq status =>
      cases committed : db.commitAck id time seq status with
      | none => exact same (by simpa [NativeRepository.call, committed] using stays)
      | some after =>
          simp only [NativeRepository.call, committed, Option.getD_some] at stays
          obtain ⟨_, ⟨_, rfl⟩ | ⟨_, _, _, _, _, outbox⟩⟩ := commitAck_rows committed
          · exact same stays
          · split at outbox
            · rw [queued_congr outbox] at stays
              exact same (queued_dequeue later stays)
            · rw [queued_map outbox (fun row => by split <;> rfl) msgId] at stays
              obtain ⟨row, queued, rfl⟩ := Option.map_eq_some_iff.mp stays
              refine .inr ⟨row, queued, ?_⟩
              split
              · exact ⟨_, rfl⟩
              · exact ⟨row.lastError, rfl⟩
  | mergeIncoming m ctx =>
      cases merged : db.mergeIncoming m ctx with
      | none => exact same (by simpa [NativeRepository.call, merged] using stays)
      | some result =>
          obtain ⟨new, after⟩ := result
          simp only [NativeRepository.call, merged, Option.map_some, Option.getD_some] at stays
          obtain ⟨_, ⟨_, _, _, outbox⟩ | ⟨_, _, _, outbox⟩⟩ := mergeIncoming_rows merged
          · split at outbox
            · rw [queued_congr outbox] at stays
              exact same (queued_dequeue later stays)
            · exact same ((queued_congr outbox).symm.trans stays)
          · exact same ((queued_congr outbox).symm.trans stays)

theorem claimOutbox_eq_some {now lease : Int} {limit : Nat} {handed : List OutboxAttempt}
    (claimed : db.claimOutbox now lease limit = some (handed, after)) :
    (0 ≤ now ∧ 0 < lease ∧ now + lease ≤ maxInt64) ∧
      (db.claimable now limit).mapM db.attemptOf = some handed ∧
      after.messages = db.messages ∧
      after.outbox.rows = db.outbox.rows.map fun row =>
        if row ∈ db.claimable now limit then
          { row with
            retryCount := row.retryCount + 1
            nextRetryAt := now + lease
            payloadVersion := 1 }
        else row := by
  unfold claimOutbox at claimed
  split at claimed <;> rename_i range
  · simp at claimed
  · obtain ⟨attempts, each, same⟩ := Option.map_eq_some_iff.mp claimed
    obtain ⟨rfl, rfl⟩ := Prod.mk.inj same
    exact ⟨by omega, each, rfl, rfl⟩

theorem claimable_due {now : Int} {limit : Nat} {row : OutboxRow}
    (member : row ∈ db.claimable now limit) :
    row ∈ db.outbox.rows ∧ row.nextRetryAt ≤ now := by
  have listed := (List.mem_insertionSort _).mp (List.mem_of_mem_take member)
  simp only [List.mem_filter, Bool.and_eq_true, decide_eq_true_eq] at listed
  exact ⟨listed.1, listed.2.1⟩

theorem outboxCall_queued {later : OutboxRow}
    (stays : (db.outboxCall call).queued msgId = some later) :
    (∃ drafting, call = .message drafting ∧ db.Drafts drafting msgId ∧ later.retryCount = 0) ∨
      ∃ row, db.queued msgId = some row ∧ row.Moves call later := by
  have same (stays : db.queued msgId = some later) :
      (∃ drafting, call = .message drafting ∧ db.Drafts drafting msgId ∧ later.retryCount = 0) ∨
        ∃ row, db.queued msgId = some row ∧ row.Moves call later :=
    .inr ⟨later, stays, .kept later.lastError⟩
  cases call with
  | message call =>
      rcases messageCall_queued stays with new | ⟨row, queued, error, rfl⟩
      · exact .inl ⟨call, rfl, new⟩
      · exact .inr ⟨row, queued, .kept error⟩
  | claimOutbox now lease limit =>
      cases claimed : db.claimOutbox now lease limit with
      | none => exact same (by simpa [outboxCall, claimed] using stays)
      | some result =>
          obtain ⟨handed, after⟩ := result
          simp only [outboxCall, claimed, Option.map_some, Option.getD_some] at stays
          obtain ⟨range, _, _, rows⟩ := claimOutbox_eq_some claimed
          rw [queued_map rows (fun row => by split <;> rfl) msgId] at stays
          obtain ⟨row, queued, rfl⟩ := Option.map_eq_some_iff.mp stays
          refine .inr ⟨row, queued, ?_⟩
          split
          · rename_i member
            exact .claimed rfl (claimable_due member).2 (by omega)
          · exact .kept row.lastError
  | finishOutboxAttempt id attempt terminal retryAt error =>
      simp only [outboxCall, finishOutboxAttempt] at stays
      split at stays
      · exact same stays
      · rw [Option.getD_some, @queued_map db _ _ rfl (fun row => by split <;> rfl) msgId] at stays
        obtain ⟨row, queued, rfl⟩ := Option.map_eq_some_iff.mp stays
        refine .inr ⟨row, queued, ?_⟩
        split
        · rename_i current
          obtain ⟨rfl, rfl, unfinished, running⟩ := current
          exact .finished rfl unfinished running
        · exact .kept row.lastError
  | cancelOutbox id =>
      simp only [outboxCall, cancelOutbox] at stays
      rw [@queued_map db _ _ rfl (fun row => by split <;> rfl) msgId] at stays
      obtain ⟨row, queued, rfl⟩ := Option.map_eq_some_iff.mp stays
      refine .inr ⟨row, queued, ?_⟩
      split
      · rename_i named
        exact .cancelled (by rw [named])
      · exact .kept row.lastError

theorem outboxCall_message {row : NativeMessageRow} (call : OutboxCall)
    (stored : db.message msgId = some row) :
    ∃ later, (db.outboxCall call).message msgId = some later ∧ row.Evolves later := by
  have kept (same : (db.outboxCall call).messages = db.messages) :
      ∃ later, (db.outboxCall call).message msgId = some later ∧ row.Evolves later := by
    refine ⟨row, ?_, .refl row⟩
    unfold NativeRepository.message at stored ⊢
    rw [same, stored]
  cases call with
  | message call => exact call_evolves call stored
  | claimOutbox now lease limit =>
      refine kept ?_
      cases claimed : db.claimOutbox now lease limit with
      | none => simp [outboxCall, claimed]
      | some result =>
          simpa [outboxCall, claimed] using (claimOutbox_eq_some claimed).2.2.1
  | finishOutboxAttempt id attempt terminal retryAt error =>
      refine kept ?_
      simp only [outboxCall, finishOutboxAttempt]
      split <;> rfl
  | cancelOutbox id => exact kept rfl

theorem mapM_attemptOf {rows : List OutboxRow} {handed : List OutboxAttempt}
    (each : rows.mapM db.attemptOf = some handed) {attempt : OutboxAttempt}
    (member : attempt ∈ handed) : ∃ row ∈ rows, db.attemptOf row = some attempt := by
  induction rows generalizing handed with
  | nil =>
      obtain rfl : [] = handed := by simpa using each
      simp at member
  | cons first rest ih =>
      simp only [List.mapM_cons, Option.bind_eq_bind, Option.bind_eq_some_iff, Option.pure_def,
        Option.some.injEq] at each
      obtain ⟨own, built, others, eachOther, rfl⟩ := each
      rcases List.mem_cons.mp member with rfl | later
      · exact ⟨first, List.mem_cons_self, built⟩
      · obtain ⟨row, inRest, found⟩ := ih eachOther later
        exact ⟨row, List.mem_cons_of_mem _ inRest, found⟩

theorem attemptOf_eq_some {row : OutboxRow} {attempt : OutboxAttempt}
    (built : db.attemptOf row = some attempt) :
    (db.message row.msgId).isSome ∧ attempt.msgId = row.msgId ∧
      attempt.attempt = row.retryCount + 1 := by
  unfold attemptOf at built
  split at built
  · simp at built
  · split at built
    · simp at built
    · rename_i message stored
      split at built
      · obtain rfl := Option.some.inj built
        exact ⟨by rw [stored]; rfl, rfl, rfl⟩
      · simp at built

theorem attempts_claim {now lease : Int} {limit : Nat} {attempt : OutboxAttempt}
    (handed : attempt ∈ db.attempts now lease limit) :
    (db.message attempt.msgId).isSome ∧ now < maxInt64 ∧
      ∃ row, db.queued attempt.msgId = some row ∧ attempt.attempt = row.retryCount + 1 ∧
        row.nextRetryAt ≤ now ∧
        (db.outboxCall (.claimOutbox now lease limit)).queued attempt.msgId =
          some { row with
            retryCount := row.retryCount + 1
            nextRetryAt := now + lease
            payloadVersion := 1 } := by
  unfold attempts at handed
  cases claimed : db.claimOutbox now lease limit with
  | none => simp [claimed] at handed
  | some result =>
      obtain ⟨all, after⟩ := result
      simp only [claimed, Option.map_some, Option.getD_some] at handed
      obtain ⟨range, each, _, rows⟩ := claimOutbox_eq_some claimed
      obtain ⟨row, member, built⟩ := mapM_attemptOf each handed
      obtain ⟨stored, named, numbered⟩ := attemptOf_eq_some built
      obtain ⟨inOutbox, due⟩ := claimable_due member
      have queued : db.queued attempt.msgId = some row := queued_eq_some.mpr ⟨inOutbox, named.symm⟩
      refine ⟨named ▸ stored, by omega, row, queued, numbered, due, ?_⟩
      simp only [outboxCall, claimed, Option.map_some, Option.getD_some]
      rw [queued_map rows (fun row => by split <;> rfl), queued, Option.map_some, if_pos member]

/-! The rows and the messages they send. -/

def Sends (db : NativeRepository) (msgId : Bytes) : Prop :=
  ∃ message, db.message msgId = some message ∧ message.fromMe = true ∧ message.status = 0

def Ended (db : NativeRepository) (msgId : Bytes) : Prop :=
  ∃ message, db.message msgId = some message ∧ 0 < message.status

def Owned (db : NativeRepository) : Prop :=
  ∀ row ∈ db.outbox.rows, db.Sends row.msgId

theorem Owned.sends {row : OutboxRow} (owned : db.Owned) (queued : db.queued msgId = some row) :
    db.Sends msgId := by
  obtain ⟨member, rfl⟩ := queued_eq_some.mp queued
  exact owned row member

theorem Sends.congr (sends : db.Sends msgId) (same : after.message msgId = db.message msgId) :
    after.Sends msgId := by
  obtain ⟨message, stored, mine, open_⟩ := sends
  exact ⟨message, same.trans stored, mine, open_⟩

theorem message_congr (same : after.messages = db.messages) :
    after.message msgId = db.message msgId := by
  unfold NativeRepository.message
  rw [same]

theorem message_map_ne {revise : NativeMessageRow → NativeMessageRow} {id : Bytes}
    (rows : after.messages.rows = db.messages.rows.map fun row =>
      if row.msgId = id then revise row else row)
    (keeps : ∀ row, (revise row).msgId = row.msgId) (other : id ≠ msgId) :
    after.message msgId = db.message msgId := by
  rw [message_map rows (fun row => by split <;> simp [keeps]) msgId]
  cases stored : db.message msgId with
  | none => rfl
  | some row =>
      have named := (message_eq_some.mp stored).2
      rw [Option.map_some, if_neg (by rw [named]; exact other.symm)]

theorem queued_dequeue_ne {other : Bytes} (apart : other ≠ msgId) :
    (db.dequeue other).queued msgId = db.queued msgId := by
  unfold queued dequeue Table.delete
  rw [List.find?_filter]
  refine congrArg (fun matching => List.find? matching db.outbox.rows) ?_
  funext row
  by_cases own : row.msgId = msgId <;> simp [own, apart.symm]

theorem outboxCall_sends {row : OutboxRow} (admissible : call.Admissible)
    (queued : db.queued msgId = some row) (sends : db.Sends msgId) :
    ((db.outboxCall call).queued msgId).isSome ∧ (db.outboxCall call).Sends msgId ∨
      (db.outboxCall call).queued msgId = none ∧ (db.outboxCall call).Ended msgId := by
  have stays {after : NativeRepository} (same : after.queued msgId = db.queued msgId)
      (sameMessage : after.message msgId = db.message msgId) :
      (after.queued msgId).isSome ∧ after.Sends msgId := by
    refine ⟨?_, sends.congr sameMessage⟩
    rw [same, queued]
    rfl
  have revised {after : NativeRepository} {revise : OutboxRow → OutboxRow}
      (rows : after.outbox.rows = db.outbox.rows.map revise)
      (keeps : ∀ row, (revise row).msgId = row.msgId) (messages : after.messages = db.messages) :
      (after.queued msgId).isSome ∧ after.Sends msgId := by
    refine ⟨?_, sends.congr (message_congr messages)⟩
    rw [queued_map rows keeps, queued]
    rfl
  obtain ⟨message, stored, mine, unsent⟩ := sends
  cases call with
  | message call =>
      cases call with
      | commitOutgoingDraft m now =>
          refine .inl ?_
          cases committed : db.commitOutgoingDraft m now with
          | none =>
              simp only [outboxCall, NativeRepository.call, committed, Option.map_none,
                Option.getD_none]
              exact stays rfl rfl
          | some result =>
              obtain ⟨order, after⟩ := result
              simp only [outboxCall, NativeRepository.call, committed, Option.map_some,
                Option.getD_some]
              obtain ⟨_, ⟨rfl, _⟩ | ⟨_, _, messages, rows⟩⟩ := commitOutgoingDraft_rows committed
              · exact stays rfl rfl
              · refine stays ?_ ((message_append messages stored).trans stored.symm)
                unfold NativeRepository.queued at queued ⊢
                rw [rows, List.find?_append, queued]
                rfl
      | commitAck id time seq status =>
          cases committed : db.commitAck id time seq status with
          | none =>
              simp only [outboxCall, NativeRepository.call, committed, Option.getD_none]
              exact .inl (stays rfl rfl)
          | some after =>
              simp only [outboxCall, NativeRepository.call, committed, Option.getD_some]
              obtain ⟨range, ⟨_, rfl⟩ | ⟨_, _, _, _, rows, outbox⟩⟩ := commitAck_rows committed
              · exact .inl (stays rfl rfl)
              · have named := (message_eq_some.mp stored).2
                by_cases own : id = msgId
                · subst own
                  have acked : after.message id = some (message.advance seq time status) := by
                    rw [message_map rows (fun row => by split <;> rfl) id, stored, Option.map_some,
                      if_pos named]
                  split at outbox <;> rename_i final
                  · refine .inr ⟨(queued_congr outbox).trans dequeue_queued, _, acked, ?_⟩
                    simp [NativeMessageRow.advance, unsent, final]
                  · refine .inl ⟨?_, _, acked, mine, ?_⟩
                    · rw [queued_map outbox (fun row => by split <;> rfl), queued]
                      rfl
                    · simp [NativeMessageRow.advance, unsent, final]
                · have sameMessage := message_map_ne rows (fun _ => rfl) own
                  split at outbox
                  · exact .inl (stays ((queued_congr outbox).trans (queued_dequeue_ne own)) sameMessage)
                  · refine .inl ⟨?_, message, sameMessage.trans stored, mine, unsent⟩
                    rw [queued_map outbox (fun row => by split <;> rfl), queued]
                    rfl
      | mergeIncoming m ctx =>
          cases merged : db.mergeIncoming m ctx with
          | none =>
              simp only [outboxCall, NativeRepository.call, merged, Option.map_none,
                Option.getD_none]
              exact .inl (stays rfl rfl)
          | some result =>
              obtain ⟨new, after⟩ := result
              simp only [outboxCall, NativeRepository.call, merged, Option.map_some,
                Option.getD_some]
              obtain ⟨compatible, ⟨_, _, rows, outbox⟩ | ⟨_, _, rows, outbox⟩⟩ :=
                mergeIncoming_rows merged
              · have named := (message_eq_some.mp stored).2
                by_cases own : m.msgId = msgId
                · subst own
                  -- The copy is an own one too, so it is numbered and sent.
                  have side : m.fromMe = true := by
                    simp only [compatibleIdentity, stored, Bool.and_eq_true,
                      decide_eq_true_eq] at compatible
                    rw [← compatible.1.1.2, mine]
                  obtain ⟨numbered, sent⟩ := admissible side
                  rw [if_pos (by simp [side, numbered, sent])] at outbox
                  refine .inr ⟨(queued_congr outbox).trans dequeue_queued, message.merged m, ?_, ?_⟩
                  · rw [message_map rows (fun row => by split <;> rfl), stored, Option.map_some,
                      if_pos named]
                  · simp [NativeMessageRow.merged, NativeMessageRow.advance, unsent, sent]
                · have sameMessage := message_map_ne rows (fun _ => rfl) own
                  split at outbox
                  · exact .inl (stays ((queued_congr outbox).trans (queued_dequeue_ne own)) sameMessage)
                  · exact .inl (stays (queued_congr outbox) sameMessage)
              · exact .inl (stays (queued_congr outbox)
                  ((message_append rows stored).trans stored.symm))
  | claimOutbox now lease limit =>
      cases claimed : db.claimOutbox now lease limit with
      | none =>
          simp only [outboxCall, claimed, Option.map_none, Option.getD_none]
          exact .inl (stays rfl rfl)
      | some result =>
          obtain ⟨handed, after⟩ := result
          simp only [outboxCall, claimed, Option.map_some, Option.getD_some]
          obtain ⟨_, _, messages, rows⟩ := claimOutbox_eq_some claimed
          exact .inl (revised rows (fun row => by split <;> rfl) messages)
  | finishOutboxAttempt id attempt terminal retryAt error =>
      simp only [outboxCall, finishOutboxAttempt]
      split
      · exact .inl (stays rfl rfl)
      · exact .inl (revised rfl (fun row => by split <;> rfl) rfl)
  | cancelOutbox id => exact .inl (revised rfl (fun row => by split <;> rfl) rfl)

theorem Owned.outboxCall (owned : db.Owned) (admissible : call.Admissible) :
    (db.outboxCall call).Owned := by
  intro later member
  have stays := queued_eq_some.mpr ⟨member, rfl⟩
  rcases outboxCall_queued stays with ⟨drafting, rfl, ⟨_, m, now, row, rfl, stored, side, status⟩, _⟩ |
    ⟨row, queued, _⟩
  · obtain ⟨mine, unsent⟩ := admissible
    exact ⟨row, stored, side.trans mine, status.trans unsent⟩
  · rcases outboxCall_sends admissible queued (owned.sends queued) with ⟨_, sends⟩ | ⟨gone, _⟩
    · exact sends
    · simp [gone] at stays

theorem mapM_attemptOf_mem {rows : List OutboxRow} {handed : List OutboxAttempt}
    (each : rows.mapM db.attemptOf = some handed) {row : OutboxRow} (member : row ∈ rows) :
    ∃ attempt ∈ handed, attempt.msgId = row.msgId := by
  induction rows generalizing handed with
  | nil => simp at member
  | cons first rest ih =>
      simp only [List.mapM_cons, Option.bind_eq_bind, Option.bind_eq_some_iff, Option.pure_def,
        Option.some.injEq] at each
      obtain ⟨own, built, others, eachOther, rfl⟩ := each
      rcases List.mem_cons.mp member with rfl | later
      · exact ⟨own, List.mem_cons_self, (attemptOf_eq_some built).2.1⟩
      · obtain ⟨attempt, inOthers, named⟩ := ih eachOther later
        exact ⟨attempt, List.mem_cons_of_mem _ inOthers, named⟩

theorem claim_leaves {now lease : Int} {limit : Nat}
    (apart : ∀ attempt ∈ db.attempts now lease limit, attempt.msgId ≠ msgId) :
    (db.outboxCall (.claimOutbox now lease limit)).queued msgId = db.queued msgId := by
  cases claimed : db.claimOutbox now lease limit with
  | none => simp [outboxCall, claimed]
  | some result =>
      obtain ⟨all, after⟩ := result
      simp only [attempts, claimed, Option.map_some, Option.getD_some] at apart
      simp only [outboxCall, claimed, Option.map_some, Option.getD_some]
      obtain ⟨_, each, _, rows⟩ := claimOutbox_eq_some claimed
      rw [queued_map rows (fun row => by split <;> rfl) msgId]
      cases queued : db.queued msgId with
      | none => rfl
      | some row =>
          rw [Option.map_some, if_neg]
          intro member
          obtain ⟨attempt, handed, named⟩ := mapM_attemptOf_mem each member
          exact apart attempt handed (named.trans (queued_eq_some.mp queued).2)

end NativeRepository

structure OutboxRun where
  db : NativeRepository := {}
  handed : List OutboxAttempt := []

namespace OutboxRun

def step (run : OutboxRun) (call : OutboxCall) : OutboxRun where
  db := run.db.outboxCall call
  handed := run.handed ++ match call with
    | .claimOutbox now lease limit => run.db.attempts now lease limit
    | _ => []

def latest (run : OutboxRun) (msgId : Bytes) : Int :=
  ((run.handed.filter fun attempt => attempt.msgId = msgId).getLast?.map (·.attempt)).getD 0

variable {run : OutboxRun} {msgId : Bytes} {call : OutboxCall}

theorem latest_append {new : List OutboxAttempt} {number : Int}
    (numbered : ∀ attempt ∈ new, attempt.msgId = msgId → attempt.attempt = number)
    (db : NativeRepository) :
    OutboxRun.latest { db := db, handed := run.handed ++ new } msgId =
      if ∃ attempt ∈ new, attempt.msgId = msgId then number else run.latest msgId := by
  unfold latest
  rw [List.filter_append, List.getLast?_append]
  split <;> rename_i named
  · cases found : (new.filter fun attempt => attempt.msgId = msgId).getLast? with
    | none =>
        obtain ⟨attempt, member, same⟩ := named
        rw [List.getLast?_eq_none_iff] at found
        exact absurd same (by simpa using List.filter_eq_nil_iff.mp found attempt member)
    | some attempt =>
        have member := List.mem_of_getLast? found
        simp only [List.mem_filter, decide_eq_true_eq] at member
        simp [numbered attempt member.1 member.2]
  · have none : new.filter (fun attempt => attempt.msgId = msgId) = [] := by
      rw [List.filter_eq_nil_iff]
      intro attempt member same
      exact named ⟨attempt, member, by simpa using same⟩
    simp [none]

structure Sound (run : OutboxRun) : Prop where
  owned : run.db.Owned
  counted : ∀ msgId row, run.db.queued msgId = some row → row.retryCount = run.latest msgId
  stored : ∀ attempt ∈ run.handed, (run.db.message attempt.msgId).isSome
  bounded : ∀ attempt ∈ run.handed, ∀ row, run.db.queued attempt.msgId = some row →
    attempt.attempt ≤ row.retryCount

theorem stored_step (call : OutboxCall) (stored : (run.db.message msgId).isSome) :
    ((run.step call).db.message msgId).isSome := by
  obtain ⟨row, found⟩ := Option.isSome_iff_exists.mp stored
  obtain ⟨later, foundLater, _⟩ := outboxCall_message call found
  exact Option.isSome_iff_exists.mpr ⟨later, foundLater⟩

theorem step_moves {later : OutboxRow} (stored : (run.db.message msgId).isSome)
    (stays : (run.step call).db.queued msgId = some later) :
    ∃ row, run.db.queued msgId = some row ∧ row.Moves call later := by
  rcases outboxCall_queued stays with ⟨_, _, ⟨unknown, _⟩, _⟩ | moved
  · simp [unknown] at stored
  · exact moved

theorem Moves.retryCount {row later : OutboxRow} (moves : row.Moves call later) :
    row.retryCount ≤ later.retryCount := by
  cases moves <;> simp only <;> omega

theorem Sound.step (sound : run.Sound) (admissible : call.Admissible) : (run.step call).Sound where
  owned := sound.owned.outboxCall admissible
  counted := by
    intro msgId later stays
    by_cases claiming : ∃ now lease limit, call = .claimOutbox now lease limit
    · obtain ⟨now, lease, limit, rfl⟩ := claiming
      by_cases claimed : ∃ attempt ∈ run.db.attempts now lease limit, attempt.msgId = msgId
      · obtain ⟨attempt, handed, rfl⟩ := claimed
        obtain ⟨_, _, row, queued, numbered, _, queuedLater⟩ := attempts_claim handed
        obtain rfl := Option.some.inj (queuedLater.symm.trans stays)
        refine (numbered.symm.trans ?_)
        have same : ∀ other ∈ run.db.attempts now lease limit, other.msgId = attempt.msgId →
            other.attempt = attempt.attempt := by
          intro other handedOther named
          obtain ⟨_, _, rowOther, queuedOther, numberedOther, _⟩ := attempts_claim handedOther
          rw [named, queued] at queuedOther
          obtain rfl := Option.some.inj queuedOther
          omega
        exact ((latest_append same _).trans (if_pos ⟨attempt, handed, rfl⟩)).symm
      · have apart : ∀ attempt ∈ run.db.attempts now lease limit, attempt.msgId ≠ msgId :=
          fun attempt handed named => claimed ⟨attempt, handed, named⟩
        have queued := (claim_leaves apart).symm.trans stays
        refine (sound.counted msgId later queued).trans ?_
        have unnamed : ∀ attempt ∈ run.db.attempts now lease limit, attempt.msgId = msgId →
            attempt.attempt = 0 := fun attempt handed named => absurd named (apart attempt handed)
        exact ((latest_append unnamed _).trans (if_neg claimed)).symm
    · have handed : (run.step call).handed = run.handed := by
        cases call <;> simp_all [OutboxRun.step]
      have same : (run.step call).latest msgId = run.latest msgId := by
        unfold latest
        rw [handed]
      rw [same]
      rcases outboxCall_queued stays with ⟨drafting, rfl, ⟨unknown, _⟩, zero⟩ | ⟨row, queued, moves⟩
      · have unhanded : run.handed.filter (fun attempt => attempt.msgId = msgId) = [] := by
          rw [List.filter_eq_nil_iff]
          intro attempt member named
          simp only [decide_eq_true_eq] at named
          have stored := sound.stored attempt member
          rw [named, unknown] at stored
          simp at stored
        simp [latest, unhanded, zero]
      · rw [← sound.counted msgId row queued]
        cases moves with
        | kept | finished | cancelled => rfl
        | claimed own => exact absurd ⟨_, _, _, own⟩ claiming
  stored := by
    intro attempt member
    rcases List.mem_append.mp member with old | new
    · exact stored_step call (sound.stored attempt old)
    · cases call with
      | claimOutbox now lease limit => exact stored_step _ (attempts_claim new).1
      | _ => simp at new
  bounded := by
    intro attempt member later stays
    rcases List.mem_append.mp member with old | new
    · obtain ⟨row, queued, moves⟩ := step_moves (sound.stored attempt old) stays
      have := sound.bounded attempt old row queued
      have := Moves.retryCount moves
      omega
    · cases call with
      | claimOutbox now lease limit =>
          obtain ⟨_, _, row, _, numbered, _, queuedLater⟩ := attempts_claim new
          obtain rfl := Option.some.inj (queuedLater.symm.trans stays)
          exact le_of_eq numbered
      | _ => simp at new

theorem sound_run {calls : List OutboxCall} (sound : run.Sound)
    (admissible : ∀ call ∈ calls, call.Admissible) : (calls.foldl OutboxRun.step run).Sound := by
  induction calls generalizing run with
  | nil => exact sound
  | cons call rest ih =>
      exact ih (sound.step (admissible call List.mem_cons_self)) fun later member =>
        admissible later (List.mem_cons_of_mem _ member)

theorem sound_empty : ({} : OutboxRun).Sound where
  owned := fun row member => by simp at member
  counted := fun msgId row queued => by simp [NativeRepository.queued] at queued
  stored := fun attempt member => by simp at member
  bounded := fun attempt member => by simp at member

theorem queued_run {kept : OutboxRow → Prop} (calls : List OutboxCall)
    (moved : ∀ call ∈ calls, ∀ row later : OutboxRow, row.Moves call later → kept row → kept later)
    (stored : (run.db.message msgId).isSome)
    (holds : ∀ row, run.db.queued msgId = some row → kept row) :
    ∀ later, (calls.foldl OutboxRun.step run).db.queued msgId = some later → kept later := by
  induction calls generalizing run with
  | nil => exact holds
  | cons call rest ih =>
      refine ih (fun later member => moved later (List.mem_cons_of_mem _ member))
        (stored_step call stored) fun later stays => ?_
      obtain ⟨row, queued, moves⟩ := step_moves stored stays
      exact moved call List.mem_cons_self row later moves (holds row queued)

theorem stopped_run (calls : List OutboxCall) (stored : (run.db.message msgId).isSome)
    (stopped : ∀ row, run.db.queued msgId = some row → row.nextRetryAt = maxInt64)
    {now lease : Int} {limit : Nat} :
    ∀ attempt ∈ (calls.foldl OutboxRun.step run).db.attempts now lease limit,
      attempt.msgId ≠ msgId := by
  rintro attempt handed rfl
  obtain ⟨_, fits, row, queued, _, due, _⟩ := attempts_claim handed
  have kept := queued_run calls (fun call _ row later moves stopped => by
    cases moves with
    | kept | cancelled => first | exact stopped | rfl
    | claimed _ due fits => omega
    | finished _ _ running => exact absurd stopped running) stored stopped row queued
  omega

theorem finish_changes_nothing {attempt : Int} (terminal : Bool) (retryAt : Int) (error : Bytes)
    (closed : ∀ row, run.db.queued msgId = some row →
      ¬(row.retryCount = attempt ∧ row.finishedAttempt < attempt ∧ row.nextRetryAt ≠ maxInt64)) :
    (run.step (.finishOutboxAttempt msgId attempt terminal retryAt error)).db = run.db := by
  simp only [OutboxRun.step, outboxCall, finishOutboxAttempt]
  split
  · rfl
  · rw [Option.getD_some]
    have same : (run.db.outbox.rows.map fun row =>
        if row.msgId = msgId ∧ row.retryCount = attempt ∧ row.finishedAttempt < attempt ∧
            row.nextRetryAt ≠ maxInt64 then
          { row with
            lastError := some (error.take 1024)
            nextRetryAt := if terminal then maxInt64 else retryAt
            finishedAttempt := attempt }
        else row) = run.db.outbox.rows := by
      conv_rhs => rw [← List.map_id run.db.outbox.rows]
      refine List.map_congr_left fun row member => if_neg ?_
      rintro ⟨named, current⟩
      exact closed row (queued_eq_some.mpr ⟨member, named⟩) current
    unfold reviseOutbox
    congr 1
    exact Table.ext same

theorem finished_run {attempt : Int} {terminal : Bool} {retryAt : Int} {error : Bytes}
    (calls : List OutboxCall) (stored : (run.db.message msgId).isSome)
    (bounded : ∀ row, run.db.queued msgId = some row → attempt ≤ row.retryCount)
    (accepted : (run.db.finishOutboxAttempt msgId attempt terminal retryAt error).isSome) :
    ∀ row, (calls.foldl OutboxRun.step
        (run.step (.finishOutboxAttempt msgId attempt terminal retryAt error))).db.queued msgId =
          some row →
      attempt ≤ row.retryCount ∧ (attempt < row.retryCount ∨ attempt ≤ row.finishedAttempt ∨
        row.nextRetryAt = maxInt64) := by
  refine queued_run calls ?_ (stored_step _ stored) ?_
  · rintro call _ row later moves ⟨made, closed⟩
    cases moves with
    | kept => exact ⟨made, closed⟩
    | claimed => exact ⟨by simp only; omega, .inl (by simp only; omega)⟩
    | finished => exact ⟨made, .inr (.inl made)⟩
    | cancelled => exact ⟨made, .inr (.inr rfl)⟩
  · intro later stays
    simp only [OutboxRun.step, outboxCall] at stays
    unfold finishOutboxAttempt at accepted stays
    split at accepted
    · simp at accepted
    · rename_i valid
      rw [if_neg valid, Option.getD_some,
        @queued_map run.db _ _ rfl (fun row => by split <;> rfl) msgId] at stays
      obtain ⟨row, queued, rfl⟩ := Option.map_eq_some_iff.mp stays
      have made := bounded row queued
      have named := (queued_eq_some.mp queued).2
      split <;> rename_i current
      · exact ⟨made, .inr (.inl le_rfl)⟩
      · refine ⟨made, ?_⟩
        simp only [named, true_and, not_and, not_not] at current
        by_cases latest : row.retryCount = attempt
        · by_cases unfinished : row.finishedAttempt < attempt
          · exact .inr (.inr (current latest unfinished))
          · exact .inr (.inl (by omega))
        · exact .inl (by omega)

def DueBy (msgId : Bytes) (attempt expiry : Int) (calls : List OutboxCall) (time : Int) : Prop :=
  expiry ≤ time ∨ ∃ retryAt error,
    .finishOutboxAttempt msgId attempt false retryAt error ∈ calls ∧ retryAt ≤ time

theorem DueBy.later {attempt expiry : Int} {calls : List OutboxCall} {time later : Int}
    (due : DueBy msgId attempt expiry calls time) (after : time ≤ later) :
    DueBy msgId attempt expiry calls later := by
  rcases due with lease | ⟨retryAt, error, member, reached⟩
  · exact .inl (by omega)
  · exact .inr ⟨retryAt, error, member, by omega⟩

theorem waits_run {now lease : Int} {limit : Nat} {first : OutboxAttempt} (calls : List OutboxCall)
    (handed : first ∈ run.db.attempts now lease limit) :
    ∀ row, (calls.foldl OutboxRun.step (run.step (.claimOutbox now lease limit))).db.queued
        first.msgId = some row →
      row.msgId = first.msgId ∧
        (row.retryCount = first.attempt ∧ (∀ time, row.nextRetryAt ≤ time → time < maxInt64 →
            DueBy first.msgId first.attempt (now + lease) calls time) ∨
          first.attempt < row.retryCount ∧ ∃ time ∈ calls.filterMap OutboxCall.claimTime,
            DueBy first.msgId first.attempt (now + lease) calls time) := by
  obtain ⟨stored, _, start, queued, numbered, _, claimed⟩ := attempts_claim handed
  refine queued_run calls ?_ (stored_step _ stored) ?_
  · rintro call member row later moves ⟨named, waits⟩
    cases moves with
    | kept => exact ⟨named, waits⟩
    | claimed own due fits =>
        refine ⟨named, .inr ?_⟩
        rcases waits with ⟨current, scheduled⟩ | ⟨past, again⟩
        · refine ⟨by simp only; omega, _, List.mem_filterMap.mpr ⟨call, member, ?_⟩,
            scheduled _ due fits⟩
          rw [own]
          rfl
        · exact ⟨by simp only; omega, again⟩
    | @finished terminal retryAt error own unfinished running =>
        refine ⟨named, ?_⟩
        rcases waits with ⟨current, scheduled⟩ | past
        · refine .inl ⟨current, fun time reached fits => ?_⟩
          cases terminal with
          | true =>
              simp only [if_true] at reached
              omega
          | false =>
              rw [named, current] at own
              exact .inr ⟨retryAt, error, own ▸ member, by simpa using reached⟩
        · exact .inr past
    | cancelled own =>
        refine ⟨named, ?_⟩
        rcases waits with ⟨current, _⟩ | past
        · refine .inl ⟨current, fun time reached fits => ?_⟩
          simp only at reached
          omega
        · exact .inr past
  · intro row stays
    obtain rfl := Option.some.inj (claimed.symm.trans stays)
    refine ⟨(queued_eq_some.mp stays).2, .inl ⟨numbered.symm, fun time reached _ => .inl reached⟩⟩

def Stops (run : OutboxRun) (call : OutboxCall) (row : OutboxRow) : Prop :=
  call = .cancelOutbox row.msgId ∨ ∃ retryAt error,
    call = .finishOutboxAttempt row.msgId row.retryCount true retryAt error ∧
      (run.db.finishOutboxAttempt row.msgId row.retryCount true retryAt error).isSome ∧
      row.finishedAttempt < row.retryCount

theorem Stops.step {row : OutboxRow} (queued : run.db.queued msgId = some row)
    (stops : run.Stops call row) : ∀ later, (run.step call).db.queued msgId = some later →
      later.nextRetryAt = maxInt64 := by
  intro later stays
  have named := (queued_eq_some.mp queued).2
  rcases stops with rfl | ⟨retryAt, error, rfl, accepted, unfinished⟩
  · simp only [OutboxRun.step, outboxCall, cancelOutbox] at stays
    rw [@queued_map run.db _ _ rfl (fun row => by split <;> rfl) msgId, queued, Option.map_some,
      if_pos rfl] at stays
    obtain rfl := Option.some.inj stays
    rfl
  · simp only [OutboxRun.step, outboxCall] at stays
    unfold finishOutboxAttempt at accepted stays
    split at accepted
    · simp at accepted
    · rename_i valid
      rw [if_neg valid, Option.getD_some,
        @queued_map run.db _ _ rfl (fun row => by split <;> rfl) msgId, queued] at stays
      obtain rfl := Option.some.inj stays
      by_cases running : row.nextRetryAt = maxInt64
      · simp [running]
      · simp [running, unfinished]

end OutboxRun

/-- What holds of the outbox after any run, and of what a run may still do to a row: it belongs to a
message to be sent and goes with it, it is claimed when it is due, and a finish counts once and for
the latest attempt only. -/
theorem outbox_invariant (calls : List OutboxCall) (admissible : ∀ call ∈ calls, call.Admissible) :
    let run := calls.foldl OutboxRun.step {}
    (∀ row ∈ run.db.outbox.rows, ∃ message, run.db.message row.msgId = some message ∧
      message.fromMe = true ∧ message.status = 0) ∧
    (∀ call, OutboxCall.Admissible call → ∀ row ∈ run.db.outbox.rows,
      (run.step call).db.queued row.msgId = none →
        ∃ before after, run.db.message row.msgId = some before ∧ before.status = 0 ∧
          (run.step call).db.message row.msgId = some after ∧ 0 < after.status) ∧
    (∀ (now lease : Int) (limit : Nat) (later : List OutboxCall) (now' lease' : Int) (limit' : Nat),
      (∀ time ∈ later.filterMap OutboxCall.claimTime, time ≤ now') →
      ∀ first ∈ run.db.attempts now lease limit, ∀ second ∈ (later.foldl OutboxRun.step
          (run.step (.claimOutbox now lease limit))).db.attempts now' lease' limit',
        second.msgId = first.msgId → now + lease ≤ now' ∨ ∃ retryAt error,
          .finishOutboxAttempt first.msgId first.attempt false retryAt error ∈ later ∧
            retryAt ≤ now') ∧
    (∀ msgId attempt terminal retryAt error, attempt ≠ run.latest msgId →
      (run.step (.finishOutboxAttempt msgId attempt terminal retryAt error)).db = run.db) ∧
    (∀ attempt ∈ run.handed, ∀ terminal retryAt error terminal' retryAt' error',
      ∀ later : List OutboxCall,
      (run.db.finishOutboxAttempt attempt.msgId attempt.attempt terminal retryAt error).isSome →
        let done := later.foldl OutboxRun.step
          (run.step (.finishOutboxAttempt attempt.msgId attempt.attempt terminal retryAt error))
        (done.step (.finishOutboxAttempt attempt.msgId attempt.attempt terminal' retryAt'
          error')).db = done.db) ∧
    (∀ call, ∀ row ∈ run.db.outbox.rows, run.Stops call row →
      ∀ (later : List OutboxCall) (now lease : Int) (limit : Nat),
      ∀ attempt ∈ (later.foldl OutboxRun.step (run.step call)).db.attempts now lease limit,
        attempt.msgId ≠ row.msgId) := by
  intro run
  have sound : run.Sound := OutboxRun.sound_run OutboxRun.sound_empty admissible
  refine ⟨sound.owned, ?_, ?_, ?_, ?_, ?_⟩
  · intro call allowed row member gone
    have queued := queued_eq_some.mpr ⟨member, rfl⟩
    obtain ⟨before, stored, _, unsent⟩ := sound.owned row member
    rcases outboxCall_sends allowed queued (sound.owned row member) with
      ⟨stays, _⟩ | ⟨_, after, storedAfter, sent⟩
    · rw [show (run.db.outboxCall call).queued row.msgId = none from gone] at stays
      simp at stays
    · exact ⟨before, after, stored, unsent, storedAfter, sent⟩
  · intro now lease limit later now' lease' limit' ordered first handed second handedAgain named
    obtain ⟨_, fits, row, queued, _, due, _⟩ := attempts_claim handedAgain
    rw [named] at queued
    obtain ⟨_, ⟨_, scheduled⟩ | ⟨_, time, claimed, dueThen⟩⟩ :=
      OutboxRun.waits_run later handed row queued
    · exact scheduled now' due fits
    · exact dueThen.later (ordered time claimed)
  · intro msgId attempt terminal retryAt error stale
    refine OutboxRun.finish_changes_nothing terminal retryAt error fun row queued current => ?_
    exact stale (current.1.symm.trans (sound.counted msgId row queued))
  · intro attempt made terminal retryAt error terminal' retryAt' error' later accepted
    refine OutboxRun.finish_changes_nothing terminal' retryAt' error' fun row queued current => ?_
    obtain ⟨_, closed⟩ := OutboxRun.finished_run later (sound.stored attempt made)
      (sound.bounded attempt made) accepted row queued
    rcases closed with past | finished | stopped
    · omega
    · omega
    · exact current.2.2 stopped
  · intro call row member stops later now lease limit
    have queued := queued_eq_some.mpr ⟨member, rfl⟩
    obtain ⟨message, stored, _⟩ := sound.owned row member
    refine OutboxRun.stopped_run later (OutboxRun.stored_step call ?_) (stops.step queued)
    exact Option.isSome_iff_exists.mpr ⟨message, stored⟩

def retriedDraft : List OutboxCall :=
  [.message (.commitOutgoingDraft hello 9), .claimOutbox 10 30 32,
    .finishOutboxAttempt hello.msgId 1 false 11 (ascii "not_connected"), .claimOutbox 12 30 32]

theorem outbox_invariant_retried :
    (∀ call ∈ retriedDraft, call.Admissible) ∧
      (retriedDraft.foldl OutboxRun.step {}).handed.map (·.attempt) = [1, 2] ∧
      (retriedDraft.foldl OutboxRun.step {}).db.Sends hello.msgId := by
  have admissible : ∀ call ∈ retriedDraft, call.Admissible := by
    simp [retriedDraft, OutboxCall.Admissible, hello]
  refine ⟨admissible, by decide, ?_⟩
  have queued : ((retriedDraft.foldl OutboxRun.step {}).db.queued hello.msgId).isSome := by decide
  obtain ⟨row, found⟩ := Option.isSome_iff_exists.mp queued
  obtain ⟨member, named⟩ := queued_eq_some.mp found
  rw [← named]
  exact (outbox_invariant retriedDraft admissible).1 row member

end Jitong
