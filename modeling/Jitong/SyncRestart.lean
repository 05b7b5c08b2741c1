import Jitong.AckRace
import Jitong.SyncTracker

/-!
`SyncService` over the message table and the table of gaps: the trackers of the conversations, which
are built from the tables when they are first looked at, beside the threads that store messages and
acknowledgements and tell the service of them a moment later.
-/

namespace Jitong

open NativeRepository Jitong.Lib SyncTracker

namespace SyncRestart

inductive Event (threads : Nat)
  | storeProtocolMessage (thread : Fin threads) (m : MessageDto) (ctx : IncomingContext)
      (written reported : Bool)
  | handleChatAck (thread : Fin threads) (ack : ChatProtocolAck) (attempt now jitter : Int)
      (written reported : Bool)
  | observeSeq (thread : Fin threads) (loaded persisted : Bool)
  | markGapFailed (conversationId nowMs : Int) (loaded persisted : Bool)
  | look (conversationId : Int) (loaded : Bool)
  | commitOutgoingDraft (m : MessageDto) (now : Int)

end SyncRestart

open SyncRestart

/-- `syncGaps` are the rows of `sync_gaps`, and `observing` what a thread has stored and is about to
tell the service. -/
structure SyncRestart (threads : Nat) where
  ownerId : Int
  db : NativeRepository
  syncGaps : Int → List Gap
  trackers : Int → Option SyncTracker := fun _ => none
  observing : Fin threads → Option (Int × Int) := fun _ => none

namespace SyncRestart

variable {threads : Nat}

/-- `SELECT DISTINCT conversation_seq FROM messages ... AND conversation_seq>0 ORDER BY` -/
def messageSeqs (db : NativeRepository) (conversationId : Int) : List Int :=
  (((db.messages.rows.filter fun row => row.conversationId = conversationId &&
    0 < row.conversationSeq).map (·.conversationSeq)).dedup).insertionSort (· ≤ ·)

def extend (out : List (Int × Int)) (seq : Int) : List (Int × Int) :=
  match out.getLast? with
  | none => [(seq, seq)]
  | some last =>
      if last.2 < seq ∧ 1 < seq - last.2 then out ++ [(seq, seq)]
      else if last.2 < seq then out.dropLast ++ [(last.1, seq)]
      else out

def loadMessageSeqRanges (db : NativeRepository) (conversationId : Int) : List (Int × Int) :=
  (messageSeqs db conversationId).foldl extend []

def build (world : SyncRestart threads) (conversationId : Int) (loaded : Bool) : SyncTracker :=
  let empty : SyncTracker :=
    { config := { ownerId := world.ownerId, conversationId := conversationId } }
  if loaded then
    empty.restore (loadMessageSeqRanges world.db conversationId) (world.syncGaps conversationId)
  else empty

def trackerFor (world : SyncRestart threads) (conversationId : Int) (loaded : Bool) :
    SyncTracker :=
  (world.trackers conversationId).getD (world.build conversationId loaded)

def keep (world : SyncRestart threads) (conversationId : Int) (tracker : SyncTracker) :
    SyncRestart threads :=
  { world with trackers := Function.update world.trackers conversationId (some tracker) }

def persistGaps (world : SyncRestart threads) (conversationId : Int) (tracker : SyncTracker)
    (persisted : Bool) : SyncRestart threads :=
  { world.keep conversationId tracker with
    syncGaps := if persisted then
      Function.update world.syncGaps conversationId tracker.gaps else world.syncGaps }

def observeSeq (world : SyncRestart threads) (conversationId seq : Int) (loaded persisted : Bool) :
    SyncRestart threads :=
  if conversationId ≤ 0 ∨ seq ≤ 0 then world
  else
    world.persistGaps conversationId ((world.trackerFor conversationId loaded).observeSeq seq).2
      persisted

def markGapFailed (world : SyncRestart threads) (conversationId nowMs : Int)
    (loaded persisted : Bool) : SyncRestart threads :=
  if conversationId ≤ 0 then world
  else
    world.persistGaps conversationId
      ((world.trackerFor conversationId loaded).markGapAttemptFailed nowMs) persisted

/-- `contiguousSeq` and the gaps, as the service that has the trackers reports them. -/
def reports (world : SyncRestart threads) (conversationId : Int) : Int × List Gap :=
  if conversationId ≤ 0 then (0, [])
  else
    let tracker := world.trackerFor conversationId true
    (tracker.contiguousSeq, tracker.gaps)

def create (ownerId : Int) (db : NativeRepository) (syncGaps : Int → List Gap) :
    SyncRestart threads where
  ownerId := ownerId
  db := db
  syncGaps := syncGaps

def rebuilt (world : SyncRestart threads) : SyncRestart threads :=
  { world with trackers := fun _ => none }

def set (world : SyncRestart threads) (thread : Fin threads) (told : Option (Int × Int)) :
    SyncRestart threads :=
  { world with observing := Function.update world.observing thread told }

/-- The message has the shape that `storeProtocolMessage` gives it. -/
def fromProtocol (m : MessageDto) : Bool :=
  m.msgId ≠ [] && 0 < m.peerId && m.conversationId = m.peerId && 0 < m.seq

def step (world : SyncRestart threads) : Event threads → SyncRestart threads
  | .storeProtocolMessage thread m ctx written reported =>
      if world.observing thread = none ∧ fromProtocol m then
        match world.db.mergeIncoming m ctx with
        | none => world
        | some (_, db) =>
            { world with db := if written then db else world.db }.set thread
              (if written && reported then some (m.conversationId, m.seq) else none)
      else world
  | .handleChatAck thread ack attempt now jitter written reported =>
      if world.observing thread = none ∧ (world.db.message ack.msgId).any fun row =>
          row.fromMe && row.peerId = ack.peerId then
        match world.db.onProtocolAck ack attempt now jitter with
        | none => world
        | some db =>
            { world with db := if written then db else world.db }.set thread
              (if written && reported && 0 < ack.conversationSeq then
                some (ack.peerId, ack.conversationSeq) else none)
      else world
  | .observeSeq thread loaded persisted =>
      match world.observing thread with
      | none => world
      | some (conversationId, seq) =>
          (world.observeSeq conversationId seq loaded persisted).set thread none
  | .markGapFailed conversationId nowMs loaded persisted =>
      world.markGapFailed conversationId nowMs loaded persisted
  | .look conversationId loaded =>
      if conversationId ≤ 0 then world
      else world.keep conversationId (world.trackerFor conversationId loaded)
  | .commitOutgoingDraft m now =>
      { world with db :=
          ((world.db.commitOutgoingDraft { m with seq := 0 } now).map Prod.snd).getD world.db }

def Equivalent (world : SyncRestart threads) : Prop :=
  ∀ conversationId, (∀ thread seq, world.observing thread ≠ some (conversationId, seq)) →
    world.rebuilt.reports conversationId = world.reports conversationId

def known (db : NativeRepository) (conversationId seq : Int) : Bool :=
  db.messages.rows.any fun row =>
    row.conversationId = conversationId && row.conversationSeq = seq

def ackStores (db : NativeRepository) (ack : ChatProtocolAck) : Option (Int × Int) :=
  if ack.result = chatResultSucc ∨ ack.result = chatResultFail then
    (db.message ack.msgId).bind fun row =>
      if row.conversationSeq = 0 then some (row.conversationId, ack.conversationSeq) else none
  else none

def builds (world : SyncRestart threads) (conversationId : Int) (loaded : Bool) : Bool :=
  loaded || (world.trackers conversationId).isSome || messageSeqs world.db conversationId = []

def restoredRetries (rows : List Gap) : Int → Option RetryInfo :=
  (rows.foldl restoreRetry { config := {} }).retries

def gives (rows : List Gap) (tracker : SyncTracker) : Bool :=
  tracker.computeGaps.all fun gap =>
    restoredRetries rows gap.fromSeq = tracker.retries gap.fromSeq

def permits (world : SyncRestart threads) : Event threads → Bool
  | .storeProtocolMessage _ m _ written reported =>
      !written || reported || world.trackers m.conversationId = none ||
        known world.db m.conversationId m.seq
  | .handleChatAck _ ack _ _ _ written reported =>
      !written ||
        (!reported || ack.conversationSeq ≤ 0 || known world.db ack.peerId ack.conversationSeq ||
          ackStores world.db ack = some (ack.peerId, ack.conversationSeq)) &&
        (ackStores world.db ack).all fun stored =>
          world.trackers stored.1 = none || reported && stored.1 = ack.peerId ||
            known world.db stored.1 stored.2
  | .observeSeq thread loaded persisted =>
      (world.observing thread).all fun told =>
        world.builds told.1 loaded && (persisted || gives (world.syncGaps told.1)
          ((world.trackerFor told.1 loaded).observeSeq told.2).2)
  | .markGapFailed conversationId nowMs loaded persisted =>
      world.builds conversationId loaded && (persisted || gives (world.syncGaps conversationId)
        ((world.trackerFor conversationId loaded).markGapAttemptFailed nowMs))
  | .look conversationId loaded => world.builds conversationId loaded
  | _ => true

/-! The numbers that the tables give to a tracker that is built. -/

section Tables

variable {db after : NativeRepository} {conversationId seq : Int}

def numbers (db : NativeRepository) (conversationId : Int) : Set Int :=
  {seq | 0 < seq ∧ ∃ row ∈ db.messages.rows,
    row.conversationId = conversationId ∧ row.conversationSeq = seq}

theorem mem_messageSeqs : seq ∈ messageSeqs db conversationId ↔ seq ∈ numbers db conversationId := by
  simp only [messageSeqs, List.mem_insertionSort, List.mem_dedup, List.mem_map, List.mem_filter,
    Bool.and_eq_true, decide_eq_true_eq]
  constructor
  · rintro ⟨row, ⟨member, conversation, positive⟩, rfl⟩
    exact ⟨positive, row, member, conversation, rfl⟩
  · rintro ⟨positive, row, member, conversation, rfl⟩
    exact ⟨row, ⟨member, conversation, positive⟩, rfl⟩

theorem messageSeqs_ascending (db : NativeRepository) (conversationId : Int) :
    (messageSeqs db conversationId).Pairwise (· < ·) := by
  unfold messageSeqs
  generalize (db.messages.rows.filter _).map _ = seqs
  have sorted := List.pairwise_insertionSort (fun left right : Int => left ≤ right) seqs.dedup
  have distinct : (seqs.dedup.insertionSort (· ≤ ·)).Nodup :=
    (List.perm_insertionSort _ _).nodup_iff.mpr seqs.nodup_dedup
  exact sorted.imp₂ (fun left right ordered differ => lt_of_le_of_ne ordered differ) distinct

theorem extend_spec {out : List (Int × Int)} (positive : 0 < seq)
    (ordered : ∀ range ∈ out, 0 < range.1 ∧ range.1 ≤ range.2)
    (behind : ∀ last ∈ out.getLast?, last.2 < seq) :
    (∀ range ∈ extend out seq, 0 < range.1 ∧ range.1 ≤ range.2) ∧
      (∀ last ∈ (extend out seq).getLast?, last.2 = seq) ∧
      ∀ number, (∃ range ∈ extend out seq, range.1 ≤ number ∧ number ≤ range.2) ↔
        (∃ range ∈ out, range.1 ≤ number ∧ number ≤ range.2) ∨ number = seq := by
  rcases List.eq_nil_or_concat' out with rfl | ⟨init, last, rfl⟩
  · refine ⟨by simpa [extend] using positive, by simp [extend], fun number => ?_⟩
    simp only [extend, List.getLast?_nil, List.mem_singleton, exists_eq_left, List.not_mem_nil,
      false_and, exists_false, false_or]
    omega
  · have below := behind last (by simp)
    obtain ⟨start, lastOrdered⟩ := ordered last (by simp)
    simp only [extend, List.getLast?_concat, List.dropLast_concat]
    split
    · refine ⟨fun range member => ?_, by simp, fun number => ?_⟩
      · rcases List.mem_append.mp member with member | member
        · exact ordered range member
        · obtain rfl := List.mem_singleton.mp member
          exact ⟨positive, le_rfl⟩
      · simp only [List.mem_append, List.mem_singleton, or_and_right, exists_or, exists_eq_left]
        refine or_congr Iff.rfl ?_
        omega
    · refine ⟨fun range member => ?_, by simp, fun number => ?_⟩
      · rcases List.mem_append.mp member with member | member
        · exact ordered range (List.mem_append_left _ member)
        · obtain rfl := List.mem_singleton.mp member
          exact ⟨start, by simp only; omega⟩
      · simp only [List.mem_append, List.mem_singleton, or_and_right, exists_or, exists_eq_left]
        rw [or_assoc]
        refine or_congr Iff.rfl ?_
        omega

theorem foldl_extend (seqs : List Int) (out : List (Int × Int))
    (ascending : seqs.Pairwise (· < ·)) (positive : ∀ seq ∈ seqs, 0 < seq)
    (ordered : ∀ range ∈ out, 0 < range.1 ∧ range.1 ≤ range.2)
    (behind : ∀ last ∈ out.getLast?, ∀ seq ∈ seqs, last.2 < seq) :
    (∀ range ∈ seqs.foldl extend out, 0 < range.1) ∧
      ∀ number, (∃ range ∈ seqs.foldl extend out, range.1 ≤ number ∧ number ≤ range.2) ↔
        (∃ range ∈ out, range.1 ≤ number ∧ number ≤ range.2) ∨ number ∈ seqs := by
  induction seqs generalizing out with
  | nil => exact ⟨fun range member => (ordered range member).1, fun number => by simp⟩
  | cons seq later ih =>
      obtain ⟨above, rest⟩ := List.pairwise_cons.mp ascending
      obtain ⟨extended, ends, holds⟩ := extend_spec (positive seq List.mem_cons_self) ordered
        fun last isLast => behind last isLast seq List.mem_cons_self
      obtain ⟨starts, covers⟩ := ih (extend out seq) rest
        (fun other member => positive other (List.mem_cons_of_mem _ member)) extended
        fun last isLast other member => ends last isLast ▸ above other member
      refine ⟨starts, fun number => ?_⟩
      rw [List.foldl_cons, covers, holds, or_assoc, List.mem_cons]

theorem restore_numbers (tracker : SyncTracker) (db : NativeRepository) (conversationId : Int)
    (persistedGaps : List Gap) :
    (tracker.restore (loadMessageSeqRanges db conversationId) persistedGaps).Refines
      (numbers db conversationId) := by
  obtain ⟨starts, covers⟩ := foldl_extend (messageSeqs db conversationId) []
    (messageSeqs_ascending db conversationId) (fun seq member => (mem_messageSeqs.mp member).1)
    (by simp) (by simp)
  have restored := tracker.restore_refines persistedGaps starts
  have same : {number | ∃ range ∈ loadMessageSeqRanges db conversationId,
      range.1 ≤ number ∧ number ≤ range.2} = numbers db conversationId := by
    ext number
    refine (covers number).trans ?_
    rw [mem_messageSeqs]
    simp
  exact same ▸ restored

end Tables

/-! What the transactions add to the numbers of the messages. -/

section Numbers

variable {db after : NativeRepository}

theorem numbers_congr (rows : after.messages.rows = db.messages.rows) (conversationId : Int) :
    numbers after conversationId = numbers db conversationId := by
  unfold numbers
  rw [rows]

theorem known_iff {conversationId seq : Int} (positive : 0 < seq) :
    known db conversationId seq = true ↔ seq ∈ numbers db conversationId := by
  simp [known, numbers, positive]

theorem numbers_map {revise : NativeMessageRow → NativeMessageRow} (row : NativeMessageRow) {seq : Int}
    (positive : 0 < seq) (rows : after.messages.rows = db.messages.rows.map revise)
    (stored : db.message row.msgId = some row)
    (others : ∀ other, other.msgId ≠ row.msgId → revise other = other)
    (conversation : (revise row).conversationId = row.conversationId)
    (numbered : (revise row).conversationSeq = if row.conversationSeq = 0 then seq
      else row.conversationSeq) (conversationId : Int) :
    numbers after conversationId = numbers db conversationId ∪
      {number | row.conversationSeq = 0 ∧ row.conversationId = conversationId ∧ seq = number} := by
  ext number
  obtain ⟨member, _⟩ := message_eq_some.mp stored
  have only (other : NativeMessageRow) (listed : other ∈ db.messages.rows)
      (same : other.msgId = row.msgId) : other = row :=
    Option.some.inj ((message_eq_some.mpr ⟨listed, same⟩).symm.trans stored)
  unfold numbers
  rw [rows]
  simp only [List.mem_map, exists_exists_and_eq_and, Set.mem_union, Set.mem_ofPred_eq]
  constructor
  · rintro ⟨above, other, listed, own, holds⟩
    by_cases same : other.msgId = row.msgId
    · obtain rfl := only other listed same
      rw [conversation] at own
      rw [numbered] at holds
      split at holds <;> rename_i zero
      · exact .inr ⟨zero, own, holds⟩
      · exact .inl ⟨above, other, listed, own, holds⟩
    · rw [others other same] at own holds
      exact .inl ⟨above, other, listed, own, holds⟩
  · rintro (⟨above, other, listed, own, holds⟩ | ⟨zero, own, rfl⟩)
    · refine ⟨above, other, listed, ?_⟩
      by_cases same : other.msgId = row.msgId
      · obtain rfl := only other listed same
        rw [conversation, numbered, if_neg (by omega)]
        exact ⟨own, holds⟩
      · rw [others other same]
        exact ⟨own, holds⟩
    · exact ⟨positive, row, member, conversation.trans own, numbered.trans (if_pos zero)⟩

theorem mergeIncoming_numbers {m : MessageDto} {ctx : IncomingContext} {new : Bool}
    (positive : 0 < m.seq) (merged : db.mergeIncoming m ctx = some (new, after))
    (conversationId : Int) :
    numbers after conversationId = numbers db conversationId ∪
      {seq | m.conversationId = conversationId ∧ m.seq = seq} := by
  obtain ⟨compatible, ⟨_, isStored, rows, _⟩ | ⟨_, _, rows, _⟩⟩ := mergeIncoming_rows merged
  · obtain ⟨row, stored⟩ := Option.isSome_iff_exists.mp isStored
    have named := (message_eq_some.mp stored).2
    simp only [compatibleIdentity, stored, Bool.and_eq_true, Bool.or_eq_true,
      decide_eq_true_eq] at compatible
    have added := numbers_map row positive rows (named ▸ stored)
      (fun other differs => if_neg (named ▸ differs))
      (by simp [named, NativeMessageRow.merged, NativeMessageRow.advance])
      (by simp [named, NativeMessageRow.merged, NativeMessageRow.advance, positive]) conversationId
    rw [added]
    obtain ⟨⟨⟨⟨own, _⟩, _⟩, _⟩, agrees⟩ := compatible
    by_cases zero : row.conversationSeq = 0
    · simp [zero, own]
    · have same : row.conversationSeq = m.seq := by omega
      have held : m.seq ∈ numbers db m.conversationId :=
        ⟨positive, row, (message_eq_some.mp stored).1, own, same⟩
      ext number
      simp only [zero, false_and, Set.mem_union, Set.mem_ofPred_eq, or_false]
      refine ⟨.inl, ?_⟩
      rintro (already | ⟨conversation, seq⟩)
      · exact already
      · exact conversation ▸ seq ▸ held
  · ext number
    unfold numbers
    rw [rows]
    simp only [List.mem_append, List.mem_singleton, or_and_right, exists_or, exists_eq_left,
      Set.mem_union, Set.mem_ofPred_eq, and_or_left]
    refine or_congr Iff.rfl ⟨And.right, ?_⟩
    rintro ⟨own, rfl⟩
    exact ⟨positive, own, rfl⟩

theorem ackStores_eq_some {ack : ChatProtocolAck} {stored : Int × Int} :
    ackStores db ack = some stored ↔
      (ack.result = chatResultSucc ∨ ack.result = chatResultFail) ∧
        ∃ row, db.message ack.msgId = some row ∧ row.conversationSeq = 0 ∧
          row.conversationId = stored.1 ∧ ack.conversationSeq = stored.2 := by
  unfold ackStores
  split <;> rename_i result
  · simp only [result, true_and, Option.bind_eq_some_iff]
    refine exists_congr fun row => and_congr_right fun _ => ?_
    split <;> rename_i zero
    · simp [zero, Prod.ext_iff]
    · simp [zero]
  · simp [result]

theorem onProtocolAck_numbers {ack : ChatProtocolAck} {attempt now jitter : Int}
    (done : db.onProtocolAck ack attempt now jitter = some after) :
    (∀ stored, ackStores db ack = some stored → 0 < stored.2) ∧
      ∀ conversationId, numbers after conversationId = numbers db conversationId ∪
        {seq | ackStores db ack = some (conversationId, seq)} := by
  unfold NativeRepository.onProtocolAck at done
  have finished {terminal : Bool} {retryAt : Int} {error : Bytes}
      (refused : ¬(ack.result = chatResultSucc ∨ ack.result = chatResultFail))
      (done : db.finishOutboxAttempt ack.msgId attempt terminal retryAt error = some after) :
      (∀ stored, ackStores db ack = some stored → 0 < stored.2) ∧
        ∀ conversationId, numbers after conversationId = numbers db conversationId ∪
          {seq | ackStores db ack = some (conversationId, seq)} := by
    have none : ackStores db ack = none := if_neg refused
    have rows : after.messages.rows = db.messages.rows := by
      unfold NativeRepository.finishOutboxAttempt at done
      split at done
      · simp at done
      · obtain rfl := Option.some.inj done
        rfl
    refine ⟨fun stored some => by simp [none] at some, fun conversationId => ?_⟩
    simp [numbers_congr rows, none]
  split at done
  · simp at done
  · split at done <;> rename_i result
    · split at done <;> rename_i numbered
      · simp at done
      · refine ⟨fun stored some => ?_, fun conversationId => ?_⟩
        · obtain ⟨_, _, _, _, _, seq⟩ := ackStores_eq_some.mp some
          omega
        · obtain ⟨_, ⟨unknown, rfl⟩ | ⟨row, stored, _, _, rows, _⟩⟩ := commitAck_rows done
          · simp [ackStores, unknown]
          · have named := (message_eq_some.mp stored).2
            rw [numbers_map row (by omega : 0 < ack.conversationSeq) rows (named ▸ stored)
              (fun other differs => if_neg (named ▸ differs))
              (by simp [named, NativeMessageRow.advance])
              (by simp [named, NativeMessageRow.advance, show 0 < ack.conversationSeq by omega])]
            simp [ackStores_eq_some, result, stored]
    · split at done
      · exact finished result done
      · split at done
        · exact finished result done
        · split at done
          · split at done
            · simp at done
            · exact finished result done
          · simp at done

theorem commitOutgoingDraft_numbers {m : MessageDto} {now order : Int}
    (committed : db.commitOutgoingDraft { m with seq := 0 } now = some (order, after))
    (conversationId : Int) : numbers after conversationId = numbers db conversationId := by
  obtain ⟨_, ⟨rfl, _⟩ | ⟨_, _, rows, _⟩⟩ := commitOutgoingDraft_rows committed
  · rfl
  · ext number
    unfold numbers
    rw [rows]
    simp only [List.mem_append, List.mem_singleton, or_and_right, exists_or, exists_eq_left,
      Set.mem_ofPred_eq, NativeMessageRow.stored, NativeMessageRow.of]
    refine and_congr_right fun positive => or_iff_left ?_
    rintro ⟨_, zero⟩
    omega

end Numbers

/-! The retries that the table of gaps gives to it. -/

section Retries

variable {tracker : SyncTracker}

theorem restore_retries (arrived : List (Int × Int)) (rows : List Gap) :
    (tracker.restore arrived rows).retries = restoredRetries rows := by
  unfold SyncTracker.restore restoredRetries
  refine restoreRetry_retries rows ?_
  rw [restoreRange_retries]

def Retried (retries : Int → Option RetryInfo) : Prop :=
  ∀ fromSeq info, retries fromSeq = some info → 0 < info.attempt

theorem foldl_restoreRetry_retried (rows : List Gap) (retried : Retried tracker.retries) :
    Retried (rows.foldl restoreRetry tracker).retries := by
  induction rows generalizing tracker with
  | nil => exact retried
  | cons gap later ih =>
      refine ih ?_
      unfold restoreRetry
      split
      · rename_i valid
        intro fromSeq info found
        dsimp only at found
        by_cases own : fromSeq = gap.fromSeq
        · rw [own, Function.update_self] at found
          exact Option.some.inj found ▸ valid.2.2
        · rw [Function.update_of_ne own] at found
          exact retried fromSeq info found
      · exact retried

theorem restoredRetries_retried (rows : List Gap) : Retried (restoredRetries rows) :=
  foldl_restoreRetry_retried rows fun _ _ found => by simp at found

theorem restoreRetry_other {gap : Gap} {fromSeq : Int} (other : gap.fromSeq ≠ fromSeq) :
    (restoreRetry tracker gap).retries fromSeq = tracker.retries fromSeq := by
  unfold restoreRetry
  split
  · exact Function.update_of_ne (Ne.symm other) _ _
  · rfl

theorem foldl_restoreRetry_other (rows : List Gap) {fromSeq : Int}
    (others : ∀ gap ∈ rows, gap.fromSeq ≠ fromSeq) :
    (rows.foldl restoreRetry tracker).retries fromSeq = tracker.retries fromSeq := by
  induction rows generalizing tracker with
  | nil => rfl
  | cons gap later ih =>
      rw [List.foldl_cons, ih fun other member => others other (List.mem_cons_of_mem _ member),
        restoreRetry_other (others gap List.mem_cons_self)]

theorem foldl_restoreRetry_own (tracker : SyncTracker) (rows : List Gap)
    (distinct : (rows.map (·.fromSeq)).Nodup) {gap : Gap} (member : gap ∈ rows) :
    (rows.foldl restoreRetry tracker).retries gap.fromSeq =
      (restoreRetry tracker gap).retries gap.fromSeq := by
  induction rows generalizing tracker with
  | nil => cases member
  | cons head later ih =>
      rw [List.map_cons, List.nodup_cons] at distinct
      rw [List.foldl_cons]
      rcases List.mem_cons.mp member with rfl | member
      · refine foldl_restoreRetry_other later fun other listed same => distinct.1 ?_
        exact same ▸ List.mem_map_of_mem listed
      · have apart : head.fromSeq ≠ gap.fromSeq := fun same =>
          distinct.1 (same ▸ List.mem_map_of_mem member)
        rw [ih _ distinct.2 member]
        unfold restoreRetry
        split
        · simp
        · exact restoreRetry_other apart

theorem gaps_starts {told : Set Int} (refines : tracker.Refines told) :
    (tracker.gaps.map (·.fromSeq)).Nodup ∧
      ∀ gap ∈ tracker.gaps, 0 < gap.fromSeq ∧ gap.fromSeq ≤ gap.toSeq := by
  have listed := refines.gaps_lists
  constructor
  · have ascending := listed.apart.ascending
    have ordered := listed.apart.ordered
    rw [List.pairwise_map] at ascending
    refine List.pairwise_map.mpr (ascending.imp_of_mem ?_)
    intro left right leftMember _ apart same
    have := ordered left.span (List.mem_map_of_mem leftMember)
    simp only [Gap.span] at this apart
    omega
  · intro gap member
    have maximal := (listed.listed gap.span).mp (List.mem_map_of_mem member)
    exact ⟨(maximal.inside _ le_rfl maximal.ordered).1, maximal.ordered⟩

theorem gapsBetween_untried (arrived : List Span) :
    ∀ gap ∈ gapsBetween arrived, gap.attempt = 0 := by
  fun_induction gapsBetween arrived with
  | case1 left right later room ih =>
      intro gap member
      rcases List.mem_cons.mp member with rfl | member
      · rfl
      · exact ih gap member
  | case2 left right later none ih => exact ih
  | case3 => simp

theorem computeGaps_untried (tracker : SyncTracker) :
    ∀ gap ∈ tracker.computeGaps, gap.attempt = 0 := by
  unfold computeGaps
  split
  · simp
  · split
    · intro gap member
      rcases List.mem_cons.mp member with rfl | member
      · rfl
      · exact gapsBetween_untried _ gap member
    · exact gapsBetween_untried _

theorem withRetry_fromSeq (tracker : SyncTracker) (gap : Gap) :
    (tracker.withRetry gap).fromSeq = gap.fromSeq :=
  congrArg Span.first (tracker.withRetry_span gap)

theorem gives_iff {rows : List Gap} : gives rows tracker = true ↔ ∀ gap ∈ tracker.computeGaps,
    restoredRetries rows gap.fromSeq = tracker.retries gap.fromSeq := by
  simp [gives]

theorem gives_gaps {told : Set Int} (refines : tracker.Refines told)
    (retried : Retried tracker.retries) : gives tracker.gaps tracker = true := by
  refine gives_iff.mpr fun gap member => ?_
  obtain ⟨distinct, valid⟩ := gaps_starts refines
  have written : tracker.withRetry gap ∈ tracker.gaps := List.mem_map_of_mem member
  have bounds := valid _ written
  have own := foldl_restoreRetry_own { config := {} } tracker.gaps distinct written
  rw [withRetry_fromSeq] at own
  refine own.trans ?_
  unfold restoreRetry
  cases found : tracker.retries gap.fromSeq with
  | none =>
      have untried : (tracker.withRetry gap).attempt = 0 := by
        simp [withRetry, found, computeGaps_untried tracker gap member]
      rw [if_neg (by omega)]
  | some info =>
      have counted := retried _ _ found
      have carried : tracker.withRetry gap =
          { gap with attempt := info.attempt, nextRetryAtMs := info.nextRetryAtMs } := by
        simp [withRetry, found]
      rw [carried] at bounds ⊢
      rw [if_pos ⟨bounds.1, bounds.2, counted⟩]
      simp

end Retries

/-! What holds of the trackers. -/

section Trackers

variable {world after : SyncRestart threads} {conversationId seq : Int} {tracker : SyncTracker}
  {loaded persisted : Bool}

def telling (world : SyncRestart threads) (conversationId : Int) : Set Int :=
  {seq | ∃ thread, world.observing thread = some (conversationId, seq)}

/-- What a tracker was not told of the table, a thread is about to tell; and its retries are what
the table of gaps gives, at each of its gaps. -/
structure Tracks (world : SyncRestart threads) (conversationId : Int) (tracker : SyncTracker) :
    Prop where
  numbered : ∃ told, tracker.Refines told ∧
    numbers world.db conversationId = told ∪ world.telling conversationId
  retried : Retried tracker.retries
  stored : gives (world.syncGaps conversationId) tracker = true

structure Sound (world : SyncRestart threads) : Prop where
  positive : ∀ conversationId tracker, world.trackers conversationId = some tracker →
    0 < conversationId
  tracks : ∀ conversationId tracker, world.trackers conversationId = some tracker →
    world.Tracks conversationId tracker
  telling : ∀ conversationId, world.telling conversationId ⊆ numbers world.db conversationId

theorem Sound.trackerFor (sound : world.Sound)
    (builds : world.builds conversationId loaded = true) :
    world.Tracks conversationId (world.trackerFor conversationId loaded) := by
  unfold SyncRestart.trackerFor
  cases found : world.trackers conversationId with
  | some tracker => exact sound.tracks conversationId tracker found
  | none =>
      have whole : numbers world.db conversationId =
          numbers world.db conversationId ∪ world.telling conversationId :=
        (Set.union_eq_self_of_subset_right (sound.telling conversationId)).symm
      rw [Option.getD_none, build]
      split
      · refine ⟨⟨_, restore_numbers _ world.db conversationId _, whole⟩, ?_, ?_⟩
        · rw [restore_retries]
          exact restoredRetries_retried _
        · exact gives_iff.mpr fun gap _ => by rw [restore_retries]
      · rename_i unread
        have listed : messageSeqs world.db conversationId = [] := by
          simpa [SyncRestart.builds, unread, found] using builds
        have empty : numbers world.db conversationId = ∅ := by
          ext number
          rw [← mem_messageSeqs, listed]
          simp
        exact ⟨⟨∅, new_refines _, empty ▸ whole⟩, fun _ _ found => by simp at found, rfl⟩

theorem Sound.equivalent (sound : world.Sound) : world.Equivalent := by
  intro conversationId quiet
  unfold reports
  split
  · rfl
  · have tracks : world.Tracks conversationId (world.trackerFor conversationId true) :=
      sound.trackerFor rfl
    obtain ⟨⟨told, refines, whole⟩, _, stored⟩ := tracks
    have silent : world.telling conversationId = ∅ := by
      ext seq
      exact ⟨fun ⟨thread, tells⟩ => quiet thread seq tells, False.elim⟩
    rw [silent, Set.union_empty] at whole
    generalize world.trackerFor conversationId true = running at refines stored
    have rebuilding : world.rebuilt.trackerFor conversationId true =
        world.build conversationId true := rfl
    rw [rebuilding, build, if_pos rfl]
    have restored := restore_numbers { config :=
        { ownerId := world.ownerId, conversationId := conversationId } } world.db conversationId
      (world.syncGaps conversationId)
    obtain ⟨arrived, computed⟩ := restored.unique (whole ▸ refines)
    refine Prod.ext ?_ ?_
    · simp only [contiguousSeq, arrived]
    · simp only [gaps, gapsWithRetry, computed]
      refine List.map_congr_left fun gap member => ?_
      simp only [withRetry, restore_retries, gives_iff.mp stored gap member]

theorem Sound.moved (sound : world.Sound) (conversationId : Int) (sameDb : after.db = world.db)
    (others : ∀ other, other ≠ conversationId → after.trackers other = world.trackers other ∧
      after.syncGaps other = world.syncGaps other)
    (told : ∀ other, after.telling other ⊆ world.telling other)
    (kept : ∀ other, other ≠ conversationId → after.telling other = world.telling other)
    (own : ∀ tracker, after.trackers conversationId = some tracker →
      0 < conversationId ∧ after.Tracks conversationId tracker) : after.Sound := by
  refine ⟨fun other tracker found => ?_, fun other tracker found => ?_, fun other => ?_⟩
  · by_cases same : other = conversationId
    · subst same
      exact (own tracker found).1
    · exact sound.positive other tracker ((others other same).1 ▸ found)
  · by_cases same : other = conversationId
    · subst same
      exact (own tracker found).2
    · obtain ⟨sameTracker, sameGaps⟩ := others other same
      obtain ⟨⟨told, refines, whole⟩, retried, stored⟩ :=
        sound.tracks other tracker (sameTracker ▸ found)
      refine ⟨⟨told, refines, ?_⟩, retried, ?_⟩
      · rw [sameDb, kept other same, whole]
      · rw [sameGaps]
        exact stored
  · rw [sameDb]
    exact (told other).trans (sound.telling other)

theorem telling_set {thread : Fin threads} {next : Option (Int × Int)}
    (free : world.observing thread = none) (conversationId : Int) :
    (world.set thread next).telling conversationId =
      world.telling conversationId ∪ {seq | next = some (conversationId, seq)} := by
  ext seq
  simp only [telling, set, Set.mem_union, Set.mem_ofPred_eq]
  constructor
  · rintro ⟨other, tells⟩
    by_cases same : other = thread
    · rw [same, Function.update_self] at tells
      exact .inr tells
    · rw [Function.update_of_ne same] at tells
      exact .inl ⟨other, tells⟩
  · rintro (⟨other, tells⟩ | tells)
    · have apart : other ≠ thread := by
        rintro rfl
        simp [free] at tells
      exact ⟨other, (Function.update_of_ne apart _ _).trans tells⟩
    · exact ⟨thread, (Function.update_self ..).trans tells⟩

theorem Sound.commit (sound : world.Sound) (added : Option (Int × Int)) {thread : Fin threads}
    {db : NativeRepository} {next : Option (Int × Int)} (free : world.observing thread = none)
    (numbered : ∀ conversationId, numbers db conversationId =
      numbers world.db conversationId ∪ {seq | added = some (conversationId, seq)})
    (told : ∀ conversationId seq, next = some (conversationId, seq) →
      seq ∈ numbers db conversationId)
    (heard : ∀ conversationId seq, added = some (conversationId, seq) →
      world.trackers conversationId = none ∨ seq ∈ numbers world.db conversationId ∨
        next = some (conversationId, seq)) :
    ({ world with db := db }.set thread next : SyncRestart threads).Sound := by
  have tells (conversationId : Int) :
      ({ world with db := db }.set thread next : SyncRestart threads).telling conversationId =
        world.telling conversationId ∪ {seq | next = some (conversationId, seq)} := by
    have freeStill : ({ world with db := db } : SyncRestart threads).observing thread = none := free
    exact telling_set freeStill conversationId
  refine ⟨sound.positive, fun conversationId tracker found => ?_, fun conversationId => ?_⟩
  · obtain ⟨⟨before, refines, whole⟩, retried, stored⟩ := sound.tracks conversationId tracker found
    refine ⟨⟨before, refines, ?_⟩, retried, stored⟩
    have tellable := told conversationId
    rw [numbered] at tellable
    rw [tells]
    refine (numbered conversationId).trans ?_
    rw [← Set.union_assoc, ← whole]
    refine Set.Subset.antisymm (Set.union_subset Set.subset_union_left fun seq isAdded => ?_)
      (Set.union_subset Set.subset_union_left fun seq isNext => tellable seq isNext)
    rcases heard conversationId seq isAdded with none | known | next
    · exact absurd (none.symm.trans found) (by simp)
    · exact .inl known
    · exact .inr next
  · rw [tells]
    refine Set.union_subset ?_ fun seq isNext => told conversationId seq isNext
    exact (sound.telling conversationId).trans (numbered conversationId ▸ Set.subset_union_left)

theorem persistGaps_gives {told : Set Int} (refines : tracker.Refines told)
    (retried : Retried tracker.retries)
    (kept : persisted = true ∨ gives (world.syncGaps conversationId) tracker = true) :
    gives ((world.persistGaps conversationId tracker persisted).syncGaps conversationId) tracker =
      true := by
  unfold persistGaps
  dsimp only
  split
  · rw [Function.update_self]
    exact gives_gaps refines retried
  · exact kept.resolve_left (by assumption)

theorem persistGaps_other {other : Int} (apart : other ≠ conversationId) :
    (world.persistGaps conversationId tracker persisted).trackers other = world.trackers other ∧
      (world.persistGaps conversationId tracker persisted).syncGaps other =
        world.syncGaps other := by
  unfold persistGaps
  refine ⟨Function.update_of_ne apart _ _, ?_⟩
  dsimp only
  split
  · exact Function.update_of_ne apart _ _
  · rfl

theorem keep_trackers :
    (world.keep conversationId tracker).trackers conversationId = some tracker :=
  Function.update_self ..

theorem persistGaps_trackers :
    (world.persistGaps conversationId tracker persisted).trackers conversationId = some tracker :=
  Function.update_self ..

theorem markGapAttemptFailed_refines {told : Set Int} (refines : tracker.Refines told)
    (nowMs : Int) : (tracker.markGapAttemptFailed nowMs).Refines told := by
  have same : (tracker.markGapAttemptFailed nowMs).arrived = tracker.arrived ∧
      (tracker.markGapAttemptFailed nowMs).maxSeen = tracker.maxSeen := by
    unfold markGapAttemptFailed
    split <;> exact ⟨rfl, rfl⟩
  obtain ⟨arrived, maxSeen⟩ := same
  exact ⟨arrived ▸ refines.lists, refines.positive, maxSeen ▸ refines.seen,
    maxSeen ▸ refines.greatest⟩

theorem markGapAttemptFailed_retried (retried : Retried tracker.retries) (nowMs : Int) :
    Retried (tracker.markGapAttemptFailed nowMs).retries := by
  unfold markGapAttemptFailed
  split
  · exact retried
  · rename_i gap _ _
    intro fromSeq info found
    dsimp only at found
    by_cases own : fromSeq = gap.fromSeq
    · rw [own, Function.update_self] at found
      obtain rfl := Option.some.inj found
      dsimp only
      cases earlier : tracker.retries gap.fromSeq with
      | none => simp
      | some before =>
          have := retried _ _ earlier
          simp only [Option.getD_some]
          omega
    · rw [Function.update_of_ne own] at found
      exact retried fromSeq info found

theorem Sound.markGapFailed (sound : world.Sound) {nowMs : Int}
    (builds : world.builds conversationId loaded = true)
    (kept : persisted = true ∨ gives (world.syncGaps conversationId)
      ((world.trackerFor conversationId loaded).markGapAttemptFailed nowMs) = true) :
    (world.markGapFailed conversationId nowMs loaded persisted).Sound := by
  unfold SyncRestart.markGapFailed
  split
  · exact sound
  · rename_i positive
    obtain ⟨⟨told, refines, whole⟩, retried, _⟩ := sound.trackerFor builds
    refine sound.moved conversationId rfl
      (fun other apart => persistGaps_other apart) (fun _ => subset_rfl) (fun _ _ => rfl)
      fun tracker found => ?_
    obtain rfl := Option.some.inj (persistGaps_trackers.symm.trans found)
    have marked := markGapAttemptFailed_refines refines nowMs
    have counted := markGapAttemptFailed_retried retried nowMs
    exact ⟨by omega, ⟨told, marked, whole⟩, counted, persistGaps_gives marked counted kept⟩

theorem Sound.look (sound : world.Sound) (positive : 0 < conversationId)
    (builds : world.builds conversationId loaded = true) :
    (world.keep conversationId (world.trackerFor conversationId loaded)).Sound := by
  have tracks := sound.trackerFor builds
  refine sound.moved conversationId rfl
    (fun other apart => ⟨Function.update_of_ne apart _ _, rfl⟩) (fun _ => subset_rfl)
    (fun _ _ => rfl) fun tracker found => ?_
  obtain rfl := Option.some.inj (keep_trackers.symm.trans found)
  exact ⟨positive, tracks.numbered, tracks.retried, tracks.stored⟩

theorem telling_told {thread : Fin threads}
    (tells : world.observing thread = some (conversationId, seq)) :
    (∀ other, (world.set thread none).telling other ⊆ world.telling other) ∧
      (∀ other, other ≠ conversationId →
        (world.set thread none).telling other = world.telling other) ∧
      world.telling conversationId ⊆ (world.set thread none).telling conversationId ∪ {seq} := by
  have less (other : Int) : (world.set thread none).telling other ⊆ world.telling other := by
    rintro number ⟨another, found⟩
    by_cases same : another = thread
    · subst same
      simp [set] at found
    · exact ⟨another, (Function.update_of_ne same _ _).symm.trans found⟩
  refine ⟨less, fun other apart => Set.Subset.antisymm (less other) ?_, ?_⟩
  · rintro number ⟨another, found⟩
    have differs : another ≠ thread := by
      rintro rfl
      rw [tells] at found
      exact apart (congrArg Prod.fst (Option.some.inj found)).symm
    exact ⟨another, (Function.update_of_ne differs _ _).trans found⟩
  · rintro number ⟨another, found⟩
    by_cases same : another = thread
    · subst same
      rw [tells] at found
      exact .inr (congrArg Prod.snd (Option.some.inj found)).symm
    · exact .inl ⟨another, (Function.update_of_ne same _ _).trans found⟩

theorem Sound.observeSeq (sound : world.Sound) {thread : Fin threads}
    (tells : world.observing thread = some (conversationId, seq))
    (builds : world.builds conversationId loaded = true)
    (kept : persisted = true ∨ gives (world.syncGaps conversationId)
      ((world.trackerFor conversationId loaded).observeSeq seq).2 = true) :
    ((world.observeSeq conversationId seq loaded persisted).set thread none).Sound := by
  obtain ⟨less, others, told⟩ := telling_told tells
  have held : seq ∈ world.telling conversationId := ⟨thread, tells⟩
  have positive : 0 < seq := (sound.telling conversationId held).1
  unfold SyncRestart.observeSeq
  split
  · rename_i outside
    refine sound.moved conversationId rfl (fun _ _ => ⟨rfl, rfl⟩) less others
      fun tracker found => ?_
    have := sound.positive conversationId tracker found
    omega
  · rename_i inside
    obtain ⟨⟨before, refines, whole⟩, retried, _⟩ := sound.trackerFor builds
    refine sound.moved conversationId rfl
      (fun other apart => persistGaps_other apart) less others fun tracker found => ?_
    have own := @persistGaps_trackers _ world conversationId
      ((world.trackerFor conversationId loaded).observeSeq seq).2 persisted
    obtain rfl := Option.some.inj (own.symm.trans found)
    have observed : ((world.trackerFor conversationId loaded).observeSeq seq).2.Refines
        (before ∪ Set.Icc seq seq) := by
      rw [observeSeq_eq _ positive]
      exact refines.add positive le_rfl rfl rfl
    have counted : Retried ((world.trackerFor conversationId loaded).observeSeq seq).2.retries := by
      rw [observeSeq_eq _ positive]
      exact retried
    refine ⟨by omega, ⟨_, observed, whole.trans ?_⟩, counted,
      persistGaps_gives observed counted kept⟩
    rw [Set.Icc_self]
    ext number
    constructor
    · rintro (old | number)
      · exact .inl (.inl old)
      · rcases told number with later | same
        · exact .inr later
        · exact .inl (.inr same)
    · rintro ((old | same) | later)
      · exact .inl old
      · exact .inr (same ▸ held)
      · exact .inr (less conversationId later)

end Trackers

theorem Sound.storeProtocolMessage {world : SyncRestart threads} (sound : world.Sound)
    {thread : Fin threads} {m : MessageDto} {ctx : IncomingContext} {written reported : Bool}
    (permitted : world.permits (.storeProtocolMessage thread m ctx written reported) = true) :
    (world.step (.storeProtocolMessage thread m ctx written reported)).Sound := by
  simp only [SyncRestart.step]
  split <;> rename_i starts
  · obtain ⟨free, shaped⟩ := starts
    simp only [fromProtocol, Bool.and_eq_true, decide_eq_true_eq] at shaped
    have positive : 0 < m.seq := shaped.2
    cases merged : world.db.mergeIncoming m ctx with
    | none => exact sound
    | some result =>
        obtain ⟨new, db⟩ := result
        have numbered := mergeIncoming_numbers positive merged
        simp only [permits, Bool.or_eq_true, Bool.not_eq_true', decide_eq_true_eq,
          known_iff positive] at permitted
        refine sound.commit (if written then some (m.conversationId, m.seq) else none) free
          (fun conversationId => ?_) (fun conversationId seq tells => ?_)
          fun conversationId seq isAdded => ?_
        · cases written with
          | true => simpa [Prod.ext_iff] using numbered conversationId
          | false => simp
        · split at tells <;> rename_i both
          · obtain ⟨rfl, rfl⟩ := Prod.mk.inj (Option.some.inj tells)
            simp only [Bool.and_eq_true] at both
            rw [if_pos both.1, numbered]
            exact .inr ⟨rfl, rfl⟩
          · simp at tells
        · split at isAdded <;> rename_i isWritten
          · obtain ⟨rfl, rfl⟩ := Prod.mk.inj (Option.some.inj isAdded)
            rcases permitted with ((unwritten | isReported) | none) | held
            · simp [isWritten] at unwritten
            · exact .inr (.inr (by simp [isWritten, isReported]))
            · exact .inl none
            · exact .inr (.inl held)
          · simp at isAdded
  · exact sound

theorem Sound.handleChatAck {world : SyncRestart threads} (sound : world.Sound)
    {thread : Fin threads} {ack : ChatProtocolAck} {attempt now jitter : Int}
    {written reported : Bool}
    (permitted : world.permits (.handleChatAck thread ack attempt now jitter written reported) =
      true) :
    (world.step (.handleChatAck thread ack attempt now jitter written reported)).Sound := by
  simp only [SyncRestart.step]
  split <;> rename_i starts
  · cases done : world.db.onProtocolAck ack attempt now jitter with
    | none => exact sound
    | some db =>
        obtain ⟨positive, numbered⟩ := onProtocolAck_numbers done
        simp only [permits, Bool.or_eq_true, Bool.not_eq_true', Bool.and_eq_true,
          decide_eq_true_eq, Option.all_eq_true] at permitted
        refine sound.commit (if written then ackStores world.db ack else none) starts.1
          (fun conversationId => ?_) (fun conversationId seq tells => ?_)
          fun conversationId seq isAdded => ?_
        · cases written with
          | true => simpa using numbered conversationId
          | false => simp
        · split at tells <;> rename_i told
          · obtain ⟨rfl, rfl⟩ := Prod.mk.inj (Option.some.inj tells)
            simp only [Bool.and_eq_true, decide_eq_true_eq] at told
            obtain ⟨⟨isWritten, isReported⟩, above⟩ := told
            rw [if_pos isWritten, numbered]
            rcases permitted with unwritten | ⟨((silent | below) | held) | stores, _⟩
            · simp [isWritten] at unwritten
            · simp [isReported] at silent
            · omega
            · exact .inl ((known_iff above).mp held)
            · exact .inr stores
          · simp at tells
        · split at isAdded <;> rename_i isWritten
          · have above : 0 < seq := positive _ isAdded
            rcases permitted with unwritten | ⟨_, hears⟩
            · simp [isWritten] at unwritten
            · rcases hears _ isAdded with (none | ⟨isReported, own⟩) | held
              · exact .inl none
              · have same := (ackStores_eq_some.mp isAdded).2
                obtain ⟨_, _, _, _, sameSeq⟩ := same
                simp only at own sameSeq
                refine .inr (.inr ?_)
                rw [if_pos (by simp [isWritten, isReported, sameSeq, above]), own, sameSeq]
              · exact .inr (.inl ((known_iff above).mp held))
          · simp at isAdded
  · exact sound

theorem Sound.step {world : SyncRestart threads} (sound : world.Sound) (event : Event threads)
    (permitted : world.permits event = true) : (world.step event).Sound := by
  cases event with
  | storeProtocolMessage thread m ctx written reported => exact sound.storeProtocolMessage permitted
  | handleChatAck thread ack attempt now jitter written reported =>
      exact sound.handleChatAck permitted
  | observeSeq thread loaded persisted =>
      simp only [SyncRestart.step]
      cases tells : world.observing thread with
      | none => exact sound
      | some told =>
          obtain ⟨conversationId, seq⟩ := told
          simp only [permits, tells, Option.all_some, Bool.and_eq_true, Bool.or_eq_true] at permitted
          exact sound.observeSeq tells permitted.1 permitted.2
  | markGapFailed conversationId nowMs loaded persisted =>
      simp only [permits, Bool.and_eq_true, Bool.or_eq_true] at permitted
      exact sound.markGapFailed permitted.1 permitted.2
  | look conversationId loaded =>
      simp only [SyncRestart.step]
      split
      · exact sound
      · exact sound.look (by omega) permitted
  | commitOutgoingDraft m now =>
      have same (conversationId : Int) :
          numbers (((world.db.commitOutgoingDraft { m with seq := 0 } now).map Prod.snd).getD
            world.db) conversationId = numbers world.db conversationId := by
        cases committed : world.db.commitOutgoingDraft { m with seq := 0 } now with
        | none => rfl
        | some result => exact commitOutgoingDraft_numbers committed conversationId
      refine ⟨sound.positive, fun conversationId tracker found => ?_, fun conversationId => ?_⟩
      · obtain ⟨⟨told, refines, whole⟩, retried, stored⟩ :=
          sound.tracks conversationId tracker found
        exact ⟨⟨told, refines, (same conversationId).trans whole⟩, retried, stored⟩
      · exact (sound.telling conversationId).trans (same conversationId).ge

end SyncRestart

open SyncRestart

/-- A service that starts on any tables is equivalent to one that is built anew after any part of a
run, when what the threads store is told to it, what they tell it is stored, and the tables are read
and written. -/
theorem restart_equivalent {threads : Nat} (ownerId : Int) (db : NativeRepository)
    (syncGaps : Int → List Gap) (events : List (Event threads))
    (passed : guarded SyncRestart.step SyncRestart.permits (create ownerId db syncGaps) events = true)
    (front back : List (Event threads)) (split : front ++ back = events) :
    (front.foldl SyncRestart.step (create ownerId db syncGaps)).Equivalent := by
  have fresh : (create ownerId db syncGaps : SyncRestart threads).Sound := by
    refine ⟨fun _ _ found => by simp [create] at found, fun _ _ found => by simp [create] at found, ?_⟩
    rintro conversationId seq ⟨thread, tells⟩
    simp [create] at tells
  have sound := prefixes_of_guarded (fun world : SyncRestart threads => world.Sound)
    (fun _ => True) (fun world event _ sound permitted => sound.step event permitted) _ fresh events
    (fun _ _ => trivial) passed front back split
  exact sound.equivalent

namespace SyncRestart

def numbered (seq : Int) : MessageDto :=
  { msgId := ascii "m" ++ [seq.toNat.toUInt8], conversationId := 7, peerId := 7, seq := seq, ts := 10,
    status := 2 }

def gapRun : List (Event 1) :=
  [.storeProtocolMessage 0 (numbered 1) {} true true, .observeSeq 0 true true,
    .storeProtocolMessage 0 (numbered 3) {} true true, .observeSeq 0 true true,
    .markGapFailed 7 50 true true]

end SyncRestart

theorem restart_equivalent_gap :
    (gapRun.foldl SyncRestart.step (create 1 {} fun _ => [])).Equivalent ∧
      (gapRun.foldl SyncRestart.step (create 1 {} fun _ => [])).rebuilt.reports 7 =
        (1, [⟨2, 2, 1, 1050⟩]) :=
  ⟨restart_equivalent 1 {} (fun _ => []) gapRun (by decide +kernel) gapRun [] (by simp),
    by decide +kernel⟩

namespace SyncRestart

def misfiledRun : List (Event 1) :=
  [.commitOutgoingDraft { numbered 1 with conversationId := 5, fromMe := true, status := 0 } 9,
    .handleChatAck 0 { peerId := 7, conversationSeq := 1, msgId := (numbered 1).msgId } 1 11 0 true
      true, .observeSeq 0 true true]

def unwrittenRun : List (Event 1) :=
  [.storeProtocolMessage 0 (numbered 2) {} true true, .observeSeq 0 true true,
    .markGapFailed 7 50 true false]

def untoldRun : List (Event 1) :=
  [.storeProtocolMessage 0 (numbered 1) {} true true, .observeSeq 0 true true,
    .storeProtocolMessage 0 (numbered 2) {} true false]

theorem not_equivalent {world : SyncRestart 1} {conversationId : Int}
    (idle : world.observing 0 = none)
    (differ : world.rebuilt.reports conversationId ≠ world.reports conversationId) :
    ¬world.Equivalent := by
  intro equivalent
  refine differ (equivalent conversationId fun thread seq => ?_)
  rw [Subsingleton.elim thread 0, idle]
  simp

end SyncRestart

theorem restart_forgets :
    ¬(misfiledRun.foldl SyncRestart.step (create 1 {} fun _ => [])).Equivalent ∧
      ¬(unwrittenRun.foldl SyncRestart.step (create 1 {} fun _ => [])).Equivalent ∧
      ¬(untoldRun.foldl SyncRestart.step (create 1 {} fun _ => [])).Equivalent := by
  refine ⟨@not_equivalent _ 7 (by decide +kernel) (by decide +kernel),
    @not_equivalent _ 7 (by decide +kernel) (by decide +kernel),
    @not_equivalent _ 7 (by decide +kernel) (by decide +kernel)⟩

end Jitong
