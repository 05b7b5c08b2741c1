import Jitong.GapFailures
import Jitong.MessageNumbering
import Jitong.RoamHandler

/-!
The repair of a conversation against the server's own pages: every answer makes the gaps smaller,
and the repair does not stop before they are gone.
-/

namespace Jitong

open Jitong.Lib SyncTracker

/-! What the server answers. -/

def toProtocolMessage (rq : ChatInfoRq) : ChatProtocolMessage where
  fromId := rq.myid.toInt
  toId := rq.friid.toInt
  msgId := rq.msgId
  conversationSeq := rq.seq

def GapRequest.rq (peerId : Int32) (request : GapRequest) : RoamMsgRq where
  peerId
  beforeSeq := request.beforeSeq
  limit := Int32.ofInt request.limit

namespace MessageTable

def answer (messages : MessageTable) (userId peerId : Int32) (request : GapRequest) :
    List (StoredMessage Bytes) × Bool :=
  let rq := request.rq peerId
  let rows := messages.roamMessages userId peerId rq.cursor rq.pageLimit
  (rows, rows.length = rq.pageLimit)

def answerPage (messages : MessageTable) (userId peerId : Int32) (request : GapRequest) :
    List IncomingChat :=
  (messages.answer userId peerId request).1.map fun row => ⟨toProtocolMessage (fillChatInfo row), true⟩

end MessageTable

instance : Std.Total MessageTable.newer :=
  ⟨fun first second => le_total second.columns.seq first.columns.seq⟩

instance : IsTrans MessageRow MessageTable.newer := ⟨fun _ _ _ => ge_trans⟩

theorem numbers_filter (count below : Nat) (inside : below ≤ count) :
    (numbers count).filter (fun number => number < (below : Int) + 1) = numbers below := by
  obtain ⟨above, rfl⟩ := Nat.exists_eq_add_of_le inside
  have split : numbers (below + above) =
      numbers below ++ (List.range above).map fun index : Nat => ((below + index : Nat) : Int) + 1 := by
    simp [numbers, List.range_add, Function.comp_def]
  rw [split, List.filter_append, List.filter_eq_self.mpr, List.filter_eq_nil_iff.mpr,
    List.append_nil]
  · intro number member
    obtain ⟨index, _, rfl⟩ := List.mem_map.mp member
    simp
  · intro number member
    obtain ⟨index, bound, rfl⟩ := List.mem_map.mp member
    have := List.mem_range.mp bound
    simpa using (by omega : index < below)

theorem mem_take_numbers {count limit : Nat} (inside : limit ≤ count) {number : Int} :
    number ∈ (numbers count).reverse.take limit ↔
      (count : Int) - limit < number ∧ number ≤ count := by
  obtain ⟨rest, rfl⟩ := Nat.exists_eq_add_of_le' inside
  have split : numbers (rest + limit) =
      numbers rest ++ (List.range limit).map fun index : Nat => ((rest + index : Nat) : Int) + 1 := by
    simp [numbers, List.range_add, Function.comp_def]
  rw [split, List.reverse_append, List.take_left' (by simp), List.mem_reverse, List.mem_map]
  constructor
  · rintro ⟨index, bound, rfl⟩
    have := List.mem_range.mp bound
    omega
  · rintro ⟨lower, upper⟩
    refine ⟨(number - rest - 1).toNat, List.mem_range.mpr ?_, ?_⟩ <;> omega

theorem MessageTable.roamMessages_seqs {messages : MessageTable} {userId peerId : Int32}
    {count : Nat}
    (listed : (messages.seqs (makeConversationId userId peerId)).Perm (numbers count))
    {below : Nat} (inside : below ≤ count) (limit : Nat) :
    (messages.roamMessages userId peerId ((below : Int) + 1) limit).map (·.seq) =
      (numbers below).reverse.take limit := by
  rw [MessageTable.seqs, MessageTable.inConversation] at listed
  simp only [MessageTable.roamMessages]
  generalize olderRows : (messages.rows.filter fun row =>
    row.conversationId = makeConversationId userId peerId ∧
      row.columns.seq < (below : Int) + 1) = older
  have seqs : (older.map (·.columns.seq)).Perm (numbers below) := by
    have picked := listed.filter fun number => number < (below : Int) + 1
    rw [numbers_filter count below inside, List.filter_map, List.filter_filter] at picked
    rw [← olderRows]
    simpa only [Function.comp_def, Bool.decide_and, Bool.and_comm] using picked
  have sorted : (older.insertionSort MessageTable.newer).map (·.columns.seq) =
      (numbers below).reverse := by
    have permuted : ((older.insertionSort MessageTable.newer).map (·.columns.seq)).Perm
        (numbers below).reverse :=
      ((List.perm_insertionSort _ older).map _).trans
        (seqs.trans (List.reverse_perm _).symm)
    refine @List.Perm.eq_of_pairwise _ (fun one other : Int => other ≤ one) _ _ ?_ ?_ ?_ permuted
    · intro one other _ _ below above
      omega
    · rw [List.pairwise_map]
      exact List.pairwise_insertionSort MessageTable.newer older
    · rw [List.pairwise_reverse]
      exact (numbers_pairwise below).imp fun less => less.le
  have same : (fun row : MessageRow => (readMessageRow row).seq) = fun row => row.columns.seq := rfl
  rw [List.map_map, Function.comp_def, same, List.map_take, sorted]

/-! The client. -/

structure RepairWorld where
  repair : GapRepair
  outstanding : Option GapRequest

inductive RepairEvent
  | answer (nowMs : Int)
  | wake (nowMs : Int)

namespace RepairWorld

def of (attempt : GapOutcome × GapRepair) : RepairWorld where
  repair := attempt.2
  outstanding :=
    match attempt.1 with
    | .sent request => some request
    | _ => none

def start (userId peerId : Int32) (gapRequestTimeoutMs : Int) (arrived : List (Int × Int))
    (persistedGaps : List Gap) (nowMs : Int) : RepairWorld :=
  .of ((GapWorld.start userId.toInt peerId.toInt gapRequestTimeoutMs arrived persistedGaps
    nowMs).repair.maybeRequestGap nowMs true true)

noncomputable def missingCount (world : RepairWorld) : Nat :=
  (missing (Span.members world.repair.tracker.arrived)).ncard

end RepairWorld

inductive RepairStep (messages : MessageTable) (userId peerId : Int32) :
    RepairWorld → RepairEvent → RepairWorld → Prop
  | answer {world : RepairWorld} {request : GapRequest} {nowMs : Int} (positive : 0 < nowMs)
      (asked : world.outstanding = some request) :
      RepairStep messages userId peerId world (.answer nowMs)
        (.of (world.repair.handleRoamMessages (messages.answerPage userId peerId request)
          (messages.answer userId peerId request).2 nowMs true true))
  | wake {world : RepairWorld} {timer : GapTimer} {nowMs : Int} (positive : 0 < nowMs)
      (armed : world.repair.timer = some timer) (retry : timer.requestTimeout = false)
      (due : timer.atMs ≤ nowMs) :
      RepairStep messages userId peerId world (.wake nowMs)
        (.of (world.repair.runSyncTimer timer nowMs true true))

namespace GapRepair

variable {repair : GapRepair}

theorem earliest_spec (gaps : List Gap) {start : Int} (positive : 0 ≤ start) :
    let earliest := gaps.foldl (fun earliest gap =>
      if 0 < gap.nextRetryAtMs ∧ (earliest = 0 ∨ gap.nextRetryAtMs < earliest) then
        gap.nextRetryAtMs
      else earliest) start
    (earliest = start ∨ ∃ gap ∈ gaps, gap.nextRetryAtMs = earliest) ∧ 0 ≤ earliest ∧
      ((0 < start ∨ ∃ gap ∈ gaps, 0 < gap.nextRetryAtMs) → 0 < earliest) := by
  induction gaps generalizing start with
  | nil =>
      refine ⟨.inl rfl, positive, ?_⟩
      rintro (later | ⟨_, member, _⟩)
      · exact later
      · cases member
  | cons gap later ih =>
      simp only [List.foldl_cons]
      split
      · rename_i sooner
        obtain ⟨own, bound, waits⟩ := ih sooner.1.le
        refine ⟨.inr ?_, bound, fun _ => waits (.inl sooner.1)⟩
        rcases own with same | ⟨other, member, same⟩
        · exact ⟨gap, List.mem_cons_self, same.symm⟩
        · exact ⟨other, List.mem_cons_of_mem _ member, same⟩
      · rename_i kept
        obtain ⟨own, bound, waits⟩ := ih positive
        refine ⟨?_, bound, ?_⟩
        · rcases own with same | ⟨other, member, same⟩
          · exact .inl same
          · exact .inr ⟨other, List.mem_cons_of_mem _ member, same⟩
        · rintro (set | ⟨other, member, set⟩)
          · exact waits (.inl set)
          · rcases List.mem_cons.mp member with rfl | member
            · exact waits (.inl (by omega))
            · exact waits (.inr ⟨other, member, set⟩)

theorem armRetry_armed (conversation : 0 < repair.conversationId)
    (waits : ∃ gap ∈ repair.tracker.gaps, 0 < gap.nextRetryAtMs) :
    ∃ timer, repair.armRetry.timer = some timer ∧ timer.requestTimeout = false ∧
      ∃ gap ∈ repair.tracker.gaps, gap.nextRetryAtMs ≤ timer.atMs := by
  obtain ⟨own, _, set⟩ := earliest_spec repair.tracker.gaps (le_refl (0 : Int))
  have positive := set (.inr waits)
  have same : repair.nextRetryAtMs = repair.tracker.gaps.foldl (fun earliest gap =>
      if 0 < gap.nextRetryAtMs ∧ (earliest = 0 ∨ gap.nextRetryAtMs < earliest) then
        gap.nextRetryAtMs
      else earliest) 0 := by
    rw [nextRetryAtMs, if_neg (by omega)]
  rw [← same] at own positive
  refine ⟨⟨repair.nextRetryAtMs, false⟩, ?_, rfl, ?_⟩
  · rw [armRetry, if_pos positive, armGapTimer, if_neg (by omega)]
  · rcases own with zero | ⟨gap, member, attained⟩
    · omega
    · exact ⟨gap, member, attained.le⟩

theorem maybeRequestGap_open (conversation : 0 < repair.conversationId)
    (idle : repair.inFlight = false) {nowMs : Int}
    (ordered : ∀ gap ∈ repair.tracker.gaps, 1 ≤ gap.fromSeq ∧ gap.fromSeq ≤ gap.toSeq) :
    (repair.tracker.hasGaps = false ∧ repair.maybeRequestGap nowMs true true =
      (.nothing, { repair with pending := false, inFlight := false, pages := none })) ∨
    (repair.tracker.hasGaps = true ∧ repair.tracker.pendingGaps nowMs = [] ∧
      repair.maybeRequestGap nowMs true true = (.nothing, repair.armRetry)) ∨
    (repair.tracker.hasGaps = true ∧ 5 ≤ repair.pages.getD 0 ∧
      repair.maybeRequestGap nowMs true true =
        (.nothing, { repair with pending := true, pages := none }.failGap nowMs)) ∨
    (∃ gap ∈ repair.tracker.gaps, repair.pages.getD 0 < 5 ∧
      repair.maybeRequestGap nowMs true true = (.sent (gapRequest gap),
        { repair with
          pending := true, inFlight := true
          pages := some (repair.pages.getD 0 + 1) }.armGapTimer
            (nowMs + max 1 repair.gapRequestTimeoutMs) true)) := by
  rw [maybeRequestGap, if_neg (show ¬repair.conversationId ≤ 0 by omega)]
  cases gaps : repair.tracker.hasGaps with
  | false => exact .inl ⟨rfl, rfl⟩
  | true =>
      refine .inr ?_
      simp only [Bool.not_true, Bool.false_eq_true, if_false]
      cases found : repair.tracker.pendingGaps nowMs with
      | nil => exact .inl ⟨trivial, rfl, rfl⟩
      | cons gap later =>
          refine .inr ?_
          have member : gap ∈ repair.tracker.gaps :=
            List.mem_of_mem_filter (List.mem_of_mem_take
              (found ▸ List.mem_cons_self : gap ∈ repair.tracker.pendingGaps nowMs))
          obtain ⟨lower, upper⟩ := ordered gap member
          have granted : requestRoamMessages repair.conversationId (gapRequest gap).beforeSeq
              (gapRequest gap).limit true = true := by
            have inside : ¬(repair.conversationId ≤ 0 ∨ gap.toSeq + 1 ≤ 0 ∨
                min 100 (gap.toSeq - gap.fromSeq + 1) ≤ 0 ∨
                min 100 (gap.toSeq - gap.fromSeq + 1) > 100) := by
              omega
            simp only [requestRoamMessages, gapRequest, inside, decide_false, Bool.not_false,
              Bool.and_self]
          simp only [idle, Bool.false_eq_true, if_false]
          by_cases exhausted : 5 ≤ repair.pages.getD 0
          · exact .inl ⟨trivial, exhausted, by rw [if_pos exhausted]⟩
          · refine .inr ⟨gap, member, by omega, ?_⟩
            rw [if_neg exhausted, if_pos granted]

end GapRepair

theorem backoffFor_nonneg (tracker : SyncTracker) (base : 0 ≤ tracker.config.baseBackoffMs)
    (most : 0 ≤ tracker.config.maxBackoffMs) (attempt : Int) : 0 ≤ tracker.backoffFor attempt := by
  have grown (more : Nat) : 0 ≤ doubled tracker.config.maxBackoffMs more
      tracker.config.baseBackoffMs := by
    induction more with
    | zero => exact base
    | succ more ih => exact ih.trans (doubled_le _ more base)
  exact le_min (grown _) most

theorem marked_kept (tracker : SyncTracker) (nowMs : Int) :
    (tracker.markGapAttemptFailed nowMs).arrived = tracker.arrived ∧
      (tracker.markGapAttemptFailed nowMs).maxSeen = tracker.maxSeen := by
  unfold markGapAttemptFailed
  split <;> exact ⟨rfl, rfl⟩

/-- The conversation with what the client knows of it: numbers up to `count`, the greatest `top`. -/
structure Known (userId peerId : Int32) (count : Nat) (top : Int) (repair : GapRepair) : Prop where
  owner : repair.ownerId = userId.toInt
  conversation : repair.conversationId = peerId.toInt
  base : 0 ≤ repair.tracker.config.baseBackoffMs
  most : 0 ≤ repair.tracker.config.maxBackoffMs
  refines : repair.tracker.Refines (Span.members repair.tracker.arrived)
  bounded : ∀ number ∈ Span.members repair.tracker.arrived, number ≤ count
  greatest : repair.tracker.maxSeen = top

structure Repairing (userId peerId : Int32) (count : Nat) (top : Int) (world : RepairWorld) :
    Prop where
  known : Known userId peerId count top world.repair
  flying : ∀ request, world.outstanding = some request →
    (∃ gap ∈ world.repair.tracker.gaps, request = GapRepair.gapRequest gap) ∧
      ∀ timer, world.repair.timer = some timer → timer.requestTimeout = true
  waiting : world.outstanding = none → world.repair.inFlight = false ∧
    if world.repair.tracker.hasGaps then
      ∃ timer, world.repair.timer = some timer ∧ timer.requestTimeout = false ∧
        ∃ gap ∈ world.repair.tracker.gaps, gap.nextRetryAtMs ≤ timer.atMs
    else world.repair.timer = none

def RepairWorld.patience (world : RepairWorld) : Nat :=
  if world.outstanding.isSome then 0 else if world.repair.pages.getD 0 < 5 then 1 else 2

namespace Known

variable {userId peerId : Int32} {count : Nat} {top : Int} {repair : GapRepair}

theorem of_same (known : Known userId peerId count top repair) {other : GapRepair}
    (identity : other.identity = repair.identity)
    (arrived : other.tracker.arrived = repair.tracker.arrived)
    (maxSeen : other.tracker.maxSeen = repair.tracker.maxSeen) :
    Known userId peerId count top other := by
  have config := config_of_identity identity
  refine ⟨(congrArg Prod.fst identity).trans known.owner,
    (conversationId_of_identity identity).trans known.conversation, config ▸ known.base,
    config ▸ known.most, ?_, arrived ▸ known.bounded, maxSeen.trans known.greatest⟩
  have refines := known.refines
  exact ⟨arrived ▸ refines.lists, arrived ▸ refines.positive, by
    rw [arrived, maxSeen]; exact refines.seen, by rw [arrived, maxSeen]; exact refines.greatest⟩

theorem gap_ordered (known : Known userId peerId count top repair) :
    ∀ gap ∈ repair.tracker.gaps, 1 ≤ gap.fromSeq ∧ gap.fromSeq ≤ gap.toSeq := by
  intro gap member
  have maximal := (known.refines.gaps_lists.listed gap.span).mp (List.mem_map_of_mem member)
  exact ⟨(maximal.inside _ le_rfl maximal.ordered).1, maximal.ordered⟩

theorem gap_missing (known : Known userId peerId count top repair) {gap : Gap}
    (member : gap ∈ repair.tracker.gaps) {number : Int} (lower : gap.fromSeq ≤ number)
    (upper : number ≤ gap.toSeq) :
    number ∈ missing (Span.members repair.tracker.arrived) :=
  ((known.refines.gaps_lists.listed gap.span).mp (List.mem_map_of_mem member)).inside
    number lower upper

theorem marked_waits (known : Known userId peerId count top repair)
    (gaps : repair.tracker.hasGaps = true) {nowMs : Int} (positive : 0 < nowMs) :
    ∃ gap ∈ (repair.tracker.markGapAttemptFailed nowMs).gaps, 0 < gap.nextRetryAtMs := by
  cases found : repair.tracker.computeGaps with
  | nil => simp [hasGaps, found] at gaps
  | cons first later =>
      refine ⟨(repair.tracker.markGapAttemptFailed nowMs).withRetry first,
        List.mem_map_of_mem (by rw [computeGaps_marked, found]; exact List.mem_cons_self), ?_⟩
      have retries := retries_marked repair.tracker nowMs first.fromSeq
      rw [if_pos ⟨first, by rw [found]; rfl, rfl⟩] at retries
      have backoff := backoffFor_nonneg repair.tracker known.base known.most
        (((repair.tracker.retries first.fromSeq).getD {}).attempt + 1)
      simp only [withRetry, retries]
      omega

theorem quiet (known : Known userId peerId count top repair) (idle : repair.inFlight = false)
    (waiting : if repair.tracker.hasGaps then
        ∃ timer, repair.timer = some timer ∧ timer.requestTimeout = false ∧
          ∃ gap ∈ repair.tracker.gaps, gap.nextRetryAtMs ≤ timer.atMs
      else repair.timer = none) :
    Repairing userId peerId count top (.of (.nothing, repair)) where
  known := known
  flying := fun _ asked => by cases asked
  waiting := fun _ => ⟨idle, waiting⟩

theorem look (known : Known userId peerId count top repair) (peerPositive : 0 < peerId.toInt)
    (idle : repair.inFlight = false) (disarmed : repair.timer = none) {nowMs : Int}
    (positive : 0 < nowMs) :
    let world := RepairWorld.of (repair.maybeRequestGap nowMs true true)
    Repairing userId peerId count top world ∧
      world.repair.tracker.arrived = repair.tracker.arrived ∧ world.patience ≤ 2 ∧
      ((∃ gap ∈ repair.tracker.gaps, gap.nextRetryAtMs ≤ nowMs) →
        world.patience < if repair.pages.getD 0 < 5 then 1 else 2) := by
  have conversation : 0 < repair.conversationId := known.conversation ▸ peerPositive
  have bound (world : RepairWorld) : world.patience ≤ 2 := by
    unfold RepairWorld.patience
    split
    · omega
    · split <;> omega
  rcases @GapRepair.maybeRequestGap_open _ conversation idle nowMs known.gap_ordered with
    ⟨none, result⟩ | ⟨gaps, empty, result⟩ | ⟨gaps, exhausted, result⟩ | ⟨gap, member, left, result⟩
  · rw [result]
    refine ⟨quiet ?_ rfl ?_, rfl, bound _, ?_⟩
    · exact known.of_same rfl rfl rfl
    · rw [if_neg (by simp [none])]
      exact disarmed
    · rintro ⟨gap, member, _⟩
      have empty : repair.tracker.computeGaps = [] := by simpa [hasGaps] using none
      simp [gaps, gapsWithRetry, empty] at member
  · rw [result]
    obtain ⟨timer, armed⟩ := repair.armRetry_eq
    have late : ∀ gap ∈ repair.tracker.gaps, nowMs < gap.nextRetryAtMs := by
      intro gap member
      by_contra due
      have filtered : gap ∈ repair.tracker.gapsWithRetry.filter
          fun gap => !decide (gap.nextRetryAtMs > nowMs) :=
        List.mem_filter.mpr ⟨member, by simpa using due⟩
      rw [pendingGaps, List.take_eq_nil_iff] at empty
      rcases empty with zero | nothing
      · omega
      · rw [nothing] at filtered
        cases filtered
    have waits : ∃ gap ∈ repair.tracker.gaps, 0 < gap.nextRetryAtMs := by
      cases found : repair.tracker.computeGaps with
      | nil => simp [hasGaps, found] at gaps
      | cons first others =>
          have member : repair.tracker.withRetry first ∈ repair.tracker.gaps :=
            List.mem_map_of_mem (by rw [found]; exact List.mem_cons_self)
          exact ⟨_, member, positive.trans (late _ member)⟩
    have due := GapRepair.armRetry_armed conversation waits
    rw [armed] at due ⊢
    refine ⟨quiet ?_ idle ?_, rfl, bound _, ?_⟩
    · exact known.of_same rfl rfl rfl
    · rw [if_pos gaps]
      exact due
    · rintro ⟨gap, member, soon⟩
      have := late gap member
      omega
  · rw [result]
    obtain ⟨timer, failed⟩ :=
      @GapRepair.failGap_eq { repair with pending := true, pages := none }
        conversation nowMs
    have due := @GapRepair.armRetry_armed { repair with
      pending := true, pages := none, tracker := repair.tracker.markGapAttemptFailed nowMs }
      conversation (known.marked_waits gaps positive)
    obtain ⟨arrived, maxSeen⟩ := marked_kept repair.tracker nowMs
    have same : ({ repair with pending := true, pages := none } : GapRepair).failGap nowMs =
        ({ repair with pending := true, pages := none,
                       tracker := repair.tracker.markGapAttemptFailed nowMs } :
          GapRepair).armRetry := by
      rw [GapRepair.failGap, GapRepair.markGapFailed, if_neg (by simp only; omega)]
    rw [← same] at due
    rw [failed] at due ⊢
    refine ⟨quiet ?_ idle ?_, arrived, bound _, fun _ => ?_⟩
    · refine known.of_same ?_ arrived maxSeen
      simp [GapRepair.identity, GapRepair.markGapAttemptFailed_config]
    · rw [if_pos (by rw [hasGaps, computeGaps_marked]; exact gaps)]
      exact due
    · rw [if_neg (by omega)]
      exact Nat.one_lt_two
  · rw [result]
    have armed : ({ repair with
          pending := true, inFlight := true,
          pages := some (repair.pages.getD 0 + 1) } : GapRepair).armGapTimer
            (nowMs + max 1 repair.gapRequestTimeoutMs) true =
        { repair with
          pending := true, inFlight := true, pages := some (repair.pages.getD 0 + 1)
          timer := some ⟨nowMs + max 1 repair.gapRequestTimeoutMs, true⟩ } := by
      rw [GapRepair.armGapTimer, if_neg (by simp only; omega)]
    rw [armed]
    refine ⟨⟨?_, ?_, ?_⟩, rfl, bound _, fun _ => ?_⟩
    · exact known.of_same rfl rfl rfl
    · intro request asked
      obtain rfl := Option.some.inj asked
      refine ⟨⟨gap, member, rfl⟩, fun timer set => ?_⟩
      obtain rfl := Option.some.inj set
      rfl
    · intro asked
      cases asked
    · rw [if_pos left]
      exact Nat.one_pos

end Known

/-! An answer. -/

theorem fillChatInfo_ids (message : StoredMessage Bytes) :
    toProtocolMessage (fillChatInfo message) =
      ⟨message.senderId.toInt, message.receiverId.toInt, message.msgId, message.seq⟩ := by
  simp only [fillChatInfo]
  split
  · rfl
  · split <;> rfl

namespace GapRepair

variable {repair : GapRepair}

structure Storable (ownerId conversationId : Int) (incoming : IncomingChat) : Prop where
  own : incoming.message.peer ownerId = conversationId
  accepted : incoming.message.accepted ownerId = true
  committed : incoming.committed = true
  positive : 0 < incoming.message.conversationSeq

theorem storable_of_pair {ownerId conversationId : Int} {message : ChatProtocolMessage}
    (pair : (message.fromId = ownerId ∧ message.toId = conversationId) ∨
      (message.fromId = conversationId ∧ message.toId = ownerId))
    (conversation : 0 < conversationId) (named : message.msgId ≠ [])
    (positive : 0 < message.conversationSeq) : Storable ownerId conversationId ⟨message, true⟩ := by
  have peer : message.peer ownerId = conversationId := by
    unfold ChatProtocolMessage.peer
    split <;> omega
  have mine : (if message.fromId = ownerId then message.fromId else message.toId) = ownerId := by
    split <;> omega
  refine ⟨peer, ?_, rfl, positive⟩
  simp only [ChatProtocolMessage.accepted, peer, mine, true_and, decide_eq_true_eq]
  exact ⟨conversation, named, positive⟩

theorem storeProtocolMessage_storable {incoming : IncomingChat}
    (storable : Storable repair.ownerId repair.conversationId incoming) {numbers : Set Int}
    (refines : repair.tracker.Refines numbers) :
    ∃ tracker pending, repair.storeProtocolMessage incoming =
        (true, { repair with tracker := tracker, pending := pending }) ∧
      tracker.config = repair.tracker.config ∧
      tracker.Refines (numbers ∪ {incoming.message.conversationSeq}) := by
  refine ⟨(repair.tracker.observeSeq incoming.message.conversationSeq).2,
    repair.pending || (repair.tracker.observeSeq incoming.message.conversationSeq).2.hasGaps, ?_,
    (observeSeq_kept _ _).1, ?_⟩
  · rw [storeProtocolMessage, if_pos ⟨storable.accepted, storable.committed⟩, if_pos storable.own]
  · rw [observeSeq_eq _ storable.positive, ← Set.Icc_self]
    exact refines.add storable.positive le_rfl rfl rfl

theorem storePage_storable {page : List IncomingChat}
    (storable : ∀ incoming ∈ page, Storable repair.ownerId repair.conversationId incoming)
    {numbers : Set Int} (refines : repair.tracker.Refines numbers) :
    ∃ tracker pending, repair.storePage page =
        (!page.isEmpty, { repair with tracker := tracker, pending := pending }) ∧
      tracker.config = repair.tracker.config ∧
      tracker.Refines (numbers ∪ {number | ∃ incoming ∈ page,
        incoming.message.conversationSeq = number}) := by
  have general (flag : Bool) (current : GapRepair) (owner : current.ownerId = repair.ownerId)
      (conversation : current.conversationId = repair.conversationId)
      (held : current.tracker.Refines numbers) :
      ∃ tracker pending, page.foldl (fun (stored : Bool × GapRepair) incoming =>
          if incoming.message.peer repair.ownerId = repair.conversationId then
            ((stored.2.storeProtocolMessage incoming).1 || stored.1,
              (stored.2.storeProtocolMessage incoming).2)
          else stored) (flag, current) =
          (!page.isEmpty || flag, { current with tracker := tracker, pending := pending }) ∧
        tracker.config = current.tracker.config ∧
        tracker.Refines (numbers ∪ {number | ∃ incoming ∈ page,
          incoming.message.conversationSeq = number}) := by
    clear refines
    induction page generalizing flag current numbers with
    | nil => exact ⟨current.tracker, current.pending, by simp, rfl, by simpa using held⟩
    | cons incoming later ih =>
        have first := storable incoming List.mem_cons_self
        obtain ⟨tracker, pending, stored, config, added⟩ :=
          @storeProtocolMessage_storable current _ (owner ▸ conversation ▸ first) _ held
        obtain ⟨last, waits, rest, same, all⟩ := ih
          (fun other member => storable other (List.mem_cons_of_mem _ member)) true
          { current with tracker := tracker, pending := pending } owner conversation added
        refine ⟨last, waits, ?_, same.trans config, ?_⟩
        · rw [List.foldl_cons, if_pos first.own, stored]
          simpa using rest
        · convert all using 1
          ext number
          simp only [Set.mem_union, Set.mem_singleton_iff, Set.mem_ofPred_eq,
            List.exists_mem_cons_iff, @eq_comm _ number, or_assoc]
  have whole := general false repair rfl rfl refines
  rw [Bool.or_false] at whole
  exact whole

theorem takePage_storable {page : List IncomingChat} (some : page ≠ [])
    (storable : ∀ incoming ∈ page, Storable repair.ownerId repair.conversationId incoming)
    {numbers : Set Int} (refines : repair.tracker.Refines numbers) (nowMs : Int) :
    ∃ tracker pending, repair.takePage page true nowMs =
        { repair.settle with tracker := tracker, pending := pending } ∧
      tracker.config = repair.tracker.config ∧
      tracker.Refines (numbers ∪ {number | ∃ incoming ∈ page,
        incoming.message.conversationSeq = number}) := by
  obtain ⟨tracker, pending, stored, config, added⟩ :=
    @storePage_storable repair.settle _ storable _ refines
  refine ⟨tracker, pending, ?_, config, added⟩
  simp [takePage, stored, some]

end GapRepair

section Answer

variable {messages : MessageTable} {userId peerId : Int32} {count : Nat} {top : Int}
  {repair : GapRepair}

theorem Known.gap_bounded (known : Known userId peerId count top repair) {gap : Gap}
    (member : gap ∈ repair.tracker.gaps) : gap.toSeq ≤ count := by
  have ordered := known.gap_ordered gap member
  obtain ⟨_, ⟨greatest, isGreatest, upper⟩, _⟩ :=
    known.gap_missing member ordered.2 (le_refl gap.toSeq)
  exact upper.trans (known.bounded greatest isGreatest.1)

theorem Known.answer_eq (known : Known userId peerId count top repair)
    (listed : (messages.seqs (makeConversationId userId peerId)).Perm (numbers count))
    {gap : Gap} (member : gap ∈ repair.tracker.gaps) :
    let rows := (messages.answer userId peerId (GapRepair.gapRequest gap)).1
    (messages.answer userId peerId (GapRepair.gapRequest gap)).2 = true ∧ rows ≠ [] ∧
      ∀ number, number ∈ rows.map (·.seq) ↔
        gap.toSeq - min 100 (gap.toSeq - gap.fromSeq + 1) < number ∧ number ≤ gap.toSeq := by
  have ordered := known.gap_ordered gap member
  have bounded := known.gap_bounded member
  obtain ⟨below, top⟩ := Int.eq_ofNat_of_zero_le (show 0 ≤ gap.toSeq by omega)
  obtain ⟨limit, width⟩ := Int.eq_ofNat_of_zero_le
    (show 0 ≤ min 100 (gap.toSeq - gap.fromSeq + 1) by omega)
  have fits : (Int32.ofInt limit).toInt = limit := by
    rw [Int32.toInt_ofInt_of_le] <;> omega
  have cursor : ((GapRepair.gapRequest gap).rq peerId).cursor = (below : Int) + 1 := by
    have before : ((GapRepair.gapRequest gap).rq peerId).beforeSeq = (below : Int) + 1 :=
      congrArg (· + 1) top
    rw [RoamMsgRq.cursor, before, if_pos (by omega)]
  have pageLimit : ((GapRepair.gapRequest gap).rq peerId).pageLimit = limit := by
    have positive : 0 < Int32.ofInt limit := by
      rw [Int32.lt_iff_toInt_lt, fits]
      simp only [Int32.toInt_zero]
      omega
    have small : ¬100 < Int32.ofInt limit := by
      rw [Int32.lt_iff_toInt_lt, fits]
      have : (100 : Int32).toInt = 100 := rfl
      omega
    have asked : ((GapRepair.gapRequest gap).rq peerId).limit = Int32.ofInt limit :=
      congrArg Int32.ofInt width
    simp only [RoamMsgRq.pageLimit, asked, if_pos positive, if_neg small, fits, Int.toNat_natCast]
  have seqs := MessageTable.roamMessages_seqs listed (show below ≤ count by omega) limit
  have inside : limit ≤ below := by omega
  have rows : (messages.answer userId peerId (GapRepair.gapRequest gap)).1 =
      messages.roamMessages userId peerId ((below : Int) + 1) limit := by
    simp only [MessageTable.answer, cursor, pageLimit]
  have size : (messages.roamMessages userId peerId ((below : Int) + 1) limit).length = limit := by
    have lengths := congrArg List.length seqs
    rw [List.length_map, List.length_take, List.length_reverse, numbers, List.length_map,
      List.length_range] at lengths
    omega
  refine ⟨?_, ?_, fun number => ?_⟩
  · simp only [MessageTable.answer, cursor, pageLimit]
    exact decide_eq_true size
  · rw [rows]
    intro empty
    rw [empty] at size
    simp only [List.length_nil] at size
    omega
  · rw [rows, seqs, mem_take_numbers inside, width, top]

def MessageTable.AllStored (messages : MessageTable) (userId peerId : Int32) : Prop :=
  ∀ row ∈ messages.inConversation (makeConversationId userId peerId),
    GapRepair.Storable userId.toInt peerId.toInt
      ⟨toProtocolMessage (fillChatInfo (readMessageRow row)), true⟩

theorem MessageTable.allStored (numbered : Numbered messages) (userPositive : 0 < userId)
    (peerPositive : 0 < peerId) (named : ∀ row ∈ messages.rows, row.columns.msgId.bytes ≠ []) :
    messages.AllStored userId peerId := by
  intro row member
  obtain ⟨inTable, conversation⟩ := List.mem_filter.mp member
  obtain ⟨sender, receiver, own⟩ := numbered.paired row inTable
  have pair := makeConversationId_injective ⟨sender, receiver⟩ ⟨userPositive, peerPositive⟩
    (own.symm.trans (of_decide_eq_true conversation))
  have seq : row.columns.seq ∈ numbers
      (messages.inConversation (makeConversationId userId peerId)).length := by
    rw [← numbered.contiguous]
    exact List.mem_map_of_mem member
  obtain ⟨index, _, counted⟩ := List.mem_map.mp seq
  have positive : 0 < (readMessageRow row).seq := by
    have same : (readMessageRow row).seq = row.columns.seq := rfl
    omega
  rw [fillChatInfo_ids]
  refine GapRepair.storable_of_pair ?_ (Int32.lt_iff_toInt_lt.mp peerPositive)
    (named row inTable) positive
  rcases pair with ⟨first, second⟩ | ⟨first, second⟩
  · exact .inl ⟨congrArg Int32.toInt first, congrArg Int32.toInt second⟩
  · exact .inr ⟨congrArg Int32.toInt first, congrArg Int32.toInt second⟩

theorem Known.storable (known : Known userId peerId count top repair)
    (stored : messages.AllStored userId peerId) (request : GapRequest) :
    ∀ incoming ∈ messages.answerPage userId peerId request,
      GapRepair.Storable repair.ownerId repair.conversationId incoming := by
  intro incoming listed
  obtain ⟨message, answered, rfl⟩ := List.mem_map.mp listed
  obtain ⟨row, picked, rfl⟩ := List.mem_map.mp answered
  have found := (List.mem_insertionSort _).mp (List.mem_of_mem_take picked)
  simp only [List.mem_filter, decide_eq_true_eq] at found
  rw [known.owner, known.conversation]
  exact stored row (List.mem_filter.mpr ⟨found.1, decide_eq_true found.2.1⟩)

theorem missing_finite (numbers : Set Int) : (missing numbers).Finite := by
  by_cases bounded : ∃ greatest, IsGreatest numbers greatest
  · obtain ⟨greatest, isGreatest⟩ := bounded
    refine (Set.finite_Icc 1 greatest).subset ?_
    rintro number ⟨lower, ⟨other, isOther, upper⟩, _⟩
    exact ⟨lower, upper.trans (isGreatest.2 isOther.1)⟩
  · refine Set.Finite.subset Set.finite_empty ?_
    rintro number ⟨_, ⟨other, isOther, _⟩, _⟩
    exact bounded ⟨other, isOther⟩

theorem Known.answered (known : Known userId peerId count top repair)
    (listed : (messages.seqs (makeConversationId userId peerId)).Perm (numbers count))
    (stored : messages.AllStored userId peerId) {gap : Gap} (member : gap ∈ repair.tracker.gaps)
    (nowMs : Int) :
    let taken := repair.takePage (messages.answerPage userId peerId (GapRepair.gapRequest gap))
      (messages.answer userId peerId (GapRepair.gapRequest gap)).2 nowMs
    Known userId peerId count top taken ∧ taken.inFlight = false ∧ taken.timer = none ∧
      (missing (Span.members taken.tracker.arrived)).ncard <
        (missing (Span.members repair.tracker.arrived)).ncard := by
  obtain ⟨more, rows, seqs⟩ := known.answer_eq listed member
  have ordered := known.gap_ordered gap member
  have some : messages.answerPage userId peerId (GapRepair.gapRequest gap) ≠ [] := by
    simpa [MessageTable.answerPage] using rows
  obtain ⟨tracker, pending, taken, config, refines⟩ := GapRepair.takePage_storable some
    (known.storable stored _) known.refines nowMs
  have brought : {number | ∃ incoming ∈ messages.answerPage userId peerId
      (GapRepair.gapRequest gap), incoming.message.conversationSeq = number} =
      {number | gap.toSeq - min 100 (gap.toSeq - gap.fromSeq + 1) < number ∧
        number ≤ gap.toSeq} := by
    ext number
    rw [Set.mem_ofPred_eq, Set.mem_ofPred_eq, ← seqs]
    simp only [MessageTable.answerPage, List.mem_map, fillChatInfo_ids]
    constructor
    · rintro ⟨_, ⟨message, answered, rfl⟩, same⟩
      exact ⟨message, answered, same⟩
    · rintro ⟨message, answered, same⟩
      exact ⟨_, ⟨message, answered, rfl⟩, same⟩
  rw [brought] at refines
  have members := refines.lists.covered
  obtain ⟨_, ⟨greatest, isGreatest, bound⟩, absent⟩ :=
    known.gap_missing member ordered.2 (le_refl gap.toSeq)
  have oldest := known.refines.maxSeen_greatest ⟨greatest, isGreatest.1⟩
  have unchanged : tracker.maxSeen = repair.tracker.maxSeen := by
    have newest := refines.maxSeen_greatest ⟨greatest, .inl isGreatest.1⟩
    refine newest.unique ⟨.inl oldest.1, ?_⟩
    rintro number (old | ⟨_, upper⟩)
    · exact oldest.2 old
    · exact upper.trans (bound.trans (oldest.2 isGreatest.1))
  have filled : gap.toSeq ∈ Span.members tracker.arrived :=
    members ▸ .inr ⟨by omega, le_rfl⟩
  rw [more, taken]
  refine ⟨⟨known.owner, known.conversation, config ▸ known.base, config ▸ known.most,
    members.symm ▸ refines, ?_, unchanged.trans known.greatest⟩, rfl, rfl, ?_⟩
  · intro number held
    rcases (members ▸ held : number ∈ Span.members repair.tracker.arrived ∪ _) with
      old | ⟨_, upper⟩
    · exact known.bounded number old
    · exact upper.trans (known.gap_bounded member)
  · refine Set.ncard_lt_ncard ⟨?_, fun back => ?_⟩ (missing_finite _)
    · rintro number ⟨lower, ⟨other, isOther, upper⟩, lacks⟩
      refine ⟨lower, ⟨_, oldest, ?_⟩, fun old => lacks (members ▸ .inl old)⟩
      have newest := (members.symm ▸ refines :
        tracker.Refines (Span.members tracker.arrived)).seen other isOther.1
      exact upper.trans (newest.trans unchanged.le)
    · obtain ⟨_, _, lacks⟩ := back (known.gap_missing member ordered.2 (le_refl gap.toSeq))
      exact lacks filled

end Answer

section Runs

variable {messages : MessageTable} {userId peerId : Int32} {count : Nat} {top : Int}
  {before after : RepairWorld} {event : RepairEvent}

noncomputable def RepairWorld.measure (world : RepairWorld) : Nat :=
  3 * world.missingCount + world.patience

theorem Repairing.step (repairing : Repairing userId peerId count top before)
    (peerPositive : 0 < peerId.toInt)
    (listed : (messages.seqs (makeConversationId userId peerId)).Perm (numbers count))
    (stored : messages.AllStored userId peerId)
    (taken : RepairStep messages userId peerId before event after) :
    Repairing userId peerId count top after ∧ after.measure < before.measure ∧
      ((∃ nowMs, event = .answer nowMs) → after.missingCount < before.missingCount) := by
  cases taken with
  | answer positive asked =>
      rename_i request nowMs
      obtain ⟨⟨gap, member, rfl⟩, _⟩ := repairing.flying request asked
      obtain ⟨known, idle, disarmed, fewer⟩ := repairing.known.answered listed stored member nowMs
      obtain ⟨going, arrived, patient, _⟩ := known.look peerPositive idle disarmed positive
      have less : (RepairWorld.of (before.repair.handleRoamMessages
          (messages.answerPage userId peerId (GapRepair.gapRequest gap))
          (messages.answer userId peerId (GapRepair.gapRequest gap)).2 nowMs true
          true)).missingCount < before.missingCount := by
        simp only [RepairWorld.missingCount, GapRepair.handleRoamMessages, arrived]
        exact fewer
      refine ⟨going, ?_, fun _ => less⟩
      simp only [RepairWorld.measure]
      simp only [GapRepair.handleRoamMessages] at less ⊢
      omega
  | wake positive armed retry due =>
      rename_i timer nowMs
      have unasked : before.outstanding = none := by
        cases asked : before.outstanding with
        | none => rfl
        | some request =>
            have flying := (repairing.flying request asked).2 timer armed
            exact absurd (retry.symm.trans flying) (by simp)
      obtain ⟨idle, waits⟩ := repairing.waiting unasked
      split at waits
      · obtain ⟨own, set, _, gap, member, soon⟩ := waits
        obtain rfl := Option.some.inj (set.symm.trans armed)
        have known : Known userId peerId count top { before.repair with timer := none } :=
          repairing.known.of_same rfl rfl rfl
        obtain ⟨going, arrived, _, nearer⟩ := known.look peerPositive idle rfl positive
        have nearer := nearer ⟨gap, member, soon.trans due⟩
        dsimp only at nearer
        have same : before.repair.runSyncTimer own nowMs true true =
            ({ before.repair with timer := none } : GapRepair).maybeRequestGap nowMs true true := by
          rw [GapRepair.runSyncTimer, retry]
          rfl
        rw [same]
        refine ⟨going, ?_, ?_⟩
        · have patience : before.patience = if before.repair.pages.getD 0 < 5 then 1 else 2 := by
            simp [RepairWorld.patience, unasked]
          simp only [RepairWorld.measure, RepairWorld.missingCount, arrived, patience]
          exact Nat.add_lt_add_left nearer _
        · rintro ⟨_, answer⟩
          cases answer
      · exact absurd (waits.symm.trans armed) (by simp)

theorem Repairing.progress (repairing : Repairing userId peerId count top before)
    (gaps : before.repair.tracker.hasGaps = true) :
    ∃ event after, RepairStep messages userId peerId before event after := by
  cases asked : before.outstanding with
  | some request => exact ⟨.answer 1, _, .answer (by omega) asked⟩
  | none =>
      obtain ⟨_, waits⟩ := repairing.waiting asked
      rw [if_pos gaps] at waits
      obtain ⟨timer, armed, retry, _⟩ := waits
      exact ⟨.wake (max 1 timer.atMs), _, .wake (by omega) armed retry (by omega)⟩

theorem Repairing.complete (repairing : Repairing userId peerId count top before)
    (gaps : before.repair.tracker.hasGaps = false) :
    before.repair.tracker.contiguousSeq = top := by
  have refines := repairing.known.refines
  have none : before.repair.tracker.computeGaps = [] := by simpa [hasGaps] using gaps
  have nothing := refines.gaps_lists.covered
  simp only [SyncTracker.gaps, gapsWithRetry, none, List.map_nil, Span.members_nil] at nothing
  obtain ⟨⟨lower, held⟩, upper⟩ := refines.contiguousSeq_greatest
  rw [← repairing.known.greatest]
  rcases refines.greatest with attained | ⟨empty, zero⟩
  · have isGreatest : IsGreatest _ before.repair.tracker.maxSeen := ⟨attained, refines.seen⟩
    have positive := refines.positive _ attained
    refine le_antisymm ?_ (upper ⟨positive.le, fun number first last => ?_⟩)
    · by_contra above
      have := refines.seen _ (held before.repair.tracker.contiguousSeq (by omega) le_rfl)
      omega
    · by_contra absent
      have lacking : number ∈ missing (Span.members before.repair.tracker.arrived) :=
        ⟨first, ⟨_, isGreatest, last⟩, absent⟩
      rw [← nothing] at lacking
      exact lacking
  · rw [zero]
    by_contra other
    have inside := held 1 le_rfl (by omega)
    rw [empty] at inside
    exact inside

theorem Repairing.run {final : RepairWorld} {events : List RepairEvent}
    (repairing : Repairing userId peerId count top before) (peerPositive : 0 < peerId.toInt)
    (listed : (messages.seqs (makeConversationId userId peerId)).Perm (numbers count))
    (stored : messages.AllStored userId peerId)
    (run : Run (RepairStep messages userId peerId) before events final) :
    Repairing userId peerId count top final ∧ events.length + final.measure ≤ before.measure := by
  induction run with
  | nil => exact ⟨repairing, by simp⟩
  | snoc _ taken ih =>
      obtain ⟨going, bound⟩ := ih
      obtain ⟨next, less, _⟩ := going.step peerPositive listed stored taken
      refine ⟨next, ?_⟩
      rw [List.length_append, List.length_singleton]
      omega

theorem Repairing.ends (repairing : Repairing userId peerId count top before)
    (peerPositive : 0 < peerId.toInt)
    (listed : (messages.seqs (makeConversationId userId peerId)).Perm (numbers count))
    (stored : messages.AllStored userId peerId) :
    ∃ more final, Run (RepairStep messages userId peerId) before more final ∧
      final.repair.tracker.hasGaps = false ∧ final.repair.tracker.contiguousSeq = top := by
  induction size : before.measure using Nat.strong_induction_on generalizing before with
  | _ measure ih =>
      cases gaps : before.repair.tracker.hasGaps with
      | false => exact ⟨[], before, .nil, gaps, repairing.complete gaps⟩
      | true =>
          obtain ⟨event, after, taken⟩ := @Repairing.progress messages _ _ _ _ _ repairing gaps
          obtain ⟨going, less, _⟩ := repairing.step peerPositive listed stored taken
          obtain ⟨more, final, run, done⟩ := ih after.measure (size ▸ less) going rfl
          exact ⟨event :: more, final, .cons taken run, done⟩

end Runs

theorem RepairWorld.start_repairing {userId peerId : Int32} (peerPositive : 0 < peerId.toInt)
    (gapRequestTimeoutMs : Int) {arrived : List (Int × Int)} {count : Nat}
    (subset : ∀ range ∈ arrived, 1 ≤ range.1 ∧ range.2 ≤ count) (persistedGaps : List Gap)
    {nowMs : Int} (positive : 0 < nowMs) :
    Repairing userId peerId count
      (GapWorld.start userId.toInt peerId.toInt gapRequestTimeoutMs arrived persistedGaps
        nowMs).repair.tracker.maxSeen
      (.start userId peerId gapRequestTimeoutMs arrived persistedGaps nowMs) := by
  have refines := SyncTracker.restore_refines
    { config := { ownerId := userId.toInt, conversationId := peerId.toInt } } persistedGaps
    fun range member => (subset range member).1
  have config := SyncTracker.restore_config
    { config := { ownerId := userId.toInt, conversationId := peerId.toInt } } arrived persistedGaps
  have known : Known userId peerId count
      (GapWorld.start userId.toInt peerId.toInt gapRequestTimeoutMs arrived persistedGaps
        nowMs).repair.tracker.maxSeen
      (GapWorld.start userId.toInt peerId.toInt gapRequestTimeoutMs arrived persistedGaps
        nowMs).repair := by
    refine ⟨rfl, rfl, ?_, ?_, refines.lists.covered.symm ▸ refines, ?_, rfl⟩
    · rw [GapWorld.start, config]
      exact (by decide : (0 : Int) ≤ 1000)
    · rw [GapWorld.start, config]
      exact (by decide : (0 : Int) ≤ 60000)
    · intro number held
      obtain ⟨range, member, _, upper⟩ := refines.lists.covered ▸ held
      exact upper.trans (subset range member).2
  exact (known.look peerPositive rfl rfl positive).1

/-- Against a conversation that is numbered without a break and whose messages are stored when they
come, every answer makes the number of missing messages smaller, the repair is over after a bounded
number of steps, and it is over only when no gap is left and everything up to the greatest number
that the client knew is there. -/
theorem repair_terminates {messages : MessageTable} {userId peerId : Int32} {count : Nat}
    (peerPositive : 0 < peerId.toInt)
    (listed : (messages.seqs (makeConversationId userId peerId)).Perm (numbers count))
    (stored : messages.AllStored userId peerId) (gapRequestTimeoutMs : Int)
    {arrived : List (Int × Int)} (subset : ∀ range ∈ arrived, 1 ≤ range.1 ∧ range.2 ≤ count)
    (persistedGaps : List Gap) {nowMs : Int} (positive : 0 < nowMs) {events : List RepairEvent}
    {world : RepairWorld} (run : Run (RepairStep messages userId peerId)
      (.start userId peerId gapRequestTimeoutMs arrived persistedGaps nowMs) events world) :
    (∀ answerMs after, RepairStep messages userId peerId world (.answer answerMs) after →
        after.missingCount < world.missingCount) ∧
      events.length ≤ 3 * (RepairWorld.start userId peerId gapRequestTimeoutMs arrived persistedGaps
        nowMs).missingCount + 2 ∧
      (world.repair.tracker.hasGaps = true →
        ∃ event after, RepairStep messages userId peerId world event after) ∧
      (world.repair.tracker.hasGaps = false → world.repair.tracker.contiguousSeq =
        (GapWorld.start userId.toInt peerId.toInt gapRequestTimeoutMs arrived persistedGaps
          nowMs).repair.tracker.maxSeen) ∧
      ∃ more final, Run (RepairStep messages userId peerId) world more final ∧
        final.repair.tracker.hasGaps = false ∧ final.repair.tracker.contiguousSeq =
          (GapWorld.start userId.toInt peerId.toInt gapRequestTimeoutMs arrived persistedGaps
            nowMs).repair.tracker.maxSeen := by
  have begun := @RepairWorld.start_repairing userId _ peerPositive gapRequestTimeoutMs _ _ subset
    persistedGaps _ positive
  obtain ⟨going, bound⟩ := begun.run peerPositive listed stored run
  refine ⟨fun answerMs after taken => ?_, ?_, going.progress, going.complete,
    going.ends peerPositive listed stored⟩
  · exact (going.step peerPositive listed stored taken).2.2 ⟨answerMs, rfl⟩
  · have patient : (RepairWorld.start userId peerId gapRequestTimeoutMs arrived persistedGaps
        nowMs).patience ≤ 2 := by
      unfold RepairWorld.patience
      split
      · omega
      · split <;> omega
    simp only [RepairWorld.measure] at bound
    omega

/-- The table of the two greetings, of which the client has the second. -/
theorem repair_terminates_greetings :
    ∃ more final, Run (RepairStep greetingTable 1 2) (.start 1 2 5000 [(2, 2)] [] 1000) more final ∧
      final.repair.tracker.hasGaps = false ∧ final.repair.tracker.contiguousSeq = 2 := by
  have numbered : Numbered greetingTable := Numbered.run
    (((Run.single ⟨by decide, by decide, rfl⟩).snoc ⟨by decide, by decide, rfl⟩).snoc
      ⟨by decide, by decide, rfl⟩ : SaveRun greetingCalls greetingTable)
  exact (@repair_terminates greetingTable 1 2 2 (by decide) (.of_eq (by decide))
    (MessageTable.allStored numbered (by decide) (by decide) (by decide)) 5000 [(2, 2)]
    (by decide) [] 1000 (by decide) [] _ .nil).2.2.2.2

end Jitong
