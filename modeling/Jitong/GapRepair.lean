import Jitong.Lib.Run
import Jitong.MessageTable
import Jitong.SyncTracker

/-!
`runtime/ClientRuntime.cpp`, the repair of gaps: what the maps of the runtime hold for one
conversation, with the tracker that `SyncService` keeps for it. The clock of the service and
that of the timers are one.
-/

namespace Jitong

open Jitong.Lib

structure ChatProtocolMessage where
  fromId : Int
  toId : Int
  msgId : Bytes
  conversationSeq : Int
  deriving DecidableEq

namespace ChatProtocolMessage

def peer (ownerId : Int) (message : ChatProtocolMessage) : Int :=
  if message.fromId = ownerId then message.toId else message.fromId

def accepted (ownerId : Int) (message : ChatProtocolMessage) : Bool :=
  0 < message.peer ownerId ∧
    (if message.fromId = ownerId then message.fromId else message.toId) = ownerId ∧
    message.msgId ≠ [] ∧ 0 < message.conversationSeq

end ChatProtocolMessage

structure IncomingChat where
  message : ChatProtocolMessage
  committed : Bool
  deriving DecidableEq

structure GapTimer where
  atMs : Int
  requestTimeout : Bool
  deriving DecidableEq

structure GapRequest where
  gap : SyncTracker.Gap
  beforeSeq : Int
  limit : Int
  deriving DecidableEq

/-- How `maybeRequestGap` ends: without a request, with one, or with one that was refused. -/
inductive GapOutcome
  | nothing
  | sent (request : GapRequest)
  | refused (request : GapRequest)
  deriving DecidableEq

structure GapRepair where
  ownerId : Int
  conversationId : Int
  gapRequestTimeoutMs : Int := 5000
  tracker : SyncTracker
  pending : Bool := false
  inFlight : Bool := false
  pages : Option Nat := none
  timer : Option GapTimer := none

namespace GapRepair

open SyncTracker

/-! `SyncService`. -/

def markGapFailed (repair : GapRepair) (nowMs : Int) : GapRepair :=
  if repair.conversationId ≤ 0 then repair
  else { repair with tracker := repair.tracker.markGapAttemptFailed nowMs }

def nextRetryAtMs (repair : GapRepair) : Int :=
  if repair.conversationId ≤ 0 then 0
  else repair.tracker.gaps.foldl (fun earliest gap =>
    if 0 < gap.nextRetryAtMs ∧ (earliest = 0 ∨ gap.nextRetryAtMs < earliest) then
      gap.nextRetryAtMs
    else earliest) 0

/-! `ClientRuntime`. -/

def armGapTimer (repair : GapRepair) (atMs : Int) (requestTimeout : Bool) : GapRepair :=
  if repair.conversationId ≤ 0 ∨ atMs ≤ 0 then repair
  else { repair with timer := some ⟨atMs, requestTimeout⟩ }

def cancelGapTimer (repair : GapRepair) : GapRepair := { repair with timer := none }

def armRetry (repair : GapRepair) : GapRepair :=
  if 0 < repair.nextRetryAtMs then repair.armGapTimer repair.nextRetryAtMs false else repair

def failGap (repair : GapRepair) (nowMs : Int) : GapRepair := (repair.markGapFailed nowMs).armRetry

def storeProtocolMessage (repair : GapRepair) (incoming : IncomingChat) : Bool × GapRepair :=
  if incoming.message.accepted repair.ownerId ∧ incoming.committed then
    if incoming.message.peer repair.ownerId = repair.conversationId then
      let tracker := (repair.tracker.observeSeq incoming.message.conversationSeq).2
      (true, { repair with tracker, pending := repair.pending || tracker.hasGaps })
    else (true, repair)
  else (false, repair)

/-- `requestRoamMessages`, as the session and the connection are when it looks at them. -/
def requestRoamMessages (peerId beforeSeq limit : Int) (isOpen : Bool) : Bool :=
  isOpen && !decide (peerId ≤ 0 ∨ beforeSeq ≤ 0 ∨ limit ≤ 0 ∨ limit > 100)

def gapRequest (gap : Gap) : GapRequest :=
  { gap, beforeSeq := gap.toSeq + 1, limit := min 100 (gap.toSeq - gap.fromSeq + 1) }

/-- `isOpen` is what the check here finds, `stillOpen` what the one in `requestRoamMessages`
finds a moment later. -/
def maybeRequestGap (repair : GapRepair) (nowMs : Int) (isOpen stillOpen : Bool) :
    GapOutcome × GapRepair :=
  if repair.conversationId ≤ 0 then (.nothing, repair)
  else if !repair.tracker.hasGaps then
    (.nothing, { repair with pending := false, inFlight := false, pages := none })
  else
    match repair.tracker.pendingGaps nowMs with
    | [] => (.nothing, repair.armRetry)
    | gap :: _ =>
        let repair := { repair with pending := true }
        if !isOpen then (.nothing, repair)
        else if repair.inFlight then (.nothing, repair)
        else if 5 ≤ repair.pages.getD 0 then
          (.nothing, { repair with pages := none }.failGap nowMs)
        else
          let asking := { repair with pages := some (repair.pages.getD 0 + 1), inFlight := true }
          let request := gapRequest gap
          if requestRoamMessages repair.conversationId request.beforeSeq request.limit stillOpen then
            (.sent request, asking.armGapTimer (nowMs + max 1 repair.gapRequestTimeoutMs) true)
          else (.refused request, { asking with inFlight := false }.failGap nowMs)

def handleIncomingChat (repair : GapRepair) (incoming : IncomingChat) (nowMs : Int)
    (isOpen stillOpen : Bool) : GapOutcome × GapRepair :=
  let repair := (repair.storeProtocolMessage incoming).2
  if incoming.message.peer repair.ownerId = repair.conversationId then
    repair.maybeRequestGap nowMs isOpen stillOpen
  else (.nothing, repair)

def storePage (repair : GapRepair) (page : List IncomingChat) : Bool × GapRepair :=
  page.foldl (fun (stored : Bool × GapRepair) incoming =>
    if incoming.message.peer repair.ownerId = repair.conversationId then
      let (ok, repair) := stored.2.storeProtocolMessage incoming
      (ok || stored.1, repair)
    else stored) (false, repair)

def settle (repair : GapRepair) : GapRepair := { repair.cancelGapTimer with inFlight := false }

/-- `handleRoamMessages` up to the call of `maybeRequestGap`, for an answer about this
conversation. -/
def takePage (repair : GapRepair) (page : List IncomingChat) (hasMore : Bool) (nowMs : Int) :
    GapRepair :=
  let (changed, repair) := repair.settle.storePage page
  if !changed || !hasMore then
    { (if repair.tracker.hasGaps then repair.failGap nowMs else repair) with pages := none }
  else repair

def handleRoamMessages (repair : GapRepair) (page : List IncomingChat) (hasMore : Bool)
    (nowMs : Int) (isOpen stillOpen : Bool) : GapOutcome × GapRepair :=
  (repair.takePage page hasMore nowMs).maybeRequestGap nowMs isOpen stillOpen

/-- A timer of `runSyncTimer` that is due, with the branch for a request without an answer. -/
def timeOut (repair : GapRepair) (nowMs : Int) : GapRepair :=
  let timedOut := { repair with timer := none, inFlight := false, pages := none, pending := true }
  if repair.inFlight then timedOut.failGap nowMs else timedOut

def runSyncTimer (repair : GapRepair) (timer : GapTimer) (nowMs : Int) (isOpen stillOpen : Bool) :
    GapOutcome × GapRepair :=
  if timer.requestTimeout then (.nothing, repair.timeOut nowMs)
  else { repair with timer := none }.maybeRequestGap nowMs isOpen stillOpen

/-! What the calls leave, and what they do to the tracker. -/

def identity (repair : GapRepair) : Int × Int × Int × Config :=
  (repair.ownerId, repair.conversationId, repair.gapRequestTimeoutMs, repair.tracker.config)

variable (repair : GapRepair)

theorem markGapAttemptFailed_config (tracker : SyncTracker) (nowMs : Int) :
    (tracker.markGapAttemptFailed nowMs).config = tracker.config := by
  unfold markGapAttemptFailed
  split <;> rfl

theorem observeSeq_kept (tracker : SyncTracker) (seq : Int) :
    (tracker.observeSeq seq).2.config = tracker.config ∧
      (tracker.observeSeq seq).2.retries = tracker.retries := by
  unfold observeSeq
  split <;> exact ⟨rfl, rfl⟩

@[simp] theorem armGapTimer_tracker (atMs : Int) (requestTimeout : Bool) :
    (repair.armGapTimer atMs requestTimeout).tracker = repair.tracker := by
  unfold armGapTimer
  split <;> rfl

@[simp] theorem armGapTimer_identity (atMs : Int) (requestTimeout : Bool) :
    (repair.armGapTimer atMs requestTimeout).identity = repair.identity := by
  unfold armGapTimer
  split <;> rfl

@[simp] theorem armRetry_tracker : repair.armRetry.tracker = repair.tracker := by
  unfold armRetry
  split <;> simp

@[simp] theorem armRetry_identity : repair.armRetry.identity = repair.identity := by
  unfold armRetry
  split <;> simp

@[simp] theorem failGap_identity (nowMs : Int) :
    (repair.failGap nowMs).identity = repair.identity := by
  rw [failGap, armRetry_identity, markGapFailed]
  split
  · rfl
  · simp [identity, markGapAttemptFailed_config]

theorem failGap_tracker (conversation : 0 < repair.conversationId) (nowMs : Int) :
    (repair.failGap nowMs).tracker = repair.tracker.markGapAttemptFailed nowMs := by
  rw [failGap, armRetry_tracker, markGapFailed, if_neg (by omega)]

theorem armRetry_eq : ∃ timer, repair.armRetry = { repair with timer := timer } := by
  unfold armRetry armGapTimer
  split
  · split
    · exact ⟨repair.timer, rfl⟩
    · exact ⟨_, rfl⟩
  · exact ⟨repair.timer, rfl⟩

variable {repair} in
theorem failGap_eq (conversation : 0 < repair.conversationId) (nowMs : Int) :
    ∃ timer, repair.failGap nowMs = { repair with
      tracker := repair.tracker.markGapAttemptFailed nowMs, timer := timer } := by
  rw [failGap, markGapFailed, if_neg (by omega)]
  exact armRetry_eq _

theorem storeProtocolMessage_kept (incoming : IncomingChat) :
    (repair.storeProtocolMessage incoming).2.identity = repair.identity ∧
      (repair.storeProtocolMessage incoming).2.tracker.retries = repair.tracker.retries := by
  unfold storeProtocolMessage
  split
  · split
    · simp [identity, observeSeq_kept]
    · exact ⟨rfl, rfl⟩
  · exact ⟨rfl, rfl⟩

theorem storePage_kept (page : List IncomingChat) :
    (repair.storePage page).2.identity = repair.identity ∧
      (repair.storePage page).2.tracker.retries = repair.tracker.retries := by
  have kept := Lib.foldl_view (fun stored : Bool × GapRepair =>
    (stored.2.identity, stored.2.tracker.retries)) (fun stored incoming =>
      if incoming.message.peer repair.ownerId = repair.conversationId then
        let (ok, repair) := stored.2.storeProtocolMessage incoming
        (ok || stored.1, repair)
      else stored) (fun stored incoming => ?_) page (false, repair)
  · exact ⟨congrArg Prod.fst kept, congrArg Prod.snd kept⟩
  · split
    · have step := stored.2.storeProtocolMessage_kept incoming
      simp only [step.1, step.2]
    · rfl

theorem maybeRequestGap_cases (conversation : 0 < repair.conversationId) (nowMs : Int)
    (isOpen stillOpen : Bool) :
    ((repair.maybeRequestGap nowMs isOpen stillOpen).1 = .nothing ∧
      ((repair.maybeRequestGap nowMs isOpen stillOpen).2.tracker = repair.tracker ∨
        (repair.maybeRequestGap nowMs isOpen stillOpen).2.tracker =
          repair.tracker.markGapAttemptFailed nowMs)) ∨
    ∃ gap ∈ repair.tracker.pendingGaps nowMs,
      ((repair.maybeRequestGap nowMs isOpen stillOpen).1 = .sent (gapRequest gap) ∧
        (repair.maybeRequestGap nowMs isOpen stillOpen).2.tracker = repair.tracker) ∨
      ((repair.maybeRequestGap nowMs isOpen stillOpen).1 = .refused (gapRequest gap) ∧
        (repair.maybeRequestGap nowMs isOpen stillOpen).2.tracker =
          repair.tracker.markGapAttemptFailed nowMs) := by
  simp only [maybeRequestGap, if_neg (show ¬repair.conversationId ≤ 0 by omega)]
  split
  · exact .inl ⟨rfl, .inl rfl⟩
  · split
    · exact .inl ⟨rfl, .inl (armRetry_tracker _)⟩
    · rename_i gap later found
      have member : gap ∈ repair.tracker.pendingGaps nowMs := found ▸ List.mem_cons_self
      split
      · exact .inl ⟨rfl, .inl rfl⟩
      · split
        · exact .inl ⟨rfl, .inl rfl⟩
        · split
          · exact .inl ⟨rfl, .inr (failGap_tracker _ (by exact conversation) nowMs)⟩
          · split
            · exact .inr ⟨gap, member, .inl ⟨rfl, armGapTimer_tracker _ _ _⟩⟩
            · exact .inr ⟨gap, member, .inr ⟨rfl, failGap_tracker _ (by exact conversation) nowMs⟩⟩

theorem maybeRequestGap_identity (nowMs : Int) (isOpen stillOpen : Bool) :
    (repair.maybeRequestGap nowMs isOpen stillOpen).2.identity = repair.identity := by
  unfold maybeRequestGap
  split
  · rfl
  · split
    · rfl
    · split
      · simp
      · dsimp only
        split
        · rfl
        · split
          · rfl
          · split
            · rw [failGap_identity]; rfl
            · split
              · rw [armGapTimer_identity]; rfl
              · rw [failGap_identity]; rfl

theorem markGapAttemptFailed_none {tracker : SyncTracker} (none : tracker.hasGaps = false)
    (nowMs : Int) : tracker.markGapAttemptFailed nowMs = tracker := by
  have empty : tracker.computeGaps = [] := by
    simpa [hasGaps] using none
  rw [markGapAttemptFailed, empty]

theorem takePage_tracker (conversation : 0 < repair.conversationId) (page : List IncomingChat)
    (hasMore : Bool) (nowMs : Int) :
    (repair.takePage page hasMore nowMs).tracker =
      let stored := repair.settle.storePage page
      if !stored.1 || !hasMore then stored.2.tracker.markGapAttemptFailed nowMs
      else stored.2.tracker := by
  have kept := repair.settle.storePage_kept page
  have positive : 0 < (repair.settle.storePage page).2.conversationId := by
    have same := congrArg (fun identity => identity.2.1) kept.1
    simp only [identity] at same
    rw [same]
    exact conversation
  simp only [takePage]
  generalize repair.settle.storePage page = stored at positive ⊢
  split
  · split
    · exact failGap_tracker _ positive nowMs
    · rename_i none
      exact (markGapAttemptFailed_none (by simpa using none) nowMs).symm
  · rfl

theorem takePage_identity (page : List IncomingChat) (hasMore : Bool) (nowMs : Int) :
    (repair.takePage page hasMore nowMs).identity = repair.identity := by
  have kept := (repair.settle.storePage_kept page).1
  simp only [takePage]
  generalize repair.settle.storePage page = stored at kept ⊢
  split
  · split
    · exact (failGap_identity _ nowMs).trans kept
    · exact kept
  · exact kept

theorem timeOut_identity (nowMs : Int) : (repair.timeOut nowMs).identity = repair.identity := by
  unfold timeOut
  dsimp only
  split
  · rw [failGap_identity]
    rfl
  · rfl

theorem runSyncTimer_identity (timer : GapTimer) (nowMs : Int) (isOpen stillOpen : Bool) :
    (repair.runSyncTimer timer nowMs isOpen stillOpen).2.identity = repair.identity := by
  unfold runSyncTimer
  split
  · exact repair.timeOut_identity nowMs
  · rw [maybeRequestGap_identity]
    rfl

end GapRepair

end Jitong
