import Jitong.TcpTransport
import Jitong.Lib.Run

/-!
How often the close callback of the transport is invoked for a connection.
-/

namespace Jitong

open Lib

def PostedWork.isResolve : PostedWork → Bool
  | resolve _ => true
  | _ => false

def Operation.isStage : Operation → Bool
  | resolving _ | connecting _ | handshaking _ => true
  | _ => false

/-- Whether the thread outside is in the middle of a `close`. -/
def OutsideThread.inClose : OutsideThread → Bool
  | closing _ | raised _ | joining _ => true
  | _ => false

/-- What the reports of a close depend on; the stages are those of a `connect` under way. -/
structure CloseView where
  isOpen : Bool
  notified : Bool
  opened : Bool
  closeCalls : Nat
  earlier : List (Bool × Nat)
  started : Bool
  thread : Bool
  running : Bool
  shutdownPosted : Bool
  stages : Nat
  outcome : Option Bool
  outside : OutsideThread

namespace TcpTransport

def stages (transport : TcpTransport) : Nat :=
  transport.posted.countP PostedWork.isResolve + transport.operations.countP Operation.isStage

def closeView (transport : TcpTransport) : CloseView where
  isOpen := transport.isOpen
  notified := transport.notified
  opened := transport.opened
  closeCalls := transport.closeCalls
  earlier := transport.earlier
  started := transport.state ≠ .idle
  thread := transport.thread
  running := transport.running
  shutdownPosted := transport.posted.contains .shutdown
  stages := transport.stages
  outcome := transport.outcome
  outside := transport.outside

end TcpTransport

namespace CloseView

/-- The close callback was invoked once for each connection that was opened and closed, once
no close of it is under way, and for no other one. -/
structure Reported (view : CloseView) : Prop where
  earlier : ∀ connection ∈ view.earlier, connection.2 = if connection.1 then 1 else 0
  atMost : view.closeCalls ≤ if view.opened then 1 else 0
  closed : view.opened = true → view.isOpen = false → view.outside.inClose = false →
    view.shutdownPosted = false → view.closeCalls = 1

structure Tight (view : CloseView) : Prop where
  counted : view.closeCalls = if view.notified then 1 else 0
  opened : view.isOpen = true → view.opened = true
  begun : view.started = false → view.thread = false ∧ view.opened = false
  still : view.running = false → view.stages = 0
  single : view.stages ≤ 1
  unopened : view.stages = 1 → view.opened = false ∧ view.outcome = none
  failed : view.outcome = some false → view.opened = false

def fail (view : CloseView) : CloseView :=
  if view.isOpen then
    { view with
      isOpen := false
      started := true
      notified := true
      closeCalls := view.closeCalls + if view.notified then 0 else 1 }
  else view

def close (view : CloseView) : CloseView :=
  { view with
    isOpen := false
    started := true
    shutdownPosted := view.shutdownPosted || view.started }

/-- The connection after it, where `connect` has come to it. -/
def renew (view : CloseView) (sniSet : Bool) : CloseView :=
  { view with
    notified := false
    opened := false
    closeCalls := 0
    earlier := view.earlier ++ [(view.opened, view.closeCalls)]
    started := true
    thread := view.thread || sniSet
    running := view.thread || sniSet
    stages := view.stages + if sniSet then 1 else 0
    outcome := if sniSet then none else view.outcome
    outside := if sniSet then .waiting else .ready }

def join (view : CloseView) : CloseView :=
  { view with
    isOpen := false
    notified := true
    closeCalls := view.closeCalls + if view.notified then 0 else 1
    started := true
    thread := false
    running := false }

def goOn (view : CloseView) : AfterClose → CloseView
  | .returns => { view with outside := .ready }
  | .connects sniSet => view.renew sniSet

def Kept (before after : CloseView) : Prop :=
  before.Tight → after.Tight ∧ (before.Reported → after.Reported)

variable {view : CloseView}

theorem Kept.refl : view.Kept view := fun tight => ⟨tight, id⟩

theorem Kept.trans {middle after : CloseView} (first : view.Kept middle)
    (second : middle.Kept after) : view.Kept after := by
  intro tight
  obtain ⟨between, earlier⟩ := first tight
  obtain ⟨final, later⟩ := second between
  exact ⟨final, later ∘ earlier⟩

theorem Tight.fail (tight : view.Tight) : view.fail.Tight := by
  unfold CloseView.fail
  split
  · rename_i live
    have opened := tight.opened live
    refine ⟨?_, by simp, by simp, tight.still, tight.single, tight.unopened, tight.failed⟩
    simp only [tight.counted, if_true]
    cases view.notified <;> rfl
  · exact tight

theorem Tight.close (tight : view.Tight) : view.close.Tight :=
  ⟨tight.counted, by simp [CloseView.close], by simp [CloseView.close], tight.still, tight.single,
    tight.unopened, tight.failed⟩

theorem Reported.fail (tight : view.Tight) (reported : view.Reported) : view.fail.Reported := by
  unfold CloseView.fail
  split
  · rename_i live
    have opened := tight.opened live
    have once : view.closeCalls + (if view.notified then 0 else 1) = 1 := by
      rw [tight.counted]
      cases view.notified <;> rfl
    refine ⟨reported.earlier, ?_, fun _ _ _ _ => once⟩
    simp only [opened, if_true, once, Nat.le_refl]
  · exact reported

theorem Reported.close (tight : view.Tight) (reported : view.Reported) : view.close.Reported := by
  refine ⟨reported.earlier, reported.atMost, ?_⟩
  intro opened _ _ unposted
  simp only [CloseView.close, Bool.or_eq_false_iff] at unposted
  have unopened := (tight.begun unposted.2).2
  rw [show view.opened = true from opened] at unopened
  simp at unopened

theorem Kept.fail : view.Kept view.fail := fun tight => ⟨tight.fail, Reported.fail tight⟩

theorem Kept.close : view.Kept view.close := fun tight => ⟨tight.close, Reported.close tight⟩

theorem Tight.renew (tight : view.Tight) (closed : view.isOpen = false)
    (settled : view.running = false) (sniSet : Bool) :
    (view.renew sniSet).Tight := by
  have resting := tight.still settled
  cases sniSet with
  | false =>
      refine ⟨rfl, ?_, by simp [CloseView.renew], ?_, ?_, ?_, by simp [CloseView.renew]⟩
      · simp [CloseView.renew, closed]
      · simp [CloseView.renew, resting]
      · simp [CloseView.renew, resting]
      · simp [CloseView.renew, resting]
  | true =>
      refine ⟨rfl, ?_, by simp [CloseView.renew], ?_, ?_, ?_, by simp [CloseView.renew]⟩
      · simp [CloseView.renew, closed]
      · simp [CloseView.renew]
      · simp [CloseView.renew, resting]
      · simp [CloseView.renew]

theorem Reported.renew (reported : view.Reported)
    (once : view.opened = true → view.closeCalls = 1) (sniSet : Bool) :
    (view.renew sniSet).Reported := by
  have last : view.closeCalls = if view.opened then 1 else 0 := by
    have atMost := reported.atMost
    cases live : view.opened with
    | false => simpa [live] using atMost
    | true => simpa using once live
  refine ⟨?_, by simp [CloseView.renew], by simp [CloseView.renew]⟩
  intro connection member
  simp only [CloseView.renew, List.mem_append, List.mem_singleton] at member
  rcases member with before | rfl
  · exact reported.earlier connection before
  · exact last

theorem Kept.outside (view : CloseView) (next : OutsideThread)
    (allowed : next.inClose = true ∨ view.outside.inClose = false) :
    view.Kept { view with outside := next } := by
  intro tight
  refine ⟨⟨tight.counted, tight.opened, tight.begun, tight.still, tight.single, tight.unopened,
    tight.failed⟩, fun reported => ⟨reported.earlier, reported.atMost, ?_⟩⟩
  intro opened closed outside unposted
  rcases allowed with under | quiet
  · rw [show next.inClose = false from outside] at under
    simp at under
  · exact reported.closed opened closed quiet unposted

theorem Kept.giveUp (view : CloseView) (failed : view.outcome = some false) :
    view.Kept { view with isOpen := false, started := true, outside := .failing } := by
  intro tight
  have unopened := tight.failed failed
  refine ⟨⟨tight.counted, by simp, by simp, tight.still, tight.single, tight.unopened,
    tight.failed⟩, fun reported => ⟨reported.earlier, reported.atMost, ?_⟩⟩
  intro opened _ _ _
  rw [show view.opened = true from opened] at unopened
  simp at unopened

theorem Kept.settle (settled : view.running = false) (quiet : view.outside.inClose = false) :
    view.Kept { view with thread := false, running := false, outside := .ready } := by
  intro tight
  refine ⟨⟨tight.counted, tight.opened, fun unstarted => ⟨rfl, (tight.begun unstarted).2⟩,
    fun _ => tight.still settled, tight.single, tight.unopened, tight.failed⟩,
    fun reported => ⟨reported.earlier, reported.atMost, ?_⟩⟩
  intro opened closed _ unposted
  exact reported.closed opened closed quiet unposted

theorem Kept.begin : view.Kept { view with started := true } := fun tight =>
  ⟨⟨tight.counted, tight.opened, by simp, tight.still, tight.single, tight.unopened, tight.failed⟩,
    fun reported => ⟨reported.earlier, reported.atMost, reported.closed⟩⟩

theorem Kept.refuse (last : view.stages = 1) :
    view.Kept { view with stages := 0, outcome := some false } := by
  intro tight
  obtain ⟨unopened, _⟩ := tight.unopened last
  exact ⟨⟨tight.counted, tight.opened, tight.begun, fun _ => rfl, by simp, by simp,
    fun _ => unopened⟩, fun reported => ⟨reported.earlier, reported.atMost, reported.closed⟩⟩

theorem Kept.openNow (last : view.stages = 1) :
    view.Kept { view with
      stages := 0
      started := true
      isOpen := true
      opened := true
      outcome := some true } := by
  intro tight
  obtain ⟨unopened, _⟩ := tight.unopened last
  refine ⟨⟨tight.counted, by simp, by simp, fun _ => rfl, by simp, by simp, by simp⟩,
    fun reported => ⟨reported.earlier, ?_, by simp⟩⟩
  have atMost := reported.atMost
  rw [unopened] at atMost
  exact Nat.le_trans atMost (by simp)

theorem Kept.shut (view : CloseView) (posted : Bool)
    (covered : posted = true ∨ view.opened = false ∨ view.isOpen = true ∨ view.notified = true ∨
      view.outside.inClose = true) : view.Kept { view with shutdownPosted := posted } := by
  intro tight
  refine ⟨⟨tight.counted, tight.opened, tight.begun, tight.still, tight.single, tight.unopened,
    tight.failed⟩, fun reported => ⟨reported.earlier, reported.atMost, ?_⟩⟩
  intro opened closed outside unposted
  have told : view.notified = true := by
    rcases covered with later | unopened | live | told | under
    · rw [show posted = false from unposted] at later
      simp at later
    · rw [show view.opened = true from opened] at unopened
      simp at unopened
    · rw [show view.isOpen = false from closed] at live
      simp at live
    · exact told
    · rw [show view.outside.inClose = false from outside] at under
      simp at under
  simpa [told] using tight.counted

theorem Kept.halt (none : view.stages = 0) : view.Kept { view with running := false } :=
  fun tight => ⟨⟨tight.counted, tight.opened, tight.begun, fun _ => none, tight.single,
    tight.unopened, tight.failed⟩,
    fun reported => ⟨reported.earlier, reported.atMost, reported.closed⟩⟩

theorem Tight.join (tight : view.Tight) (settled : view.running = false) : view.join.Tight := by
  refine ⟨?_, by simp [CloseView.join], by simp [CloseView.join], fun _ => tight.still settled,
    tight.single, tight.unopened, tight.failed⟩
  simp only [CloseView.join, tight.counted, if_true]
  cases view.notified <;> rfl

theorem Tight.join_once (tight : view.Tight) : view.join.closeCalls = 1 := by
  simp only [CloseView.join, tight.counted]
  cases view.notified <;> rfl

theorem Reported.join (tight : view.Tight) (reported : view.Reported)
    (told : view.notified = true ∨ view.opened = true) : view.join.Reported := by
  refine ⟨reported.earlier, ?_, fun _ _ _ _ => tight.join_once⟩
  rw [tight.join_once]
  have atMost := reported.atMost
  cases live : view.opened with
  | true => simp [CloseView.join, live]
  | false =>
      rw [live] at told
      have calls : view.closeCalls = 1 := by
        simpa [show view.notified = true by simpa using told] using tight.counted
      simp [live, calls] at atMost

theorem Tight.goOn (tight : view.Tight) (closed : view.isOpen = false)
    (settled : view.running = false) (next : AfterClose) : (view.goOn next).Tight := by
  cases next with
  | returns =>
      exact ⟨tight.counted, tight.opened, tight.begun, tight.still, tight.single, tight.unopened,
        tight.failed⟩
  | connects sniSet => exact tight.renew closed settled sniSet

theorem Reported.goOn (reported : view.Reported)
    (once : view.opened = true → view.closeCalls = 1) (next : AfterClose) :
    (view.goOn next).Reported := by
  cases next with
  | returns => exact ⟨reported.earlier, reported.atMost, fun opened _ _ _ => once opened⟩
  | connects sniSet => exact reported.renew once sniSet

theorem goOn_overcounted (called : view.closeCalls = 1) (unopened : view.opened = false)
    (next : AfterClose) : ¬(view.goOn next).Reported := by
  intro reported
  cases next with
  | returns =>
      have atMost := reported.atMost
      simp [CloseView.goOn, called, unopened] at atMost
  | connects sniSet =>
      have last := reported.earlier (view.opened, view.closeCalls)
        (by simp [CloseView.goOn, CloseView.renew])
      simp [called, unopened] at last

end CloseView

namespace TcpTransport

variable {transport : TcpTransport}

theorem drainQueue_closeView (result : SendResult) :
    (transport.drainQueue result).closeView = transport.closeView := rfl

theorem shutdownSocket_closeView : transport.shutdownSocket.closeView = transport.closeView := by
  unfold shutdownSocket
  split <;> rfl

theorem notifyClose_closeView :
    transport.notifyClose.closeView = { transport.closeView with
      isOpen := false
      notified := true
      closeCalls := transport.closeView.closeCalls + if transport.closeView.notified then 0 else 1 } := by
  unfold notifyClose
  cases told : transport.notified with
  | false => simp [closeView, told, stages, running]
  | true => simp [closeView, told, stages, running]

theorem failClose_closeView : transport.failClose.closeView = transport.closeView.fail := by
  unfold failClose CloseView.fail
  cases live : transport.isOpen with
  | false => simp [closeView, live]
  | true =>
      simp only [Bool.not_true, Bool.false_eq_true, if_false]
      rw [notifyClose_closeView, drainQueue_closeView, shutdownSocket_closeView]
      simp [closeView, live, stages, running]

theorem doRead_closeView : transport.doRead.closeView = transport.closeView := by
  unfold doRead
  split
  · rfl
  · simp [closeView, stages, running, Operation.isStage]

theorem doWrite_closeView : transport.doWrite.closeView = transport.closeView := by
  unfold doWrite
  split
  · rfl
  · split
    · rfl
    · simp [closeView, stages, running, Operation.isStage]

theorem markClosed_closeView (tight : transport.closeView.Tight) :
    transport.markClosed.closeView = transport.closeView.close := by
  unfold markClosed
  simp only [neverStarted]
  by_cases idle : transport.state = .idle
  · have unstarted : transport.closeView.started = false := by simp [closeView, idle]
    have thread : transport.thread = false := (tight.begun unstarted).1
    simp [idle, thread, closeView, CloseView.close, stages, running]
  · simp [idle, closeView, CloseView.close, stages, running, PostedWork.isResolve]

theorem callBack_closeView (tight : transport.closeView.Tight) (closes : Bool) :
    (transport.callBack closes).closeView =
      if closes then transport.closeView.close else transport.closeView := by
  cases closes with
  | false => rfl
  | true => exact (markClosed_closeView tight : transport.raiseGeneration.markClosed.closeView = _)

theorem callBack_kept (quiet : TcpTransport) (same : quiet.closeView = transport.closeView)
    (closes : Bool) : transport.closeView.Kept (quiet.callBack closes).closeView := by
  intro tight
  rw [callBack_closeView (by rw [same]; exact tight), same]
  cases closes with
  | false => exact CloseView.Kept.refl tight
  | true => exact CloseView.Kept.close tight

theorem runWork_kept {rest : List PostedWork} {work : PostedWork}
    (posted : transport.posted = work :: rest) (other : work ≠ .shutdown) (closes : Bool) :
    transport.closeView.Kept ({ transport with posted := rest }.runWork work closes).closeView := by
  cases work with
  | task =>
      have same : { transport with posted := rest }.closeView = transport.closeView := by
        simp [closeView, stages, running, posted, PostedWork.isResolve]
      exact callBack_kept { transport with posted := rest } same closes
  | enqueue frame =>
      have same : { transport with posted := rest }.closeView = transport.closeView := by
        simp [closeView, stages, running, posted, PostedWork.isResolve]
      simp only [runWork]
      unfold runEnqueue
      split
      · exact callBack_kept
          { transport with posted := rest, sent := transport.sent ++ [SendResult.cancelled] } same closes
      · simp only
        split
        · rw [doWrite_closeView, ← same]
          exact .refl
        · rw [← same]
          exact .refl
  | shutdown => exact absurd rfl other
  | resolve generation =>
      have count : rest.countP PostedWork.isResolve +
          (transport.operations ++ [Operation.resolving generation]).countP Operation.isStage =
            transport.stages := by
        have one : [Operation.resolving generation].countP Operation.isStage = 1 := rfl
        have first : (PostedWork.resolve generation :: rest).countP PostedWork.isResolve =
          rest.countP PostedWork.isResolve + 1 := List.countP_cons_of_pos rfl
        rw [stages, posted, List.countP_append, one, first]
        omega
      have same : ({ transport with posted := rest }.runWork (.resolve generation) closes).closeView =
          transport.closeView := by
        simp only [runWork]
        simp [closeView, running, posted]
        exact count
      rw [same]
      exact .refl

theorem runShutdown_closeView {rest : List PostedWork}
    (posted : transport.posted = .shutdown :: rest) (closes : Bool) :
    ({ transport with posted := rest }.runWork .shutdown closes).closeView =
      { transport.closeView with shutdownPosted := rest.contains .shutdown } := by
  simp only [runWork]
  rw [shutdownSocket_closeView, drainQueue_closeView]
  simp [closeView, stages, running, posted, PostedWork.isResolve]

theorem startConnect_closeView (sniSet : Bool) :
    (transport.startConnect sniSet).closeView = transport.closeView.renew sniSet := by
  unfold startConnect
  cases sniSet with
  | false => simp [resetConnectionState, closeView, CloseView.renew, stages, running]
  | true =>
      simp [resetConnectionState, closeView, CloseView.renew, stages, running,
        PostedWork.isResolve]
      omega

theorem afterClose_closeView (next : AfterClose) :
    (transport.afterClose next).closeView = transport.closeView.goOn next := by
  cases next with
  | returns => rfl
  | connects sniSet => exact startConnect_closeView sniSet

theorem join_closeView :
    ({ { transport with thread := false }.drainQueue .cancelled with
      state := .closed }.notifyClose).closeView = transport.closeView.join := by
  rw [notifyClose_closeView]
  simp [closeView, CloseView.join, stages, running, drainQueue]

theorem settled_of_joinable (joinable : transport.joinable = true) :
    transport.closeView.running = false := by
  unfold TcpTransport.joinable at joinable
  simp only [closeView, running]
  cases threaded : transport.thread with
  | false => rfl
  | true => simpa [threaded] using joinable

def reportsOnce (transport : TcpTransport) : TransportEvent → Bool
  | .goOn =>
      match transport.outside with
      | .joining _ => !transport.joinable || transport.notified || transport.opened
      | _ => true
  | .runPosted _ =>
      match transport.posted with
      | .shutdown :: rest =>
          !transport.running || rest.contains .shutdown || !transport.opened || transport.isOpen ||
            transport.notified || transport.outside.inClose
      | _ => true
  | _ => true

theorem goOn_cases (tight : transport.closeView.Tight) :
    (∃ next, transport.outside = .joining next ∧ transport.joinable = true ∧
      transport.goOn.closeView = transport.closeView.join.goOn next) ∨
    transport.reportsOnce .goOn = true ∧ transport.closeView.Kept transport.goOn.closeView := by
  unfold goOn
  split
  · rename_i place
    exact .inr ⟨by simp [reportsOnce, place], .refl⟩
  · rename_i next place
    refine .inr ⟨by simp [reportsOnce, place], ?_⟩
    exact CloseView.Kept.outside transport.closeView (.raised next) (.inl rfl)
  · rename_i next place
    refine .inr ⟨by simp [reportsOnce, place], ?_⟩
    split
    · rename_i fresh
      simp only [neverStarted, Bool.decide_and, Bool.and_eq_true, decide_eq_true_eq] at fresh
      have unstarted : transport.closeView.started = false := by simp [closeView, fresh.1]
      obtain ⟨thread, unopened⟩ := tight.begun unstarted
      have settled : transport.closeView.running = false := by
        simp [closeView, running, show transport.thread = false from thread]
      rw [afterClose_closeView, markClosed_closeView tight]
      intro _
      refine ⟨tight.close.goOn rfl settled next, fun reported => ?_⟩
      refine (CloseView.Reported.close tight reported).goOn ?_ next
      intro opened
      rw [show transport.closeView.opened = true from opened] at unopened
      simp at unopened
    · refine CloseView.Kept.trans .close ?_
      rw [← markClosed_closeView tight]
      exact CloseView.Kept.outside transport.markClosed.closeView (.joining next) (.inl rfl)
  · rename_i next place
    split
    · rename_i blocked
      refine .inr ⟨?_, .refl⟩
      simp [reportsOnce, place, show transport.joinable = false by simpa using blocked]
    · rename_i joinable
      rw [afterClose_closeView, join_closeView]
      exact .inl ⟨next, place, by simpa using joinable, rfl⟩
  · rename_i place
    have quiet : transport.closeView.outside.inClose = false :=
      (congrArg OutsideThread.inClose place).trans rfl
    refine .inr ⟨by simp [reportsOnce, place], ?_⟩
    split
    · exact .refl
    · exact CloseView.Kept.outside transport.closeView .ready (.inr quiet)
    · rename_i failed
      exact CloseView.Kept.giveUp transport.closeView failed
  · rename_i place
    have quiet : transport.closeView.outside.inClose = false :=
      (congrArg OutsideThread.inClose place).trans rfl
    refine .inr ⟨by simp [reportsOnce, place], ?_⟩
    split
    · exact .refl
    · rename_i joinable
      have settled := settled_of_joinable (by simpa using joinable)
      have view : { transport with thread := false, outside := .ready }.closeView =
          { transport.closeView with thread := false, running := false, outside := .ready } := by
        simp [closeView, running, stages]
      rw [view]
      exact CloseView.Kept.settle settled quiet

theorem onRead_kept (transport : TcpTransport) (generation : UInt64) (result : OperationResult)
    (closes : Bool) :
    transport.closeView.Kept (transport.onRead generation result closes).closeView := by
  intro tight
  unfold onRead
  split
  · exact CloseView.Kept.refl tight
  · split
    · exact CloseView.Kept.refl tight
    · rw [failClose_closeView]
      exact CloseView.Kept.fail tight
    · split
      · rw [failClose_closeView]
        exact (CloseView.Kept.fail : transport.closeView.Kept _) tight
      · rename_i frames frameReader _ _
        rw [doRead_closeView]
        exact callBack_kept
          { transport with frameReader, packets := transport.packets ++ frames } rfl _ tight

theorem onWritten_kept (transport : TcpTransport) (succeeds closes : Bool) :
    transport.closeView.Kept (transport.onWritten succeeds closes).closeView := by
  have called (sent : List SendResult) :=
    callBack_kept { transport with writing := false, sent } (rfl : _ = transport.closeView) closes
  unfold onWritten
  simp only
  split
  · rw [failClose_closeView, drainQueue_closeView]
    exact (called _).trans .fail
  · split
    · rw [doWrite_closeView]
      exact called _
    · split
      · rw [shutdownSocket_closeView]
        exact called _
      · exact called _

theorem erase_stage {operation : Operation} (tight : transport.closeView.Tight)
    (present : operation ∈ transport.operations) (stage : operation.isStage = true) :
    transport.closeView.stages = 1 ∧
      { transport with operations := transport.operations.erase operation }.stages = 0 := by
  have single : transport.stages ≤ 1 := tight.single
  have counted : 0 < transport.operations.countP Operation.isStage :=
    List.countP_pos_iff.mpr ⟨operation, present, stage⟩
  have left := List.countP_erase Operation.isStage transport.operations operation
  simp only [present, stage, and_self, if_true] at left
  simp only [closeView]
  unfold stages at single ⊢
  simp only [left]
  omega

theorem erase_other {operation : Operation} (other : operation.isStage = false) :
    { transport with operations := transport.operations.erase operation }.closeView =
      transport.closeView := by
  have left := List.countP_erase Operation.isStage transport.operations operation
  simp only [other, Bool.false_eq_true, and_false, if_false, Nat.sub_zero] at left
  simp [closeView, stages, running, left]

theorem stage_closeView {operation next : Operation} {state : TransportState} {socketOpen : Bool}
    (last : transport.closeView.stages = 1)
    (none : { transport with operations := transport.operations.erase operation }.stages = 0)
    (stage : next.isStage = true) (begun : state ≠ .idle) :
    { transport with
      operations := transport.operations.erase operation ++ [next], state, socketOpen }.closeView =
        { transport.closeView with started := true } := by
  simp only [stages] at none
  simp only [closeView] at last
  simp [closeView, running, last, begun]
  simp [stages, stage]
  omega

theorem onHandshaken_closeView :
    transport.onHandshaken.closeView = { transport.closeView with
      stages := transport.stages
      started := true
      isOpen := true
      opened := true
      outcome := some true } := by
  calc
    transport.onHandshaken.closeView =
        { ({ transport with state := .connected, isOpen := true, opened := true }.doRead).closeView with
          outcome := some true } := rfl
    _ = _ := by
      rw [doRead_closeView]
      simp [closeView, stages, running]

theorem connectStage_kept {operation : Operation} {generation : UInt64} {succeeds : Bool}
    {next : TcpTransport → TcpTransport} (last : transport.closeView.stages = 1)
    (none : { transport with operations := transport.operations.erase operation }.stages = 0)
    (goes : transport.closeView.Kept
      (next { transport with operations := transport.operations.erase operation }).closeView) :
    transport.closeView.Kept
      ({ transport with operations := transport.operations.erase operation }.connectStage generation
        succeeds next).closeView := by
  unfold connectStage
  split
  · have refused : { transport with
        operations := transport.operations.erase operation
        outcome := some false }.closeView =
          { transport.closeView with stages := 0, outcome := some false } := by
      simp only [stages] at none
      simp only [closeView, stages, running, none]
    rw [refused]
    exact .refuse last
  · exact goes

theorem complete_kept {operation : Operation} (present : operation ∈ transport.operations)
    (result : OperationResult) (closes : Bool) :
    transport.closeView.Kept
      ({ transport with operations := transport.operations.erase operation }.runOperation operation
        result closes).closeView := by
  intro tight
  cases operation with
  | reading generation =>
      have kept := onRead_kept { transport with operations := transport.operations.erase (.reading
        generation) } generation result closes
      rw [erase_other rfl] at kept
      exact kept tight
  | writing frame =>
      have kept := onWritten_kept { transport with operations := transport.operations.erase (.writing
        frame) } result.succeeds closes
      rw [erase_other rfl] at kept
      exact kept tight
  | resolving generation =>
      obtain ⟨last, none⟩ := erase_stage tight present rfl
      refine connectStage_kept last none ?_ tight
      rw [stage_closeView last none rfl (by simp)]
      exact .begin
  | connecting generation =>
      obtain ⟨last, none⟩ := erase_stage tight present rfl
      refine connectStage_kept last none ?_ tight
      rw [stage_closeView last none rfl (by simp)]
      exact .begin
  | handshaking generation =>
      obtain ⟨last, none⟩ := erase_stage tight present rfl
      refine connectStage_kept last none ?_ tight
      rw [onHandshaken_closeView, none]
      exact .openNow last

theorem step_kept (event : TransportEvent) (allowed : transport.reportsOnce event = true) :
    transport.closeView.Kept (transport.step event).closeView := by
  intro tight
  cases event with
  | connect sniSet =>
      simp only [step]
      split
      · exact CloseView.Kept.refl tight
      · exact CloseView.Kept.outside transport.closeView _ (.inl rfl) tight
  | close =>
      simp only [step]
      split
      · exact CloseView.Kept.refl tight
      · exact CloseView.Kept.outside transport.closeView _ (.inl rfl) tight
  | goOn =>
      rcases goOn_cases tight with ⟨next, place, joinable, after⟩ | ⟨_, kept⟩
      · have settled := settled_of_joinable joinable
        simp only [reportsOnce, place, joinable, Bool.not_true, Bool.false_or, Bool.or_eq_true]
          at allowed
        simp only [step, after]
        refine ⟨(tight.join settled).goOn rfl rfl next, fun reported => ?_⟩
        exact (CloseView.Reported.join tight reported allowed).goOn (fun _ => tight.join_once) next
      · exact kept tight
  | timeOut =>
      simp only [step]
      split
      · exact CloseView.Kept.outside transport.closeView _ (.inl rfl) tight
      · exact CloseView.Kept.refl tight
  | send data =>
      have same : (transport.send data).2.closeView = transport.closeView := by
        unfold send
        split
        · simp [closeView, stages, running, PostedWork.isResolve]
        · rfl
      simp only [step, same]
      exact CloseView.Kept.refl tight
  | postToIo =>
      have same : { transport with posted := transport.posted ++ [PostedWork.task] }.closeView =
          transport.closeView := by
        simp [closeView, stages, running, PostedWork.isResolve]
      simp only [step, same]
      exact CloseView.Kept.refl tight
  | runPosted closes =>
      simp only [step]
      split
      · exact CloseView.Kept.refl tight
      · rename_i work rest posted
        split
        · exact CloseView.Kept.refl tight
        · rename_i runs
          by_cases last : work = .shutdown
          · subst last
            rw [runShutdown_closeView posted]
            refine CloseView.Kept.shut transport.closeView _ ?_ tight
            simp only [reportsOnce, posted, runs] at allowed
            simpa [closeView, or_assoc] using allowed
          · exact runWork_kept posted last closes tight
  | complete operation result closes =>
      simp only [step]
      split
      · exact CloseView.Kept.refl tight
      · rename_i possible
        exact complete_kept (by tauto) result closes tight
  | runOut =>
      simp only [step]
      split
      · rename_i rests
        have none : transport.closeView.stages = 0 := by simp [closeView, stages, rests]
        have same : { transport with stopped := true }.closeView =
            { transport.closeView with running := false } := by
          simp [closeView, running, stages]
        rw [same]
        exact CloseView.Kept.halt none tight
      · exact CloseView.Kept.refl tight

theorem step_lapse (tight : transport.closeView.Tight) (event : TransportEvent)
    (lapse : transport.reportsOnce event = false) :
    (transport.step event).closeView.Tight ∧ ¬(transport.step event).closeView.Reported := by
  cases event with
  | goOn =>
      rcases goOn_cases tight with ⟨next, place, joinable, after⟩ | ⟨allowed, _⟩
      · have settled := settled_of_joinable joinable
        simp only [reportsOnce, place, joinable, Bool.not_true, Bool.false_or,
          Bool.or_eq_false_iff] at lapse
        simp only [step, after]
        exact ⟨(tight.join settled).goOn rfl rfl next,
          CloseView.goOn_overcounted tight.join_once lapse.2 next⟩
      · simp [allowed] at lapse
  | runPosted closes =>
      simp only [reportsOnce] at lapse
      split at lapse
      · rename_i rest posted
        simp only [Bool.or_eq_false_iff, Bool.not_eq_false'] at lapse
        obtain ⟨⟨⟨⟨⟨runs, last⟩, opened⟩, closed⟩, untold⟩, outside⟩ := lapse
        have after : (transport.step (.runPosted closes)).closeView =
            { transport.closeView with shutdownPosted := rest.contains .shutdown } := by
          rw [← runShutdown_closeView posted closes]
          simp [step, posted, runs]
        rw [after]
        refine ⟨⟨tight.counted, tight.opened, tight.begun, tight.still, tight.single,
          tight.unopened, tight.failed⟩, fun reported => ?_⟩
        have once := reported.closed opened closed outside last
        have calls : transport.closeCalls = 0 := by simpa [closeView, untold] using tight.counted
        rw [show transport.closeCalls = 1 from once] at calls
        simp at calls
      · simp at lapse
  | _ => simp [reportsOnce] at lapse

theorem initial_tight : ({} : TcpTransport).closeView.Tight := by
  constructor <;> simp [closeView, stages, running]

theorem initial_reported : ({} : TcpTransport).closeView.Reported := by
  constructor <;> simp [closeView]

end TcpTransport

/-- Every connection of every run is reported once when it is closed, and none that was not
opened, exactly where each step reports what it closes. -/
theorem closeReported_iff (events : List TransportEvent) :
    (∀ front back, front ++ back = events →
      (front.foldl TcpTransport.step {}).closeView.Reported) ↔
        guarded TcpTransport.step TcpTransport.reportsOnce {} events = true := by
  refine prefixes_iff_guarded (fun transport : TcpTransport => transport.closeView.Tight)
    (fun transport => transport.closeView.Reported) ?_ ?_ {} TcpTransport.initial_tight
    TcpTransport.initial_reported events
  · intro transport event tight
    cases allowed : transport.reportsOnce event with
    | true => exact (TcpTransport.step_kept event allowed tight).1
    | false => exact (TcpTransport.step_lapse tight event allowed).1
  · intro transport event tight reported
    cases allowed : transport.reportsOnce event with
    | true => exact iff_of_true ((TcpTransport.step_kept event allowed tight).2 reported) rfl
    | false => exact iff_of_false (TcpTransport.step_lapse tight event allowed).2 (by simp)

def refusedFrameRun : List TransportEvent :=
  [.connect true, .goOn, .goOn, .runPosted false, .complete (.resolving 1) (.done []) false,
    .complete (.connecting 1) (.done []) false, .complete (.handshaking 1) (.done []) false, .goOn,
    .complete (.reading 1) (.done [0, 0, 0, 4, 0x10, 4, 0, 0]) true, .runPosted false]

/-- The shutdown has run and nobody was told. -/
theorem closeReported_untold :
    let transport := refusedFrameRun.foldl TcpTransport.step {}
    transport.opened = true ∧ transport.isOpen = false ∧ transport.posted = [] ∧
      transport.closeCalls = 0 ∧ ¬transport.closeView.Reported := by
  refine ⟨by decide, by decide, by decide, by decide, fun reported => ?_⟩
  have once := reported.closed (by decide) (by decide) (by decide) (by decide)
  exact absurd once (by decide)

end Jitong
