import Jitong.RuntimeEvents

/-!
The runtime of an account: its life cycle as the blocks that run under `m_mutex`, the ids of its
operations, their results, and the versions it announces.
-/

namespace Jitong

namespace ClientRuntime

inductive State
  | idle | starting | running | stopping | stopped | destroyed | destroying
  deriving DecidableEq

inductive Ending
  | stop | logout | destroy
  deriving DecidableEq

inductive Phase
  | enterRunning | startOutboxPump | startSyncTimer
  | stopOutboxPump (ending : Ending) | stopSyncTimer (ending : Ending)
  | resetInvalidations (ending : Ending) | finish (ending : Ending)
  | clearAccount | advanceGeneration | resetAfterLogout
  deriving DecidableEq

def Phase.closing : Phase → Bool
  | .enterRunning | .startOutboxPump | .startSyncTimer => false
  | _ => true

/-- The calls that change the life cycle; `advance` is the next block of the one that is going on. -/
inductive LifeCall
  | start (databaseFits : Bool) | stop (now : Int) | logout (now : Int) | destroy (now : Int)
  | advance
  deriving DecidableEq

end ClientRuntime

structure ClientRuntime where
  ownerId : Int
  completionCapacity : Nat
  instanceId : UInt64
  control : Option ClientRuntime.Phase := none
  state : ClientRuntime.State := .idle
  generation : Int64 := 0
  opSeq : UInt64 := 0
  admitted : List OperationId := []
  accountAuthenticated : Bool := false
  completions : CompletionRegistry
  dbVersion : Int64 := 0
  runtimeEventSink : Bool := false
  invalidations : InvalidationBus := {}

namespace ClientRuntime

open CompletionRegistry (Result Record)

def create (ownerId : Int) (completionCapacity : Nat) (instanceId : UInt64) : ClientRuntime where
  ownerId := ownerId
  completionCapacity := completionCapacity
  instanceId := instanceId
  completions := { capacity := completionCapacity }

def colon : Bytes := ascii ":"

def operationId (runtime : ClientRuntime) (domain : Bytes) (seq : UInt64) : OperationId :=
  domain ++ colon ++ decimal runtime.ownerId ++ colon ++ decimal runtime.instanceId.toNat ++
    colon ++ decimal runtime.generation.toInt ++ colon ++ decimal seq.toNat

def nextOperationId (runtime : ClientRuntime) (domain : Bytes) : OperationId × ClientRuntime :=
  if domain = [] ∨ runtime.state ≠ .running ∨
      runtime.completionCapacity ≤ runtime.admitted.length then ([], runtime)
  else
    let seq := runtime.opSeq + 1
    let id := runtime.operationId domain seq
    (id, { runtime with opSeq := seq, admitted := runtime.admitted.insert id })

def completeOperation (runtime : ClientRuntime) (id : OperationId) (result : Result)
    (error : Bytes) (now : Int) : Option Record × ClientRuntime :=
  if runtime.state ≠ .running ∨ id ∉ runtime.admitted then (none, runtime)
  else
    match runtime.completions.complete id result error now with
    | none => (none, runtime)
    | some completions => (completions.peek id, { runtime with completions := completions })

def consumeOperation (runtime : ClientRuntime) (id : OperationId) :
    Option Record × ClientRuntime :=
  match runtime.completions.consume id with
  | none => (none, runtime)
  | some (record, completions) =>
      (some record,
        { runtime with completions := completions, admitted := runtime.admitted.erase id })

def cancelAll (error : Bytes) (now : Int) :
    List OperationId → CompletionRegistry → CompletionRegistry × List OperationId
  | [], completions => (completions, [])
  | id :: rest, completions =>
      match completions.complete id .cancelled error now with
      | none => cancelAll error now rest completions
      | some completed =>
          let later := cancelAll error now rest completed
          (later.1, id :: later.2)

def start (runtime : ClientRuntime) (databaseFits : Bool) : ClientRuntime :=
  if runtime.control ≠ none ∨ runtime.state = .destroyed ∨ runtime.state = .running ∨
      runtime.ownerId ≤ 0 ∨ !databaseFits ∨ runtime.state = .starting then runtime
  else { runtime with state := .starting, control := some .enterRunning }

def cancelled (runtime : ClientRuntime) (error : Bytes) (now : Int) : List OperationId :=
  (cancelAll error now runtime.admitted runtime.completions).2

def shutDown (runtime : ClientRuntime) (state : State) (ending : Ending) (error : Bytes)
    (now : Int) : ClientRuntime :=
  { runtime with
    state := state
    accountAuthenticated := false
    completions := (cancelAll error now runtime.admitted runtime.completions).1
    control := some (.stopOutboxPump ending) }

def stoppable (runtime : ClientRuntime) : Bool :=
  runtime.state = .running ∨ runtime.state = .starting

def stopReason : Bytes := ascii "runtime stopping"

def destroyReason : Bytes := ascii "runtime destroying"

def stop (runtime : ClientRuntime) (now : Int) : ClientRuntime :=
  if runtime.control ≠ none ∨ !runtime.stoppable then runtime
  else runtime.shutDown .stopping .stop stopReason now

def logout (runtime : ClientRuntime) (now : Int) : ClientRuntime :=
  if runtime.control ≠ none then runtime
  else if !runtime.stoppable then { runtime with control := some .clearAccount }
  else runtime.shutDown .stopping .logout stopReason now

def destroy (runtime : ClientRuntime) (now : Int) : ClientRuntime :=
  if runtime.control ≠ none ∨ runtime.state = .destroyed then runtime
  else runtime.shutDown .destroying .destroy destroyReason now

/-- The next block of the method that holds `m_control`. -/
def advance (runtime : ClientRuntime) : ClientRuntime :=
  match runtime.control with
  | none => runtime
  | some .enterRunning =>
      if runtime.state ≠ .starting then { runtime with control := none }
      else
        { runtime with
          state := .running
          generation := runtime.generation + 1
          control := some .startOutboxPump }
  | some .startOutboxPump => { runtime with control := some .startSyncTimer }
  | some .startSyncTimer => { runtime with control := none }
  | some (.stopOutboxPump ending) => { runtime with control := some (.stopSyncTimer ending) }
  | some (.stopSyncTimer ending) => { runtime with control := some (.resetInvalidations ending) }
  | some (.resetInvalidations ending) =>
      { runtime with
        invalidations := runtime.invalidations.reset
        control := some (.finish ending) }
  | some (.finish .destroy) => { runtime with state := .destroyed, control := none }
  | some (.finish ending) =>
      { runtime with
        state := if runtime.state = .stopping then .stopped else runtime.state
        control := if ending = .logout then some .clearAccount else none }
  | some .clearAccount => { runtime with control := some .advanceGeneration }
  | some .advanceGeneration =>
      { runtime with
        generation := runtime.generation + 1
        control := some .resetAfterLogout }
  | some .resetAfterLogout =>
      { runtime with invalidations := runtime.invalidations.reset, control := none }

def live (runtime : ClientRuntime) : LifeCall → ClientRuntime
  | .start databaseFits => runtime.start databaseFits
  | .stop now => runtime.stop now
  | .logout now => runtime.logout now
  | .destroy now => runtime.destroy now
  | .advance => runtime.advance

def Quiet (runtime : ClientRuntime) : Prop :=
  runtime.control.any Phase.closing → runtime.state ≠ .running

structure Lives (before after : ClientRuntime) : Prop where
  dbVersion : after.dbVersion = before.dbVersion
  sink : after.runtimeEventSink = before.runtimeEventSink
  generation : after.generation = before.generation ∨
    after.generation = before.generation + 1 ∧ before.state ≠ .running
  stays : after.state = .running → before.state = .running →
    after.generation = before.generation ∧ after.invalidations = before.invalidations
  enters : after.state = .running → before.state ≠ .running →
    after.generation = before.generation + 1 ∧ after.invalidations = before.invalidations
  invalidations : after.invalidations = before.invalidations ∨ after.invalidations = {}

variable {runtime : ClientRuntime}

theorem Lives.refl (runtime : ClientRuntime) : Lives runtime runtime :=
  ⟨rfl, rfl, .inl rfl, fun _ _ => ⟨rfl, rfl⟩, fun running stopped => absurd running stopped,
    .inl rfl⟩

theorem shutDown_quiet {state : State} (stopped : state ≠ .running) (ending : Ending)
    (error : Bytes) (now : Int) : (runtime.shutDown state ending error now).Quiet :=
  fun _ => stopped

theorem shutDown_lives {state : State} (stopped : state ≠ .running) (ending : Ending)
    (error : Bytes) (now : Int) : Lives runtime (runtime.shutDown state ending error now) :=
  ⟨rfl, rfl, .inl rfl, fun running => absurd running stopped,
    fun running => absurd running stopped, .inl rfl⟩

theorem advance_quiet (quiet : runtime.Quiet) : runtime.advance.Quiet := by
  unfold Quiet at quiet
  unfold advance
  split <;> rename_i phase
  · simp [Quiet, phase]
  all_goals
    simp only [phase, Option.any_some, Phase.closing, Bool.false_eq_true, true_implies,
      false_implies] at quiet
  · split <;> simp [Quiet, Phase.closing]
  · simp [Quiet, Phase.closing]
  · simp [Quiet]
  · exact fun _ => quiet
  · exact fun _ => quiet
  · exact fun _ => quiet
  · simp [Quiet]
  · intro _
    dsimp only
    split
    · simp
    · exact quiet
  · exact fun _ => quiet
  · exact fun _ => quiet
  · simp [Quiet]

theorem advance_lives (quiet : runtime.Quiet) : Lives runtime runtime.advance := by
  unfold Quiet at quiet
  unfold advance
  split <;> rename_i phase
  · exact Lives.refl runtime
  all_goals
    simp only [phase, Option.any_some, Phase.closing, Bool.false_eq_true, true_implies,
      false_implies] at quiet
  · split
    · exact ⟨rfl, rfl, .inl rfl, fun _ _ => ⟨rfl, rfl⟩,
        fun running stopped => absurd running stopped, .inl rfl⟩
    · rename_i starting
      rw [not_not] at starting
      refine ⟨rfl, rfl, .inr ⟨rfl, by simp [starting]⟩, ?_, fun _ _ => ⟨rfl, rfl⟩, .inl rfl⟩
      intro _ running
      simp [starting] at running
  · exact ⟨rfl, rfl, .inl rfl, fun _ _ => ⟨rfl, rfl⟩,
      fun running stopped => absurd running stopped, .inl rfl⟩
  · exact ⟨rfl, rfl, .inl rfl, fun _ _ => ⟨rfl, rfl⟩,
      fun running stopped => absurd running stopped, .inl rfl⟩
  · exact ⟨rfl, rfl, .inl rfl, fun _ _ => ⟨rfl, rfl⟩, fun running => absurd running quiet, .inl rfl⟩
  · exact ⟨rfl, rfl, .inl rfl, fun _ _ => ⟨rfl, rfl⟩, fun running => absurd running quiet, .inl rfl⟩
  · exact ⟨rfl, rfl, .inl rfl, fun running => absurd running quiet,
      fun running => absurd running quiet, .inr rfl⟩
  · exact ⟨rfl, rfl, .inl rfl, by simp, by simp, .inl rfl⟩
  · have stopped : (if runtime.state = .stopping then State.stopped else runtime.state) ≠
        .running := by
      split
      · simp
      · exact quiet
    exact ⟨rfl, rfl, .inl rfl, fun running => absurd running stopped,
      fun running => absurd running stopped, .inl rfl⟩
  · exact ⟨rfl, rfl, .inl rfl, fun running => absurd running quiet,
      fun running => absurd running quiet, .inl rfl⟩
  · exact ⟨rfl, rfl, .inr ⟨rfl, quiet⟩, fun running => absurd running quiet,
      fun running => absurd running quiet, .inl rfl⟩
  · exact ⟨rfl, rfl, .inl rfl, fun running => absurd running quiet,
      fun running => absurd running quiet, .inr rfl⟩

theorem live_enters {call : LifeCall} (stopped : runtime.state ≠ .running)
    (running : (runtime.live call).state = .running) :
    call = .advance ∧ runtime.control = some .enterRunning := by
  cases call with
  | start databaseFits =>
      simp only [live, start] at running
      split at running
      · exact absurd running stopped
      · simp at running
  | stop now =>
      simp only [live, stop] at running
      split at running
      · exact absurd running stopped
      · simp [shutDown] at running
  | logout now =>
      simp only [live, logout] at running
      split at running
      · exact absurd running stopped
      · split at running
        · exact absurd running stopped
        · simp [shutDown] at running
  | destroy now =>
      simp only [live, destroy] at running
      split at running
      · exact absurd running stopped
      · simp [shutDown] at running
  | advance =>
      refine ⟨rfl, ?_⟩
      simp only [live, advance] at running
      split at running <;> try simp_all
      split at running <;> simp_all

theorem advance_settled {runtime : ClientRuntime} (quiet : runtime.Quiet)
    (stopped : runtime.advance.state ≠ .running) : runtime.state ≠ .running := by
  intro running
  have closing : ¬runtime.control.any Phase.closing := fun closing => quiet closing running
  unfold advance at stopped
  split at stopped <;> simp_all [Phase.closing]

theorem live_leaves {runtime : ClientRuntime} (quiet : runtime.Quiet) {call : LifeCall}
    (running : runtime.state = .running) (stopped : (runtime.live call).state ≠ .running) :
    runtime.control = none ∧ call ≠ .advance ∧ ∀ databaseFits, call ≠ .start databaseFits := by
  cases call with
  | start databaseFits =>
      simp only [live, start, running] at stopped
      simp [running] at stopped
  | advance => exact absurd running (advance_settled quiet stopped)
  | stop now =>
      refine ⟨?_, by simp, by simp⟩
      by_contra held
      simp [live, stop, held, running] at stopped
  | logout now =>
      refine ⟨?_, by simp, by simp⟩
      by_contra held
      simp [live, logout, held, running] at stopped
  | destroy now =>
      refine ⟨?_, by simp, by simp⟩
      by_contra held
      simp [live, destroy, held, running] at stopped

theorem live_generation {runtime : ClientRuntime} {call : LifeCall} (other : call ≠ .advance) :
    (runtime.live call).generation = runtime.generation := by
  cases call with
  | start databaseFits =>
      simp only [live, start]
      split <;> rfl
  | stop now =>
      simp only [live, stop]
      split <;> rfl
  | logout now =>
      simp only [live, logout]
      split
      · rfl
      · split <;> rfl
  | destroy now =>
      simp only [live, destroy]
      split <;> rfl
  | advance => exact absurd rfl other

theorem stoppable_eq_false {runtime : ClientRuntime} (idle : runtime.stoppable = false) :
    runtime.state ≠ .running := by
  intro running
  simp [stoppable, running] at idle

theorem live_quiet (quiet : runtime.Quiet) (call : LifeCall) : (runtime.live call).Quiet := by
  cases call with
  | start databaseFits =>
      simp only [live, start]
      split
      · exact quiet
      · simp [Quiet, Phase.closing]
  | stop now =>
      simp only [live, stop]
      split
      · exact quiet
      · exact shutDown_quiet (by simp) .stop stopReason now
  | logout now =>
      simp only [live, logout]
      split
      · exact quiet
      · split
        · rename_i idle
          exact fun _ => @stoppable_eq_false runtime (by simpa using idle)
        · exact shutDown_quiet (by simp) .logout stopReason now
  | destroy now =>
      simp only [live, destroy]
      split
      · exact quiet
      · exact shutDown_quiet (by simp) .destroy destroyReason now
  | advance => exact advance_quiet quiet

theorem live_lives (quiet : runtime.Quiet) (call : LifeCall) : Lives runtime (runtime.live call) := by
  cases call with
  | start databaseFits =>
      simp only [live, start]
      split
      · exact Lives.refl runtime
      · exact ⟨rfl, rfl, .inl rfl, by simp, by simp, .inl rfl⟩
  | stop now =>
      simp only [live, stop]
      split
      · exact Lives.refl runtime
      · exact shutDown_lives (by simp) .stop stopReason now
  | logout now =>
      simp only [live, logout]
      split
      · exact Lives.refl runtime
      · split
        · exact ⟨rfl, rfl, .inl rfl, fun _ _ => ⟨rfl, rfl⟩,
            fun running stopped => absurd running stopped, .inl rfl⟩
        · exact shutDown_lives (by simp) .logout stopReason now
  | destroy now =>
      simp only [live, destroy]
      split
      · exact Lives.refl runtime
      · exact shutDown_lives (by simp) .destroy destroyReason now
  | advance => exact advance_lives quiet

end ClientRuntime

end Jitong
