import Jitong.AccountView

/-!
The state machine of the authentication over any sequence of its requests and signals: the ids it
hands out, the outcome of each operation, results of an old generation, and what a kick stops.
-/

namespace Jitong

inductive AuthCall
  | requestPasswordLogin (account : Bytes)
  | requestTokenLogin (account : Bytes)
  | requestRefreshForLogin (account : Bytes)
  | requestTokenLoginOnConnected
  | requestRefresh
  | requestLogout
  | cancelAuthentication
  | onConnected
  | onDisconnected (intentional : Bool)
  | onAuthSucceeded (generation : UInt32) (userId : Int32)
  | onAuthFailed (generation : UInt32) (error : AuthError)
  | onRefreshSucceeded (generation : UInt32)
  | onRefreshFailed (generation : UInt32) (error : AuthError)
  | onKicked (reason : AuthError)
  | onLogoutCompleted
  deriving DecidableEq

namespace AuthCall

def starts : AuthCall → Bool
  | requestPasswordLogin _ | requestTokenLogin _ | requestRefreshForLogin _ => true
  | _ => false

def resultOf : AuthCall → Option UInt32
  | onAuthSucceeded generation _ | onAuthFailed generation _ | onRefreshSucceeded generation
  | onRefreshFailed generation _ => some generation
  | _ => none

end AuthCall

namespace AuthStateMachine

def call (machine : AuthStateMachine) : AuthCall → UInt64 × List Action × AuthStateMachine
  | .requestPasswordLogin account => machine.requestPasswordLogin account
  | .requestTokenLogin account => machine.requestTokenLogin account
  | .requestRefreshForLogin account => machine.requestRefreshForLogin account
  | .requestTokenLoginOnConnected => machine.requestTokenLoginOnConnected
  | .requestRefresh => machine.requestRefresh
  | .requestLogout => machine.requestLogout
  | .cancelAuthentication => (0, machine.cancelAuthentication)
  | .onConnected => (0, machine.onConnected, machine)
  | .onDisconnected intentional => (0, machine.onDisconnected intentional)
  | .onAuthSucceeded generation userId => (0, machine.onAuthSucceeded generation userId)
  | .onAuthFailed generation error => (0, machine.onAuthFailed generation error)
  | .onRefreshSucceeded generation => (0, machine.onRefreshSucceeded generation)
  | .onRefreshFailed generation error => (0, machine.onRefreshFailed generation error)
  | .onKicked reason => (0, machine.onKicked reason)
  | .onLogoutCompleted => (0, machine.onLogoutCompleted)

end AuthStateMachine

def Action.outcome (action : Action) : Option AccountEvent :=
  match action.type with
  | .emitEvent event =>
      if event.type = .loginSucceeded ∨ event.type = .loginFailed ∨ event.type = .refreshSucceeded ∨
          event.type = .refreshFailed then some event
      else none
  | _ => none

/-- What a sequence of calls leads to: the machine, the ids it has handed out to new operations,
and its actions, each with the number of operations that were begun by then. -/
structure AuthTrace where
  machine : AuthStateMachine := {}
  ids : List UInt64 := []
  actions : List (Nat × Action) := []

namespace AuthTrace

def step (trace : AuthTrace) (call : AuthCall) : AuthTrace :=
  let (id, actions, after) := trace.machine.call call
  let ids := if after.nextOperationId = trace.machine.nextOperationId then trace.ids
    else trace.ids ++ [id]
  { machine := after
    ids := ids
    actions := trace.actions ++ actions.map fun action => (ids.length, action) }

def run (calls : List AuthCall) : AuthTrace := calls.foldl step {}

def outcomes (trace : AuthTrace) : List (Nat × AccountEvent) :=
  trace.actions.filterMap fun entry => entry.2.outcome.map fun event => (entry.1, event)

end AuthTrace

namespace AuthStateMachine

variable (machine : AuthStateMachine)

@[simp] theorem transitionTo_outcome (next : AccountState) :
    (machine.transitionTo next).1.filterMap Action.outcome = [] := by
  unfold transitionTo
  split <;> rfl

theorem transitionTo_append_outcome (next : AccountState) {last : Action}
    (silent : last.outcome = none) :
    ((machine.transitionTo next).1 ++ [last]).filterMap Action.outcome = [] := by
  rw [List.filterMap_append, transitionTo_outcome, List.filterMap_cons_none silent]
  rfl

inductive Effect : UInt64 → List Action → AuthStateMachine → Prop
  | idle {id : UInt64} {actions : List Action} {after : AuthStateMachine}
      (next : after.nextOperationId = machine.nextOperationId)
      (joined : id = 0 ∨ id = machine.operationId) (silent : actions.filterMap Action.outcome = [])
      (stays : after.authenticationInFlight = true →
        machine.authenticationInFlight = true ∧ after.operationId = machine.operationId) :
      Effect id actions after
  | begins {actions : List Action} {after : AuthStateMachine}
      (next : after.nextOperationId = machine.nextOperationId + 1)
      (own : after.operationId = machine.nextOperationId)
      (silent : actions.filterMap Action.outcome = []) :
      Effect machine.nextOperationId actions after
  | ends {actions : List Action} {after : AuthStateMachine} {event : AccountEvent}
      (next : after.nextOperationId = machine.nextOperationId)
      (busy : machine.authenticationInFlight = true)
      (said : actions.filterMap Action.outcome = [event])
      (own : event.operationId = machine.operationId)
      (settled : after.authenticationInFlight = false) : Effect 0 actions after

variable {machine}

theorem idle_self {id : UInt64} {actions : List Action} (joined : id = 0 ∨ id = machine.operationId)
    (silent : actions.filterMap Action.outcome = []) : machine.Effect id actions machine :=
  .idle rfl joined silent fun busy => ⟨busy, rfl⟩

theorem begins_transition {started : AuthStateMachine} (state : AccountState)
    (action : UInt64 → Action) (silent : ∀ id, (action id).outcome = none)
    (next : started.nextOperationId = machine.nextOperationId + 1)
    (own : started.operationId = machine.nextOperationId) :
    machine.Effect (started.transitionTo state).2.operationId
      ((started.transitionTo state).1 ++ [action (started.transitionTo state).2.operationId])
      (started.transitionTo state).2 := by
  have given : (started.transitionTo state).2.operationId = machine.nextOperationId := by
    rw [transitionTo_machine]
    exact own
  rw [given]
  refine .begins ?_ given (transitionTo_append_outcome _ _ (silent _))
  rw [transitionTo_machine]
  exact next

theorem requestLogin_effect (account : Bytes) (method : AuthMethod) :
    machine.Effect (machine.requestLogin account method).1 (machine.requestLogin account method).2.1
      (machine.requestLogin account method).2.2 := by
  unfold requestLogin
  split
  · split
    · exact idle_self (.inr rfl) rfl
    · exact idle_self (.inl rfl) rfl
  · split
    · exact idle_self (.inr rfl) rfl
    · exact begins_transition .authenticating (fun id => { type := .connect, operationId := id })
        (fun _ => rfl) rfl rfl

theorem ends_emit {after : AuthStateMachine} (front back : List Action) (speaker : AuthStateMachine)
    (type : AccountEventType) (error : AuthError) (userId : Int32)
    (next : after.nextOperationId = machine.nextOperationId)
    (busy : machine.authenticationInFlight = true) (own : speaker.operationId = machine.operationId)
    (told : type = .loginSucceeded ∨ type = .loginFailed ∨ type = .refreshSucceeded ∨
      type = .refreshFailed)
    (before : front.filterMap Action.outcome = []) (behind : back.filterMap Action.outcome = [])
    (settled : after.authenticationInFlight = false) :
    machine.Effect 0 (front ++ speaker.emit type error userId :: back) after := by
  obtain ⟨event, said, named⟩ : ∃ event, (speaker.emit type error userId).outcome = some event ∧
      event.operationId = speaker.operationId := ⟨_, if_pos told, rfl⟩
  refine .ends next busy ?_ (named.trans own) settled
  rw [List.filterMap_append, before, List.nil_append, List.filterMap_cons_some said, behind]

theorem onDisconnected_effect (intentional : Bool) :
    machine.Effect 0 (machine.onDisconnected intentional).1
      (machine.onDisconnected intentional).2 := by
  unfold onDisconnected
  split
  · exact idle_self (.inl rfl) rfl
  · split
    · exact idle_self (.inl rfl) rfl
    · split
      · exact idle_self (.inl rfl) rfl
      · split
        · rename_i waiting
          simp only [transitionTo_machine]
          exact ends_emit [] _ machine .loginFailed _ _ rfl (by simp [authenticationInFlight, waiting])
            rfl (by simp) rfl (transitionTo_outcome _ _) rfl
        · exact idle_self (.inl rfl) rfl

theorem onAuthSucceeded_effect (generation : UInt32) (userId : Int32) :
    machine.Effect 0 (machine.onAuthSucceeded generation userId).1
      (machine.onAuthSucceeded generation userId).2 := by
  unfold onAuthSucceeded
  split
  · exact idle_self (.inl rfl) rfl
  · split
    · exact idle_self (.inl rfl) rfl
    · rename_i waiting
      have busy : machine.authenticationInFlight = true := by
        simpa [authenticationInFlight] using .inl (not_not.mp waiting)
      simp only [transitionTo_machine]
      exact ends_emit _ [] _ .loginSucceeded _ _ rfl busy rfl (by simp) (transitionTo_outcome _ _) rfl
        rfl

theorem onAuthFailed_effect (generation : UInt32) (error : AuthError) :
    machine.Effect 0 (machine.onAuthFailed generation error).1
      (machine.onAuthFailed generation error).2 := by
  unfold onAuthFailed
  split
  · exact idle_self (.inl rfl) rfl
  · split
    · exact idle_self (.inl rfl) rfl
    · rename_i waiting
      have busy : machine.authenticationInFlight = true := by
        simpa [authenticationInFlight] using .inl (not_not.mp waiting)
      simp only [transitionTo_machine]
      exact ends_emit [] _ machine .loginFailed _ _ rfl busy rfl (by simp) rfl
        (transitionTo_append_outcome _ _ rfl) rfl

theorem onRefreshSucceeded_effect (generation : UInt32) :
    machine.Effect 0 (machine.onRefreshSucceeded generation).1
      (machine.onRefreshSucceeded generation).2 := by
  unfold onRefreshSucceeded
  split
  · exact idle_self (.inl rfl) rfl
  · split
    · exact idle_self (.inl rfl) rfl
    · rename_i waiting
      have busy : machine.authenticationInFlight = true := by
        simpa [authenticationInFlight] using .inr (not_not.mp waiting)
      simp only [transitionTo_machine]
      exact ends_emit _ [] _ .refreshSucceeded _ _ rfl busy rfl (by simp) (transitionTo_outcome _ _)
        rfl rfl

theorem onRefreshFailed_effect (generation : UInt32) (error : AuthError) :
    machine.Effect 0 (machine.onRefreshFailed generation error).1
      (machine.onRefreshFailed generation error).2 := by
  unfold onRefreshFailed
  split
  · exact idle_self (.inl rfl) rfl
  · split
    · exact idle_self (.inl rfl) rfl
    · rename_i waiting
      have busy : machine.authenticationInFlight = true := by
        simpa [authenticationInFlight] using .inr (not_not.mp waiting)
      dsimp only
      split
      · simp only [transitionTo_machine]
        exact ends_emit [] _ machine .refreshFailed _ _ rfl busy rfl (by simp) rfl
          (transitionTo_append_outcome _ _ rfl) rfl
      · simp only [transitionTo_machine]
        exact ends_emit [] _ machine .refreshFailed _ _ rfl busy rfl (by simp) rfl
          (transitionTo_outcome _ _) rfl

theorem call_effect (machine : AuthStateMachine) (call : AuthCall) :
    machine.Effect (machine.call call).1 (machine.call call).2.1 (machine.call call).2.2 := by
  cases call with
  | requestPasswordLogin account => exact requestLogin_effect account .password
  | requestTokenLogin account => exact requestLogin_effect account .accessToken
  | requestRefreshForLogin account =>
      simp only [AuthStateMachine.call, requestRefreshForLogin]
      split
      · exact idle_self (.inl rfl) rfl
      · exact begins_transition .refreshing (fun id => { type := .connect, operationId := id })
          (fun _ => rfl) rfl rfl
  | requestTokenLoginOnConnected =>
      simp only [AuthStateMachine.call, requestTokenLoginOnConnected]
      split
      · exact idle_self (.inl rfl) rfl
      · exact begins_transition .authenticating
          (fun id => { type := .sendTokenLogin, operationId := id }) (fun _ => rfl) rfl rfl
  | requestRefresh =>
      simp only [AuthStateMachine.call, requestRefresh]
      split
      · exact idle_self (.inr rfl) rfl
      · split
        · exact idle_self (.inl rfl) rfl
        · exact begins_transition .refreshing
            (fun id => { type := .sendRefresh, operationId := id }) (fun _ => rfl) rfl rfl
  | requestLogout => exact .begins rfl rfl rfl
  | cancelAuthentication =>
      simp only [AuthStateMachine.call, cancelAuthentication, transitionTo_machine]
      refine .idle rfl (.inl rfl) ?_ fun busy => by simp [authenticationInFlight] at busy
      rw [List.filterMap_append, List.filterMap_append, transitionTo_outcome]
      rfl
  | onConnected =>
      refine idle_self (.inl rfl) ?_
      simp only [AuthStateMachine.call, onConnected]
      split
      · split <;> rfl
      · rfl
      · rfl
  | onDisconnected intentional => exact onDisconnected_effect intentional
  | onAuthSucceeded generation userId => exact onAuthSucceeded_effect generation userId
  | onAuthFailed generation error => exact onAuthFailed_effect generation error
  | onRefreshSucceeded generation => exact onRefreshSucceeded_effect generation
  | onRefreshFailed generation error => exact onRefreshFailed_effect generation error
  | onKicked reason =>
      simp only [AuthStateMachine.call, onKicked, transitionTo_machine]
      refine .idle rfl (.inl rfl) ?_ fun busy => by simp [authenticationInFlight] at busy
      rw [List.filterMap_append, List.filterMap_append, transitionTo_outcome]
      rfl
  | onLogoutCompleted =>
      simp only [AuthStateMachine.call, onLogoutCompleted, transitionTo_machine]
      refine .idle rfl (.inl rfl) ?_ fun busy => by simp [authenticationInFlight] at busy
      rw [List.filterMap_append, transitionTo_outcome]
      rfl

end AuthStateMachine

namespace AuthStateMachine

variable {machine : AuthStateMachine}

theorem call_stale {call : AuthCall} {generation : UInt32} (result : call.resultOf = some generation)
    (stale : generation ≠ machine.generation) : machine.call call = (0, [], machine) := by
  cases call <;> simp only [AuthCall.resultOf, Option.some.injEq, reduceCtorEq] at result
  all_goals
    subst result
    simp only [AuthStateMachine.call, onAuthSucceeded, onAuthFailed, onRefreshSucceeded,
      onRefreshFailed, if_pos stale]

def Out (machine : AuthStateMachine) : Prop :=
  machine.state = .loggedOut ∨ machine.state = .loggedOutKicked

theorem transitionTo_reconnects (next : AccountState) {action : Action}
    (member : action ∈ (machine.transitionTo next).1) : action.type ≠ .scheduleReconnect := by
  unfold transitionTo at member
  split at member
  · exact absurd member List.not_mem_nil
  · rw [List.mem_singleton.mp member]
    exact nofun

theorem emit_reconnects (type : AccountEventType) (error : AuthError) (userId : Int32) :
    (machine.emit type error userId).type ≠ .scheduleReconnect := by
  simp [emit]

theorem Out.call (rests : machine.Out) {call : AuthCall} (unstarted : call.starts = false) :
    (machine.call call).2.2.Out ∧
      ∀ action ∈ (machine.call call).2.1, action.type ≠ .scheduleReconnect := by
  have idle : machine.state ≠ .authenticating ∧ machine.state ≠ .authenticated ∧
      machine.state ≠ .refreshing := by
    rcases rests with state | state <;> rw [state] <;> decide
  have silent : ∀ action ∈ ([] : List Action), action.type ≠ .scheduleReconnect :=
    fun _ member => absurd member List.not_mem_nil
  cases call with
  | requestPasswordLogin account => cases unstarted
  | requestTokenLogin account => cases unstarted
  | requestRefreshForLogin account => cases unstarted
  | requestTokenLoginOnConnected =>
      simp only [AuthStateMachine.call, requestTokenLoginOnConnected, if_pos idle.2.1]
      exact ⟨rests, silent⟩
  | requestRefresh =>
      simp only [AuthStateMachine.call, requestRefresh, if_neg idle.2.2, if_pos idle.2.1]
      exact ⟨rests, by simp [rejectBusy]⟩
  | requestLogout => exact ⟨rests, by simp [AuthStateMachine.call, AuthStateMachine.requestLogout]⟩
  | cancelAuthentication =>
      simp only [AuthStateMachine.call, cancelAuthentication, transitionTo_machine]
      refine ⟨.inl rfl, fun action member => ?_⟩
      simp only [List.mem_append, List.mem_singleton] at member
      rcases member with (rfl | member) | rfl
      · simp
      · exact transitionTo_reconnects _ member
      · simp
  | onConnected =>
      refine ⟨rests, ?_⟩
      simp only [AuthStateMachine.call, onConnected]
      split
      · rename_i state
        exact absurd state idle.1
      · rename_i state
        exact absurd state idle.2.2
      · exact silent
  | onDisconnected intentional =>
      simp only [AuthStateMachine.call, onDisconnected, idle.1, idle.2.1, idle.2.2, or_self, if_false,
        ite_self]
      exact ⟨rests, silent⟩
  | onAuthSucceeded generation userId =>
      simp only [AuthStateMachine.call, onAuthSucceeded, if_pos idle.1, ite_self]
      exact ⟨rests, silent⟩
  | onAuthFailed generation error =>
      simp only [AuthStateMachine.call, onAuthFailed, if_pos idle.1, ite_self]
      exact ⟨rests, silent⟩
  | onRefreshSucceeded generation =>
      simp only [AuthStateMachine.call, onRefreshSucceeded, if_pos idle.2.2, ite_self]
      exact ⟨rests, silent⟩
  | onRefreshFailed generation error =>
      simp only [AuthStateMachine.call, onRefreshFailed, if_pos idle.2.2, ite_self]
      exact ⟨rests, silent⟩
  | onKicked reason =>
      simp only [AuthStateMachine.call, onKicked, transitionTo_machine]
      refine ⟨.inr rfl, fun action member => ?_⟩
      simp only [List.mem_append, List.mem_cons, List.not_mem_nil, or_false] at member
      rcases member with (rfl | member) | rfl | rfl
      · simp
      · exact transitionTo_reconnects _ member
      · exact emit_reconnects _ _ _
      · simp
  | onLogoutCompleted =>
      simp only [AuthStateMachine.call, onLogoutCompleted, transitionTo_machine]
      refine ⟨.inl rfl, fun action member => ?_⟩
      simp only [List.mem_append, List.mem_singleton] at member
      rcases member with member | rfl
      · exact transitionTo_reconnects _ member
      · exact emit_reconnects _ _ _

end AuthStateMachine

structure AuthTrace.Sound (trace : AuthTrace) : Prop where
  next : trace.machine.nextOperationId = UInt64.ofNat (trace.ids.length + 1)
  numbered : trace.ids = (List.range trace.ids.length).map fun index => UInt64.ofNat (index + 1)
  once : (trace.outcomes.map Prod.fst).Nodup
  named : ∀ entry ∈ trace.outcomes, 0 < entry.1 ∧ entry.1 ≤ trace.ids.length ∧
    entry.2.operationId = UInt64.ofNat entry.1
  /-- The operation in flight is the last one that was begun, and it has no outcome yet. -/
  latest : trace.machine.authenticationInFlight = true →
    0 < trace.ids.length ∧ trace.machine.operationId = UInt64.ofNat trace.ids.length ∧
      trace.ids.length ∉ trace.outcomes.map Prod.fst

namespace AuthTrace

variable {trace : AuthTrace}

theorem outcomes_step (call : AuthCall) : (trace.step call).outcomes = trace.outcomes ++
    ((trace.machine.call call).2.1.filterMap Action.outcome).map fun event =>
      ((trace.step call).ids.length, event) := by
  simp only [outcomes, step, List.filterMap_append, List.filterMap_map, List.map_filterMap]
  congr 2

theorem Sound.step (sound : trace.Sound) (call : AuthCall) : (trace.step call).Sound := by
  have told := @outcomes_step trace call
  have machine : (trace.step call).machine = (trace.machine.call call).2.2 := rfl
  have ids : (trace.step call).ids = if (trace.machine.call call).2.2.nextOperationId =
      trace.machine.nextOperationId then trace.ids else trace.ids ++ [(trace.machine.call call).1] :=
    rfl
  have effect := trace.machine.call_effect call
  generalize trace.step call = after at *
  generalize trace.machine.call call = result at *
  obtain ⟨id, actions, final⟩ := result
  simp only at told machine ids effect
  cases effect with
  | idle next joined silent stays =>
      rw [if_pos next] at ids
      rw [silent, List.map_nil, List.append_nil] at told
      refine ⟨?_, ?_, ?_, ?_, ?_⟩
      · rw [machine, next, sound.next, ids]
      · rw [ids]
        exact sound.numbered
      · rw [told]
        exact sound.once
      · rw [told, ids]
        exact sound.named
      · rw [machine, told, ids]
        intro busy
        obtain ⟨before, same⟩ := stays busy
        rw [same]
        exact sound.latest before
  | begins next own silent =>
      have moved : final.nextOperationId ≠ trace.machine.nextOperationId := by
        rw [next]
        intro same
        simp at same
      rw [if_neg moved] at ids
      rw [silent, List.map_nil, List.append_nil] at told
      have length : after.ids.length = trace.ids.length + 1 := by
        rw [ids, List.length_append, List.length_singleton]
      have earlier : trace.ids.length + 1 ∉ trace.outcomes.map Prod.fst := by
        intro member
        obtain ⟨entry, listed, same⟩ := List.mem_map.mp member
        have bound := (sound.named entry listed).2.1
        omega
      refine ⟨?_, ?_, ?_, ?_, ?_⟩
      · rw [machine, next, sound.next, length]
        simp
      · rw [length, List.range_succ, List.map_append, List.map_singleton, ← sound.numbered, ids,
          sound.next]
      · rw [told]
        exact sound.once
      · rw [told, length]
        intro entry listed
        obtain ⟨positive, bound, named⟩ := sound.named entry listed
        exact ⟨positive, by omega, named⟩
      · rw [machine, told, length, own, sound.next]
        exact fun _ => ⟨Nat.succ_pos _, rfl, earlier⟩
  | ends next busy said own settled =>
      rw [if_pos next] at ids
      rw [said, List.map_singleton] at told
      obtain ⟨positive, current, unsaid⟩ := sound.latest busy
      refine ⟨?_, ?_, ?_, ?_, ?_⟩
      · rw [machine, next, sound.next, ids]
      · rw [ids]
        exact sound.numbered
      · rw [told, List.map_append, List.map_singleton, ids, ← List.concat_eq_append]
        exact List.Nodup.concat unsaid sound.once
      · rw [told, ids]
        intro entry listed
        rcases List.mem_append.mp listed with earlier | newest
        · exact sound.named entry earlier
        · rw [List.mem_singleton.mp newest]
          exact ⟨positive, le_refl _, own.trans current⟩
      · rw [machine, settled]
        exact nofun

theorem run_sound (calls : List AuthCall) : (run calls).Sound := by
  refine List.foldlRecOn calls step ?_ fun trace sound call _ => sound.step call
  exact ⟨rfl, rfl, .nil, fun _ member => absurd member List.not_mem_nil, nofun⟩

theorem toNat_ofNat {number : Nat} (small : number < 2 ^ 64) : (UInt64.ofNat number).toNat = number := by
  rw [UInt64.toNat_ofNat']
  exact Nat.mod_eq_of_lt small

theorem Sound.increasing (sound : trace.Sound) (few : trace.ids.length < 2 ^ 64) :
    trace.ids.Pairwise (· < ·) := by
  rw [sound.numbered, List.pairwise_map]
  refine List.pairwise_lt_range.imp_of_mem fun {first second} _ member less => ?_
  have bound := List.mem_range.mp member
  rw [UInt64.lt_iff_toNat_lt, toNat_ofNat (by omega), toNat_ofNat (by omega)]
  omega

theorem Sound.ids_once (sound : trace.Sound) (few : trace.ids.length < 2 ^ 64) :
    (trace.outcomes.map fun entry => entry.2.operationId).Nodup := by
  have same : (trace.outcomes.map fun entry => entry.2.operationId) =
      (trace.outcomes.map Prod.fst).map UInt64.ofNat := by
    rw [List.map_map]
    exact List.map_congr_left fun entry member => (sound.named entry member).2.2
  rw [same]
  refine sound.once.map_on fun first firstTold second secondTold equal => ?_
  obtain ⟨one, oneTold, rfl⟩ := List.mem_map.mp firstTold
  obtain ⟨other, otherTold, rfl⟩ := List.mem_map.mp secondTold
  have oneBound := (sound.named one oneTold).2.1
  have otherBound := (sound.named other otherTold).2.1
  have numbers := congrArg UInt64.toNat equal
  rwa [toNat_ofNat (by omega), toNat_ofNat (by omega)] at numbers

theorem kicked_rests {front : List AuthCall} (kicked : (run front).machine.Out) (back : List AuthCall) :
    (∀ call ∈ back, call.starts = false) → (run (front ++ back)).machine.Out ∧
      ∃ more, (run (front ++ back)).actions = (run front).actions ++ more ∧
        ∀ entry ∈ more, entry.2.type ≠ .scheduleReconnect := by
  induction back using List.reverseRecOn with
  | nil =>
      intro _
      rw [List.append_nil]
      exact ⟨kicked, [], (List.append_nil _).symm, fun _ member => absurd member List.not_mem_nil⟩
  | append_singleton back call ih =>
      intro unstarted
      obtain ⟨rests, more, grown, silent⟩ := ih fun other member =>
        unstarted other (List.mem_append_left _ member)
      obtain ⟨still, quiet⟩ := rests.call (unstarted call (by simp))
      have last : run (front ++ (back ++ [call])) = (run (front ++ back)).step call := by
        rw [← List.append_assoc, run, List.foldl_append, ← run]
        rfl
      rw [last]
      refine ⟨still, more ++ ((run (front ++ back)).machine.call call).2.1.map fun action =>
        (((run (front ++ back)).step call).ids.length, action), ?_, ?_⟩
      · rw [← List.append_assoc, ← grown]
        rfl
      · intro entry member
        rcases List.mem_append.mp member with earlier | newest
        · exact silent entry earlier
        · obtain ⟨action, told, rfl⟩ := List.mem_map.mp newest
          exact quiet action told

end AuthTrace

structure AuthDisciplined (calls : List AuthCall) : Prop where
  stale : ∀ call generation, call.resultOf = some generation →
    generation ≠ (AuthTrace.run calls).machine.generation →
      (AuthTrace.run calls).machine.call call = (0, [], (AuthTrace.run calls).machine)
  /-- An operation, which is known by its place among those begun, has one outcome at most. -/
  once : ((AuthTrace.run calls).outcomes.map Prod.fst).Nodup
  named : ∀ entry ∈ (AuthTrace.run calls).outcomes, 0 < entry.1 ∧
    (AuthTrace.run calls).ids[entry.1 - 1]? = some entry.2.operationId
  /-- A request is refused, joins the operation of the machine, or is given the next id. -/
  returned : ∀ call, let machine := (AuthTrace.run calls).machine
    (machine.call call).2.2.nextOperationId = machine.nextOperationId ∧
      ((machine.call call).1 = 0 ∨ (machine.call call).1 = machine.operationId) ∨
    (AuthTrace.run (calls ++ [call])).ids = (AuthTrace.run calls).ids ++ [(machine.call call).1]
  /-- The ids handed out increase, and tell the operations apart, until 64 bits are used up. -/
  increasing : (AuthTrace.run calls).ids.length < 2 ^ 64 →
    (AuthTrace.run calls).ids.Pairwise (· < ·) ∧
      ((AuthTrace.run calls).outcomes.map fun entry => entry.2.operationId).Nodup
  /-- From a kick on, no reconnect is scheduled and no authentication begins without a start. -/
  kicked : ∀ front back, front ++ back = calls →
    (AuthTrace.run front).machine.state = .loggedOutKicked →
      (∀ call ∈ back, call.starts = false) → (AuthTrace.run calls).machine.Out ∧
        ∃ more, (AuthTrace.run calls).actions = (AuthTrace.run front).actions ++ more ∧
          ∀ entry ∈ more, entry.2.type ≠ .scheduleReconnect

theorem authStateMachine_disciplined (calls : List AuthCall) : AuthDisciplined calls := by
  have sound := AuthTrace.run_sound calls
  refine ⟨fun call generation result old => AuthStateMachine.call_stale result old, sound.once, ?_, ?_,
    fun few => ⟨sound.increasing few, sound.ids_once few⟩, ?_⟩
  · intro entry told
    obtain ⟨positive, bound, own⟩ := sound.named entry told
    refine ⟨positive, ?_⟩
    rw [sound.numbered, List.getElem?_map, List.getElem?_range (by omega), Option.map_some, own,
      Nat.sub_add_cancel positive]
  · intro call machine
    by_cases same : (machine.call call).2.2.nextOperationId = machine.nextOperationId
    · refine .inl ⟨same, ?_⟩
      have effect := machine.call_effect call
      generalize machine.call call = result at *
      obtain ⟨id, actions, after⟩ := result
      simp only at same effect
      cases effect with
      | idle _ joined _ _ => exact joined
      | begins next _ _ =>
          rw [next] at same
          simp at same
      | ends _ _ _ _ _ => exact .inl rfl
    · refine .inr ?_
      rw [AuthTrace.run, List.foldl_append]
      exact if_neg same
  · rintro front back rfl state unstarted
    exact AuthTrace.kicked_rests (.inr state) back unstarted

end Jitong
