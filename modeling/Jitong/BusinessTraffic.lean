import Jitong.PlaintextTraffic
import Jitong.SendGate

/-!
What the runtime hands to `ClientCore::sendPacket`: the outbox pump, the gap timer and the
requests of the user look at the gate and at the connection, and send later.
-/

namespace Jitong

open Lib

/-- A thread that sends: it has seen the gate open, it is at the top of the loop of `flushOutbox`
with so many attempts left, or it is past its last look at the connection. -/
inductive SenderStage
  | gateSeen (outbox : Bool)
  | looping (left : Nat)
  | handing (left : Nat)
  deriving DecidableEq

/-- The handle and its core, with what is true of the present connection: its number, whether its
handshake is complete and whether a login on it was accepted. A packet of the runtime goes with the
number of the connection that had all this when it was handed over; `waiting` has one entry for each
task that waits for the IO thread, and `travelled` the connections that the packets went out on. -/
structure SendTraffic where
  handle : SdkHandle
  core : ClientCore
  connections : Nat := 0
  secured : Bool := false
  accepted : Bool := false
  senders : List SenderStage := []
  waiting : List (Option (Option Nat)) := []
  travelled : List (Option Nat × Nat) := []

/-- `core` is what the core does but for the packets of the runtime; a sender begins with its look
at the gate, and goes on with so many claimed attempts and with its next packet. -/
inductive SendTrafficEvent
  | account (env : Surroundings) (call : AccountCall)
  | core (event : CoreEvent)
  | createRuntime
  | goOn
  | destroyRuntime
  | beginSender (outbox : Bool)
  | sender (index claimed : Nat) (type : UInt32) (payload : Bytes)

namespace SendTraffic

def authenticatedOn (traffic : SendTraffic) : Option Nat :=
  if traffic.core.isOpen && traffic.secured && traffic.accepted then some traffic.connections
  else none

def travel (traffic : SendTraffic) (handed : Option Nat) : SendTraffic :=
  if traffic.core.isOpen then
    { traffic with travelled := traffic.travelled ++ [(handed, traffic.connections)] }
  else traffic

def handOver (traffic : SendTraffic) (type : UInt32) (payload : Bytes) : SendTraffic :=
  let core := traffic.core.sendPacket type payload
  if traffic.core.established then
    { traffic with core, waiting := traffic.waiting ++ [some traffic.authenticatedOn] }
  else { traffic with core }.travel traffic.authenticatedOn

variable (ssl : OpenSsl) (proto : AppProto)

def runPosted (traffic : SendTraffic) (works : Bool) : SendTraffic :=
  let core := traffic.core.runPosted ssl proto works
  match traffic.waiting with
  | [] => { traffic with core }
  | none :: waiting => { traffic with core, waiting }
  | some handed :: waiting =>
      let traffic' := { traffic with core, waiting }
      if traffic.core.made.length < core.made.length then traffic'.travel handed else traffic'

def coreStep (traffic : SendTraffic) (event : CoreEvent) : SendTraffic :=
  let core := traffic.core.step ssl proto event
  let fresh := core.isOpen && !traffic.core.isOpen
  let secures := core.established && !traffic.core.established
  { traffic with
    handle := traffic.handle.step (.connection core.isOpen)
    core
    connections := if fresh then traffic.connections + 1 else traffic.connections
    secured := core.isOpen && !fresh && (traffic.secured || secures)
    accepted := core.isOpen && !fresh && traffic.accepted }

def gateOpen (traffic : SendTraffic) : Bool :=
  traffic.handle.runtime.any RuntimeGate.accountAuthenticated

def senderStep (traffic : SendTraffic) (index claimed : Nat) (type : UInt32) (payload : Bytes) :
    SendTraffic :=
  let leave := { traffic with senders := traffic.senders.eraseIdx index }
  let goTo := fun stage => { traffic with senders := traffic.senders.set index stage }
  match traffic.senders[index]? with
  | none => traffic
  | some (.gateSeen outbox) =>
      if !traffic.core.isOpen then leave
      else if outbox then goTo (.looping claimed)
      else goTo (.handing 0)
  | some (.looping 0) => leave
  | some (.looping (left + 1)) =>
      if traffic.core.isOpen then goTo (.handing left) else goTo (.looping left)
  | some (.handing left) => (goTo (.looping left)).handOver type payload

def step (traffic : SendTraffic) : SendTrafficEvent → SendTraffic
  | .account env call =>
      { traffic with
        handle := traffic.handle.step (.account env call)
        accepted := traffic.accepted ||
          (traffic.core.isOpen && traffic.secured && call.isLoginSuccess) }
  | .core (.runPosted works) => traffic.runPosted ssl proto works
  | .core (.sendPacket type payload) =>
      { traffic with
        core := traffic.core.sendPacket type payload
        waiting := if traffic.core.established then traffic.waiting ++ [none] else traffic.waiting }
  | .core event => traffic.coreStep ssl proto event
  | .createRuntime => { traffic with handle := traffic.handle.step .createRuntime }
  | .goOn => { traffic with handle := traffic.handle.step .goOn }
  | .destroyRuntime => { traffic with handle := traffic.handle.step .destroyRuntime }
  | .beginSender outbox =>
      if traffic.gateOpen then { traffic with senders := traffic.senders ++ [.gateSeen outbox] }
      else traffic
  | .sender index claimed type payload => traffic.senderStep index claimed type payload

/-- Every packet of the runtime that went out was handed over while the connection it went out on
was open, with its handshake complete and a login on it accepted. -/
def Authenticated (traffic : SendTraffic) : Prop :=
  ∀ packet ∈ traffic.travelled, packet.1 = some packet.2

def underWay (traffic : SendTraffic) : Bool :=
  traffic.gateOpen ||
    (traffic.handle.runtime.any fun runtime => runtime.stage = .aligning true) ||
    !traffic.senders.isEmpty || traffic.waiting.any Option.isSome

def waitsForLogin (traffic : SendTraffic) : SendTrafficEvent → Bool
  | .core (.connect succeeds) => traffic.core.isOpen || !succeeds || !traffic.underWay
  | .goOn =>
      !(traffic.handle.runtime.any fun runtime => runtime.stage = .stateRead true) ||
        !traffic.core.isOpen || traffic.authenticatedOn.isSome
  | _ => true

structure Sound (traffic : SendTraffic) : Prop where
  linked : traffic.handle.connected = traffic.core.isOpen
  behind : traffic.underWay = true → traffic.core.isOpen = true →
    traffic.secured = true ∧ traffic.accepted = true
  waiting : ∀ handed, some handed ∈ traffic.waiting → traffic.core.isOpen = true →
    handed = some traffic.connections
  travelled : traffic.Authenticated

theorem Sound.authenticatedOn {traffic : SendTraffic} (sound : traffic.Sound)
    (busy : traffic.underWay = true) (opened : traffic.core.isOpen = true) :
    traffic.authenticatedOn = some traffic.connections := by
  obtain ⟨secured, accepted⟩ := sound.behind busy opened
  simp [SendTraffic.authenticatedOn, opened, secured, accepted]

theorem Sound.travel {traffic : SendTraffic} (sound : traffic.Sound) {handed : Option Nat}
    (fits : traffic.core.isOpen = true → handed = some traffic.connections) :
    (traffic.travel handed).Sound := by
  unfold SendTraffic.travel
  split
  · rename_i opened
    refine ⟨sound.linked, sound.behind, sound.waiting, fun packet member => ?_⟩
    rcases List.mem_append.mp member with earlier | now
    · exact sound.travelled packet earlier
    · rw [List.mem_singleton.mp now]
      exact fits opened
  · exact sound

theorem Sound.sameLink {traffic : SendTraffic} (sound : traffic.Sound) {core : ClientCore}
    (link : core.isOpen = traffic.core.isOpen) : ({ traffic with core }).Sound where
  linked := sound.linked.trans link.symm
  behind busy opened := sound.behind busy (link.symm.trans opened)
  waiting handed member opened := sound.waiting handed member (link.symm.trans opened)
  travelled := sound.travelled

theorem sendPacket_isOpen (core : ClientCore) (type : UInt32) (payload : Bytes) :
    (core.sendPacket type payload).isOpen = core.isOpen := by
  unfold ClientCore.sendPacket
  split <;> rfl

theorem runPosted_isOpen (core : ClientCore) (works : Bool) :
    (core.runPosted ssl proto works).isOpen = core.isOpen := by
  unfold ClientCore.runPosted
  split
  · rfl
  · simp only
    split
    · rfl
    · split <;> rfl

theorem handOver_sound {traffic : SendTraffic} (sound : traffic.Sound) (busy : traffic.underWay = true)
    (type : UInt32) (payload : Bytes) : (traffic.handOver type payload).Sound := by
  have link := sendPacket_isOpen traffic.core type payload
  unfold handOver
  split
  · refine ⟨sound.linked.trans link.symm, fun _ opened => ?_, fun handed member opened => ?_,
      sound.travelled⟩
    · exact sound.behind busy (link.symm.trans opened)
    · have opened := link.symm.trans opened
      rcases List.mem_append.mp member with earlier | now
      · exact sound.waiting handed earlier opened
      · rw [Option.some.inj (List.mem_singleton.mp now)]
        exact sound.authenticatedOn busy opened
  · refine (sound.sameLink link).travel fun opened => ?_
    exact sound.authenticatedOn busy (link.symm.trans opened)

theorem runPosted_sound {traffic : SendTraffic} (sound : traffic.Sound) (works : Bool) :
    (traffic.runPosted ssl proto works).Sound := by
  have link := runPosted_isOpen ssl proto traffic.core works
  have rest {item : Option (Option Nat)} {waiting : List (Option (Option Nat))}
      (shape : traffic.waiting = item :: waiting) :
      ({ traffic with core := traffic.core.runPosted ssl proto works, waiting }).Sound := by
    refine ⟨sound.linked.trans link.symm, fun busy opened => ?_, fun handed member opened => ?_,
      sound.travelled⟩
    · refine sound.behind ?_ (link.symm.trans opened)
      simp only [underWay, gateOpen, Bool.or_eq_true] at busy ⊢
      refine busy.imp_right fun waits => ?_
      rw [shape, List.any_cons, waits, Bool.or_true]
    · exact sound.waiting handed (by simp [shape, member]) (link.symm.trans opened)
  unfold runPosted
  split
  · exact sound.sameLink link
  · rename_i waiting shape
    exact rest shape
  · rename_i handed waiting shape
    simp only
    split
    · refine (rest shape).travel fun opened => ?_
      exact sound.waiting handed (by simp [shape]) (link.symm.trans opened)
    · exact rest shape

theorem coreStep_sound {traffic : SendTraffic} (sound : traffic.Sound) (event : CoreEvent)
    (kept : (traffic.core.step ssl proto event).isOpen = true → traffic.core.isOpen = true ∨
      traffic.underWay = false) : (traffic.coreStep ssl proto event).Sound := by
  have same : (traffic.coreStep ssl proto event).underWay = traffic.underWay := rfl
  refine ⟨rfl, fun busy opened => ?_, fun handed member opened => ?_, sound.travelled⟩
  · rw [same] at busy
    have opened : (traffic.core.step ssl proto event).isOpen = true := opened
    have before := (kept opened).resolve_right (by simp [busy])
    obtain ⟨secured, accepted⟩ := sound.behind busy before
    simp [coreStep, opened, before, secured, accepted]
  · have opened : (traffic.core.step ssl proto event).isOpen = true := opened
    rcases kept opened with before | idle
    · have number := sound.waiting handed member before
      simp [coreStep, opened, before, number]
    · have waits : traffic.waiting.any Option.isSome = true :=
        List.any_eq_true.mpr ⟨some handed, member, rfl⟩
      simp [underWay, waits] at idle

theorem opens_of_connect {core : ClientCore} {event : CoreEvent}
    (opened : (core.step ssl proto event).isOpen = true) :
    core.isOpen = true ∨ event = .connect true := by
  cases event with
  | connect succeeds =>
      simp only [ClientCore.step] at opened
      split at opened
      · rename_i already
        exact .inl already
      · exact .inr (congrArg CoreEvent.connect opened)
  | reset => exact .inl opened
  | trust => exact .inl opened
  | hello privateKey nonce randomId =>
      simp only [ClientCore.step, ClientCore.buildHello] at opened
      split at opened
      · simp [ClientCore.closeTransport] at opened
      · exact .inl opened
  | close => simp [ClientCore.step, ClientCore.closeTransport] at opened
  | packet type payload =>
      refine .inl ?_
      simp only [ClientCore.step, ClientCore.dispatchPacket] at opened
      split at opened
      · unfold ClientCore.handleAppServerHello at opened
        split at opened
        · simp [ClientCore.closeTransport] at opened
        · exact opened
      · split at opened
        · unfold ClientCore.handleAppServerFinished at opened
          split at opened
          · simp [ClientCore.closeTransport] at opened
          · exact opened
        · split at opened
          · unfold ClientCore.handleAppEncryptedFrame at opened
            split at opened
            · simp [ClientCore.closeTransport] at opened
            · split at opened
              · simp [ClientCore.closeTransport] at opened
              · rw [ClientCore.dispatchBusiness_eq] at opened
                exact opened
          · split at opened
            · exact opened
            · rw [ClientCore.dispatchBusiness_eq] at opened
              exact opened
  | sendPacket type payload => exact .inl ((sendPacket_isOpen core type payload).symm.trans opened)
  | runPosted works => exact .inl ((runPosted_isOpen ssl proto core works).symm.trans opened)

theorem account_sound {traffic : SendTraffic} (sound : traffic.Sound) (env : Surroundings)
    (call : AccountCall) : (traffic.step ssl proto (.account env call)).Sound := by
  have after := traffic.handle.account_runtime env call
  refine ⟨sound.linked, fun busy opened => ?_, sound.waiting, sound.travelled⟩
  have before : traffic.underWay = true := by
    simp only [underWay, gateOpen, step, after] at busy ⊢
    cases created : traffic.handle.runtime with
    | none => simpa [created] using busy
    | some runtime =>
        simp only [created, Option.map_some, Option.any_some, RuntimeGate.setAccountAuthenticated,
          Bool.or_eq_true, Bool.and_eq_true] at busy ⊢
        tauto
  obtain ⟨secured, accepted⟩ := sound.behind before opened
  exact ⟨secured, by simp [step, accepted]⟩

theorem goOn_sound {traffic : SendTraffic} (sound : traffic.Sound)
    (waits : traffic.waitsForLogin .goOn = true) : (traffic.step ssl proto .goOn).Sound := by
  refine ⟨sound.linked, fun busy opened => ?_, sound.waiting, sound.travelled⟩
  by_cases before : traffic.underWay = true
  · exact sound.behind before opened
  · have opened : traffic.core.isOpen = true := opened
    have link : traffic.handle.connected = true := sound.linked.trans opened
    simp only [underWay, gateOpen, step, SdkHandle.step] at busy before
    cases created : traffic.handle.runtime with
    | none =>
        rw [created] at busy before
        exact absurd busy before
    | some runtime =>
        rw [created] at busy before
        obtain ⟨flag, stage⟩ := runtime
        cases stage with
        | registered => exact absurd busy before
        | returned => exact absurd busy before
        | aligning seen =>
            cases seen with
            | true => simp at before
            | false =>
                refine absurd ?_ before
                simp [SdkHandle.goOn, RuntimeGate.setAccountAuthenticated] at busy ⊢
                tauto
        | stateRead authenticated =>
            cases authenticated with
            | false =>
                refine absurd ?_ before
                simpa [SdkHandle.goOn] using busy
            | true =>
                simp only [waitsForLogin, created, Option.any_some, decide_true, Bool.not_true,
                  Bool.false_or, opened] at waits
                simp only [SendTraffic.authenticatedOn, opened, Bool.true_and] at waits
                split at waits
                · rename_i accepted
                  exact (Bool.and_eq_true _ _).mp accepted
                · simp at waits

theorem goTo_sound {traffic : SendTraffic} (sound : traffic.Sound) (busy : traffic.underWay = true)
    (senders : List SenderStage) : ({ traffic with senders }).Sound :=
  ⟨sound.linked, fun _ => sound.behind busy, sound.waiting, sound.travelled⟩

theorem senderStep_sound {traffic : SendTraffic} (sound : traffic.Sound) (index claimed : Nat)
    (type : UInt32) (payload : Bytes) :
    (traffic.senderStep index claimed type payload).Sound := by
  unfold senderStep
  cases found : traffic.senders[index]? with
  | none => exact sound
  | some stage =>
      obtain ⟨bound, here⟩ := List.getElem?_eq_some_iff.mp found
      have busy : traffic.underWay = true := by
        have some : traffic.senders.isEmpty = false := by
          rw [List.isEmpty_eq_false_iff]
          exact List.ne_nil_of_length_pos (by omega)
        simp [underWay, some]
      have moved (senders : List SenderStage) := goTo_sound sound busy senders
      cases stage with
      | gateSeen outbox =>
          simp only
          split
          · exact moved _
          · split <;> exact moved _
      | looping left =>
          cases left with
          | zero => exact moved _
          | succ left =>
              simp only
              split <;> exact moved _
      | handing left =>
          refine handOver_sound (moved _) ?_ type payload
          have some : (traffic.senders.set index (.looping left)).isEmpty = false := by
            rw [List.isEmpty_eq_false_iff]
            exact List.ne_nil_of_length_pos (by rw [List.length_set]; omega)
          simp [underWay, some]

theorem step_sound (traffic : SendTraffic) (event : SendTrafficEvent) (sound : traffic.Sound)
    (waits : traffic.waitsForLogin event = true) : (traffic.step ssl proto event).Sound := by
  cases event with
  | account env call => exact account_sound ssl proto sound env call
  | core event =>
      have stays {event : CoreEvent} (waits : traffic.waitsForLogin (.core event) = true) :
          (traffic.coreStep ssl proto event).Sound := by
        refine coreStep_sound ssl proto sound event fun opened => ?_
        rcases opens_of_connect ssl proto opened with already | rfl
        · exact .inl already
        · simpa [waitsForLogin] using waits
      cases event with
      | runPosted works => exact runPosted_sound ssl proto sound works
      | sendPacket type payload =>
          have link := sendPacket_isOpen traffic.core type payload
          refine ⟨sound.linked.trans link.symm, fun busy opened => ?_,
            fun handed member opened => ?_, sound.travelled⟩
          · refine sound.behind ?_ (link.symm.trans opened)
            simp only [underWay, gateOpen, step] at busy ⊢
            split at busy
            · simpa using busy
            · exact busy
          · refine sound.waiting handed ?_ (link.symm.trans opened)
            simp only [step] at member
            split at member
            · simpa using member
            · exact member
      | _ => exact stays waits
  | createRuntime =>
      simp only [step, SdkHandle.step]
      split
      · exact sound
      · refine ⟨sound.linked, fun busy opened => sound.behind ?_ opened, sound.waiting,
          sound.travelled⟩
        simp only [underWay, gateOpen, Option.any_some, Bool.or_eq_true] at busy ⊢
        simp only [reduceCtorEq, decide_false, Bool.false_eq_true, false_or] at busy
        rcases busy with sending | waiting
        · exact .inl (.inr sending)
        · exact .inr waiting
  | goOn => exact goOn_sound ssl proto sound waits
  | destroyRuntime =>
      refine ⟨sound.linked, fun busy opened => sound.behind ?_ opened, sound.waiting,
        sound.travelled⟩
      simp only [underWay, gateOpen, step, SdkHandle.step, Option.any_none, Bool.false_or,
        Bool.or_eq_true] at busy ⊢
      tauto
  | beginSender outbox =>
      simp only [step]
      split
      · rename_i gate
        exact goTo_sound sound (by simp [underWay, gate]) _
      · exact sound
  | sender index claimed type payload => exact senderStep_sound sound index claimed type payload

/-- In a run in which no connection is begun while the gate is open or a sender is on its way, and a
runtime is made to send only on a connection with an accepted login, every packet that went out was
handed over while the connection it went out on was open, secured and authenticated. -/
theorem traffic_authenticated (deviceId : Bytes) (store : KeyStore)
    (identityKeys : List (UInt32 × Bytes)) (events : List SendTrafficEvent)
    (waits : guarded (step ssl proto) waitsForLogin
      { handle := { account := .initial deviceId store }, core := { identityKeys } } events = true)
    (front back : List SendTrafficEvent) (split : front ++ back = events) :
    (front.foldl (step ssl proto)
      { handle := { account := .initial deviceId store }, core := { identityKeys } }).Authenticated :=
  (prefixes_of_guarded Sound (fun _ => True)
    (fun traffic event _ => step_sound ssl proto traffic event) _
    ⟨rfl, by simp, by simp, by simp [Authenticated]⟩ events (fun _ _ => trivial) waits
    front back split).travelled

end SendTraffic

namespace Golden

def runtimeLoggedIn : List SendTrafficEvent :=
  let env := surroundingsAt 1000000
  [.account env (.startWithPassword (ascii "alice") (ascii "pw")),
    .core (.connect true), .core .reset, .core .trust,
    .core (.hello (some clientPrivate) (some clientNonce) (some clientRandomId)),
    .core (.packet appServerHelloType serverPayload),
    .core (.packet appServerFinishedType serverFinished),
    .account env (.onConnectResult true),
    .account env (.onLoginResult resultSuccess {
      userId := 2
      accessToken := ascii "acc-tok"
      refreshToken := ascii "ref-tok"
      accessExpireAt := 1000900
      refreshExpireAt := 1086400
      sessionId := ascii "sess-abc" } 1),
    .createRuntime, .goOn, .goOn, .goOn]

def pumped : List SendTrafficEvent :=
  runtimeLoggedIn ++ [.beginSender true, .sender 0 1 0 [], .sender 0 0 0 [],
    .sender 0 0 chatInfoRqType chatPayload, .core (.runPosted true)]

def pumpedEarly : List SendTrafficEvent :=
  runtimeLoggedIn ++ [.core .close, .account (surroundingsAt 1000100) (.onDisconnected false),
    .core (.connect true), .core .reset, .beginSender true, .sender 0 1 0 [], .sender 0 0 0 [],
    .sender 0 0 chatInfoRqType chatPayload]

def traffic : SendTraffic where
  handle := { account := .initial (ascii "dev-1") {} }
  core := { identityKeys := [(1, identityPublic)] }

end Golden

namespace SendTraffic

theorem pumped_authenticated :
    (Golden.pumped.foldl (step Golden.ssl Golden.proto) Golden.traffic).travelled = [(some 1, 1)] ∧
      (Golden.pumped.foldl (step Golden.ssl Golden.proto) Golden.traffic).Authenticated :=
  ⟨by decide +kernel, traffic_authenticated Golden.ssl Golden.proto (ascii "dev-1") {}
    [(1, Golden.identityPublic)] Golden.pumped (by decide +kernel) Golden.pumped []
    (List.append_nil _)⟩

theorem pumpedEarly_unauthenticated :
    let reached := Golden.pumpedEarly.foldl (step Golden.ssl Golden.proto) Golden.traffic
    reached.travelled = [(none, 2)] ∧ reached.core.established = false ∧
      reached.core.outgoing.getLast? = some (chatInfoRqType, Golden.chatPayload) ∧
      ¬reached.Authenticated := by
  intro reached
  have travelled : reached.travelled = [(none, 2)] := by decide +kernel
  refine ⟨travelled, by decide +kernel, by decide +kernel, fun authenticated => ?_⟩
  have packet := authenticated (none, 2) (by simp [travelled])
  simp at packet

end SendTraffic

end Jitong
