import Jitong.ClientCore

/-!
Business traffic of the client in the clear: a handler called with what no `decrypt`
returned, and a payload handed to the transport that no `encrypt` wrapped.
-/

namespace Jitong

open Lib

def hasHandler (type : UInt32) : Bool :=
  defBase ≤ type ∧ (type - defBase).toNat < defProtCount ∧ type ∈ dealFunTypes

namespace ClientCore

structure NoPlaintext (core : ClientCore) : Prop where
  handled : core.handled = core.decrypted.filter fun packet => hasHandler packet.1
  outgoing : core.outgoing = core.made

def Leaked (core : ClientCore) : Prop :=
  (core.decrypted.filter fun packet => hasHandler packet.1).length < core.handled.length ∨
    core.made.length < core.outgoing.length

structure Adds (before after : ClientCore)
    (handled decrypted outgoing made : List (UInt32 × Bytes)) :
    Prop where
  handled : after.handled = before.handled ++ handled
  decrypted : after.decrypted = before.decrypted ++ decrypted
  outgoing : after.outgoing = before.outgoing ++ outgoing
  made : after.made = before.made ++ made

end ClientCore

/-- The channel is established when a business type with a handler arrives in the clear and
when `sendPacket` is called. -/
def CoreEvent.Safe (core : ClientCore) : CoreEvent → Bool
  | .packet type _ => !hasHandler type || core.established
  | .sendPacket _ _ => core.established
  | _ => true

namespace ClientCore

variable {ssl : OpenSsl} {proto : AppProto}

theorem hasHandler_not_channel {type : UInt32} (handler : hasHandler type = true) :
    type ≠ appServerHelloType ∧ type ≠ appServerFinishedType ∧ type ≠ appEncryptedFrameType := by
  refine ⟨?_, ?_, ?_⟩ <;> rintro rfl <;> revert handler <;> decide

theorem dispatchBusiness_eq (core : ClientCore) (type : UInt32) (payload : Bytes) :
    core.dispatchBusiness type payload = { core with
      handled := core.handled ++ [(type, payload)].filter fun packet => hasHandler packet.1 } := by
  have same : core = { core with handled := core.handled ++ [] } := by simp
  unfold dispatchBusiness
  by_cases handler : hasHandler type = true
  · have parts := handler
    simp only [hasHandler, Bool.decide_and, Bool.and_eq_true, decide_eq_true_eq] at parts
    rw [if_neg (UInt32.not_lt.mpr parts.1), if_neg (Nat.not_le.mpr parts.2.1), if_pos parts.2.2]
    simp [handler]
  · have nothing : [(type, payload)].filter (fun packet => hasHandler packet.1) = [] := by
      simp [handler]
    rw [nothing]
    split
    · exact same
    · rename_i large
      split
      · exact same
      · rename_i small
        split
        · rename_i listed
          refine absurd ?_ handler
          simp only [hasHandler, Bool.decide_and, Bool.and_eq_true, decide_eq_true_eq]
          exact ⟨UInt32.not_lt.mp large, Nat.not_le.mp small, listed⟩
        · exact same

def Faithful (before after : ClientCore) : Prop :=
  ∃ decrypted made, before.Adds after (decrypted.filter fun packet => hasHandler packet.1)
    decrypted made made

def Leaks (before after : ClientCore) : Prop :=
  ∃ packet, before.Adds after [packet] [] [] [] ∨ before.Adds after [] [] [packet] []

theorem Adds.nothing {before after : ClientCore} (handled : after.handled = before.handled)
    (decrypted : after.decrypted = before.decrypted) (outgoing : after.outgoing = before.outgoing)
    (made : after.made = before.made) : before.Faithful after :=
  ⟨[], [], by simpa using handled, by simpa using decrypted, by simpa using outgoing,
    by simpa using made⟩

theorem sendMade_faithful (core : ClientCore) (channel : ClientSecureChannel) (type : UInt32)
    (payload : Bytes) :
    core.Faithful ({ core with channel }.sendMade type payload) :=
  ⟨[], [(type, payload)], by simp [sendMade, sendRawPacket], by simp [sendMade, sendRawPacket],
    rfl, rfl⟩

section Handlers

variable (core : ClientCore) (payload : Bytes)

theorem handleAppServerHello_faithful :
    core.Faithful (core.handleAppServerHello ssl proto payload) := by
  unfold handleAppServerHello
  split
  · exact Adds.nothing rfl rfl rfl rfl
  · exact core.sendMade_faithful _ _ _

theorem handleAppServerFinished_faithful :
    core.Faithful (core.handleAppServerFinished ssl proto payload) := by
  unfold handleAppServerFinished
  split <;> exact Adds.nothing rfl rfl rfl rfl

theorem handleAppEncryptedFrame_faithful :
    core.Faithful (core.handleAppEncryptedFrame ssl proto payload) := by
  unfold handleAppEncryptedFrame
  split
  · exact Adds.nothing rfl rfl rfl rfl
  · split
    · exact Adds.nothing rfl rfl rfl rfl
    · rename_i innerType inner channel _
      rw [dispatchBusiness_eq]
      exact ⟨[(innerType, inner)], [], rfl, rfl, by simp, by simp⟩

theorem runPosted_faithful (works : Bool) :
    core.Faithful (core.runPosted ssl proto works) := by
  unfold runPosted
  split
  · exact Adds.nothing rfl rfl rfl rfl
  · simp only
    split
    · exact Adds.nothing rfl rfl rfl rfl
    · split
      · exact Adds.nothing rfl rfl rfl rfl
      · exact ⟨[], [_], by simp [sendMade, sendRawPacket], by simp [sendMade, sendRawPacket],
          rfl, rfl⟩

theorem buildHello_faithful (privateKey nonce randomId : Option Bytes) :
    core.Faithful (core.buildHello ssl proto privateKey nonce randomId) := by
  unfold buildHello
  split
  · exact Adds.nothing rfl rfl rfl rfl
  · exact core.sendMade_faithful _ _ _

end Handlers

theorem dispatchPacket_cases (core : ClientCore) (type : UInt32) (payload : Bytes) :
    CoreEvent.Safe core (.packet type payload) = true ∧
        core.Faithful (core.dispatchPacket ssl proto type payload) ∨
      CoreEvent.Safe core (.packet type payload) = false ∧
        core.Leaks (core.dispatchPacket ssl proto type payload) := by
  simp only [CoreEvent.Safe]
  by_cases handler : hasHandler type = true
  · obtain ⟨notHello, notFinished, notFrame⟩ := hasHandler_not_channel handler
    unfold dispatchPacket
    rw [if_neg notHello, if_neg notFinished, if_neg notFrame, handler]
    split
    · rename_i established
      exact .inl ⟨by simp [established], Adds.nothing rfl rfl rfl rfl⟩
    · rename_i early
      refine .inr ⟨by simp [early], (type, payload), .inl ?_⟩
      rw [dispatchBusiness_eq]
      exact ⟨by simp [handler], by simp, by simp, by simp⟩
  · refine .inl ⟨by simp [handler], ?_⟩
    unfold dispatchPacket
    split
    · exact core.handleAppServerHello_faithful payload
    · split
      · exact core.handleAppServerFinished_faithful payload
      · split
        · exact core.handleAppEncryptedFrame_faithful payload
        · split
          · exact Adds.nothing rfl rfl rfl rfl
          · rw [dispatchBusiness_eq]
            exact Adds.nothing (by simp [handler]) rfl rfl rfl

theorem step_cases (core : ClientCore) (event : CoreEvent) :
    event.Safe core = true ∧ core.Faithful (core.step ssl proto event) ∨
      event.Safe core = false ∧ core.Leaks (core.step ssl proto event) := by
  cases event with
  | connect succeeds =>
      refine .inl ⟨rfl, ?_⟩
      simp only [step]
      split <;> exact Adds.nothing rfl rfl rfl rfl
  | reset | trust | close => exact .inl ⟨rfl, Adds.nothing rfl rfl rfl rfl⟩
  | hello privateKey nonce randomId =>
      exact .inl ⟨rfl, core.buildHello_faithful privateKey nonce randomId⟩
  | packet type payload => exact core.dispatchPacket_cases type payload
  | sendPacket type payload =>
      simp only [CoreEvent.Safe, step, sendPacket]
      split
      · rename_i established
        exact .inl ⟨established, Adds.nothing rfl rfl rfl rfl⟩
      · rename_i early
        refine .inr ⟨by simpa using early, (type, payload), .inr ?_⟩
        exact ⟨by simp [sendRawPacket], by simp [sendRawPacket], rfl, by simp [sendRawPacket]⟩
  | runPosted works => exact .inl ⟨rfl, core.runPosted_faithful works⟩

theorem Faithful.noPlaintext {before after : ClientCore} (faithful : before.Faithful after)
    (none : before.NoPlaintext) : after.NoPlaintext := by
  obtain ⟨decrypted, made, adds⟩ := faithful
  refine ⟨?_, ?_⟩
  · rw [adds.handled, adds.decrypted, none.handled, List.filter_append]
  · rw [adds.outgoing, adds.made, none.outgoing]

theorem Leaks.leaked {before after : ClientCore} (leaks : before.Leaks after)
    (none : before.NoPlaintext) : after.Leaked := by
  obtain ⟨packet, adds | adds⟩ := leaks
  · refine .inl ?_
    rw [adds.handled, adds.decrypted, none.handled]
    simp
  · refine .inr ?_
    rw [adds.outgoing, adds.made, none.outgoing]
    simp

theorem step_leaked {core : ClientCore} (leaked : core.Leaked) (event : CoreEvent) :
    (core.step ssl proto event).Leaked := by
  have adds {handled decrypted outgoing made : List (UInt32 × Bytes)} {after : ClientCore}
      (added : core.Adds after handled decrypted outgoing made)
      (moreHandled : (decrypted.filter fun packet => hasHandler packet.1).length ≤ handled.length)
      (moreOutgoing : made.length ≤ outgoing.length) : after.Leaked := by
    refine leaked.imp (fun more => ?_) fun more => ?_
    · rw [added.handled, added.decrypted, List.filter_append, List.length_append,
        List.length_append]
      omega
    · rw [added.outgoing, added.made, List.length_append, List.length_append]
      omega
  rcases core.step_cases event with ⟨-, decrypted, made, added⟩ | ⟨-, packet, added | added⟩
  · exact adds added (Nat.le_refl _) (Nat.le_refl _)
  · exact adds added (Nat.zero_le _) (Nat.le_refl _)
  · exact adds added (Nat.le_refl _) (Nat.zero_le _)

end ClientCore

/-- No business traffic is in the clear in a run exactly when the channel is established each
time a business packet arrives in the clear and each time one is to be sent. -/
theorem noPlaintext_iff_guarded (ssl : OpenSsl) (proto : AppProto)
    (identityKeys : List (UInt32 × Bytes)) (events : List CoreEvent) :
    (events.foldl (ClientCore.step ssl proto) { identityKeys }).NoPlaintext ↔
      guarded (ClientCore.step ssl proto) (fun core event => event.Safe core) { identityKeys }
        events = true := by
  refine @foldl_iff_guarded _ _ _ _ _ ClientCore.Leaked ?_ ?_ ?_ ?_ events _ ⟨rfl, rfl⟩
  · rintro core none (more | more)
    · exact absurd (congrArg List.length none.handled) (Nat.ne_of_gt more)
    · exact absurd (congrArg List.length none.outgoing) (Nat.ne_of_gt more)
  · intro core event none safe
    rcases core.step_cases event with ⟨-, faithful⟩ | ⟨lapse, -⟩
    · exact faithful.noPlaintext none
    · simp [safe] at lapse
  · intro core event none lapse
    rcases core.step_cases event with ⟨safe, -⟩ | ⟨-, leaks⟩
    · simp [lapse] at safe
    · exact leaks.leaked none
  · exact fun core event leaked => ClientCore.step_leaked leaked event

namespace Golden

def chatPayload : Bytes := [0x08, 0x02, 0x10, 0x01, 0x1a, 0x02] ++ ascii "hi"

def chatEarly : List CoreEvent :=
  [.connect true, .reset, .trust,
    .hello (some clientPrivate) (some clientNonce) (some clientRandomId),
    .packet chatInfoRqType chatPayload, .sendPacket chatInfoRqType chatPayload]

end Golden

theorem chatEarly_leaks :
    let core := Golden.chatEarly.foldl (ClientCore.step Golden.ssl Golden.proto)
      { identityKeys := [(1, Golden.identityPublic)] }
    core.isOpen = true ∧ core.channel.status = .helloSent ∧
      core.handled = [(chatInfoRqType, Golden.chatPayload)] ∧ core.decrypted = [] ∧
      core.outgoing = [(appClientHelloType, Golden.clientPayload),
        (chatInfoRqType, Golden.chatPayload)] ∧
      core.made = [(appClientHelloType, Golden.clientPayload)] ∧ ¬core.NoPlaintext := by
  intro core
  have leaked : core.decrypted = [] ∧ core.handled = [(chatInfoRqType, Golden.chatPayload)] := by
    decide +kernel
  refine ⟨by decide +kernel, by decide +kernel, leaked.2, leaked.1, by decide +kernel,
    by decide +kernel, fun none => ?_⟩
  have handled := none.handled
  rw [leaked.1, leaked.2] at handled
  simp at handled

end Jitong
