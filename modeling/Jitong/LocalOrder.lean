import Jitong.MigrationImporter
import Jitong.Lib.Run

/-!
The numbers that drafts are given. Orders are taken from a counter, from both tables and from the
caller, while batches bring rows with orders of their own and rows leave the queue.
-/

namespace Jitong

open Jitong.Lib NativeRepository

namespace NativeRepository

def orders (db : NativeRepository) : List Int :=
  db.messages.rows.map (·.localOrder) ++ db.outbox.rows.map (·.localOrder)

def Spent (db : NativeRepository) (order : Int) : Prop :=
  (∃ last, db.lastOrder = some last ∧ order ≤ last) ∨
    order < maxInt64 ∧ ∃ row ∈ db.messages.rows, order ≤ row.localOrder

variable {db after : NativeRepository} {m : MessageDto} {now order older : Int}

theorem le_largestOrder {orders : List Int} {order : Int} (member : order ∈ orders) :
    order ≤ largestOrder orders := by
  unfold largestOrder
  cases largest : orders.max? with
  | none =>
      rw [List.max?_eq_none_iff.mp largest] at member
      simp at member
  | some value => exact (List.max?_eq_some_iff.mp largest).2 order member

theorem allocate_above (allocated : db.allocate m.localOrder = some order)
    (spent : db.Spent older) : older < order := by
  unfold allocate at allocated
  dsimp only at allocated
  rcases spent with ⟨last, counted, below⟩ | ⟨small, row, member, below⟩
  · rw [counted] at allocated
    dsimp only at allocated
    split at allocated
    · have chosen := Option.some.inj allocated
      omega
    · simp at allocated
  · have largest := le_largestOrder (List.mem_map_of_mem (f := (·.localOrder)) member)
    cases counted : db.lastOrder with
    | none =>
        rw [counted] at allocated
        dsimp only at allocated
        split at allocated
        · have chosen := Option.some.inj allocated
          omega
        · simp at allocated
    | some last =>
        rw [counted] at allocated
        dsimp only at allocated
        split at allocated
        · have chosen := Option.some.inj allocated
          omega
        · simp at allocated

@[simp] theorem finishProjection_lastOrder (draft : Bool) (ctx : IncomingContext) :
    (db.finishProjection m draft ctx now).lastOrder = db.lastOrder := by
  unfold finishProjection
  dsimp only
  split <;> rfl

theorem showDraft_lastOrder (shown : db.showDraft m = some after) :
    after.lastOrder = db.lastOrder := by
  unfold showDraft at shown
  split at shown
  · obtain rfl := Option.some.inj shown
    rfl
  · obtain ⟨conversations, _, rfl⟩ := Option.map_eq_some_iff.mp shown
    rfl

theorem commitOutgoingDraft_allocated (unknown : db.message m.msgId = none)
    (committed : db.commitOutgoingDraft m now = some (order, after)) :
    db.allocate m.localOrder = some order ∧ after.lastOrder = some order := by
  unfold commitOutgoingDraft at committed
  split at committed
  · simp at committed
  · simp only [unknown, Option.bind_eq_bind, Option.bind_eq_some_iff] at committed
    obtain ⟨allocated, taken, committed⟩ := committed
    split at committed
    · simp at committed
    · simp only [Option.bind_eq_some_iff] at committed
      obtain ⟨messages, _, outbox, _, shown, drafted, same⟩ := committed
      obtain ⟨rfl, rfl⟩ := Prod.mk.inj (Option.some.inj same)
      refine ⟨taken, ?_⟩
      rw [finishProjection_lastOrder, showDraft_lastOrder drafted]
      rfl

theorem commitOutgoingDraft_known {row : NativeMessageRow} (known : db.message m.msgId = some row) :
    db.commitOutgoingDraft m now =
      if m.msgId = [] ∨ db.compatibleIdentity m = false then none else some (row.localOrder, db) := by
  unfold commitOutgoingDraft
  simp only [known, Bool.not_eq_true']

end NativeRepository

namespace MigrationImporter

inductive Request
  | commitOutgoingDraft (m : SearchedDto) (now : Int)
  | importBatch (batch : List MigrationMessage)
  | deleteOutbox (matching : OutboxRow → Bool)

/-- How a transaction ends for its caller: it is told the result, SQLite fails at a statement or at
the `COMMIT`, or the Writer carries it out after the caller has stopped waiting. -/
inductive Ending
  | answered | failed | late
  deriving DecidableEq

structure Call where
  request : Request
  ending : Ending := .answered

def Request.Importable : Request → Prop
  | .importBatch batch => ∀ m ∈ batch, 0 < m.localOrder ∧ m.localOrder < maxInt64
  | _ => True

namespace MessageStore

def transact (store : MessageStore) : Request → Option (Option Int × MessageStore)
  | .commitOutgoingDraft m now =>
      (store.commitOutgoingDraft m now).map fun drafted => (some drafted.1, drafted.2)
  | .importBatch batch => (store.importBatch batch).map fun imported => (none, imported)
  | .deleteOutbox matching =>
      some (none, { store with db := { store.db with outbox := store.db.outbox.delete matching } })

/-- What the caller is told, `none` for a failure, and the tables afterwards. -/
def call (store : MessageStore) (call : Call) : Option (Option Int) × MessageStore :=
  match call.ending, store.transact call.request with
  | .failed, _ | _, none => (none, store)
  | .answered, some (told, after) => (some told, after)
  | .late, some (_, after) => (none, after)

def run (store : MessageStore) (calls : List Call) : MessageStore :=
  calls.foldl (fun store call => (store.call call).2) store

variable {store after : MessageStore}

theorem commitOutgoingDraft_eq_some {m : SearchedDto} {now order : Int}
    (committed : store.commitOutgoingDraft m now = some (order, after)) :
    store.db.commitOutgoingDraft m.toMessageDto now = some (order, after.db) ∧
      ((store.db.message m.msgId).isSome → after.fts = store.fts ∧
        after.identity = store.identity) := by
  unfold commitOutgoingDraft at committed
  obtain ⟨drafted, done, same⟩ := Option.map_eq_some_iff.mp committed
  split at same
  · obtain ⟨rfl, rfl⟩ := Prod.mk.inj same
    exact ⟨done, fun _ => ⟨rfl, rfl⟩⟩
  · rename_i unknown
    obtain ⟨rfl, rfl⟩ := Prod.mk.inj same
    exact ⟨done, fun known => absurd known unknown⟩

theorem commitOutgoingDraft_repeated {m : SearchedDto} {now : Int} {row : NativeMessageRow}
    (known : store.db.message m.msgId = some row) :
    store.commitOutgoingDraft m now =
      if m.msgId = [] ∨ store.db.compatibleIdentity m.toMessageDto = false then none
      else some (row.localOrder, store) := by
  unfold commitOutgoingDraft
  rw [commitOutgoingDraft_known known]
  by_cases refused : m.msgId = [] ∨ store.db.compatibleIdentity m.toMessageDto = false
  · rw [if_pos refused, if_pos refused]
    rfl
  · rw [if_neg refused, if_neg refused]
    simp [known]

/-- What a transaction can do to the tables of messages: rows are added, with orders that are spent
from then on, and the counter moves up. -/
structure Grows (before after : NativeRepository) (added : List NativeMessageRow) : Prop where
  messages : after.messages.rows = before.messages.rows ++ added
  fresh : ∀ row ∈ added, after.Spent row.localOrder
  queued : ∀ row ∈ after.outbox.rows, row ∈ before.outbox.rows ∨ after.Spent row.localOrder
  counter : ∀ last, before.lastOrder = some last →
    ∃ later, after.lastOrder = some later ∧ last ≤ later

theorem Grows.refl (db : NativeRepository) : Grows db db [] where
  messages := (List.append_nil _).symm
  fresh row member := by simp at member
  queued row member := .inl member
  counter last counted := ⟨last, counted, le_refl last⟩

theorem Grows.spent {before after : NativeRepository} {added : List NativeMessageRow} {older : Int}
    (grows : Grows before after added) (spent : before.Spent older) : after.Spent older := by
  rcases spent with ⟨last, counted, below⟩ | ⟨small, row, member, below⟩
  · obtain ⟨later, now, above⟩ := grows.counter last counted
    exact .inl ⟨later, now, by omega⟩
  · exact .inr ⟨small, row, by rw [grows.messages]; exact List.mem_append_left added member, below⟩

theorem Grows.trans {first second third : NativeRepository} {early later : List NativeMessageRow}
    (grown : Grows first second early) (grows : Grows second third later) :
    Grows first third (early ++ later) where
  messages := by rw [grows.messages, grown.messages, List.append_assoc]
  fresh row member := by
    rcases List.mem_append.mp member with before | now
    · exact grows.spent (grown.fresh row before)
    · exact grows.fresh row now
  queued row member := by
    rcases grows.queued row member with kept | spent
    · rcases grown.queued row kept with older | spent
      · exact .inl older
      · exact .inr (grows.spent spent)
    · exact .inr spent
  counter last counted := by
    obtain ⟨middle, now, above⟩ := grown.counter last counted
    obtain ⟨final, later, higher⟩ := grows.counter middle now
    exact ⟨final, later, by omega⟩

theorem commitOutgoingDraft_grows {m : SearchedDto} {now order : Int}
    (committed : store.commitOutgoingDraft m now = some (order, after)) :
    ∃ added, Grows store.db after.db added := by
  have drafted := (commitOutgoingDraft_eq_some committed).1
  obtain ⟨_, ⟨same, _⟩ | ⟨unknown, _, messages, outbox⟩⟩ := commitOutgoingDraft_rows drafted
  · exact ⟨[], same ▸ Grows.refl store.db⟩
  · obtain ⟨allocated, remembered⟩ := commitOutgoingDraft_allocated unknown drafted
    have taken : after.db.Spent order := .inl ⟨order, remembered, le_refl order⟩
    refine ⟨_, messages, ?_, ?_, ?_⟩
    · intro row member
      obtain rfl := List.mem_singleton.mp member
      exact taken
    · intro row member
      rw [outbox] at member
      rcases List.mem_append.mp member with old | new
      · exact .inl old
      · obtain rfl := List.mem_singleton.mp new
        exact .inr taken
    · intro last counted
      have above : last < order := allocate_above allocated (.inl ⟨last, counted, le_refl last⟩)
      exact ⟨order, remembered, by omega⟩

theorem importMessage_grows {m : MigrationMessage} (small : m.localOrder < maxInt64)
    (imported : store.importMessage m = some after) : ∃ added, Grows store.db after.db added := by
  rcases importMessage_rows imported with rfl | ⟨_, messages, outbox, counter⟩
  · exact ⟨[], .refl _⟩
  · refine ⟨_, messages, ?_, ?_, ?_⟩
    · intro row member
      refine .inr ⟨?_, row, by rw [messages]; exact List.mem_append_right _ member, le_refl _⟩
      obtain rfl := List.mem_singleton.mp member
      exact small
    · intro row member
      exact .inl (outbox ▸ member)
    · intro last counted
      exact ⟨last, counter.trans counted, le_refl last⟩

theorem importBatch_grows {batch : List MigrationMessage}
    (small : ∀ m ∈ batch, m.localOrder < maxInt64) (imported : store.importBatch batch = some after) :
    ∃ added, Grows store.db after.db added := by
  unfold importBatch at imported
  induction batch generalizing store with
  | nil =>
      obtain rfl := Option.some.inj imported
      exact ⟨[], .refl _⟩
  | cons m rest ih =>
      rw [List.foldlM_cons] at imported
      obtain ⟨middle, first, later⟩ := Option.bind_eq_some_iff.mp imported
      obtain ⟨early, grown⟩ := importMessage_grows (small m List.mem_cons_self) first
      obtain ⟨added, grows⟩ := ih (fun other member => small other (List.mem_cons_of_mem m member))
        later
      exact ⟨early ++ added, grown.trans grows⟩

theorem transact_grows {request : Request} {told : Option Int} (importable : request.Importable)
    (done : store.transact request = some (told, after)) :
    ∃ added, Grows store.db after.db added := by
  cases request with
  | commitOutgoingDraft m now =>
      obtain ⟨⟨order, drafted⟩, committed, same⟩ := Option.map_eq_some_iff.mp done
      obtain ⟨rfl, rfl⟩ := Prod.mk.inj same
      exact commitOutgoingDraft_grows committed
  | importBatch batch =>
      obtain ⟨imported, written, same⟩ := Option.map_eq_some_iff.mp done
      obtain ⟨rfl, rfl⟩ := Prod.mk.inj same
      exact importBatch_grows (fun m member => (importable m member).2) written
  | deleteOutbox matching =>
      obtain ⟨rfl, rfl⟩ := Prod.mk.inj (Option.some.inj done)
      refine ⟨[], (List.append_nil _).symm, by simp, ?_, ?_⟩
      · intro row member
        exact .inl (List.mem_filter.mp member).1
      · intro last counted
        exact ⟨last, counted, le_refl last⟩

theorem call_cases (store : MessageStore) (call : Call) :
    (store.call call = (none, store) ∧
        (call.ending = .failed ∨ store.transact call.request = none)) ∨
      ∃ told after, call.ending ≠ .failed ∧ store.transact call.request = some (told, after) ∧
        store.call call = (if call.ending = .late then none else some told, after) := by
  rcases call with ⟨request, ending⟩
  unfold MessageStore.call
  cases done : store.transact request with
  | none => exact .inl (by cases ending <;> simp)
  | some result =>
      obtain ⟨told, after⟩ := result
      cases ending with
      | answered => exact .inr ⟨told, after, by simp, rfl, rfl⟩
      | failed => exact .inl (by simp)
      | late => exact .inr ⟨told, after, by simp, rfl, rfl⟩

theorem call_grows {call : Call} (importable : call.request.Importable) :
    ∃ added, Grows store.db (store.call call).2.db added := by
  rcases store.call_cases call with ⟨same, _⟩ | ⟨told, after, _, done, same⟩
  · rw [same]
    exact ⟨[], .refl _⟩
  · rw [same]
    exact transact_grows importable done

@[simp] theorem run_append (first second : List Call) :
    store.run (first ++ second) = (store.run first).run second :=
  List.foldl_append

theorem run_grows {calls : List Call} (importable : ∀ call ∈ calls, call.request.Importable) :
    ∃ added, Grows store.db (store.run calls).db added := by
  induction calls generalizing store with
  | nil => exact ⟨[], .refl _⟩
  | cons call rest ih =>
      obtain ⟨early, grown⟩ := call_grows (importable call List.mem_cons_self)
      obtain ⟨added, grows⟩ := @ih (store.call call).2
        fun other member => importable other (List.mem_cons_of_mem call member)
      exact ⟨early ++ added, grown.trans grows⟩

theorem run_spent {calls earlier : List Call} {older : Int}
    (migrated : store.db.lastOrder = store.db.orders.max?)
    (importable : ∀ call ∈ calls, call.request.Importable) (before : earlier <+: calls)
    (stored : older ∈ (store.run earlier).db.orders) : (store.run calls).db.Spent older := by
  obtain ⟨later, rfl⟩ := before
  have seeded : ∀ order ∈ store.db.orders, store.db.Spent order := by
    intro order member
    cases counted : store.db.orders.max? with
    | none =>
        rw [List.max?_eq_none_iff.mp counted] at member
        simp at member
    | some last =>
        exact .inl ⟨last, migrated.trans counted, (List.max?_eq_some_iff.mp counted).2 order member⟩
  obtain ⟨early, grown⟩ := @run_grows store earlier fun call member =>
    importable call (List.mem_append_left later member)
  obtain ⟨added, grows⟩ := @run_grows (store.run earlier) later fun call member =>
    importable call (List.mem_append_right earlier member)
  rw [run_append]
  refine grows.spent ?_
  rcases List.mem_append.mp stored with message | queued
  · obtain ⟨row, member, rfl⟩ := List.mem_map.mp message
    rw [grown.messages] at member
    rcases List.mem_append.mp member with old | new
    · exact grown.spent (seeded _ (List.mem_append_left _ (List.mem_map_of_mem old)))
    · exact grown.fresh row new
  · obtain ⟨row, member, rfl⟩ := List.mem_map.mp queued
    rcases grown.queued row member with old | spent
    · exact grown.spent (seeded _ (List.mem_append_right _ (List.mem_map_of_mem old)))
    · exact spent

theorem run_message {calls : List Call} {msgId : Bytes} {row : NativeMessageRow}
    (importable : ∀ call ∈ calls, call.request.Importable)
    (stored : store.db.message msgId = some row) : (store.run calls).db.message msgId = some row := by
  obtain ⟨added, grows⟩ := @run_grows store calls importable
  have found := message_eq_some.mp stored
  rw [message_eq_some, grows.messages]
  exact ⟨List.mem_append_left added found.1, found.2⟩

structure LawfulOrders (store : MessageStore) (calls : List Call) : Prop where
  /-- A draft that is stored for the first time is above every order there ever was. -/
  above : ∀ m now ending row, (store.run calls).db.message m.msgId = none →
    ((store.run calls).call ⟨.commitOutgoingDraft m now, ending⟩).2.db.message m.msgId = some row →
    ∀ earlier older, earlier <+: calls → older ∈ (store.run earlier).db.orders →
      older < row.localOrder
  told : ∀ m now order,
    ((store.run calls).call ⟨.commitOutgoingDraft m now, .answered⟩).1 = some (some order) →
    ∃ row, row.localOrder = order ∧
      ((store.run calls).call ⟨.commitOutgoingDraft m now, .answered⟩).2.db.message m.msgId = some row
  /-- A draft that was stored keeps its row, and is told the same order from then on. -/
  repeated : ∀ earlier m now ending row,
    earlier ++ [⟨.commitOutgoingDraft m now, ending⟩] <+: calls →
    (store.run earlier).db.message m.msgId = none →
    ((store.run earlier).call ⟨.commitOutgoingDraft m now, ending⟩).2.db.message m.msgId = some row →
    ∀ later, (store.run calls).call ⟨.commitOutgoingDraft m later, .answered⟩ =
      (some (some row.localOrder), store.run calls)
  /-- A draft of a message that is stored changes no table, however it ends. -/
  unchanged : ∀ m now ending row, (store.run calls).db.message m.msgId = some row →
    ((store.run calls).call ⟨.commitOutgoingDraft m now, ending⟩).2 = store.run calls
  /-- A failure that is not for the Writer being late leaves all tables as they were. -/
  failed : ∀ call, ((store.run calls).call call).1 = none → call.ending ≠ .late →
    ((store.run calls).call call).2 = store.run calls
  late : ∀ request, ((store.run calls).call ⟨request, .late⟩).2 =
    ((store.run calls).call ⟨request, .answered⟩).2

theorem call_answered {request : Request} {told : Option Int}
    (answer : (store.call ⟨request, .answered⟩).1 = some told) :
    store.transact request = some (told, (store.call ⟨request, .answered⟩).2) := by
  unfold MessageStore.call at answer ⊢
  cases done : store.transact request with
  | none => simp [done] at answer
  | some result =>
      obtain ⟨order, after⟩ := result
      simp only [done, Option.some.injEq] at answer
      simp [answer]

theorem call_stored {m : SearchedDto} {now : Int} {ending : Ending} {row : NativeMessageRow}
    (unknown : store.db.message m.msgId = none)
    (stored : (store.call ⟨.commitOutgoingDraft m now, ending⟩).2.db.message m.msgId = some row) :
    store.commitOutgoingDraft m now =
        some (row.localOrder, (store.call ⟨.commitOutgoingDraft m now, ending⟩).2) ∧
      row = .stored { m.toMessageDto with localOrder := row.localOrder } := by
  rcases store.call_cases ⟨.commitOutgoingDraft m now, ending⟩ with
    ⟨same, _⟩ | ⟨told, after, _, done, same⟩
  · rw [same, unknown] at stored
    simp at stored
  · rw [same] at stored ⊢
    obtain ⟨⟨order, drafted⟩, committed, equal⟩ := Option.map_eq_some_iff.mp done
    obtain ⟨rfl, rfl⟩ := Prod.mk.inj equal
    have rows := commitOutgoingDraft_rows (commitOutgoingDraft_eq_some committed).1
    rcases rows.2 with ⟨_, known⟩ | ⟨_, _, messages, _⟩
    · rw [unknown] at known
      simp at known
    · have found := message_eq_some.mp stored
      rw [messages] at found
      rcases List.mem_append.mp found.1 with old | new
      · exact absurd found.2 (message_eq_none.mp unknown row old)
      · obtain rfl := List.mem_singleton.mp new
        exact ⟨committed, rfl⟩

/-- Orders are never given twice: from tables whose counter the schema migration set, and with
imported orders below the largest integer. -/
theorem localOrders_lawful (store : MessageStore)
    (migrated : store.db.lastOrder = store.db.orders.max?) (calls : List Call)
    (importable : ∀ call ∈ calls, call.request.Importable) : store.LawfulOrders calls where
  above m now ending row unknown stored earlier older before was := by
    obtain ⟨committed, _⟩ := call_stored unknown stored
    have drafted := (commitOutgoingDraft_eq_some committed).1
    exact allocate_above (commitOutgoingDraft_allocated unknown drafted).1
      (run_spent migrated importable before was)
  told m now order answer := by
    obtain ⟨⟨given, after⟩, committed, equal⟩ := Option.map_eq_some_iff.mp (call_answered answer)
    obtain ⟨same, rest⟩ := Prod.mk.inj equal
    obtain rfl := Option.some.inj same
    dsimp only at rest committed
    rw [← rest]
    have drafted := (commitOutgoingDraft_eq_some committed).1
    cases known : (store.run calls).db.message m.msgId with
    | some row =>
        rw [commitOutgoingDraft_known known] at drafted
        split at drafted
        · simp at drafted
        · obtain ⟨order, kept⟩ := Prod.mk.inj (Option.some.inj drafted)
          exact ⟨row, order, by rw [← kept, known]⟩
    | none =>
        rcases (commitOutgoingDraft_rows drafted).2 with ⟨_, stored⟩ | ⟨_, _, messages, _⟩
        · rw [known] at stored
          simp at stored
        · refine ⟨.stored { m.toMessageDto with localOrder := given }, rfl,
            message_eq_some.mpr ⟨?_, rfl⟩⟩
          rw [messages]
          exact List.mem_append_right _ (List.mem_singleton_self _)
  repeated earlier m now ending row before unknown stored later := by
    obtain ⟨committed, columns⟩ := call_stored unknown stored
    obtain ⟨rest, rfl⟩ := before
    have kept : (store.run (earlier ++ [⟨.commitOutgoingDraft m now, ending⟩] ++ rest)).db.message
        m.msgId = some row := by
      rw [run_append, run_append]
      refine run_message (fun call member => importable call ?_) stored
      exact List.mem_append_right _ member
    generalize store.run (earlier ++ [⟨.commitOutgoingDraft m now, ending⟩] ++ rest) = final at kept ⊢
    have valid : ¬(m.msgId = [] ∨ final.db.compatibleIdentity m.toMessageDto = false) := by
      rintro (empty | incompatible)
      · have drafted := (commitOutgoingDraft_eq_some committed).1
        unfold NativeRepository.commitOutgoingDraft at drafted
        simp [empty] at drafted
      · simp only [compatibleIdentity, kept] at incompatible
        rw [columns] at incompatible
        simp [NativeMessageRow.stored, NativeMessageRow.of] at incompatible
    unfold MessageStore.call transact
    simp only [commitOutgoingDraft_repeated kept, if_neg valid, Option.map_some]
  unchanged m now ending row known := by
    rcases (store.run calls).call_cases ⟨.commitOutgoingDraft m now, ending⟩ with
      ⟨same, _⟩ | ⟨told, after, _, done, same⟩
    · rw [same]
    · rw [same]
      unfold transact at done
      dsimp only at done
      rw [commitOutgoingDraft_repeated known] at done
      split at done
      · simp at done
      · exact (Prod.mk.inj (Option.some.inj done)).2.symm
  failed call told prompt := by
    rcases (store.run calls).call_cases call with ⟨same, _⟩ | ⟨order, after, _, _, same⟩
    · rw [same]
    · rw [same, if_neg prompt] at told
      simp at told
  late request := by
    unfold MessageStore.call
    dsimp only
    cases (store.run calls).transact request <;> rfl

def lunch : SearchedDto :=
  { msgId := ascii "m-1", conversationId := 7, peerId := 7, fromMe := true, content := ascii "hi" }

def oldNote : MigrationMessage :=
  { msgId := ascii "m-0", conversationId := 7, peerId := 7, conversationSeq := 3, serverTime := 20
    localOrder := 40, fromMe := false, type := 0, content := ascii "note", status := 2 }

def mixedCalls : List Call :=
  [⟨.commitOutgoingDraft lunch 30, .answered⟩, ⟨.importBatch [oldNote], .answered⟩,
    ⟨.deleteOutbox fun _ => true, .answered⟩,
    ⟨.commitOutgoingDraft { lunch with msgId := ascii "m-2" } 31, .failed⟩]

theorem localOrders_lawful_mixed :
    (({} : MessageStore).run mixedCalls).db.messages.rows.map (·.localOrder) = [1, 40] ∧
      ({} : MessageStore).LawfulOrders mixedCalls := by
  refine ⟨by decide +kernel, localOrders_lawful {} (by decide) mixedCalls ?_⟩
  intro call member
  simp only [mixedCalls, List.mem_cons, List.not_mem_nil, or_false] at member
  rcases member with rfl | rfl | rfl | rfl
  · trivial
  · intro m imported
    obtain rfl := List.mem_singleton.mp imported
    decide
  · trivial
  · trivial

/-- The caller of a late transaction is told that it failed, and the draft is stored. -/
theorem localOrders_late :
    ¬∀ call, (({} : MessageStore).call call).1 = none → (({} : MessageStore).call call).2 = {} := by
  intro unchanged
  have same := unchanged ⟨.commitOutgoingDraft lunch 30, .late⟩ rfl
  have rows := congrArg (fun store : MessageStore => store.db.messages.rows) same
  exact absurd rows (by decide +kernel)

end MessageStore

end MigrationImporter

end Jitong
