import Jitong.Protocol

/-!
The event contract of a runtime: results are kept per operation in a table of bounded size until
they are consumed, and changes are announced per domain by a version that only grows.
-/

namespace Jitong

abbrev OperationId := Bytes

namespace CompletionRegistry

inductive Result
  | ok | cancelled | failed | timeout
  deriving DecidableEq

structure Record where
  operationId : OperationId
  result : Result := .ok
  consumed : Bool := false
  createdAtMs : Int := 0
  errorMessage : Bytes := []
  deriving DecidableEq

end CompletionRegistry

/-- The records of a `std::map`: one per operation, in the order of the ids. -/
structure CompletionRegistry where
  capacity : Nat
  records : List CompletionRegistry.Record := []
  deriving DecidableEq

namespace CompletionRegistry

variable {registry after : CompletionRegistry} {id other : OperationId} {result : Result}
  {error : Bytes} {now : Int} {record : Record}

def Record.of (id : OperationId) (result : Result) (error : Bytes) (now : Int) : Record where
  operationId := id
  result := result
  createdAtMs := now
  errorMessage := error

def peek (registry : CompletionRegistry) (id : OperationId) : Option Record :=
  registry.records.find? fun record => record.operationId = id

def evictOneLocked (registry : CompletionRegistry) : Option CompletionRegistry :=
  if registry.records.any (·.consumed) then
    some { registry with records := registry.records.eraseP (·.consumed) }
  else none

def makeRoom (registry : CompletionRegistry) : Option CompletionRegistry :=
  if registry.capacity ≤ registry.records.length then registry.evictOneLocked else some registry

def emplace (registry : CompletionRegistry) (record : Record) : CompletionRegistry :=
  let before (other : Record) : Bool := other.operationId < record.operationId
  { registry with
    records := registry.records.takeWhile before ++ record :: registry.records.dropWhile before }

/-- `none` is a refusal, which leaves the table as it is. -/
def complete (registry : CompletionRegistry) (id : OperationId) (result : Result) (error : Bytes)
    (now : Int) : Option CompletionRegistry :=
  if id = [] then none
  else if (registry.peek id).isSome then none
  else registry.makeRoom.map fun room => room.emplace (.of id result error now)

def consume (registry : CompletionRegistry) (id : OperationId) :
    Option (Record × CompletionRegistry) :=
  (registry.peek id).map fun record =>
    (record, { registry with
      records := registry.records.map fun record =>
        if record.operationId = id then { record with consumed := true } else record })

def unconsumedCount (registry : CompletionRegistry) : Nat :=
  registry.records.countP fun record => !record.consumed

/-! What the operations do to the records. -/

theorem peek_member (found : registry.peek id = some record) :
    record ∈ registry.records ∧ record.operationId = id := by
  refine ⟨List.mem_of_find?_eq_some found, ?_⟩
  simpa using List.find?_some found

theorem peek_eq_none : registry.peek id = none ↔ ∀ record ∈ registry.records,
    record.operationId ≠ id := by
  simp [peek]

theorem emplace_perm (registry : CompletionRegistry) (record : Record) :
    (registry.emplace record).records.Perm (record :: registry.records) := by
  unfold emplace
  refine List.perm_middle.trans ?_
  rw [List.takeWhile_append_dropWhile]

def Keyed (registry : CompletionRegistry) : Prop :=
  (registry.records.map Record.operationId).Nodup

theorem Keyed.peek_iff (keyed : registry.Keyed) :
    registry.peek id = some record ↔ record ∈ registry.records ∧ record.operationId = id := by
  refine ⟨peek_member, ?_⟩
  rintro ⟨member, rfl⟩
  cases found : registry.peek record.operationId with
  | none => exact absurd rfl (peek_eq_none.mp found record member)
  | some first =>
      obtain ⟨firstMember, same⟩ := peek_member found
      rw [List.inj_on_of_nodup_map keyed firstMember member same]

theorem complete_records (completed : registry.complete id result error now = some after) :
    id ≠ [] ∧ registry.peek id = none ∧ after.capacity = registry.capacity ∧
      ∃ kept, kept.Sublist registry.records ∧
        (∀ record ∈ registry.records, record.consumed = false → record ∈ kept) ∧
        after.records.Perm (Record.of id result error now :: kept) := by
  unfold complete at completed
  split at completed
  · simp at completed
  · rename_i named
    split at completed
    · simp at completed
    · rename_i fresh
      obtain ⟨room, made, rfl⟩ := Option.map_eq_some_iff.mp completed
      refine ⟨named, by simpa using fresh, ?_⟩
      unfold makeRoom at made
      split at made
      · unfold evictOneLocked at made
        split at made
        · obtain rfl := Option.some.inj made
          refine ⟨rfl, registry.records.eraseP (·.consumed), List.eraseP_sublist, ?_,
            emplace_perm _ _⟩
          intro record member unconsumed
          exact (List.mem_eraseP_of_neg (by simp [unconsumed])).mpr member
        · simp at made
      · obtain rfl := Option.some.inj made
        exact ⟨rfl, _, List.Sublist.refl _, fun _ member _ => member, emplace_perm _ _⟩

theorem complete_eq_none (refused : registry.complete id result error now = none)
    (named : id ≠ []) (fresh : registry.peek id = none) :
    registry.capacity ≤ registry.records.length ∧
      ∀ record ∈ registry.records, record.consumed = false := by
  unfold complete at refused
  rw [if_neg named, fresh, Option.isSome_none, if_neg (by simp), Option.map_eq_none_iff,
    makeRoom] at refused
  split at refused
  · rename_i full
    refine ⟨full, ?_⟩
    unfold evictOneLocked at refused
    split at refused
    · simp at refused
    · rename_i unconsumed
      simpa using unconsumed
  · simp at refused

theorem consume_records (consumed : registry.consume id = some (record, after)) :
    registry.peek id = some record ∧ after.capacity = registry.capacity ∧
      after.records = registry.records.map fun record =>
        if record.operationId = id then { record with consumed := true } else record := by
  unfold consume at consumed
  obtain ⟨found, peeked, built⟩ := Option.map_eq_some_iff.mp consumed
  obtain ⟨rfl, rfl⟩ := Prod.mk.inj built
  exact ⟨peeked, rfl, rfl⟩

end CompletionRegistry

namespace InvalidationBus

inductive Domain
  | conversations | messages | friends | transfers | account
  deriving DecidableEq

end InvalidationBus

structure InvalidationBus where
  current : InvalidationBus.Domain → Int := fun _ => 0
  consumed : InvalidationBus.Domain → Int := fun _ => 0

namespace InvalidationBus

def publish (bus : InvalidationBus) (domain : Domain) (dbVersion : Int) : Option InvalidationBus :=
  if dbVersion ≤ bus.current domain then none
  else some { bus with current := Function.update bus.current domain dbVersion }

def reset (_bus : InvalidationBus) : InvalidationBus := {}

end InvalidationBus

end Jitong
