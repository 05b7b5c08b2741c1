import Jitong.ClientRuntime
import Jitong.TokenMirror

/-!
The results of the operations of a runtime: over whole runs of submissions, completions,
consumptions and life cycle calls, an operation gets one result, which stays until it is consumed.
-/

namespace Jitong

open ClientRuntime CompletionRegistry

structure OperationHistory where
  runtime : ClientRuntime
  handedOut : List OperationId := []
  results : List (OperationId × Result) := []
  consumed : List OperationId := []

inductive OperationCall
  | nextOperationId (domain : Bytes)
  | completeOperation (id : OperationId) (result : Result) (error : Bytes) (now : Int)
  | consumeOperation (id : OperationId)
  | start (databaseFits : Bool)
  | stop (now : Int)
  | logout (now : Int)
  | destroy (now : Int)
  | advance
  deriving DecidableEq

namespace OperationHistory

def fresh (ownerId : Int) (completionCapacity : Nat) (instanceId : UInt64) : OperationHistory where
  runtime := ClientRuntime.create ownerId completionCapacity instanceId

def ended (history : OperationHistory) (runtime : ClientRuntime) (taken : Bool) (error : Bytes)
    (now : Int) : OperationHistory :=
  { history with
    runtime := runtime
    results := history.results ++
      if taken then (history.runtime.cancelled error now).map fun id => (id, .cancelled) else [] }

def step (history : OperationHistory) : OperationCall → OperationHistory
  | .nextOperationId domain =>
      let (id, runtime) := history.runtime.nextOperationId domain
      { history with
        runtime := runtime
        handedOut := if id = [] then history.handedOut else history.handedOut ++ [id] }
  | .completeOperation id result error now =>
      match history.runtime.completeOperation id result error now with
      | (none, runtime) => { history with runtime := runtime }
      | (some record, runtime) =>
          { history with
            runtime := runtime
            results := history.results ++ [(record.operationId, record.result)] }
  | .consumeOperation id =>
      match history.runtime.consumeOperation id with
      | (none, runtime) => { history with runtime := runtime }
      | (some _, runtime) =>
          { history with runtime := runtime, consumed := history.consumed ++ [id] }
  | .start databaseFits => { history with runtime := history.runtime.start databaseFits }
  | .stop now =>
      history.ended (history.runtime.stop now)
        (history.runtime.control = none && history.runtime.stoppable) stopReason now
  | .logout now =>
      history.ended (history.runtime.logout now)
        (history.runtime.control = none && history.runtime.stoppable) stopReason now
  | .destroy now =>
      history.ended (history.runtime.destroy now)
        (history.runtime.control = none && history.runtime.state ≠ .destroyed) destroyReason now
  | .advance => { history with runtime := history.runtime.advance }

end OperationHistory

/-! Ids tell operations and runtimes apart. -/

theorem digitBytes_injective {left right : Nat} (same : digitBytes left = digitBytes right) :
    left = right := by
  have leftValue := (digitBytes_spec left).2.2 0
  have rightValue := (digitBytes_spec right).2.2 0
  rw [same, rightValue] at leftValue
  omega

theorem decimal_natCast (number : Nat) : decimal (number : Int) = digitBytes number := by
  rw [decimal, if_neg (by omega)]
  rfl

theorem colon_notin_digits (number : Nat) : (0x3A : UInt8) ∉ digitBytes number := by
  intro member
  have digit := (digitBytes_spec number).2.1 _ member
  revert digit
  decide

theorem colon_notin_decimal (number : Int) : (0x3A : UInt8) ∉ decimal number := by
  unfold decimal
  have digits := colon_notin_digits number.natAbs
  unfold digitBytes at digits
  split
  · simpa using digits
  · exact digits

theorem last_colon {front other back rest : Bytes} (plain : (0x3A : UInt8) ∉ back)
    (bare : (0x3A : UInt8) ∉ rest) (same : front ++ colon ++ back = other ++ colon ++ rest) :
    front = other ∧ back = rest := by
  have split : front ++ (0x3A :: back) = other ++ (0x3A :: rest) := by
    simpa [colon, ascii] using same
  rcases List.append_eq_append_iff.mp split with ⟨middle, rfl, tail⟩ | ⟨middle, rfl, tail⟩
  · cases middle with
    | nil => simpa using tail
    | cons head later =>
        simp only [List.cons_append, List.cons.injEq] at tail
        rw [tail.2] at plain
        simp at plain
  · cases middle with
    | nil => simpa using tail.symm
    | cons head later =>
        simp only [List.cons_append, List.cons.injEq] at tail
        rw [tail.2] at bare
        simp at bare

theorem operationId_parts {runtime other : ClientRuntime} {domain label : Bytes} {seq next : UInt64}
    (same : runtime.operationId domain seq = other.operationId label next) :
    runtime.instanceId = other.instanceId ∧ seq = next := by
  unfold operationId at same
  simp only [decimal_natCast] at same
  obtain ⟨front, seqSame⟩ := last_colon (colon_notin_digits _) (colon_notin_digits _) same
  obtain ⟨front, _⟩ := last_colon (colon_notin_decimal _) (colon_notin_decimal _) front
  obtain ⟨_, instanceSame⟩ := last_colon (colon_notin_digits _) (colon_notin_digits _) front
  exact ⟨UInt64.toNat_inj.mp (digitBytes_injective instanceSame),
    UInt64.toNat_inj.mp (digitBytes_injective seqSame)⟩

theorem operationId_ne_nil (runtime : ClientRuntime) (domain : Bytes) (seq : UInt64) :
    runtime.operationId domain seq ≠ [] := by
  simp [operationId, colon, ascii]

/-! The table has room for every admitted operation. -/

namespace CompletionRegistry

/-- The records that are not consumed are of admitted operations, of which there are no more than
the table holds. -/
structure Admits (registry : CompletionRegistry) (admitted : List OperationId) : Prop where
  keyed : registry.Keyed
  distinct : admitted.Nodup
  bounded : admitted.length ≤ registry.capacity
  named : ∀ id ∈ admitted, id ≠ []
  pending : ∀ record ∈ registry.records, record.consumed = false →
    record.operationId ∈ admitted

variable {registry after : CompletionRegistry} {admitted : List OperationId} {id : OperationId}
  {result : Result} {error : Bytes} {now : Int} {record : Record}

theorem Admits.unconsumedCount_le (admits : registry.Admits admitted) :
    registry.unconsumedCount ≤ registry.capacity := by
  unfold unconsumedCount
  have nodup : ((registry.records.filter fun record => !record.consumed).map
      Record.operationId).Nodup :=
    (List.filter_sublist.map Record.operationId).nodup admits.keyed
  have subset : ((registry.records.filter fun record => !record.consumed).map
      Record.operationId) ⊆ admitted := by
    intro id member
    obtain ⟨record, kept, rfl⟩ := List.mem_map.mp member
    obtain ⟨stored, unconsumed⟩ := List.mem_filter.mp kept
    exact admits.pending record stored (by simpa using unconsumed)
  have fewer := (nodup.subperm subset).length_le
  rw [List.length_map, ← List.countP_eq_length_filter] at fewer
  exact fewer.trans admits.bounded

theorem Admits.complete_granted (admits : registry.Admits admitted) (member : id ∈ admitted)
    (fresh : registry.peek id = none) (result : Result) (error : Bytes) (now : Int) :
    ∃ after, registry.complete id result error now = some after := by
  cases completed : registry.complete id result error now with
  | some after => exact ⟨after, rfl⟩
  | none =>
      obtain ⟨full, unconsumed⟩ := complete_eq_none completed (admits.named id member) fresh
      have subset : registry.records.map Record.operationId ⊆ admitted.erase id := by
        intro other listed
        obtain ⟨record, stored, rfl⟩ := List.mem_map.mp listed
        refine (List.mem_erase_of_ne ?_).mpr (admits.pending record stored (unconsumed record stored))
        exact peek_eq_none.mp fresh record stored
      have fewer := (admits.keyed.subperm subset).length_le
      rw [List.length_map, List.length_erase_of_mem member] at fewer
      have some := List.length_pos_of_mem member
      have bounded := admits.bounded
      omega

theorem Admits.complete (admits : registry.Admits admitted) (member : id ∈ admitted)
    (completed : registry.complete id result error now = some after) : after.Admits admitted := by
  obtain ⟨_, fresh, sameCapacity, kept, sublist, _, stored⟩ := complete_records completed
  refine ⟨?_, admits.distinct, sameCapacity ▸ admits.bounded, admits.named, ?_⟩
  · unfold Keyed
    rw [(stored.map Record.operationId).nodup_iff, List.map_cons, List.nodup_cons]
    refine ⟨?_, (sublist.map Record.operationId).nodup admits.keyed⟩
    intro listed
    obtain ⟨record, inKept, same⟩ := List.mem_map.mp listed
    exact peek_eq_none.mp fresh record (sublist.subset inKept) same
  · intro record inAfter unconsumed
    rcases List.mem_cons.mp (stored.mem_iff.mp inAfter) with rfl | inKept
    · exact member
    · exact admits.pending record (sublist.subset inKept) unconsumed

theorem Admits.consume (admits : registry.Admits admitted)
    (consumed : registry.consume id = some (record, after)) :
    after.Admits (admitted.erase id) := by
  obtain ⟨_, sameCapacity, records⟩ := consume_records consumed
  refine ⟨?_, admits.distinct.erase id, ?_, ?_, ?_⟩
  · unfold Keyed
    rw [records, List.map_map]
    have same : (registry.records.map (Record.operationId ∘ fun record =>
        if record.operationId = id then { record with consumed := true } else record)) =
          registry.records.map Record.operationId := by
      refine List.map_congr_left fun record _ => ?_
      simp only [Function.comp_apply]
      split <;> rfl
    rw [same]
    exact admits.keyed
  · rw [sameCapacity]
    exact List.length_erase_le.trans admits.bounded
  · intro other member
    exact admits.named other (List.mem_of_mem_erase member)
  · intro other stored unconsumed
    rw [records] at stored
    obtain ⟨before, member, rfl⟩ := List.mem_map.mp stored
    split at unconsumed
    · simp at unconsumed
    · rename_i differs
      rw [if_neg differs]
      exact (List.mem_erase_of_ne differs).mpr (admits.pending before member unconsumed)

theorem Admits.added (admits : registry.Admits admitted) (fresh : id ∉ admitted)
    (named : id ≠ []) (room : admitted.length < registry.capacity) :
    registry.Admits (id :: admitted) := by
  refine ⟨admits.keyed, List.nodup_cons.mpr ⟨fresh, admits.distinct⟩, room, ?_, ?_⟩
  · intro other member
    rcases List.mem_cons.mp member with rfl | member
    · exact named
    · exact admits.named other member
  · intro record stored unconsumed
    exact List.mem_cons_of_mem id (admits.pending record stored unconsumed)

end CompletionRegistry

/-! What a run keeps. -/

namespace OperationHistory

structure Agrees (completions : CompletionRegistry) (admitted : List OperationId)
    (results : List (OperationId × Result)) : Prop where
  admits : completions.Admits admitted
  once : (results.map Prod.fst).Nodup
  recorded : ∀ record ∈ completions.records, (record.operationId, record.result) ∈ results
  kept : ∀ id result, (id, result) ∈ results → id ∈ admitted →
    ∃ record, completions.peek id = some record ∧ record.result = result ∧
      record.consumed = false

variable {completions after : CompletionRegistry} {admitted : List OperationId}
  {results : List (OperationId × Result)} {id : OperationId} {result : Result} {error : Bytes}
  {now : Int} {record : Record}

theorem Agrees.fresh_result (agrees : Agrees completions admitted results) (member : id ∈ admitted)
    (fresh : completions.peek id = none) : id ∉ results.map Prod.fst := by
  intro listed
  obtain ⟨⟨_, result⟩, inResults, rfl⟩ := List.mem_map.mp listed
  obtain ⟨record, found, _⟩ := agrees.kept _ result inResults member
  simp [fresh] at found

theorem Agrees.complete (agrees : Agrees completions admitted results) (member : id ∈ admitted)
    (completed : completions.complete id result error now = some after) :
    after.peek id = some (.of id result error now) ∧
      Agrees after admitted (results ++ [(id, result)]) := by
  have admits := agrees.admits.complete member completed
  obtain ⟨_, fresh, _, kept, sublist, unconsumedKept, stored⟩ := complete_records completed
  have unlisted := agrees.fresh_result member fresh
  have peeked : after.peek id = some (.of id result error now) :=
    admits.keyed.peek_iff.mpr ⟨stored.mem_iff.mpr List.mem_cons_self, rfl⟩
  refine ⟨peeked, admits, ?_, ?_, ?_⟩
  · rw [List.map_append, List.map_singleton]
    exact agrees.once.append (List.nodup_singleton id) (by simpa using unlisted)
  · intro record inAfter
    rcases List.mem_cons.mp (stored.mem_iff.mp inAfter) with rfl | inKept
    · exact List.mem_append_right _ List.mem_cons_self
    · exact List.mem_append_left _ (agrees.recorded record (sublist.subset inKept))
  · intro other otherResult inResults otherMember
    rcases List.mem_append.mp inResults with earlier | own
    · obtain ⟨record, found, same, unconsumed⟩ :=
        agrees.kept other otherResult earlier otherMember
      obtain ⟨inRecords, named⟩ := peek_member found
      have inAfter := stored.mem_iff.mpr
        (List.mem_cons_of_mem _ (unconsumedKept record inRecords unconsumed))
      exact ⟨record, admits.keyed.peek_iff.mpr ⟨inAfter, named⟩, same, unconsumed⟩
    · obtain ⟨rfl, rfl⟩ := Prod.mk.inj (List.mem_singleton.mp own)
      exact ⟨_, peeked, rfl, rfl⟩

theorem Agrees.consume (agrees : Agrees completions admitted results)
    (consumed : completions.consume id = some (record, after)) :
    Agrees after (admitted.erase id) results := by
  have admits := agrees.admits.consume consumed
  obtain ⟨_, _, records⟩ := consume_records consumed
  refine ⟨admits, agrees.once, ?_, ?_⟩
  · intro other stored
    rw [records] at stored
    obtain ⟨before, member, rfl⟩ := List.mem_map.mp stored
    have same := agrees.recorded before member
    split <;> exact same
  · intro other otherResult inResults otherMember
    have differs : other ≠ id := by
      rintro rfl
      exact agrees.admits.distinct.not_mem_erase otherMember
    obtain ⟨found, peeked, same, unconsumed⟩ :=
      agrees.kept other otherResult inResults (List.mem_of_mem_erase otherMember)
    obtain ⟨inRecords, named⟩ := peek_member peeked
    refine ⟨found, admits.keyed.peek_iff.mpr ⟨?_, named⟩, same, unconsumed⟩
    rw [records]
    refine List.mem_map.mpr ⟨found, inRecords, ?_⟩
    rw [if_neg (named ▸ differs)]

theorem Agrees.added (agrees : Agrees completions admitted results) (fresh : id ∉ admitted)
    (unlisted : id ∉ results.map Prod.fst) (named : id ≠ [])
    (room : admitted.length < completions.capacity) :
    Agrees completions (id :: admitted) results := by
  refine ⟨agrees.admits.added fresh named room, agrees.once, agrees.recorded, ?_⟩
  intro other result inResults member
  rcases List.mem_cons.mp member with rfl | member
  · exact absurd (List.mem_map_of_mem inResults) unlisted
  · exact agrees.kept other result inResults member

theorem Agrees.cancelAll (error : Bytes) (now : Int) (ids : List OperationId) :
    ∀ {completions : CompletionRegistry} {results : List (OperationId × Result)},
      Agrees completions admitted results → (∀ id ∈ ids, id ∈ admitted) →
      let done := cancelAll error now ids completions
      Agrees done.1 admitted (results ++ done.2.map fun id => (id, .cancelled)) ∧
        (∀ id ∈ done.2, id ∈ ids) ∧ done.1.capacity = completions.capacity ∧
        ∀ id ∈ admitted, id ∈ ids ∨ (completions.peek id).isSome →
          (done.1.peek id).isSome := by
  induction ids with
  | nil =>
      intro completions results agrees _
      simpa [ClientRuntime.cancelAll] using agrees
  | cons first rest ih =>
      intro completions results agrees members
      have member := members first List.mem_cons_self
      have later := fun id inRest => members id (List.mem_cons_of_mem first inRest)
      simp only [ClientRuntime.cancelAll]
      cases completed : completions.complete first .cancelled error now with
      | none =>
          obtain ⟨agreesLater, within, sameCapacity, covered⟩ := ih agrees later
          refine ⟨agreesLater, fun id inDone => List.mem_cons_of_mem first (within id inDone),
            sameCapacity, ?_⟩
          have present : (completions.peek first).isSome := by
            cases found : completions.peek first with
            | some record => rfl
            | none =>
                obtain ⟨after, granted⟩ :=
                  agrees.admits.complete_granted member found .cancelled error now
                simp [granted] at completed
          rintro id inAdmitted (listed | found)
          · rcases List.mem_cons.mp listed with rfl | inRest
            · exact covered id inAdmitted (.inr present)
            · exact covered id inAdmitted (.inl inRest)
          · exact covered id inAdmitted (.inr found)
      | some completed' =>
          obtain ⟨peeked, agreesNow⟩ := agrees.complete member completed
          obtain ⟨_, _, capacityNow, _, _, _, _⟩ := complete_records completed
          obtain ⟨agreesLater, within, sameCapacity, covered⟩ := ih agreesNow later
          refine ⟨by simpa using agreesLater, ?_, sameCapacity.trans capacityNow, ?_⟩
          · intro id inDone
            rcases List.mem_cons.mp inDone with rfl | inRest
            · exact List.mem_cons_self
            · exact List.mem_cons_of_mem first (within id inRest)
          · rintro id inAdmitted (listed | found)
            · rcases List.mem_cons.mp listed with rfl | inRest
              · exact covered id inAdmitted (.inr (by simp [peeked]))
              · exact covered id inAdmitted (.inl inRest)
            · refine covered id inAdmitted (.inr ?_)
              obtain ⟨record, present⟩ := Option.isSome_iff_exists.mp found
              obtain ⟨inRecords, named⟩ := peek_member present
              have listed := named ▸ agrees.recorded record inRecords
              obtain ⟨kept, keptFound, _⟩ :=
                agreesNow.kept id record.result (List.mem_append_left _ listed) inAdmitted
              simp [keptFound]

structure Sound (history : OperationHistory) : Prop where
  agrees : Agrees history.runtime.completions history.runtime.admitted history.results
  sized : history.runtime.completions.capacity = history.runtime.completionCapacity
  known : ∀ id ∈ history.runtime.admitted, id ∈ history.handedOut
  listed : ∀ id ∈ history.results.map Prod.fst, id ∈ history.handedOut
  outstanding : ∀ id ∈ history.handedOut, id ∉ history.consumed → id ∈ history.runtime.admitted
  settled : history.runtime.state ≠ .running →
    ∀ id ∈ history.runtime.admitted, (history.runtime.completions.peek id).isSome
  quiet : history.runtime.Quiet
  counted : history.runtime.opSeq = UInt64.ofNat history.handedOut.length
  numbered : ∀ id ∈ history.handedOut, ∃ (runtime : ClientRuntime) (domain : Bytes) (number : Nat),
    runtime.instanceId = history.runtime.instanceId ∧ 0 < number ∧
      number ≤ history.handedOut.length ∧ id = runtime.operationId domain (UInt64.ofNat number)
  distinct : history.handedOut.Nodup

variable {history : OperationHistory}

theorem fresh_sound (ownerId : Int) (completionCapacity : Nat) (instanceId : UInt64) :
    (fresh ownerId completionCapacity instanceId).Sound := by
  refine ⟨⟨⟨?_, ?_, ?_, ?_, ?_⟩, ?_, ?_, ?_⟩, ?_, ?_, ?_, ?_, ?_, ?_, ?_, ?_, ?_⟩ <;>
    simp [fresh, create, Keyed, Quiet]

theorem Sound.id_fresh (sound : history.Sound) (room : history.handedOut.length < 2 ^ 64)
    (domain : Bytes) : history.runtime.operationId domain (history.runtime.opSeq + 1) ∉
      history.handedOut := by
  intro member
  obtain ⟨runtime, label, number, _, positive, bounded, same⟩ := sound.numbered _ member
  have seqSame := (operationId_parts same).2
  rw [sound.counted, ← UInt64.ofNat_one, ← UInt64.ofNat_add, ← UInt64.toNat_inj,
    UInt64.toNat_ofNat', UInt64.toNat_ofNat'] at seqSame
  omega

theorem Sound.nextOperationId (sound : history.Sound) (domain : Bytes)
    (room : (history.step (.nextOperationId domain)).handedOut.length ≤ 2 ^ 64) :
    (history.step (.nextOperationId domain)).Sound := by
  by_cases refused : domain = [] ∨ history.runtime.state ≠ .running ∨
      history.runtime.completionCapacity ≤ history.runtime.admitted.length
  · simpa only [step, ClientRuntime.nextOperationId, if_pos refused, if_true] using sound
  · simp only [step, ClientRuntime.nextOperationId, if_neg refused] at room ⊢
    simp only [not_or, not_le, ne_eq, Decidable.not_not] at refused
    obtain ⟨_, running, space⟩ := refused
    have named := operationId_ne_nil history.runtime domain (history.runtime.opSeq + 1)
    simp only [named, if_false, List.length_append, List.length_singleton] at room ⊢
    have fresh := sound.id_fresh (by omega) domain
    generalize sameId : history.runtime.operationId domain (history.runtime.opSeq + 1) = id
      at named fresh ⊢
    have unadmitted : id ∉ history.runtime.admitted := fun member => fresh (sound.known id member)
    rw [List.insert_of_not_mem unadmitted]
    refine ⟨?_, sound.sized, ?_, ?_, ?_, ?_, ?_, ?_, ?_, ?_⟩
    · exact sound.agrees.added unadmitted (fun inResults => fresh (sound.listed id inResults)) named
        (by rw [sound.sized]; exact space)
    · intro other member
      rcases List.mem_cons.mp member with rfl | member
      · exact List.mem_append_right _ List.mem_cons_self
      · exact List.mem_append_left _ (sound.known other member)
    · exact fun other member => List.mem_append_left _ (sound.listed other member)
    · intro other member unconsumed
      rcases List.mem_append.mp member with earlier | own
      · exact List.mem_cons_of_mem _ (sound.outstanding other earlier unconsumed)
      · exact List.mem_singleton.mp own ▸ List.mem_cons_self
    · exact fun stopped => absurd running stopped
    · exact sound.quiet
    · rw [sound.counted, List.length_append, List.length_singleton, UInt64.ofNat_add]
      rfl
    · intro other member
      rcases List.mem_append.mp member with earlier | own
      · obtain ⟨runtime, label, number, sameInstance, positive, bounded, rfl⟩ :=
          sound.numbered other earlier
        exact ⟨runtime, label, number, sameInstance, positive, by simp; omega, rfl⟩
      · refine ⟨history.runtime, domain, history.handedOut.length + 1, rfl, by omega, by simp, ?_⟩
        rw [List.mem_singleton.mp own, ← sameId, sound.counted, UInt64.ofNat_add]
        rfl
    · exact sound.distinct.append (List.nodup_singleton id) (by simpa using fresh)

theorem Sound.completeOperation (sound : history.Sound) (id : OperationId) (result : Result)
    (error : Bytes) (now : Int) :
    (history.step (.completeOperation id result error now)).Sound := by
  simp only [step, ClientRuntime.completeOperation]
  by_cases refused : history.runtime.state ≠ .running ∨ id ∉ history.runtime.admitted
  · simpa only [if_pos refused] using sound
  · rw [if_neg refused]
    simp only [not_or, ne_eq, Decidable.not_not] at refused
    obtain ⟨running, member⟩ := refused
    cases completed : history.runtime.completions.complete id result error now with
    | none => simpa using sound
    | some after =>
        obtain ⟨peeked, agrees⟩ := sound.agrees.complete member completed
        obtain ⟨_, _, sameCapacity, _⟩ := complete_records completed
        simp only [peeked, Record.of]
        refine ⟨agrees, sameCapacity.trans sound.sized, sound.known, ?_, sound.outstanding, ?_,
          sound.quiet, sound.counted, sound.numbered, sound.distinct⟩
        · intro other listed
          rw [List.map_append, List.map_singleton] at listed
          rcases List.mem_append.mp listed with earlier | own
          · exact sound.listed other earlier
          · exact List.mem_singleton.mp own ▸ sound.known id member
        · exact fun stopped => absurd running stopped

theorem Sound.consumeOperation (sound : history.Sound) (id : OperationId) :
    (history.step (.consumeOperation id)).Sound := by
  simp only [step, ClientRuntime.consumeOperation]
  cases consumed : history.runtime.completions.consume id with
  | none => simpa using sound
  | some found =>
      obtain ⟨record, after⟩ := found
      obtain ⟨_, sameCapacity, records⟩ := consume_records consumed
      have agrees := sound.agrees.consume consumed
      refine ⟨agrees, sameCapacity.trans sound.sized, ?_, sound.listed, ?_, ?_, sound.quiet,
        sound.counted, sound.numbered, sound.distinct⟩
      · exact fun other member => sound.known other (List.mem_of_mem_erase member)
      · intro other member unconsumed
        simp only [List.mem_append, List.mem_singleton, not_or] at unconsumed
        exact (List.mem_erase_of_ne unconsumed.2).mpr (sound.outstanding other member unconsumed.1)
      · intro stopped other member
        have present := sound.settled stopped other (List.mem_of_mem_erase member)
        obtain ⟨kept, found⟩ := Option.isSome_iff_exists.mp present
        obtain ⟨inRecords, named⟩ := peek_member found
        have inResults := named ▸ sound.agrees.recorded kept inRecords
        obtain ⟨_, keptFound, _⟩ := agrees.kept other kept.result inResults member
        simp [keptFound]

theorem Sound.moved (sound : history.Sound) {runtime : ClientRuntime}
    (completions : runtime.completions = history.runtime.completions)
    (admitted : runtime.admitted = history.runtime.admitted)
    (capacity : runtime.completionCapacity = history.runtime.completionCapacity)
    (opSeq : runtime.opSeq = history.runtime.opSeq)
    (instanceId : runtime.instanceId = history.runtime.instanceId)
    (settled : runtime.state ≠ .running → history.runtime.state ≠ .running)
    (quiet : runtime.Quiet) : { history with runtime := runtime }.Sound := by
  obtain ⟨agrees, sized, known, listed, outstanding, settledBefore, _, counted, numbered,
    distinct⟩ := sound
  refine ⟨?_, ?_, ?_, listed, ?_, ?_, quiet, ?_, ?_, distinct⟩
  · simpa only [completions, admitted] using agrees
  · simpa only [completions, capacity] using sized
  · simpa only [admitted] using known
  · simpa only [admitted] using outstanding
  · intro stopped
    simpa only [completions, admitted] using settledBefore (settled stopped)
  · simpa only [opSeq] using counted
  · simpa only [instanceId] using numbered

theorem Sound.start (sound : history.Sound) (databaseFits : Bool) :
    (history.step (.start databaseFits)).Sound := by
  have quiet := live_quiet sound.quiet (.start databaseFits)
  simp only [live, ClientRuntime.start] at quiet
  simp only [step, ClientRuntime.start]
  split at quiet <;> rename_i granted
  · rw [if_pos granted]
    exact sound
  · rw [if_neg granted]
    simp only [not_or] at granted
    exact sound.moved rfl rfl rfl rfl rfl (fun _ => granted.2.2.1) quiet

theorem advance_kept (runtime : ClientRuntime) :
    runtime.advance.completions = runtime.completions ∧
      runtime.advance.admitted = runtime.admitted ∧
      runtime.advance.completionCapacity = runtime.completionCapacity ∧
      runtime.advance.opSeq = runtime.opSeq ∧ runtime.advance.instanceId = runtime.instanceId := by
  unfold advance
  split <;> try exact ⟨rfl, rfl, rfl, rfl, rfl⟩
  split <;> exact ⟨rfl, rfl, rfl, rfl, rfl⟩

theorem Sound.advance (sound : history.Sound) : (history.step .advance).Sound := by
  obtain ⟨completions, admitted, capacity, opSeq, instanceId⟩ := advance_kept history.runtime
  exact sound.moved completions admitted capacity opSeq instanceId (advance_settled sound.quiet)
    (advance_quiet sound.quiet)

theorem Sound.shutDown (sound : history.Sound) {state : State} (stopped : state ≠ .running)
    (ending : Ending) (error : Bytes) (now : Int) :
    (history.ended (history.runtime.shutDown state ending error now) true error now).Sound := by
  obtain ⟨agrees, within, sameCapacity, covered⟩ :=
    Agrees.cancelAll error now history.runtime.admitted sound.agrees fun _ member => member
  refine ⟨agrees, sameCapacity.trans sound.sized, sound.known, ?_, sound.outstanding, ?_,
    fun _ => stopped, sound.counted, sound.numbered, sound.distinct⟩
  · intro id member
    simp only [ended, if_true, List.map_append, List.map_map, List.mem_append, List.mem_map] at member
    rcases member with ⟨entry, inResults, rfl⟩ | ⟨other, cancelled, rfl⟩
    · exact sound.listed _ (List.mem_map_of_mem inResults)
    · exact sound.known _ (within _ cancelled)
  · exact fun _ id member => covered id member (.inl member)

theorem ended_refused (history : OperationHistory) (runtime : ClientRuntime) (error : Bytes)
    (now : Int) : history.ended runtime false error now = { history with runtime := runtime } := by
  simp [ended]

theorem Sound.stop (sound : history.Sound) (now : Int) : (history.step (.stop now)).Sound := by
  simp only [step, ClientRuntime.stop]
  by_cases idle : history.runtime.control ≠ none ∨ !history.runtime.stoppable
  · have taken : (history.runtime.control = none && history.runtime.stoppable) = false := by
      rcases idle with held | stopped
      · simp [held]
      · simpa using fun _ => stopped
    rw [if_pos idle, taken, ended_refused]
    exact sound
  · have taken : (history.runtime.control = none && history.runtime.stoppable) = true := by
      simpa using idle
    rw [if_neg idle, taken]
    exact sound.shutDown (by simp) .stop stopReason now

theorem Sound.logout (sound : history.Sound) (now : Int) :
    (history.step (.logout now)).Sound := by
  simp only [step, ClientRuntime.logout]
  by_cases held : history.runtime.control ≠ none
  · rw [if_pos held, show (history.runtime.control = none && history.runtime.stoppable) = false by
      simp [held], ended_refused]
    exact sound
  · rw [not_not] at held
    cases stoppable : history.runtime.stoppable with
    | false =>
        simp only [held, ne_eq, not_true, if_false, Bool.not_false, if_true, Bool.and_false,
          ended_refused]
        exact sound.moved rfl rfl rfl rfl rfl id fun _ => stoppable_eq_false stoppable
    | true =>
        simp only [held, ne_eq, not_true, if_false, Bool.not_true, Bool.false_eq_true,
          decide_true, Bool.and_true]
        exact sound.shutDown (by simp) .logout stopReason now

theorem Sound.destroy (sound : history.Sound) (now : Int) :
    (history.step (.destroy now)).Sound := by
  simp only [step, ClientRuntime.destroy]
  by_cases idle : history.runtime.control ≠ none ∨ history.runtime.state = .destroyed
  · have taken : (history.runtime.control = none && decide (history.runtime.state ≠ .destroyed)) =
        false := by
      simpa [or_iff_not_imp_left] using idle
    rw [if_pos idle, taken, ended_refused]
    exact sound
  · have taken : (history.runtime.control = none && decide (history.runtime.state ≠ .destroyed)) =
        true := by
      simpa using idle
    rw [if_neg idle, taken]
    exact sound.shutDown (by simp) .destroy destroyReason now

theorem Sound.stepped (sound : history.Sound) (call : OperationCall)
    (room : (history.step call).handedOut.length ≤ 2 ^ 64) : (history.step call).Sound := by
  cases call with
  | nextOperationId domain => exact sound.nextOperationId domain room
  | completeOperation id result error now => exact sound.completeOperation id result error now
  | consumeOperation id => exact sound.consumeOperation id
  | start databaseFits => exact sound.start databaseFits
  | stop now => exact sound.stop now
  | logout now => exact sound.logout now
  | destroy now => exact sound.destroy now
  | advance => exact sound.advance

theorem step_handedOut (history : OperationHistory) (call : OperationCall) :
    history.handedOut.length ≤ (history.step call).handedOut.length := by
  cases call with
  | nextOperationId domain =>
      simp only [step]
      split <;> simp
  | completeOperation id result error now =>
      simp only [step]
      split <;> exact le_rfl
  | consumeOperation id =>
      simp only [step]
      split <;> exact le_rfl
  | start _ => exact le_rfl
  | stop _ => exact le_rfl
  | logout _ => exact le_rfl
  | destroy _ => exact le_rfl
  | advance => exact le_rfl

def run (ownerId : Int) (completionCapacity : Nat) (instanceId : UInt64)
    (calls : List OperationCall) : OperationHistory :=
  calls.foldl step (fresh ownerId completionCapacity instanceId)

theorem run_sound (ownerId : Int) (completionCapacity : Nat) (instanceId : UInt64)
    (calls : List OperationCall)
    (room : (run ownerId completionCapacity instanceId calls).handedOut.length ≤ 2 ^ 64) :
    (run ownerId completionCapacity instanceId calls).Sound := by
  induction calls using List.reverseRecOn with
  | nil => exact fresh_sound ownerId completionCapacity instanceId
  | append_singleton earlier call ih =>
      simp only [run, List.foldl_append, List.foldl_cons, List.foldl_nil] at room ⊢
      exact (ih ((step_handedOut _ call).trans room)).stepped call room

theorem step_config (history : OperationHistory) (call : OperationCall) :
    ((history.step call).runtime.instanceId, (history.step call).runtime.completionCapacity) =
      (history.runtime.instanceId, history.runtime.completionCapacity) := by
  cases call with
  | nextOperationId domain =>
      simp only [step, ClientRuntime.nextOperationId]
      split <;> rfl
  | completeOperation id result error now =>
      by_cases refused : history.runtime.state ≠ .running ∨ id ∉ history.runtime.admitted
      · simp only [step, ClientRuntime.completeOperation, if_pos refused]
      · simp only [step, ClientRuntime.completeOperation, if_neg refused]
        cases history.runtime.completions.complete id result error now with
        | none => rfl
        | some after => cases found : after.peek id <;> simp only [found]
  | consumeOperation id =>
      simp only [step, ClientRuntime.consumeOperation]
      cases history.runtime.completions.consume id <;> rfl
  | start _ =>
      simp only [step, ClientRuntime.start]
      split <;> rfl
  | stop _ =>
      simp only [step, ended, ClientRuntime.stop]
      split <;> rfl
  | logout _ =>
      simp only [step, ended, ClientRuntime.logout]
      split
      · rfl
      · split <;> rfl
  | destroy _ =>
      simp only [step, ended, ClientRuntime.destroy]
      split <;> rfl
  | advance =>
      obtain ⟨_, _, capacity, _, instanceId⟩ := advance_kept history.runtime
      exact Prod.ext instanceId capacity

theorem run_config (ownerId : Int) (completionCapacity : Nat) (instanceId : UInt64)
    (calls : List OperationCall) :
    (run ownerId completionCapacity instanceId calls).runtime.instanceId = instanceId ∧
      (run ownerId completionCapacity instanceId calls).runtime.completionCapacity =
        completionCapacity := by
  have same := Lib.foldl_view (fun history : OperationHistory =>
    (history.runtime.instanceId, history.runtime.completionCapacity)) step step_config calls
      (fresh ownerId completionCapacity instanceId)
  exact Prod.mk.inj same

end OperationHistory

open OperationHistory in
/-- Every operation gets at most one result, which is kept until it is consumed; no more results
wait than the table holds; only a second completion of an operation is refused; and 2^64
submissions are told apart, in one runtime and across runtimes. -/
theorem operations_complete_once (ownerId : Int) (completionCapacity : Nat) (instanceId : UInt64)
    (calls : List OperationCall)
    (room : (run ownerId completionCapacity instanceId calls).handedOut.length ≤ 2 ^ 64) :
    let history := run ownerId completionCapacity instanceId calls
    (history.results.map Prod.fst).Nodup ∧
    (∀ id ∈ history.results.map Prod.fst, id ∈ history.handedOut) ∧
    history.runtime.completions.unconsumedCount ≤ completionCapacity ∧
    (∀ id ∈ history.runtime.admitted, ∀ result error now,
      (history.runtime.completeOperation id result error now).1 = none →
        id ∈ history.results.map Prod.fst) ∧
    (∀ id result, (id, result) ∈ history.results → id ∉ history.consumed →
      ∃ record, history.runtime.completions.peek id = some record ∧ record.result = result ∧
        (history.runtime.consumeOperation id).1 = some record) ∧
    history.handedOut.Nodup ∧
    ∀ otherOwner otherCapacity otherInstance otherCalls, otherInstance ≠ instanceId →
      (run otherOwner otherCapacity otherInstance otherCalls).handedOut.length ≤ 2 ^ 64 →
      ∀ id ∈ history.handedOut,
        id ∉ (run otherOwner otherCapacity otherInstance otherCalls).handedOut := by
  intro history
  have sound : history.Sound := run_sound ownerId completionCapacity instanceId calls room
  have capacity : history.runtime.completions.capacity = completionCapacity :=
    sound.sized.trans (run_config ownerId completionCapacity instanceId calls).2
  refine ⟨sound.agrees.once, sound.listed, ?_, ?_, ?_, sound.distinct, ?_⟩
  · exact capacity ▸ sound.agrees.admits.unconsumedCount_le
  · intro id member result error now refused
    by_contra unlisted
    have fresh : history.runtime.completions.peek id = none := by
      rw [peek_eq_none]
      rintro record stored rfl
      exact unlisted (List.mem_map_of_mem (sound.agrees.recorded record stored))
    have running : history.runtime.state = .running := by
      by_contra stopped
      simpa [fresh] using sound.settled stopped id member
    obtain ⟨after, granted⟩ :=
      sound.agrees.admits.complete_granted member fresh result error now
    have found := (sound.agrees.complete member granted).1
    simp [ClientRuntime.completeOperation, running, member, granted, found] at refused
  · intro id result inResults unconsumed
    have inHandedOut := sound.listed id (List.mem_map_of_mem inResults)
    have member := sound.outstanding id inHandedOut unconsumed
    obtain ⟨record, found, same, _⟩ := sound.agrees.kept id result inResults member
    exact ⟨record, found, same, by simp [ClientRuntime.consumeOperation, consume, found]⟩
  · intro otherOwner otherCapacity otherInstance otherCalls differs otherRoom id member otherMember
    have other := run_sound otherOwner otherCapacity otherInstance otherCalls otherRoom
    obtain ⟨first, _, _, firstInstance, _, _, firstSame⟩ := sound.numbered id member
    obtain ⟨second, _, _, secondInstance, _, _, secondSame⟩ := other.numbered id otherMember
    have same := (operationId_parts (firstSame.symm.trans secondSame)).1
    rw [firstInstance, secondInstance, (run_config _ _ _ _).1, (run_config _ _ _ _).1] at same
    exact differs same.symm

namespace OperationHistory

def starting : List OperationCall := [.start true, .advance, .advance, .advance]

def sendText : Bytes := ascii "send_text"

def started : OperationHistory := run 7 1 1 starting

def textId (number : Nat) : OperationId :=
  started.runtime.operationId sendText (UInt64.ofNat number)

def cycle (number : Nat) : List OperationCall :=
  [.nextOperationId sendText, .completeOperation (textId number) .ok [] 0,
    .consumeOperation (textId number)]

structure Cycled (count : Nat) (history : OperationHistory) : Prop where
  runtime : ∃ records, history.runtime =
    { started.runtime with
      opSeq := UInt64.ofNat count
      completions := { capacity := 1, records := records } } ∧
    (records = [] ∨
      records = [{ Record.of (textId count) .ok [] 0 with consumed := true }])
  first : 0 < count → textId 1 ∈ history.handedOut

theorem textId_succ (number : Nat) : textId number ≠ textId (number + 1) := by
  intro same
  have seqSame := (operationId_parts same).2
  rw [← UInt64.toNat_inj, UInt64.toNat_ofNat', UInt64.toNat_ofNat'] at seqSame
  omega

theorem cycled_submit {count : Nat} {history : OperationHistory} (cycled : Cycled count history) :
    history.step (.nextOperationId sendText) =
      { history with
        runtime := { history.runtime with
          opSeq := UInt64.ofNat (count + 1)
          admitted := [textId (count + 1)] }
        handedOut := history.handedOut ++ [textId (count + 1)] } := by
  obtain ⟨records, built, _⟩ := cycled.runtime
  have named : textId (count + 1) ≠ [] := operationId_ne_nil _ _ _
  have next : (UInt64.ofNat count + 1 : UInt64) = UInt64.ofNat (count + 1) := by
    rw [UInt64.ofNat_add]
    rfl
  have idSame : history.runtime.operationId sendText (UInt64.ofNat (count + 1)) =
      textId (count + 1) := by
    rw [built]
    rfl
  have granted : ¬(sendText = [] ∨ history.runtime.state ≠ .running ∨
      history.runtime.completionCapacity ≤ history.runtime.admitted.length) := by
    rw [built]
    exact (by decide : ¬(sendText = [] ∨ started.runtime.state ≠ .running ∨
      started.runtime.completionCapacity ≤ started.runtime.admitted.length))
  have seqSame : history.runtime.opSeq = UInt64.ofNat count := by rw [built]
  have noneAdmitted : history.runtime.admitted = [] := by
    rw [built]
    rfl
  simp only [step, ClientRuntime.nextOperationId, if_neg granted]
  simp only [seqSame, next, idSame, named, if_false, noneAdmitted, List.insert_nil]

theorem cycled_cycle {count : Nat} {history : OperationHistory} (cycled : Cycled count history) :
    Cycled (count + 1) ((cycle (count + 1)).foldl step history) := by
  obtain ⟨records, built, few⟩ := cycled.runtime
  have first := cycled.first
  have named : textId (count + 1) ≠ [] := operationId_ne_nil _ _ _
  have completed : ({ capacity := 1, records := records } : CompletionRegistry).complete
      (textId (count + 1)) .ok [] 0 =
        some { capacity := 1, records := [.of (textId (count + 1)) .ok [] 0] } := by
    rcases few with rfl | rfl
    · simp [CompletionRegistry.complete, peek, named, makeRoom, emplace]
    · simp [CompletionRegistry.complete, peek, named, makeRoom, emplace, evictOneLocked,
        textId_succ, Record.of]
  simp only [cycle, List.foldl_cons, List.foldl_nil, cycled_submit cycled]
  have running : started.runtime.state = .running := by decide
  have refused : ¬(history.runtime.state ≠ .running ∨
      textId (count + 1) ∉ [textId (count + 1)]) := by
    rw [built]
    simp [running]
  have complete : history.runtime.completions.complete (textId (count + 1)) .ok [] 0 =
      some { capacity := 1, records := [.of (textId (count + 1)) .ok [] 0] } := by
    rw [built]
    exact completed
  simp only [step, ClientRuntime.completeOperation, if_neg refused, complete, peek, Record.of,
    List.find?_cons, decide_true, ClientRuntime.consumeOperation, consume, Option.map_some,
    List.map_cons, List.map_nil, if_true, List.erase_cons_head]
  refine ⟨⟨_, ?_, .inr rfl⟩, fun _ => ?_⟩
  · rw [built]
    rfl
  · rcases count with _ | count
    · simp
    · exact List.mem_append_left _ (first (by omega))

theorem cycled_cycles (count : Nat) :
    Cycled count (((List.range count).flatMap fun number => cycle (number + 1)).foldl step
      started) := by
  induction count with
  | zero => exact ⟨⟨[], rfl, .inl rfl⟩, by simp⟩
  | succ count ih =>
      rw [List.range_succ, List.flatMap_append, List.foldl_append, List.flatMap_singleton]
      exact cycled_cycle ih

end OperationHistory

def OperationHistory.stopping : List OperationCall :=
  starting ++ [.nextOperationId sendText, .nextOperationId sendText,
    .completeOperation (textId 1) .ok [] 0, .stop 0]

open OperationHistory in
/-- Two operations, of which one has its result when the runtime stops. -/
theorem operations_complete_once_stopped :
    (run 7 2 1 stopping).results = [(textId 1, .ok), (textId 2, .cancelled)] ∧
      ((run 7 2 1 stopping).results.map Prod.fst).Nodup := by
  have few : (run 7 2 1 stopping).handedOut.length ≤ 2 ^ 64 := by decide +kernel
  refine ⟨by decide +kernel, ?_⟩
  have once := operations_complete_once 7 2 1 stopping few
  exact once.1

open OperationHistory in
/-- An operation that has its result is completed again, and the numbers come round after 2^64
submissions. -/
theorem operations_refused_and_reused :
    (¬∀ ownerId completionCapacity instanceId calls,
      ∀ id ∈ (run ownerId completionCapacity instanceId calls).runtime.admitted,
        ∀ result error now, ((run ownerId completionCapacity instanceId calls).runtime.completeOperation
          id result error now).1 ≠ none) ∧
    ¬∀ ownerId completionCapacity instanceId calls,
      (run ownerId completionCapacity instanceId calls).handedOut.Nodup := by
  constructor
  · intro granted
    exact granted 7 1 1 (starting ++ (cycle 1).take 2) (textId 1) (by decide +kernel) .ok [] 0
      (by decide +kernel)
  · intro distinct
    have cycled := cycled_cycles (2 ^ 64)
    have again := distinct 7 1 1 (starting ++ ((List.range (2 ^ 64)).flatMap fun number =>
      cycle (number + 1)) ++ [.nextOperationId sendText])
    rw [run, List.foldl_append, List.foldl_append, List.foldl_cons, List.foldl_nil] at again
    change (step (_ : OperationHistory) _).handedOut.Nodup at again
    rw [show starting.foldl step (fresh 7 1 1) = started from rfl, cycled_submit cycled] at again
    have same : textId (2 ^ 64 + 1) = textId 1 := by
      have wrapped : UInt64.ofNat (2 ^ 64 + 1) = UInt64.ofNat 1 := by decide
      rw [textId, textId, wrapped]
    rw [List.nodup_append, same] at again
    exact again.2.2 _ (cycled.first (by decide)) _ List.mem_cons_self rfl

end Jitong
