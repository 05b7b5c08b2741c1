import Jitong.Lib.Join
import Jitong.Lib.Run
import Jitong.Lib.Sql
import Jitong.Protocol

/-!
Suggested replies: the requests of `AiSuggestionService`, their outcomes in `ai_suggestions`, and
the lives of the service on one database.
-/

namespace Jitong

open Lib

inductive AiStatus
  | pending | success | error | aborted
  deriving DecidableEq

structure AiSuggestion (Texts : Type) where
  requestId : Bytes
  conversationId : Int
  peerId : Int
  tone : Bytes
  status : AiStatus
  suggestions : Texts
  errorCode : Int32 := 0
  generatedAt : Int
  contextVersion : Bytes
  deriving DecidableEq

structure AiSuggestionRow extends AiSuggestion Bytes where
  ownerId : Int
  deriving DecidableEq

def aiSuggestionClash (first second : AiSuggestionRow) : Bool :=
  first.ownerId = second.ownerId ∧ first.requestId = second.requestId

abbrev AiSuggestionTable := Table AiSuggestionRow aiSuggestionClash

namespace AiSuggestionTable

def unitSeparator : UInt8 := 0x1F

def joinSuggestions (items : List Bytes) : Bytes := join unitSeparator items

def splitSuggestions (text : Bytes) : List Bytes :=
  if text = [] then [] else text.splitOn unitSeparator

def read (row : AiSuggestion Bytes) : AiSuggestion (List Bytes) :=
  { row with suggestions := splitSuggestions row.suggestions }

def rowOf (ownerId : Int) (s : AiSuggestion (List Bytes)) : AiSuggestionRow :=
  { s with suggestions := joinSuggestions s.suggestions, ownerId := ownerId }

def upsertAiSuggestion (table : AiSuggestionTable) (ownerId : Int)
    (s : AiSuggestion (List Bytes)) : Option AiSuggestionTable :=
  if ownerId ≤ 0 ∨ s.requestId = [] then none
  else
    match table.insert (rowOf ownerId s) with
    | some table => some table
    | none =>
        some (table.rewrite (fun row =>
          if row.ownerId = ownerId ∧ row.requestId = s.requestId then
            { row with
              status := s.status
              suggestions := joinSuggestions s.suggestions
              errorCode := s.errorCode
              generatedAt := s.generatedAt
              contextVersion := s.contextVersion }
          else row) (by
            intro first second
            unfold aiSuggestionClash
            split <;> split <;> rfl))

def ordered (first second : AiSuggestion Bytes) : Bool :=
  first.generatedAt < second.generatedAt ||
    first.generatedAt = second.generatedAt && first.requestId ≤ second.requestId

def loadAiSuggestions (table : AiSuggestionTable) (ownerId conversationId : Int) :
    Option (List (AiSuggestion (List Bytes))) :=
  if ownerId ≤ 0 then none
  else
    some ((((table.rows.filter fun row =>
      row.ownerId = ownerId && row.conversationId = conversationId).map
        AiSuggestionRow.toAiSuggestion).mergeSort ordered).map read)

end AiSuggestionTable

structure AiRequestContext where
  conversationId : Int
  peerId : Int
  tone : Bytes
  contextVersion : Bytes
  deriving DecidableEq

structure InFlight where
  requestId : Bytes
  conversationId : Int
  peerId : Int
  tone : Bytes
  contextVersion : Bytes
  generation : Int
  deadlineMs : Int
  deriving DecidableEq

structure AiSuggestionService where
  generation : Int := 0
  seq : UInt64 := 0
  inFlight : List InFlight := []
  byConv : Int → Option Bytes := fun _ => none

namespace AiSuggestionService

def kTimeoutMs : Int := 20000
def kErrorTimeout : Int32 := 1001

def requestIdOf (seq : UInt64) : Bytes := ascii "ai-" ++ decimal seq.toNat

def put (service : AiSuggestionService) (f : InFlight) : List InFlight :=
  service.inFlight.filter (fun other => other.requestId ≠ f.requestId) ++ [f]

def find (service : AiSuggestionService) (requestId : Bytes) : Option InFlight :=
  service.inFlight.find? fun f => f.requestId = requestId

def drop (service : AiSuggestionService) (f : InFlight) : AiSuggestionService :=
  { service with
    inFlight := service.inFlight.filter fun other => other.requestId ≠ f.requestId
    byConv := Function.update service.byConv f.conversationId none }

def freeze (service : AiSuggestionService) (ctx : AiRequestContext) (now : Int) : InFlight where
  requestId := requestIdOf service.seq
  conversationId := ctx.conversationId
  peerId := ctx.peerId
  tone := ctx.tone
  contextVersion := ctx.contextVersion
  generation := service.generation
  deadlineMs := now + kTimeoutMs

def requestAiReply (service : AiSuggestionService) (ctx : AiRequestContext) (now : Int) :
    Option InFlight × AiSuggestionService :=
  if ctx.conversationId ≤ 0 then (none, service)
  else
    match service.byConv ctx.conversationId with
    | some _ => (none, service)
    | none =>
        let f := service.freeze ctx now
        (some f,
          { service with
            seq := service.seq + 1
            inFlight := service.put f
            byConv := Function.update service.byConv ctx.conversationId (some f.requestId) })

def outcome (f : InFlight) (status : AiStatus) (suggestions : List Bytes) (errorCode : Int32)
    (now : Int) : AiSuggestion (List Bytes) where
  requestId := f.requestId
  conversationId := f.conversationId
  peerId := f.peerId
  tone := f.tone
  status := status
  suggestions := suggestions
  errorCode := errorCode
  generatedAt := now
  contextVersion := f.contextVersion

def cancelAiReply (service : AiSuggestionService) (requestId : Bytes) (now : Int) :
    Option (AiSuggestion (List Bytes)) × AiSuggestionService :=
  match service.find requestId with
  | none => (none, service)
  | some f => (some (outcome f .aborted [] 0 now), service.drop f)

def onAiResult (service : AiSuggestionService) (requestId : Bytes) (status : AiStatus)
    (suggestions : List Bytes) (errorCode : Int32) (now : Int) :
    Option (AiSuggestion (List Bytes)) × AiSuggestionService :=
  match service.find requestId with
  | none => (none, service)
  | some f =>
      if f.generation ≠ service.generation then (none, service.drop f)
      else (some (outcome f status suggestions errorCode now), service.drop f)

def invalidate (service : AiSuggestionService) : AiSuggestionService :=
  { service with
    generation := service.generation + 1
    inFlight := []
    byConv := fun _ => none }

def timedOut (service : AiSuggestionService) (now : Int) : List InFlight :=
  service.inFlight.filter fun f => f.deadlineMs ≤ now

def tick (service : AiSuggestionService) (now : Int) :
    List (AiSuggestion (List Bytes)) × AiSuggestionService :=
  ((service.timedOut now).map fun f => outcome f .error [] kErrorTimeout now,
    { service with
      inFlight := service.inFlight.filter fun f => !(f.deadlineMs ≤ now)
      byConv := fun conversationId =>
        if (service.timedOut now).any (·.conversationId = conversationId) then none
        else service.byConv conversationId })

end AiSuggestionService

/-- The service on its database. `made` are the requests of all lives, in order, `origin` is the
last of them that got an id, `outcomes` are the outcomes that were stored, each with its request,
and `ended` are the requests that were cancelled or invalidated. -/
structure AiSuggestions where
  service : AiSuggestionService := {}
  table : AiSuggestionTable := .empty
  made : List InFlight := []
  origin : Bytes → Nat := fun _ => 0
  outcomes : List (Nat × AiSuggestion (List Bytes)) := []
  ended : List Nat := []

inductive AiEvent
  | requestAiReply (ctx : AiRequestContext) (now : Int)
  | cancelAiReply (requestId : Bytes) (now : Int) (written : Bool)
  | onAiResult (request : Nat) (status : AiStatus) (suggestions : List Bytes) (errorCode : Int32)
      (now : Int) (written : Bool)
  | invalidate
  | tick (now : Int) (written : Bytes → Bool)
  | restart

namespace AiSuggestions

def record (world : AiSuggestions) (table : AiSuggestionTable) (s : AiSuggestion (List Bytes)) :
    AiSuggestions :=
  { world with
    table := table
    outcomes := world.outcomes ++ [(world.origin s.requestId, s)] }

def store (ownerId : Int) (written : Bytes → Bool) (world : AiSuggestions)
    (s : AiSuggestion (List Bytes)) : AiSuggestions :=
  if written s.requestId = false then world
  else
    match AiSuggestionTable.upsertAiSuggestion world.table ownerId s with
    | none => world
    | some table => world.record table s

def flying (world : AiSuggestions) (requestId : Bytes) : Option Nat :=
  (world.service.find requestId).map fun f => world.origin f.requestId

def step (ownerId : Int) (world : AiSuggestions) : AiEvent → AiSuggestions
  | .requestAiReply ctx now =>
      match world.service.requestAiReply ctx now with
      | (none, service) => { world with service := service }
      | (some f, service) =>
          { world with
            service := service
            made := world.made ++ [f]
            origin := Function.update world.origin f.requestId world.made.length }
  | .cancelAiReply requestId now written =>
      let (stored, service) := world.service.cancelAiReply requestId now
      stored.toList.foldl (store ownerId fun _ => written)
        { world with
          service := service
          ended := world.ended ++ (world.flying requestId).toList }
  | .onAiResult request status suggestions errorCode now written =>
      match world.made[request]? with
      | none => world
      | some f =>
          let (stored, service) :=
            world.service.onAiResult f.requestId status suggestions errorCode now
          stored.toList.foldl (store ownerId fun _ => written) { world with service := service }
  | .invalidate =>
      { world with
        service := world.service.invalidate
        ended := world.ended ++ List.range world.made.length }
  | .tick now written =>
      let (stored, service) := world.service.tick now
      stored.foldl (store ownerId written) { world with service := service }
  | .restart => { world with service := {} }

def run (ownerId : Int) (events : List AiEvent) : AiSuggestions := events.foldl (step ownerId) {}

/-! What holds of the requests in every run. -/

structure Landed (world : AiSuggestions) (f : InFlight) : Prop where
  made : world.made[world.origin f.requestId]? = some f
  unstored : world.origin f.requestId ∉ world.outcomes.map Prod.fst
  gone : ∀ other ∈ world.service.inFlight, other.requestId ≠ f.requestId

structure Sound (world : AiSuggestions) : Prop where
  ids : world.service.inFlight.Pairwise fun f g => f.requestId ≠ g.requestId
  current : ∀ f ∈ world.service.inFlight, f.generation = world.service.generation
  byConv : ∀ f ∈ world.service.inFlight,
    world.service.byConv f.conversationId = some f.requestId
  made : ∀ f ∈ world.service.inFlight, world.made[world.origin f.requestId]? = some f
  unstored : ∀ f ∈ world.service.inFlight, world.origin f.requestId ∉ world.outcomes.map Prod.fst
  going : ∀ f ∈ world.service.inFlight, world.origin f.requestId ∉ world.ended
  past : ∀ request ∈ world.outcomes.map Prod.fst ++ world.ended, request < world.made.length
  once : (world.outcomes.map Prod.fst).Nodup
  owns : ∀ stored ∈ world.outcomes, ∃ f, world.made[stored.1]? = some f ∧
    stored.2.conversationId = f.conversationId

variable {ownerId : Int} {world : AiSuggestions} {service : AiSuggestionService}

theorem Sound.land (sound : world.Sound) (ended : List Nat)
    (sublist : service.inFlight.Sublist world.service.inFlight)
    (current : service.generation = world.service.generation ∨ service.inFlight = [])
    (byConv : ∀ f ∈ service.inFlight,
      service.byConv f.conversationId = world.service.byConv f.conversationId)
    (past : ∀ request ∈ ended, request < world.made.length)
    (going : ∀ f ∈ service.inFlight, world.origin f.requestId ∉ ended) :
    Sound { world with service := service, ended := world.ended ++ ended } := by
  have kept {f : InFlight} (member : f ∈ service.inFlight) : f ∈ world.service.inFlight :=
    sublist.subset member
  constructor
  · exact sound.ids.sublist sublist
  · intro f member
    rcases current with same | none
    · exact (sound.current f (kept member)).trans same.symm
    · simp [none] at member
  · intro f member
    exact (byConv f member).trans (sound.byConv f (kept member))
  · intro f member
    exact sound.made f (kept member)
  · intro f member
    exact sound.unstored f (kept member)
  · intro f member listed
    rcases List.mem_append.mp listed with before | now
    · exact sound.going f (kept member) before
    · exact going f member now
  · intro request listed
    rw [← List.append_assoc] at listed
    rcases List.mem_append.mp listed with before | now
    · exact sound.past request before
    · exact past request now
  · exact sound.once
  · exact sound.owns

theorem store_cases (ownerId : Int) (written : Bytes → Bool) (world : AiSuggestions)
    (s : AiSuggestion (List Bytes)) :
    store ownerId written world s = world ∨ ∃ table, written s.requestId = true ∧
      AiSuggestionTable.upsertAiSuggestion world.table ownerId s = some table ∧
      store ownerId written world s = world.record table s := by
  unfold store
  split
  · exact .inl rfl
  · rename_i written
    split
    · exact .inl rfl
    · rename_i table upserted
      exact .inr ⟨table, by simpa using written, upserted, rfl⟩

theorem record_outcomes (world : AiSuggestions) (table : AiSuggestionTable)
    (s : AiSuggestion (List Bytes)) : (world.record table s).outcomes.map Prod.fst =
      world.outcomes.map Prod.fst ++ [world.origin s.requestId] := by
  simp [record]

theorem Sound.record (sound : world.Sound) {f : InFlight} (landed : world.Landed f)
    (table : AiSuggestionTable) {s : AiSuggestion (List Bytes)} (id : s.requestId = f.requestId)
    (conversation : s.conversationId = f.conversationId) : Sound (world.record table s) where
  ids := sound.ids
  current := sound.current
  byConv := sound.byConv
  made := sound.made
  unstored := by
    intro g member listed
    rw [record_outcomes, List.mem_append, List.mem_singleton] at listed
    rcases listed with before | now
    · exact sound.unstored g member before
    · have other := sound.made g member
      rw [show world.origin g.requestId = world.origin f.requestId from id ▸ now] at other
      have same := landed.made.symm.trans other
      exact landed.gone g member (congrArg InFlight.requestId (Option.some.inj same).symm)
  going := sound.going
  past := by
    intro request listed
    rw [record_outcomes, List.append_assoc] at listed
    simp only [List.mem_append, List.mem_singleton] at listed
    rcases listed with before | rfl | past
    · exact sound.past request (List.mem_append_left _ before)
    · exact id ▸ (List.getElem?_eq_some_iff.mp landed.made).1
    · exact sound.past request (List.mem_append_right _ past)
  once := by
    rw [record_outcomes, List.nodup_append]
    refine ⟨sound.once, by simp, ?_⟩
    rintro request listed _ last rfl
    rw [List.mem_singleton, id] at last
    exact landed.unstored (last ▸ listed)
  owns := by
    intro stored listed
    rcases List.mem_append.mp listed with before | now
    · exact sound.owns stored before
    · obtain rfl := List.mem_singleton.mp now
      exact ⟨f, id ▸ landed.made, conversation⟩

theorem Landed.record {f g : InFlight} (landed : world.Landed f) (other : world.Landed g)
    (apart : g.requestId ≠ f.requestId) (table : AiSuggestionTable)
    {s : AiSuggestion (List Bytes)} (id : s.requestId = g.requestId) :
    Landed (world.record table s) f where
  made := landed.made
  unstored := by
    intro listed
    rw [record_outcomes, List.mem_append, List.mem_singleton] at listed
    rcases listed with before | now
    · exact landed.unstored before
    · have same := landed.made
      rw [show world.origin f.requestId = world.origin g.requestId from id ▸ now,
        other.made] at same
      exact apart (congrArg InFlight.requestId (Option.some.inj same))
  gone := landed.gone

/-! What holds of the table, where no id is used again. -/

def joinable (suggestions : List Bytes) : Bool :=
  suggestions.all (fun text => AiSuggestionTable.unitSeparator ∉ text) && suggestions.head? ≠ some []

def fresh (ownerId : Int) (table : AiSuggestionTable) (requestId : Bytes) : Bool :=
  table.rows.all fun row => row.ownerId ≠ ownerId || row.requestId ≠ requestId

structure Kept (ownerId : Int) (world : AiSuggestions) : Prop where
  rows : world.table.rows = world.outcomes.map fun stored =>
    AiSuggestionTable.rowOf ownerId stored.2
  texts : ∀ stored ∈ world.outcomes, joinable stored.2.suggestions = true

theorem splitSuggestions_join {suggestions : List Bytes} (plain : joinable suggestions = true) :
    AiSuggestionTable.splitSuggestions (AiSuggestionTable.joinSuggestions suggestions) =
      suggestions := by
  simp only [joinable, Bool.and_eq_true, List.all_eq_true, decide_eq_true_eq] at plain
  obtain ⟨bare, first⟩ := plain
  unfold AiSuggestionTable.splitSuggestions AiSuggestionTable.joinSuggestions
  cases suggestions with
  | nil => rfl
  | cons text later =>
      have named : text ≠ [] := by simpa using first
      have listed : ∃ item ∈ text :: later, item ≠ [] := ⟨text, List.mem_cons_self, named⟩
      rw [if_neg, splitOn_join bare listed, List.dropWhile_cons_of_neg (by simpa using named)]
      intro none
      exact named (join_eq_nil.mp none text List.mem_cons_self)

theorem upsert_fresh {table after : AiSuggestionTable} {s : AiSuggestion (List Bytes)}
    (new : fresh ownerId table s.requestId = true)
    (upserted : AiSuggestionTable.upsertAiSuggestion table ownerId s = some after) :
    after.rows = table.rows ++ [AiSuggestionTable.rowOf ownerId s] := by
  unfold AiSuggestionTable.upsertAiSuggestion at upserted
  split at upserted
  · simp at upserted
  · split at upserted
    · rename_i inserted
      exact Option.some.inj upserted ▸ (Table.insert_eq_some inserted).1
    · rename_i clashing
      obtain ⟨row, stored, clash⟩ := Table.insert_eq_none.mp clashing
      have apart := List.all_eq_true.mp new row stored
      have keyed : row.ownerId = ownerId ∧ row.requestId = s.requestId := of_decide_eq_true clash
      simp [keyed] at apart

theorem Kept.record {table : AiSuggestionTable} {s : AiSuggestion (List Bytes)}
    (kept : Kept ownerId world) (plain : joinable s.suggestions = true)
    (rows : table.rows = world.table.rows ++ [AiSuggestionTable.rowOf ownerId s]) :
    Kept ownerId (world.record table s) where
  rows := by
    rw [show (world.record table s).table.rows = table.rows from rfl, rows, kept.rows]
    simp [AiSuggestions.record]
  texts := by
    intro stored listed
    rcases List.mem_append.mp listed with before | now
    · exact kept.texts stored before
    · exact List.mem_singleton.mp now ▸ plain

theorem foldl_store (written : Bytes → Bool) (status : AiStatus) (suggestions : List Bytes)
    (errorCode : Int32) (now : Int) {landed : List InFlight}
    (apart : landed.Pairwise fun f g => f.requestId ≠ g.requestId)
    (all : ∀ f ∈ landed, world.Landed f) (sound : world.Sound) :
    Sound ((landed.map fun f => AiSuggestionService.outcome f status suggestions errorCode
      now).foldl (store ownerId written) world) ∧
    (Kept ownerId world → joinable suggestions = true →
      (∀ f ∈ landed, written f.requestId = true →
        fresh ownerId world.table f.requestId = true) →
      Kept ownerId ((landed.map fun f => AiSuggestionService.outcome f status suggestions errorCode
        now).foldl (store ownerId written) world)) := by
  induction landed generalizing world with
  | nil => exact ⟨sound, fun kept _ _ => kept⟩
  | cons f later ih =>
      obtain ⟨first, rest⟩ := List.pairwise_cons.mp apart
      have own := all f List.mem_cons_self
      have others (g : InFlight) (member : g ∈ later) := all g (List.mem_cons_of_mem f member)
      rw [List.map_cons, List.foldl_cons]
      rcases store_cases ownerId written world
        (AiSuggestionService.outcome f status suggestions errorCode now) with
        same | ⟨table, stored, upserted, same⟩
      · rw [same]
        obtain ⟨sound, keeps⟩ := ih rest others sound
        exact ⟨sound, fun kept plain new => keeps kept plain fun g member =>
          new g (List.mem_cons_of_mem f member)⟩
      · rw [same]
        have next : Sound (world.record table
          (AiSuggestionService.outcome f status suggestions errorCode now)) :=
            sound.record own table rfl rfl
        obtain ⟨sound, keeps⟩ := ih rest
          (fun g member => (others g member).record own (first g member) table rfl) next
        refine ⟨sound, fun kept plain new => ?_⟩
        have rows := upsert_fresh (new f List.mem_cons_self stored) upserted
        refine keeps (kept.record plain rows) plain fun g member written => ?_
        have before := new g (List.mem_cons_of_mem f member) written
        rw [fresh, show (world.record table _).table.rows = table.rows from rfl, rows,
          List.all_append, Bool.and_eq_true]
        refine ⟨before, ?_⟩
        simpa [AiSuggestionTable.rowOf, AiSuggestionService.outcome] using first g member

/-! One step. -/

def isFlying (world : AiSuggestions) (request : Nat) : Bool :=
  world.service.inFlight.any fun f => world.origin f.requestId = request

def permits (ownerId : Int) (world : AiSuggestions) : AiEvent → Bool
  | .cancelAiReply requestId _ written =>
      !written || (world.service.find requestId).isNone || fresh ownerId world.table requestId
  | .onAiResult request _ suggestions _ _ written =>
      (world.made[request]?).all fun f => (world.service.find f.requestId).isNone ||
        world.origin f.requestId = request &&
          (!written || fresh ownerId world.table f.requestId && joinable suggestions)
  | .tick now written => (world.service.timedOut now).all fun f =>
      !written f.requestId || fresh ownerId world.table f.requestId
  | _ => true

theorem find_eq_some {requestId : Bytes} {f : InFlight}
    (found : service.find requestId = some f) :
    f ∈ service.inFlight ∧ f.requestId = requestId :=
  ⟨List.mem_of_find?_eq_some found, by simpa using List.find?_some found⟩

theorem Sound.drop (sound : world.Sound) {f : InFlight} (member : f ∈ world.service.inFlight)
    (ended : List Nat) (past : ∀ request ∈ ended, request = world.origin f.requestId) :
    Sound { world with service := world.service.drop f, ended := world.ended ++ ended } ∧
      Landed { world with service := world.service.drop f, ended := world.ended ++ ended } f := by
  have remaining {g : InFlight} (left : g ∈ (world.service.drop f).inFlight) :
      g ∈ world.service.inFlight ∧ g.requestId ≠ f.requestId := by
    simpa [AiSuggestionService.drop] using left
  constructor
  · refine sound.land ended List.filter_sublist (.inl rfl) ?_ ?_ ?_
    · intro g left
      obtain ⟨there, other⟩ := remaining left
      refine Function.update_of_ne (fun same => ?_) _ _
      have shared := sound.byConv g there
      rw [same, sound.byConv f member] at shared
      exact other (Option.some.inj shared).symm
    · intro request listed
      rw [past request listed]
      exact (List.getElem?_eq_some_iff.mp (sound.made f member)).1
    · intro g left listed
      obtain ⟨there, other⟩ := remaining left
      have same := sound.made g there
      rw [past _ listed, sound.made f member] at same
      exact other (congrArg InFlight.requestId (Option.some.inj same)).symm
  · exact ⟨sound.made f member, sound.unstored f member, fun g left => (remaining left).2⟩

theorem Sound.request (sound : world.Sound) {f : InFlight}
    (generation : f.generation = world.service.generation)
    (free : world.service.byConv f.conversationId = none) (seq : UInt64) :
    Sound { world with
      service := { world.service with
        seq := seq
        inFlight := world.service.put f
        byConv := Function.update world.service.byConv f.conversationId (some f.requestId) }
      made := world.made ++ [f]
      origin := Function.update world.origin f.requestId world.made.length } := by
  have split {g : InFlight} (member : g ∈ world.service.put f) :
      g = f ∨ g ∈ world.service.inFlight ∧ g.requestId ≠ f.requestId := by
    rcases List.mem_append.mp member with old | new
    · exact .inr (by simpa using old)
    · exact .inl (List.mem_singleton.mp new)
  have later {request : Nat} {g : InFlight} (known : world.made[request]? = some g) :
      (world.made ++ [f])[request]? = some g := by
    rw [List.getElem?_append_left (List.getElem?_eq_some_iff.mp known).1, known]
  have bound := sound.past
  constructor
  · refine List.pairwise_append.mpr ⟨sound.ids.filter _, List.pairwise_singleton _ _, ?_⟩
    intro g old other new
    rw [List.mem_singleton.mp new]
    simpa using (List.mem_filter.mp old).2
  · intro g member
    rcases split member with rfl | ⟨there, _⟩
    · exact generation
    · exact sound.current g there
  · intro g member
    rcases split member with rfl | ⟨there, _⟩
    · exact Function.update_self _ _ _
    · refine (Function.update_of_ne (fun same => ?_) _ _).trans (sound.byConv g there)
      have taken := sound.byConv g there
      rw [same, free] at taken
      simp at taken
  · intro g member
    rcases split member with rfl | ⟨there, other⟩
    · simp
    · simpa [Function.update_of_ne other] using later (sound.made g there)
  · intro g member
    rcases split member with rfl | ⟨there, other⟩
    · intro listed
      simp only [Function.update_self] at listed
      exact Nat.lt_irrefl _ (bound _ (List.mem_append_left _ listed))
    · simpa [Function.update_of_ne other] using sound.unstored g there
  · intro g member
    rcases split member with rfl | ⟨there, other⟩
    · intro listed
      simp only [Function.update_self] at listed
      exact Nat.lt_irrefl _ (bound _ (List.mem_append_right _ listed))
    · simpa [Function.update_of_ne other] using sound.going g there
  · intro request listed
    rw [List.length_append]
    exact Nat.lt_succ_of_lt (bound request listed)
  · exact sound.once
  · intro stored listed
    obtain ⟨g, known, same⟩ := sound.owns stored listed
    exact ⟨g, later known, same⟩

theorem Sound.tick (sound : world.Sound) (now : Int) :
    Sound { world with service := (world.service.tick now).2 } ∧
      ∀ f ∈ world.service.timedOut now,
        Landed { world with service := (world.service.tick now).2 } f := by
  have remaining {g : InFlight} (left : g ∈ (world.service.tick now).2.inFlight) :
      g ∈ world.service.inFlight ∧ now < g.deadlineMs := by
    simpa [AiSuggestionService.tick] using left
  have leaving {f : InFlight} (out : f ∈ world.service.timedOut now) :
      f ∈ world.service.inFlight ∧ f.deadlineMs ≤ now := by
    simpa [AiSuggestionService.timedOut] using out
  constructor
  · have landed := @Sound.land world (world.service.tick now).2 sound [] List.filter_sublist
      (.inl rfl) ?_ (by simp) (by simp)
    · simpa using landed
    · intro g left
      obtain ⟨there, waits⟩ := remaining left
      refine if_neg fun shared => ?_
      obtain ⟨f, out, same⟩ := List.any_eq_true.mp shared
      obtain ⟨flew, late⟩ := leaving out
      have id := sound.byConv f flew
      rw [show f.conversationId = g.conversationId by simpa using same,
        sound.byConv g there] at id
      have made := sound.made f flew
      rw [← Option.some.inj id, sound.made g there] at made
      have equal := Option.some.inj made
      rw [equal] at waits
      omega
  · intro f out
    obtain ⟨flew, late⟩ := leaving out
    refine ⟨sound.made f flew, sound.unstored f flew, fun g left id => ?_⟩
    obtain ⟨there, waits⟩ := remaining left
    have made := sound.made f flew
    rw [← id, sound.made g there] at made
    have equal := Option.some.inj made
    rw [equal] at waits
    omega

theorem requestAiReply_cases (service : AiSuggestionService) (ctx : AiRequestContext) (now : Int) :
    service.requestAiReply ctx now = (none, service) ∨
      service.byConv ctx.conversationId = none ∧
        service.requestAiReply ctx now = (some (service.freeze ctx now),
          { service with
            seq := service.seq + 1
            inFlight := service.put (service.freeze ctx now)
            byConv := Function.update service.byConv ctx.conversationId
              (some (service.freeze ctx now).requestId) }) := by
  unfold AiSuggestionService.requestAiReply
  split
  · exact .inl rfl
  · cases free : service.byConv ctx.conversationId with
    | some known => exact .inl rfl
    | none => exact .inr ⟨rfl, rfl⟩

theorem step_sound (sound : world.Sound) (event : AiEvent) :
    Sound (step ownerId world event) ∧
      (Kept ownerId world → permits ownerId world event = true →
        Kept ownerId (step ownerId world event)) := by
  cases event with
  | requestAiReply ctx now =>
      rcases requestAiReply_cases world.service ctx now with same | ⟨free, same⟩
      · simp only [step, same]
        exact ⟨sound, fun kept _ => kept⟩
      · simp only [step, same]
        exact ⟨sound.request rfl free _, fun kept _ => ⟨kept.rows, kept.texts⟩⟩
  | cancelAiReply requestId now written =>
      simp only [step, AiSuggestionService.cancelAiReply, flying]
      cases found : world.service.find requestId with
      | none =>
          have landed := sound.land [] (List.Sublist.refl _) (.inl rfl) (fun _ _ => rfl) (by simp)
            (by simp)
          exact ⟨landed, fun kept _ => ⟨kept.rows, kept.texts⟩⟩
      | some f =>
          obtain ⟨member, rfl⟩ := find_eq_some found
          obtain ⟨after, landed⟩ := sound.drop member [world.origin f.requestId] (by simp)
          obtain ⟨sound, keeps⟩ := @foldl_store ownerId _ (fun _ => written) .aborted [] 0 now [f]
            (List.pairwise_singleton _ _) (by simpa using landed) after
          refine ⟨sound, fun kept permitted => keeps ⟨kept.rows, kept.texts⟩ rfl ?_⟩
          simpa [permits, found, or_iff_not_imp_left] using permitted
  | onAiResult request status suggestions errorCode now written =>
      cases asked : world.made[request]? with
      | none =>
          simp only [step, asked]
          exact ⟨sound, fun kept _ => kept⟩
      | some known =>
          simp only [step, asked, AiSuggestionService.onAiResult]
          cases found : world.service.find known.requestId with
          | none => exact ⟨sound, fun kept _ => kept⟩
          | some f =>
              obtain ⟨member, id⟩ := find_eq_some found
              simp only [sound.current f member, ne_eq, not_true_eq_false, if_false]
              obtain ⟨after, landed⟩ := sound.drop member [] (by simp)
              simp only [List.append_nil] at after landed
              obtain ⟨sound, keeps⟩ := @foldl_store ownerId _ (fun _ => written) status suggestions
                errorCode now [f] (List.pairwise_singleton _ _) (by simpa using landed) after
              refine ⟨sound, fun kept permitted => ?_⟩
              simp only [permits, asked, found, Option.all_some, Option.isNone_some, Bool.false_or,
                Bool.and_eq_true, Bool.or_eq_true, Bool.not_eq_true'] at permitted
              cases written with
              | true =>
                  obtain ⟨_, new, plain⟩ := by simpa using permitted
                  refine keeps ⟨kept.rows, kept.texts⟩ plain ?_
                  simpa [id] using new
              | false => exact ⟨kept.rows, kept.texts⟩
  | invalidate =>
      have landed := @Sound.land world world.service.invalidate sound
        (List.range world.made.length) (List.nil_sublist _) (.inr rfl) (by
          simp [AiSuggestionService.invalidate]) (by simp) (by
          simp [AiSuggestionService.invalidate])
      exact ⟨landed, fun kept _ => ⟨kept.rows, kept.texts⟩⟩
  | tick now written =>
      obtain ⟨after, landed⟩ := sound.tick now
      obtain ⟨sound, keeps⟩ := @foldl_store ownerId _ written .error []
        AiSuggestionService.kErrorTimeout now _ (sound.ids.filter _) landed after
      refine ⟨sound, fun kept permitted => keeps ⟨kept.rows, kept.texts⟩ rfl fun f out stored => ?_⟩
      have new := List.all_eq_true.mp permitted f out
      simpa [stored] using new
  | restart =>
      have landed := @Sound.land world {} sound [] (List.nil_sublist _) (.inr rfl) (by simp)
        (by simp) (by simp)
      rw [List.append_nil] at landed
      exact ⟨landed, fun kept _ => ⟨kept.rows, kept.texts⟩⟩

/-! Whole runs. -/

structure Lawful (ownerId : Int) (events : List AiEvent) : Prop where
  single : ∀ f ∈ (run ownerId events).service.inFlight,
    ∀ g ∈ (run ownerId events).service.inFlight, f.conversationId = g.conversationId → f = g
  once : ((run ownerId events).outcomes.map Prod.fst).Nodup
  late : ∀ front request status suggestions errorCode now written back,
    front ++ .onAiResult request status suggestions errorCode now written :: back = events →
    request ∈ (run ownerId front).ended ∨ isFlying (run ownerId front) request = false →
    step ownerId (run ownerId front)
      (.onAiResult request status suggestions errorCode now written) = run ownerId front
  load : ∀ conversationId loaded,
    AiSuggestionTable.loadAiSuggestions (run ownerId events).table ownerId conversationId =
      some loaded →
    loaded.Perm (((run ownerId events).outcomes.filter fun stored =>
      ((run ownerId events).made[stored.1]?).map InFlight.conversationId =
        some conversationId).map Prod.snd)

theorem sound_start : Sound {} := by
  constructor <;> simp

theorem run_sound (ownerId : Int) (events : List AiEvent) : Sound (run ownerId events) := by
  unfold run
  induction events using List.reverseRecOn with
  | nil => exact sound_start
  | append_singleton front event ih =>
      rw [List.foldl_append]
      exact (step_sound ih event).1

theorem run_kept (ownerId : Int) (events : List AiEvent)
    (permitted : guarded (step ownerId) (permits ownerId) {} events = true) :
    Kept ownerId (run ownerId events) := by
  induction events using List.reverseRecOn with
  | nil => exact ⟨rfl, by simp [run]⟩
  | append_singleton front event ih =>
      obtain ⟨before, last⟩ := guarded_split.mp permitted
      rw [guarded, guarded, Bool.and_true] at last
      rw [run, List.foldl_append]
      exact (step_sound (run_sound ownerId front) event).2 (ih before) last

theorem step_late (sound : world.Sound) {request : Nat} {status : AiStatus}
    {suggestions : List Bytes} {errorCode : Int32} {now : Int} {written : Bool}
    (permitted : permits ownerId world
      (.onAiResult request status suggestions errorCode now written) = true)
    (late : request ∈ world.ended ∨ isFlying world request = false) :
    step ownerId world (.onAiResult request status suggestions errorCode now written) = world := by
  cases asked : world.made[request]? with
  | none => simp only [step, asked]
  | some known =>
      cases found : world.service.find known.requestId with
      | none =>
          simp only [step, asked, AiSuggestionService.onAiResult, found, Option.toList_none,
            List.foldl_nil]
      | some f =>
          obtain ⟨member, id⟩ := find_eq_some found
          have own : world.origin f.requestId = request := by
            simp only [permits, asked, found, Option.all_some, Option.isNone_some, Bool.false_or,
              Bool.and_eq_true, decide_eq_true_eq] at permitted
            exact id ▸ permitted.1
          rcases late with past | grounded
          · exact absurd past (own ▸ sound.going f member)
          · have flies := List.any_eq_false.mp grounded f member
            simp [own] at flies

theorem read_rowOf {s : AiSuggestion (List Bytes)} (plain : joinable s.suggestions = true) :
    AiSuggestionTable.read (AiSuggestionTable.rowOf ownerId s).toAiSuggestion = s := by
  cases s
  simp only [AiSuggestionTable.read, AiSuggestionTable.rowOf]
  rw [splitSuggestions_join plain]

theorem Kept.load (kept : Kept ownerId world) (sound : world.Sound) {conversationId : Int}
    {loaded : List (AiSuggestion (List Bytes))}
    (read : AiSuggestionTable.loadAiSuggestions world.table ownerId conversationId = some loaded) :
    loaded.Perm ((world.outcomes.filter fun stored =>
      (world.made[stored.1]?).map InFlight.conversationId = some conversationId).map Prod.snd) := by
  unfold AiSuggestionTable.loadAiSuggestions at read
  split at read
  · simp at read
  · have own : world.table.rows.filter (fun row =>
        row.ownerId = ownerId && row.conversationId = conversationId) =
        (world.outcomes.filter fun stored =>
          (world.made[stored.1]?).map InFlight.conversationId = some conversationId).map
            fun stored => AiSuggestionTable.rowOf ownerId stored.2 := by
      rw [kept.rows, List.filter_map]
      congr 1
      refine List.filter_congr fun stored member => ?_
      obtain ⟨f, made, same⟩ := sound.owns stored member
      simp [made, AiSuggestionTable.rowOf, same]
    rw [own] at read
    obtain rfl := Option.some.inj read
    refine ((List.mergeSort_perm _ _).map _).trans (List.Perm.of_eq ?_)
    rw [List.map_map, List.map_map]
    refine List.map_congr_left fun stored member => ?_
    exact read_rowOf (kept.texts stored (List.mem_filter.mp member).1)

/-- In every permitted run, over any number of lives. -/
theorem aiSuggestions_lawful (ownerId : Int) (events : List AiEvent)
    (permitted : guarded (step ownerId) (permits ownerId) {} events = true) :
    Lawful ownerId events where
  single := by
    have sound := run_sound ownerId events
    intro f member g also same
    have id := sound.byConv f member
    rw [same, sound.byConv g also] at id
    have made := sound.made f member
    rw [← Option.some.inj id, sound.made g also] at made
    exact (Option.some.inj made).symm
  once := (run_sound ownerId events).once
  late := by
    rintro front request status suggestions errorCode now written back rfl late
    have later := (guarded_split.mp permitted).2
    rw [guarded, Bool.and_eq_true] at later
    exact step_late (run_sound ownerId front) later.1 late
  load := by
    intro conversationId loaded read
    exact (run_kept ownerId events permitted).load (run_sound ownerId events) read

def context (conversationId : Int) : AiRequestContext :=
  ⟨conversationId, 2, ascii "formal", ascii "v1"⟩

def twoLives : List AiEvent :=
  [.requestAiReply (context 100) 0,
    .requestAiReply (context 200) 10,
    .onAiResult 0 .success [ascii "yes", ascii "no"] 0 500 true,
    .cancelAiReply (ascii "ai-1") 600 true,
    .onAiResult 1 .success [ascii "late"] 0 700 true,
    .restart,
    .requestAiReply (context 300) 1000,
    .invalidate,
    .onAiResult 2 .success [ascii "late"] 0 1100 true,
    .tick 90000 fun _ => true]

theorem aiSuggestions_lawful_twoLives :
    guarded (step 1) (permits 1) {} twoLives = true ∧ Lawful 1 twoLives :=
  ⟨by decide +kernel, aiSuggestions_lawful 1 twoLives (by decide +kernel)⟩

def reused : List AiEvent :=
  [.requestAiReply (context 100) 0,
    .onAiResult 0 .success [ascii "yes"] 0 500 true,
    .restart,
    .requestAiReply (context 200) 1000,
    .onAiResult 1 .success [ascii "no"] 0 1500 true]

def misdelivered : List AiEvent :=
  [.requestAiReply (context 100) 0,
    .cancelAiReply (ascii "ai-0") 10 false,
    .restart,
    .requestAiReply (context 200) 1000,
    .onAiResult 0 .success [ascii "late"] 0 1500 true]

def emptyFirst : List AiEvent :=
  [.requestAiReply (context 100) 0,
    .onAiResult 0 .success [[], ascii "yes"] 0 500 true]

theorem aiSuggestions_unlawful : ¬Lawful 1 reused ∧ ¬Lawful 1 misdelivered ∧ ¬Lawful 1 emptyFirst := by
  refine ⟨fun lawful => ?_, fun lawful => ?_, fun lawful => ?_⟩
  · have loaded := lawful.load 200 [] (by decide +kernel)
    exact absurd loaded.length_eq (by decide +kernel)
  · have same := lawful.late (misdelivered.take 4) 0 .success [ascii "late"] 0 1500 true [] rfl
      (.inl (by decide +kernel))
    have outcomes := congrArg (fun world : AiSuggestions => world.outcomes.length) same
    exact absurd outcomes (by decide +kernel)
  · obtain ⟨loaded, read⟩ : ∃ loaded, AiSuggestionTable.loadAiSuggestions (run 1 emptyFirst).table
      1 100 = some loaded := ⟨_, rfl⟩
    have texts : (AiSuggestionTable.loadAiSuggestions (run 1 emptyFirst).table 1 100).map
        (·.map AiSuggestion.suggestions) = some [[ascii "yes"]] := by decide +kernel
    rw [read, Option.map_some, Option.some.injEq] at texts
    have perm := (lawful.load 100 loaded read).map AiSuggestion.suggestions
    rw [texts] at perm
    exact absurd perm (by decide +kernel)

end AiSuggestions

end Jitong
