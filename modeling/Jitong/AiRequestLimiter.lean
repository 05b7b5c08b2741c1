import Jitong.Lib.Window
import Jitong.LoginRateLimiter
import Jitong.Protocol
import Mathlib.Data.Finset.Card

/-!
`ai/AiRequestLimiter.cpp`: one request of a user at a time, so many users at once, so many requests
of a user a minute, and no request twice. Times are steady-clock nanoseconds.
-/

namespace Jitong

open Lib

inductive AiRequestLimiter.Result
  | accepted
  | busy
  | rateLimited
  | duplicate
  | queueFull
  deriving DecidableEq

structure AiRequestLimiter where
  perMinute : Int
  maxPending : Int
  replayWindow : Int
  inFlightUsers : Finset Int32
  recentRequests : Int32 → List Int
  seenIds : Int32 → Bytes → Option Int

namespace AiRequestLimiter

def create (perMinute maxPending replayWindowSeconds : Int32) : AiRequestLimiter where
  perMinute := max perMinute.toInt 1
  maxPending := max maxPending.toInt 1
  replayWindow := seconds (max replayWindowSeconds.toInt 1)
  inFlightUsers := ∅
  recentRequests := fun _ => []
  seenIds := fun _ _ => none

def pruneSeen (limiter : AiRequestLimiter) (userId : Int32) (now : Int) : AiRequestLimiter :=
  let seen := fun id =>
    (limiter.seenIds userId id).filter fun time => ¬ time < now - limiter.replayWindow
  { limiter with seenIds := Function.update limiter.seenIds userId seen }

def recent (limiter : AiRequestLimiter) (userId : Int32) (now : Int) : List Int :=
  (limiter.recentRequests userId).dropWhile (· < now - seconds 60)

def tryAcquire (limiter : AiRequestLimiter) (userId : Int32) (requestId : Bytes) (now : Int) :
    Result × AiRequestLimiter :=
  let limiter := limiter.pruneSeen userId now
  if (limiter.seenIds userId requestId).isSome then (.duplicate, limiter)
  else if userId ∈ limiter.inFlightUsers then (.busy, limiter)
  else if limiter.maxPending ≤ limiter.inFlightUsers.card then (.queueFull, limiter)
  else
    let recent := limiter.recent userId now
    if limiter.perMinute ≤ recent.length then
      (.rateLimited, { limiter with
        recentRequests := Function.update limiter.recentRequests userId recent })
    else
      (.accepted, { limiter with
        recentRequests := Function.update limiter.recentRequests userId (recent ++ [now])
        seenIds := Function.update limiter.seenIds userId
          (Function.update (limiter.seenIds userId) requestId (some now))
        inFlightUsers := insert userId limiter.inFlightUsers })

def release (limiter : AiRequestLimiter) (userId : Int32) : AiRequestLimiter :=
  { limiter with inFlightUsers := limiter.inFlightUsers.erase userId }

end AiRequestLimiter

inductive AiCall
  | tryAcquire (userId : Int32) (requestId : Bytes) (now : Int)
  | release (userId : Int32) (requestId : Bytes)
  deriving DecidableEq

def AiCall.time : AiCall → Option Int
  | tryAcquire _ _ now => some now
  | release _ _ => none

structure AcceptedRequest where
  userId : Int32
  requestId : Bytes
  time : Int
  deriving DecidableEq

structure AiWorld where
  limiter : AiRequestLimiter
  accepted : List AcceptedRequest := []
  serving : List (Int32 × Bytes) := []

namespace AiWorld

def next (world : AiWorld) : AiCall → AiWorld
  | .tryAcquire userId requestId now =>
      match world.limiter.tryAcquire userId requestId now with
      | (.accepted, limiter) => {
          limiter
          accepted := world.accepted ++ [⟨userId, requestId, now⟩]
          serving := (userId, requestId) :: world.serving }
      | (_, limiter) => { world with limiter }
  | .release userId requestId =>
      if (userId, requestId) ∈ world.serving then
        { world with
          limiter := world.limiter.release userId
          serving := world.serving.erase (userId, requestId) }
      else world

def start (perMinute maxPending replayWindowSeconds : Int32) : AiWorld where
  limiter := .create perMinute maxPending replayWindowSeconds

def timesOf (world : AiWorld) (kind : AcceptedRequest → Bool) : List Int :=
  (world.accepted.filter kind).map (·.time)

def userTimes (world : AiWorld) (userId : Int32) : List Int :=
  world.timesOf fun request => request.userId = userId

def requestTimes (world : AiWorld) (userId : Int32) (requestId : Bytes) : List Int :=
  world.timesOf fun request => request.userId = userId ∧ request.requestId = requestId

end AiWorld

namespace AiRequestLimiter

variable {limiter : AiRequestLimiter} {userId : Int32} {requestId : Bytes} {now : Int}

theorem tryAcquire_fst : (limiter.tryAcquire userId requestId now).1 =
    if ((limiter.pruneSeen userId now).seenIds userId requestId).isSome then .duplicate
    else if userId ∈ limiter.inFlightUsers then .busy
    else if limiter.maxPending ≤ limiter.inFlightUsers.card then .queueFull
    else if limiter.perMinute ≤ (limiter.recent userId now).length then .rateLimited
    else .accepted := by
  unfold tryAcquire
  simp only [apply_ite Prod.fst]
  rfl

structure Refuses (limiter after : AiRequestLimiter) (userId : Int32) (now : Int) : Prop where
  perMinute : after.perMinute = limiter.perMinute
  maxPending : after.maxPending = limiter.maxPending
  replayWindow : after.replayWindow = limiter.replayWindow
  inFlightUsers : after.inFlightUsers = limiter.inFlightUsers
  seenIds : after.seenIds = (limiter.pruneSeen userId now).seenIds
  recentRequests : after.recentRequests = limiter.recentRequests ∨
    after.recentRequests =
      Function.update limiter.recentRequests userId (limiter.recent userId now)

structure Accepts (limiter after : AiRequestLimiter) (userId : Int32) (requestId : Bytes)
    (now : Int) : Prop where
  unseen : (limiter.pruneSeen userId now).seenIds userId requestId = none
  idle : userId ∉ limiter.inFlightUsers
  place : (limiter.inFlightUsers.card : Int) < limiter.maxPending
  room : ((limiter.recent userId now).length : Int) < limiter.perMinute
  perMinute : after.perMinute = limiter.perMinute
  maxPending : after.maxPending = limiter.maxPending
  replayWindow : after.replayWindow = limiter.replayWindow
  inFlightUsers : after.inFlightUsers = insert userId limiter.inFlightUsers
  seenIds : after.seenIds = Function.update (limiter.pruneSeen userId now).seenIds userId
    (Function.update ((limiter.pruneSeen userId now).seenIds userId) requestId (some now))
  recentRequests : after.recentRequests =
    Function.update limiter.recentRequests userId (limiter.recent userId now ++ [now])

theorem tryAcquire_cases (limiter : AiRequestLimiter) (userId : Int32) (requestId : Bytes)
    (now : Int) :
    (∃ result after, limiter.tryAcquire userId requestId now = (result, after) ∧
      result ≠ .accepted ∧ limiter.Refuses after userId now) ∨
    ∃ after, limiter.tryAcquire userId requestId now = (.accepted, after) ∧
      limiter.Accepts after userId requestId now := by
  unfold tryAcquire
  dsimp only
  split
  · exact .inl ⟨_, _, rfl, by decide, rfl, rfl, rfl, rfl, rfl, .inl rfl⟩
  · rename_i unseen
    split
    · exact .inl ⟨_, _, rfl, by decide, rfl, rfl, rfl, rfl, rfl, .inl rfl⟩
    · rename_i idle
      split
      · exact .inl ⟨_, _, rfl, by decide, rfl, rfl, rfl, rfl, rfl, .inl rfl⟩
      · rename_i place
        split
        · exact .inl ⟨_, _, rfl, by decide, rfl, rfl, rfl, rfl, rfl, .inr rfl⟩
        · rename_i room
          exact .inr ⟨_, rfl, by simpa using unseen, idle, Int.not_le.mp place, Int.not_le.mp room,
            rfl, rfl, rfl, rfl, rfl, rfl⟩

end AiRequestLimiter

namespace AiWorld

structure Bounded (origin : AiRequestLimiter) (world : AiWorld) (last : Int) : Prop where
  perMinute : world.limiter.perMinute = origin.perMinute
  maxPending : world.limiter.maxPending = origin.maxPending
  replayWindow : world.limiter.replayWindow = origin.replayWindow
  users : world.limiter.inFlightUsers = (world.serving.map Prod.fst).toFinset
  single : (world.serving.map Prod.fst).Nodup
  few : (world.limiter.inFlightUsers.card : Int) ≤ origin.maxPending
  ordered : (world.accepted.map (·.time)).Pairwise (· ≤ ·)
  latest : ∀ request ∈ world.accepted, request.time ≤ last
  recent : ∀ userId, ∃ cutoff ≤ last - seconds 60,
    world.limiter.recentRequests userId = since cutoff (world.userTimes userId)
  seen : ∀ userId requestId, ∃ cutoff ≤ last - origin.replayWindow,
    world.limiter.seenIds userId requestId =
      (world.requestTimes userId requestId).getLast?.filter fun time => cutoff ≤ time
  paced : ∀ userId, Paced origin.perMinute.toNat (seconds 60) (world.userTimes userId)
  once : ∀ userId requestId, Paced 1 origin.replayWindow (world.requestTimes userId requestId)

namespace Bounded

variable {origin : AiRequestLimiter} {world : AiWorld} {last now : Int} {userId : Int32}
  {requestId : Bytes}

section

variable (bounded : world.Bounded origin last)
include bounded

theorem times_ordered (kind : AcceptedRequest → Bool) : (world.timesOf kind).Pairwise (· ≤ ·) :=
  bounded.ordered.sublist (List.filter_sublist.map _)

theorem later (after : last ≤ now) : world.Bounded origin now :=
  { bounded with
    latest := fun request member => le_trans (bounded.latest request member) after
    recent := fun userId => by
      obtain ⟨cutoff, before, same⟩ := bounded.recent userId
      exact ⟨cutoff, by omega, same⟩
    seen := fun userId requestId => by
      obtain ⟨cutoff, before, same⟩ := bounded.seen userId requestId
      exact ⟨cutoff, by omega, same⟩ }

theorem recent_eq (after : last ≤ now) :
    world.limiter.recent userId now = since (now - seconds 60) (world.userTimes userId) := by
  obtain ⟨cutoff, before, same⟩ := bounded.recent userId
  have ordered : (world.userTimes userId).Pairwise (· ≤ ·) := bounded.times_ordered _
  rw [AiRequestLimiter.recent, same, dropWhile_eq_since (since_ordered ordered), since_since,
    max_eq_left (by omega)]

theorem seen_pruned (after : last ≤ now) (other : Int32) (id : Bytes) :
    ∃ cutoff ≤ now - origin.replayWindow,
      (world.limiter.pruneSeen userId now).seenIds other id =
        (world.requestTimes other id).getLast?.filter fun time => cutoff ≤ time := by
  obtain ⟨cutoff, before, same⟩ := bounded.seen other id
  rw [AiRequestLimiter.pruneSeen]
  by_cases own : other = userId
  · subst own
    refine ⟨now - origin.replayWindow, le_refl _, ?_⟩
    simp only [Function.update_self, same, bounded.replayWindow, Option.filter_filter]
    congr 1
    funext time
    have wider : now - origin.replayWindow ≤ time → cutoff ≤ time := by omega
    by_cases inside : now - origin.replayWindow ≤ time <;> simp [inside, wider]
  · exact ⟨cutoff, by omega, by simp only [Function.update_of_ne own, same]⟩

theorem refused {after : AiRequestLimiter} (moved : last ≤ now)
    (refuses : world.limiter.Refuses after userId now) :
    ({ world with limiter := after } : AiWorld).Bounded origin now :=
  { bounded.later moved with
    perMinute := refuses.perMinute.trans bounded.perMinute
    maxPending := refuses.maxPending.trans bounded.maxPending
    replayWindow := refuses.replayWindow.trans bounded.replayWindow
    users := refuses.inFlightUsers.trans bounded.users
    few := refuses.inFlightUsers ▸ bounded.few
    recent := fun other => by
      change ∃ cutoff ≤ now - seconds 60, after.recentRequests other = _
      rcases refuses.recentRequests with same | dropped
      · rw [same]
        exact (bounded.later moved).recent other
      · rw [dropped]
        by_cases own : other = userId
        · subst own
          rw [Function.update_self, bounded.recent_eq moved]
          exact ⟨_, le_refl _, rfl⟩
        · rw [Function.update_of_ne own]
          exact (bounded.later moved).recent other
    seen := fun other id => by
      change ∃ cutoff ≤ now - origin.replayWindow, after.seenIds other id = _
      rw [refuses.seenIds]
      exact bounded.seen_pruned moved other id }

theorem released (member : (userId, requestId) ∈ world.serving) :
    ({ world with
      limiter := world.limiter.release userId
      serving := world.serving.erase (userId, requestId) } : AiWorld).Bounded origin last := by
  have split : (world.serving.map Prod.fst).Perm
      (userId :: (world.serving.erase (userId, requestId)).map Prod.fst) :=
    (List.perm_cons_erase member).map Prod.fst
  obtain ⟨gone, single⟩ := List.nodup_cons.mp (split.nodup_iff.mp bounded.single)
  refine { bounded with users := ?_, single := single, few := ?_ }
  · change world.limiter.inFlightUsers.erase userId = _
    rw [bounded.users, List.toFinset_eq_of_perm _ _ split, List.toFinset_cons,
      Finset.erase_insert (by simpa using gone)]
  · change ((world.limiter.inFlightUsers.erase userId).card : Int) ≤ _
    have fewer := Finset.card_erase_le (s := world.limiter.inFlightUsers) (a := userId)
    have few := bounded.few
    omega

theorem unseen (moved : last ≤ now)
    (absent : (world.limiter.pruneSeen userId now).seenIds userId requestId = none) :
    since (now - origin.replayWindow) (world.requestTimes userId requestId) = [] := by
  obtain ⟨cutoff, before, same⟩ : ∃ cutoff ≤ now - origin.replayWindow,
      (world.limiter.pruneSeen userId now).seenIds userId requestId =
        (world.requestTimes userId requestId).getLast?.filter fun time => cutoff ≤ time :=
    bounded.seen_pruned moved userId requestId
  rw [absent] at same
  refine since_eq_nil fun time member => ?_
  have ordered : (world.requestTimes userId requestId).Pairwise (· ≤ ·) := bounded.times_ordered _
  rcases List.eq_nil_or_concat (world.requestTimes userId requestId) with none | ⟨front, newest, some⟩
  · rw [none] at member
    simp at member
  · rw [some, List.concat_eq_append] at member same ordered
    have early : newest < cutoff := by simpa using same.symm
    have atMost : time ≤ newest := by
      rcases List.mem_append.mp member with earlier | last
      · exact (List.pairwise_append.mp ordered).2.2 time earlier newest (by simp)
      · exact le_of_eq (List.mem_singleton.mp last)
    omega

end

theorem timesOf_concat {accepted : List AcceptedRequest} {limiter : AiRequestLimiter}
    {serving : List (Int32 × Bytes)} (request : AcceptedRequest) (kind : AcceptedRequest → Bool) :
    (AiWorld.mk limiter (accepted ++ [request]) serving).timesOf kind =
      (AiWorld.mk limiter accepted serving).timesOf kind ++
        if kind request then [request.time] else [] := by
  rw [timesOf, List.filter_append, List.map_append]
  by_cases fits : kind request = true <;> simp [timesOf, fits]

theorem accepted (bounded : world.Bounded origin last) (moved : last ≤ now)
    {after : AiRequestLimiter} (accepts : world.limiter.Accepts after userId requestId now) :
    (AiWorld.mk after (world.accepted ++ [⟨userId, requestId, now⟩])
      ((userId, requestId) :: world.serving)).Bounded origin now := by
  have room := accepts.room
  have place := accepts.place
  have earlier := bounded.later moved
  have idle : userId ∉ world.serving.map Prod.fst := by
    have absent := accepts.idle
    rwa [bounded.users, List.mem_toFinset] at absent
  rw [bounded.recent_eq moved, bounded.perMinute] at room
  have minutes (other : Int32) : (AiWorld.mk after (world.accepted ++ [⟨userId, requestId, now⟩])
      ((userId, requestId) :: world.serving)).userTimes other =
        if other = userId then world.userTimes other ++ [now] else world.userTimes other := by
    rw [userTimes, timesOf_concat]
    by_cases own : other = userId
    · simp [own, userTimes, timesOf]
    · simp [own, Ne.symm own, userTimes, timesOf]
  have replays (other : Int32) (id : Bytes) :
      (AiWorld.mk after (world.accepted ++ [⟨userId, requestId, now⟩])
        ((userId, requestId) :: world.serving)).requestTimes other id =
          if other = userId ∧ id = requestId then world.requestTimes other id ++ [now]
          else world.requestTimes other id := by
    rw [requestTimes, timesOf_concat]
    by_cases own : other = userId ∧ id = requestId
    · simp [own, requestTimes, timesOf]
    · have apart : ¬ (userId = other ∧ requestId = id) := fun same =>
        own ⟨same.1.symm, same.2.symm⟩
      simp [own, apart, requestTimes, timesOf]
  refine {
    perMinute := accepts.perMinute.trans bounded.perMinute
    maxPending := accepts.maxPending.trans bounded.maxPending
    replayWindow := accepts.replayWindow.trans bounded.replayWindow
    users := ?_
    single := List.nodup_cons.mpr ⟨idle, bounded.single⟩
    few := ?_
    ordered := ?_
    latest := ?_
    recent := ?_
    seen := ?_
    paced := ?_
    once := ?_ }
  · change after.inFlightUsers = _
    rw [accepts.inFlightUsers, bounded.users, List.map_cons, List.toFinset_cons]
  · change (after.inFlightUsers.card : Int) ≤ _
    rw [accepts.inFlightUsers, Finset.card_insert_of_notMem accepts.idle]
    rw [bounded.maxPending] at place
    omega
  · rw [List.map_append]
    refine ordered_concat bounded.ordered fun time member => ?_
    obtain ⟨request, found, rfl⟩ := List.mem_map.mp member
    exact earlier.latest request found
  · intro request member
    rcases List.mem_append.mp member with before | newest
    · exact earlier.latest request before
    · rw [List.mem_singleton.mp newest]
  · intro other
    rw [minutes]
    change ∃ cutoff ≤ now - seconds 60, after.recentRequests other = _
    rw [accepts.recentRequests]
    by_cases own : other = userId
    · subst own
      refine ⟨now - seconds 60, le_refl _, ?_⟩
      have inside : since (now - seconds 60) [now] = [now] :=
        since_of_le (by simp [seconds])
      rw [Function.update_self, if_pos rfl, since_append, inside, bounded.recent_eq moved]
    · rw [Function.update_of_ne own, if_neg own]
      exact earlier.recent other
  · intro other id
    rw [replays]
    change ∃ cutoff ≤ now - origin.replayWindow, after.seenIds other id = _
    rw [accepts.seenIds]
    by_cases own : other = userId
    · subst own
      rw [Function.update_self]
      by_cases same : id = requestId
      · subst same
        refine ⟨min now (now - origin.replayWindow), min_le_right _ _, ?_⟩
        rw [Function.update_self, if_pos ⟨rfl, rfl⟩, List.getLast?_concat,
          Option.filter_some_pos (by simp)]
      · rw [Function.update_of_ne same, if_neg fun both => same both.2]
        exact bounded.seen_pruned moved other id
    · rw [Function.update_of_ne own, if_neg fun both => own both.1]
      exact bounded.seen_pruned moved other id
  · intro other
    rw [minutes]
    split
    · rename_i own
      subst own
      exact (bounded.paced other).concat (by omega)
    · exact bounded.paced other
  · intro other id
    rw [replays]
    split
    · rename_i own
      obtain ⟨rfl, rfl⟩ := own
      refine (bounded.once other id).concat ?_
      rw [bounded.unseen moved accepts.unseen]
      exact Nat.zero_lt_one
    · exact bounded.once other id

end Bounded

def Clocked (calls : List AiCall) : Prop := (calls.filterMap AiCall.time).Pairwise (· ≤ ·)

theorem start_bounded (perMinute maxPending replayWindowSeconds : Int32) (last : Int) :
    (start perMinute maxPending replayWindowSeconds).Bounded
      (.create perMinute maxPending replayWindowSeconds) last where
  perMinute := rfl
  maxPending := rfl
  replayWindow := rfl
  users := rfl
  single := List.nodup_nil
  few := by
    change ((0 : Nat) : Int) ≤ max maxPending.toInt 1
    omega
  ordered := List.Pairwise.nil
  latest := by simp [start]
  recent := fun _ => ⟨last - seconds 60, le_refl _, rfl⟩
  seen := fun _ _ => ⟨_, le_refl _, rfl⟩
  paced := fun _ => paced_nil
  once := fun _ _ => paced_nil

theorem next_bounded {origin : AiRequestLimiter} {world : AiWorld} {last : Int} (call : AiCall)
    (bounded : world.Bounded origin last) (moved : ∀ now ∈ call.time, last ≤ now) :
    (world.next call).Bounded origin (call.time.getD last) := by
  cases call with
  | tryAcquire userId requestId now =>
      have after := moved now rfl
      rcases world.limiter.tryAcquire_cases userId requestId now with
        ⟨result, limiter, tried, different, refuses⟩ | ⟨limiter, tried, accepts⟩
      · have same : world.next (.tryAcquire userId requestId now) = { world with limiter } := by
          simp only [next, tried]
        rw [same]
        exact bounded.refused after refuses
      · simp only [next, tried]
        exact bounded.accepted after accepts
  | release userId requestId =>
      simp only [next]
      split
      · rename_i member
        exact bounded.released member
      · exact bounded

theorem Clocked.tail {userId : Int32} {requestId : Bytes} {now : Int} {rest : List AiCall}
    (clocked : Clocked (.tryAcquire userId requestId now :: rest)) :
    (∀ time ∈ rest.filterMap AiCall.time, now ≤ time) ∧ Clocked rest := by
  have times : (now :: rest.filterMap AiCall.time).Pairwise (· ≤ ·) := clocked
  exact List.pairwise_cons.mp times

theorem Clocked.last {front : List AiCall} {call : AiCall} (clocked : Clocked (front ++ [call])) :
    Clocked front ∧ ∀ now ∈ call.time, ∀ time ∈ front.filterMap AiCall.time, time ≤ now := by
  unfold Clocked at clocked ⊢
  rw [List.filterMap_append, List.pairwise_append] at clocked
  refine ⟨clocked.1, fun now timed time member => clocked.2.2 time member now ?_⟩
  simpa using timed

theorem run_bounded (perMinute maxPending replayWindowSeconds : Int32) {calls : List AiCall}
    (clocked : Clocked calls) {last : Int} (latest : ∀ time ∈ calls.filterMap AiCall.time, time ≤ last) :
    (calls.foldl next (start perMinute maxPending replayWindowSeconds)).Bounded
      (.create perMinute maxPending replayWindowSeconds) last := by
  induction calls using List.reverseRecOn generalizing last with
  | nil => exact start_bounded perMinute maxPending replayWindowSeconds last
  | append_singleton front call ih =>
      obtain ⟨before, ordered⟩ := clocked.last
      rw [List.foldl_append]
      cases timed : call.time with
      | none =>
          have bounded := ih before fun time member => latest time (by simp [member])
          have stepped := next_bounded call bounded (by simp [timed])
          rwa [timed] at stepped
      | some now =>
          have bounded := ih before (ordered now timed)
          have stepped := next_bounded call bounded (by simp [timed])
          rw [timed] at stepped
          exact stepped.later (latest now (by simp [timed]))

end AiWorld

namespace AiRequestLimiter

structure Alike (left right : AiRequestLimiter) (last : Int) : Prop where
  perMinute : left.perMinute = right.perMinute
  maxPending : left.maxPending = right.maxPending
  replayWindow : left.replayWindow = right.replayWindow
  inFlightUsers : left.inFlightUsers = right.inFlightUsers
  recent : ∀ userId now, last ≤ now → left.recent userId now = right.recent userId now
  seen : ∀ userId now, last ≤ now →
    (left.pruneSeen userId now).seenIds userId = (right.pruneSeen userId now).seenIds userId

section Alike

variable {limiter left right after afterRight : AiRequestLimiter} {last now future : Int}
  {userId other : Int32} {requestId : Bytes}

theorem Alike.symm (alike : left.Alike right last) : right.Alike left last :=
  ⟨alike.perMinute.symm, alike.maxPending.symm, alike.replayWindow.symm, alike.inFlightUsers.symm,
    fun userId now later => (alike.recent userId now later).symm,
    fun userId now later => (alike.seen userId now later).symm⟩

theorem Alike.trans {middle : AiRequestLimiter} (first : left.Alike middle last)
    (second : middle.Alike right last) : left.Alike right last :=
  ⟨first.perMinute.trans second.perMinute, first.maxPending.trans second.maxPending,
    first.replayWindow.trans second.replayWindow, first.inFlightUsers.trans second.inFlightUsers,
    fun userId now later => (first.recent userId now later).trans (second.recent userId now later),
    fun userId now later => (first.seen userId now later).trans (second.seen userId now later)⟩

theorem Alike.later (alike : left.Alike right last) (moved : last ≤ now) : left.Alike right now :=
  { alike with
    recent := fun userId future late => alike.recent userId future (le_trans moved late)
    seen := fun userId future late => alike.seen userId future (le_trans moved late) }

theorem dropWhile_dropWhile {cutoff further : Int} (before : cutoff ≤ further) (times : List Int) :
    (times.dropWhile (· < cutoff)).dropWhile (· < further) = times.dropWhile (· < further) := by
  induction times with
  | nil => rfl
  | cons time rest ih =>
      by_cases early : time < cutoff
      · have later : time < further := lt_of_lt_of_le early before
        rw [List.dropWhile_cons_of_pos (by simpa using early), ih,
          List.dropWhile_cons_of_pos (by simpa using later)]
      · rw [List.dropWhile_cons_of_neg (by simpa using early)]

theorem seen_pruneSeen (moved : now ≤ future) (ids : Int32 → Bytes → Option Int)
    (same : ids = (limiter.pruneSeen userId now).seenIds)
    (window : after.replayWindow = limiter.replayWindow) (stored : after.seenIds = ids) :
    (after.pruneSeen other future).seenIds other = (limiter.pruneSeen other future).seenIds other := by
  funext id
  simp only [pruneSeen, Function.update_self, window, stored, same]
  by_cases own : other = userId
  · subst own
    rw [Function.update_self, Option.filter_filter]
    congr 1
    funext time
    have wider : ¬ time < future - limiter.replayWindow → ¬ time < now - limiter.replayWindow := by
      omega
    by_cases inside : time < future - limiter.replayWindow <;> simp [inside, wider]
  · rw [Function.update_of_ne own]

theorem Refuses.alike (refuses : limiter.Refuses after userId now) : limiter.Alike after now where
  perMinute := refuses.perMinute.symm
  maxPending := refuses.maxPending.symm
  replayWindow := refuses.replayWindow.symm
  inFlightUsers := refuses.inFlightUsers.symm
  recent := by
    intro other future moved
    rcases refuses.recentRequests with same | dropped
    · rw [recent, recent, same]
    · rw [recent, recent, dropped]
      by_cases own : other = userId
      · subst own
        rw [Function.update_self, recent, dropWhile_dropWhile (by omega)]
      · rw [Function.update_of_ne own]
  seen := fun other future moved =>
    (seen_pruneSeen moved _ rfl refuses.replayWindow refuses.seenIds).symm

theorem Alike.result (alike : left.Alike right last) (moved : last ≤ now) :
    (left.tryAcquire userId requestId now).1 = (right.tryAcquire userId requestId now).1 := by
  rw [tryAcquire_fst, tryAcquire_fst, alike.seen userId now moved, alike.recent userId now moved,
    alike.inFlightUsers, alike.maxPending, alike.perMinute]

theorem Alike.accepted (alike : left.Alike right now)
    (accepts : left.Accepts after userId requestId now)
    (acceptsRight : right.Accepts afterRight userId requestId now) : after.Alike afterRight now where
  perMinute := by rw [accepts.perMinute, acceptsRight.perMinute, alike.perMinute]
  maxPending := by rw [accepts.maxPending, acceptsRight.maxPending, alike.maxPending]
  replayWindow := by rw [accepts.replayWindow, acceptsRight.replayWindow, alike.replayWindow]
  inFlightUsers := by rw [accepts.inFlightUsers, acceptsRight.inFlightUsers, alike.inFlightUsers]
  recent := by
    intro other future moved
    have before := alike.recent other future moved
    simp only [AiRequestLimiter.recent, accepts.recentRequests, acceptsRight.recentRequests]
      at before ⊢
    by_cases own : other = userId
    · subst own
      have here := alike.recent other now (le_refl now)
      simp only [AiRequestLimiter.recent] at here
      rw [Function.update_self, Function.update_self, here]
    · rw [Function.update_of_ne own, Function.update_of_ne own, before]
  seen := by
    intro other future moved
    funext id
    simp only [pruneSeen, Function.update_self, accepts.seenIds, acceptsRight.seenIds,
      accepts.replayWindow, acceptsRight.replayWindow]
    have before := alike.seen other
    simp only [pruneSeen, Function.update_self] at before
    by_cases own : other = userId
    · subst own
      rw [Function.update_self, Function.update_self, before now (le_refl now), alike.replayWindow]
    · rw [Function.update_of_ne own, Function.update_of_ne own, Function.update_of_ne own,
        Function.update_of_ne own]
      exact congrFun (before future moved) id

theorem Alike.tryAcquire (alike : left.Alike right last) (moved : last ≤ now) :
    (left.tryAcquire userId requestId now).1 = (right.tryAcquire userId requestId now).1 ∧
      (left.tryAcquire userId requestId now).2.Alike (right.tryAcquire userId requestId now).2
        now := by
  have same : (left.tryAcquire userId requestId now).1 = (right.tryAcquire userId requestId now).1 :=
    alike.result moved
  refine ⟨same, ?_⟩
  have here := alike.later moved
  rcases left.tryAcquire_cases userId requestId now with
    ⟨result, after, tried, different, refuses⟩ | ⟨after, tried, accepts⟩ <;>
  rcases right.tryAcquire_cases userId requestId now with
    ⟨resultRight, afterRight, triedRight, differentRight, refusesRight⟩ |
      ⟨afterRight, triedRight, acceptsRight⟩
  · rw [tried, triedRight]
    exact refuses.alike.symm.trans (here.trans refusesRight.alike)
  · rw [tried, triedRight] at same
    exact absurd same different
  · rw [tried, triedRight] at same
    exact absurd same.symm differentRight
  · rw [tried, triedRight]
    exact here.accepted accepts acceptsRight

theorem Alike.release (alike : left.Alike right last) (userId : Int32) :
    (left.release userId).Alike (right.release userId) last :=
  { alike with
    inFlightUsers := congrArg (·.erase userId) alike.inFlightUsers }

end Alike

def answers (limiter : AiRequestLimiter) : List AiCall → List Result
  | [] => []
  | .tryAcquire userId requestId now :: rest =>
      (limiter.tryAcquire userId requestId now).1 ::
        answers (limiter.tryAcquire userId requestId now).2 rest
  | .release userId _ :: rest => answers (limiter.release userId) rest

theorem Alike.answers {left right : AiRequestLimiter} {last : Int} (alike : left.Alike right last)
    {calls : List AiCall} (clocked : AiWorld.Clocked calls)
    (later : ∀ time ∈ calls.filterMap AiCall.time, last ≤ time) :
    left.answers calls = right.answers calls := by
  induction calls generalizing left right last with
  | nil => rfl
  | cons call rest ih =>
      cases call with
      | tryAcquire userId requestId now =>
          obtain ⟨first, ordered⟩ := clocked.tail
          have alikeAfter : _ ∧ (left.tryAcquire userId requestId now).2.Alike
              (right.tryAcquire userId requestId now).2 now :=
            alike.tryAcquire (later now (by simp [AiCall.time]))
          obtain ⟨same, after⟩ := alikeAfter
          simp only [AiRequestLimiter.answers, same, ih after ordered first]
      | release userId requestId =>
          exact ih (alike.release userId) clocked later

end AiRequestLimiter

namespace AiWorld

/-- What the limiter guarantees over every run of calls in time. -/
theorem limiter_guarantees (perMinute maxPending replayWindowSeconds : Int32) {calls : List AiCall}
    (clocked : Clocked calls) :
    let origin := AiRequestLimiter.create perMinute maxPending replayWindowSeconds
    let world := calls.foldl next (start perMinute maxPending replayWindowSeconds)
    (world.serving.length : Int) ≤ origin.maxPending ∧ (world.serving.map Prod.fst).Nodup ∧
      world.limiter.inFlightUsers = (world.serving.map Prod.fst).toFinset ∧
      (∀ userId, Paced origin.perMinute.toNat (seconds 60) (world.userTimes userId)) ∧
      (∀ userId requestId, Paced 1 origin.replayWindow (world.requestTimes userId requestId)) ∧
      ∀ userId requestId now,
        (world.limiter.tryAcquire userId requestId now).1 ≠ .accepted →
        ∀ later, Clocked (.tryAcquire userId requestId now :: later) →
          (world.next (.tryAcquire userId requestId now)).limiter.answers later =
            world.limiter.answers later := by
  intro origin world
  obtain ⟨last, latest⟩ := (calls.filterMap AiCall.time).toFinset.exists_le
  have bounded : world.Bounded origin last := run_bounded perMinute maxPending replayWindowSeconds
    clocked fun time member => latest time (by simpa using member)
  refine ⟨?_, bounded.single, bounded.users, bounded.paced, bounded.once, ?_⟩
  · have few := bounded.few
    rw [bounded.users, List.toFinset_card_of_nodup bounded.single, List.length_map] at few
    exact few
  · intro userId requestId now refused later ordered
    rcases world.limiter.tryAcquire_cases userId requestId now with
      ⟨result, after, tried, different, refuses⟩ | ⟨after, tried, _⟩
    · have same : (world.next (.tryAcquire userId requestId now)).limiter = after := by
        simp only [next, tried]
      rw [same]
      obtain ⟨first, rest⟩ := ordered.tail
      exact refuses.alike.symm.answers rest first
    · rw [tried] at refused
      exact absurd rfl refused

/-- Two users at once, and the second request of one of them after a release. -/
theorem limiter_guarantees_two :
    let calls : List AiCall := [
      .tryAcquire 1 (ascii "r1") (seconds 1), .tryAcquire 2 (ascii "r3") (seconds 1),
      .release 1 (ascii "r1"), .tryAcquire 1 (ascii "r2") (seconds 1)]
    let world := calls.foldl next (start 2 2 300)
    world.serving = [(1, ascii "r2"), (2, ascii "r3")] ∧ (world.serving.length : Int) ≤ 2 := by
  intro calls world
  have clocked : Clocked calls := by
    unfold Clocked
    decide +kernel
  exact ⟨by decide +kernel, (limiter_guarantees 2 2 300 clocked).1⟩

end AiWorld

end Jitong
