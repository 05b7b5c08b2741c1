import Jitong.Lib.Window
import Jitong.LoginRateLimiter
import Jitong.Protocol

/-!
What the login limiter refuses, told by the whole history of its calls.
-/

namespace Jitong

open Lib

inductive LoginCall
  | allow (ip account : Bytes) (now : Int)
  | recordFailure (ip account : Bytes) (now : Int)
  | recordSuccess (ip account : Bytes)
  deriving DecidableEq

namespace LoginCall

def time : LoginCall → Option Int
  | allow _ _ now | recordFailure _ _ now => some now
  | recordSuccess _ _ => none

def ip : LoginCall → Bytes
  | allow ip _ _ | recordFailure ip _ _ | recordSuccess ip _ => ip

def HasAddress (call : LoginCall) : Prop := 0x0A ∉ call.ip

end LoginCall

namespace LoginRateLimiter

def tally (limiter : LoginRateLimiter) (ip account : Bytes) (now : Int) : LoginRateLimiter :=
  let policy := limiter.policy
  let ipBucket := addFailure policy policy.ipFailureLimit policy.ipBlock now (limiter.ipBuckets ip)
  let limiter : LoginRateLimiter := {
    limiter with
    ipBuckets := Function.update limiter.ipBuckets ip (some ipBucket)
    operations := limiter.operations + 1 }
  if account = [] then limiter
  else
    let key := pairKey ip account
    let pairBucket :=
      addFailure policy policy.pairFailureLimit policy.pairBlock now (limiter.pairBuckets key)
    { limiter with pairBuckets := Function.update limiter.pairBuckets key (some pairBucket) }

theorem recordFailure_eq (limiter : LoginRateLimiter) (ip account : Bytes) (now : Int) :
    limiter.recordFailure ip account now =
      if (limiter.tally ip account now).operations % 256 = 0 then
        (limiter.tally ip account now).cleanupMaps now
      else limiter.tally ip account now := rfl

def stepBy (record : LoginRateLimiter → Bytes → Bytes → Int → LoginRateLimiter)
    (limiter : LoginRateLimiter) : LoginCall → LoginRateLimiter
  | .allow ip account now => (limiter.allow ip account now).2
  | .recordFailure ip account now => record limiter ip account now
  | .recordSuccess ip account => limiter.recordSuccess ip account

def step : LoginRateLimiter → LoginCall → LoginRateLimiter := stepBy recordFailure

def stepUnswept : LoginRateLimiter → LoginCall → LoginRateLimiter := stepBy tally

def ipFailures (ip : Bytes) (calls : List LoginCall) : List Int :=
  calls.filterMap fun
    | .recordFailure other _ now => if other = ip then some now else none
    | _ => none

def pairFailures (ip account : Bytes) (calls : List LoginCall) : List Int :=
  calls.foldl (fun times call =>
    match call with
    | .recordFailure other name now => if other = ip ∧ name = account then times ++ [now] else times
    | .recordSuccess other name => if other = ip ∧ name = account then [] else times
    | .allow _ _ _ => times) []

def Refuses (policy : Policy) (calls : List LoginCall) (ip account : Bytes) (now : Int) : Prop :=
  Blocks policy.ipFailureLimit policy.window policy.ipBlock (ipFailures ip calls) now ∨
    Blocks policy.pairFailureLimit policy.window policy.pairBlock (pairFailures ip account calls) now

instance (policy : Policy) (calls : List LoginCall) (ip account : Bytes) (now : Int) :
    Decidable (Refuses policy calls ip account now) := inferInstanceAs (Decidable (_ ∨ _))

structure Tracks (window : Int) (limit : Nat) (block : Int) (bucket : Option Bucket)
    (times : List Int) (last : Int) : Prop where
  ordered : times.Pairwise (· ≤ ·)
  latest : ∀ time ∈ times, time ≤ last
  recent : ∃ cutoff ≤ last - window, (bucket.getD {}).failures = since cutoff times
  blocks : ∀ now, last ≤ now →
    (now < (bucket.getD {}).blockedUntil ↔ Blocks limit window block times now)
  seen : ∀ held, bucket = some held → ∀ time ∈ times, time ≤ held.lastSeen

namespace Tracks

variable {policy : Policy} {limit : Nat} {block last now : Int} {bucket : Option Bucket}
  {times : List Int}

theorem fresh (begun : 0 ≤ last) : Tracks policy.window limit block none [] last where
  ordered := List.Pairwise.nil
  latest := by simp
  recent := ⟨last - policy.window, le_refl _, rfl⟩
  blocks := by
    intro now later
    simp only [blocks_nil, iff_false, not_lt]
    exact le_trans begun later
  seen := by simp

variable (tracks : Tracks policy.window limit block bucket times last)
include tracks

theorem later (after : last ≤ now) : Tracks policy.window limit block bucket times now where
  ordered := tracks.ordered
  latest := fun time member => le_trans (tracks.latest time member) after
  recent := by
    obtain ⟨cutoff, before, failures⟩ := tracks.recent
    exact ⟨cutoff, by omega, failures⟩
  blocks := fun future late => tracks.blocks future (le_trans after late)
  seen := tracks.seen

theorem prune_failures (after : last ≤ now) :
    (prune policy now (bucket.getD {})).failures = since (now - policy.window) times := by
  obtain ⟨cutoff, before, failures⟩ := tracks.recent
  rw [prune, failures, dropWhile_eq_since (since_ordered tracks.ordered), since_since,
    max_eq_left (by omega)]

theorem prune (after : last ≤ now) :
    Tracks policy.window limit block (bucket.map (prune policy now)) times now := by
  have moved := tracks.later after
  have failures := tracks.prune_failures after
  cases bucket with
  | none => exact moved
  | some held =>
      exact {
        ordered := moved.ordered
        latest := moved.latest
        recent := ⟨now - policy.window, le_refl _, failures⟩
        blocks := moved.blocks
        seen := fun _ same => by
          cases same
          exact moved.seen held rfl }

theorem addFailure (nonnegative : 0 ≤ policy.window) (after : last ≤ now) :
    Tracks policy.window limit block (some (addFailure policy limit block now bucket))
      (times ++ [now]) now := by
  have moved := tracks.later after
  have failures := tracks.prune_failures after
  refine {
    ordered := ordered_concat moved.ordered moved.latest
    latest := ?_
    recent := ⟨now - policy.window, le_refl _, ?_⟩
    blocks := ?_
    seen := ?_ }
  · intro time member
    rcases List.mem_append.mp member with earlier | newest
    · exact moved.latest time earlier
    · exact le_of_eq (List.mem_singleton.mp newest)
  · have own : since (now - policy.window) [now] = [now] := since_of_le (by simpa using nonnegative)
    rw [since_append, own, ← failures]
    rfl
  · intro future late
    rw [blocks_concat nonnegative moved.latest, ← moved.blocks future late]
    simp only [LoginRateLimiter.addFailure, Option.getD_some, failures, List.length_append,
      List.length_singleton]
    split
    · rename_i full
      simp only [lt_max_iff, full, true_and]
      rfl
    · rename_i room
      simp only [room, false_and, or_false]
      rfl
  · intro held same time member
    cases same
    rcases List.mem_append.mp member with earlier | newest
    · exact moved.latest time earlier
    · exact le_of_eq (List.mem_singleton.mp newest)

theorem swept (begun : 0 ≤ last) {staleBefore : Int} (stale : staleBefore ≤ last - policy.window)
    (past : staleBefore ≤ last) :
    Tracks policy.window limit block
      (bucket.filter fun bucket =>
        !(bucket.lastSeen < staleBefore ∧ bucket.blockedUntil ≤ staleBefore)) times last := by
  cases bucket with
  | none => exact tracks
  | some held =>
      by_cases gone : held.lastSeen < staleBefore ∧ held.blockedUntil ≤ staleBefore
      · have seen := tracks.seen held rfl
        rw [Option.filter_some_neg (by simpa using gone)]
        refine {
          ordered := tracks.ordered
          latest := tracks.latest
          recent := ⟨last - policy.window, le_refl _, ?_⟩
          blocks := ?_
          seen := by simp }
        · rw [since_eq_nil]
          · rfl
          · intro time member
            have before := seen time member
            omega
        · intro now late
          rw [← tracks.blocks now late]
          have ended : (Option.getD (some held) {}).blockedUntil ≤ staleBefore := gone.2
          have none : (Option.getD (none : Option Bucket) {}).blockedUntil = 0 := rfl
          omega
      · rwa [Option.filter_some_pos (by rwa [Bool.not_eq_true', decide_eq_false_iff_not])]

theorem refuses (begun : 0 ≤ last) (after : last ≤ now) :
    (bucket.map (LoginRateLimiter.prune policy now)).any (blocked now) = true ↔
      Blocks limit policy.window block times now := by
  rw [← tracks.blocks now after]
  cases bucket with
  | none =>
      have none : (Option.getD (none : Option Bucket) {}).blockedUntil = 0 := rfl
      simp only [Option.map_none, Option.any_none, Bool.false_eq_true, false_iff]
      omega
  | some held => simp [blocked, LoginRateLimiter.prune]

end Tracks

theorem pairKey_address {ip : Bytes} (address : 0x0A ∉ ip) (account : Bytes) :
    (pairKey ip account).takeWhile (· ≠ 0x0A) = ip := by
  rw [pairKey, List.takeWhile_append_of_pos]
  · simp
  · intro byte member
    exact decide_eq_true fun found => address (found ▸ member)

theorem pairKey_ne {ip other account name : Bytes} (address : 0x0A ∉ ip)
    (otherAddress : 0x0A ∉ other) (different : ¬(ip = other ∧ account = name)) :
    pairKey other name ≠ pairKey ip account := by
  intro same
  have ips : ip = other := by
    rw [← pairKey_address address account, ← same, pairKey_address otherAddress]
  subst ips
  exact different ⟨rfl, by simpa [pairKey] using same.symm⟩

section Histories

variable {calls : List LoginCall} {ip account : Bytes}

theorem ipFailures_concat (call : LoginCall) :
    ipFailures ip (calls ++ [call]) =
      match call with
      | .recordFailure other _ now =>
          if other = ip then ipFailures ip calls ++ [now] else ipFailures ip calls
      | _ => ipFailures ip calls := by
  rw [ipFailures, List.filterMap_append]
  cases call with
  | recordFailure other name now =>
      by_cases same : other = ip <;> simp [same, ipFailures]
  | allow | recordSuccess => simp [ipFailures]

theorem pairFailures_allowed (other name : Bytes) (now : Int) :
    pairFailures ip account (calls ++ [.allow other name now]) = pairFailures ip account calls := by
  rw [pairFailures, List.foldl_append]
  rfl

theorem pairFailures_failed (other name : Bytes) (now : Int) :
    pairFailures ip account (calls ++ [.recordFailure other name now]) =
      if other = ip ∧ name = account then pairFailures ip account calls ++ [now]
      else pairFailures ip account calls := by
  rw [pairFailures, List.foldl_append]
  rfl

theorem pairFailures_succeeded (other name : Bytes) :
    pairFailures ip account (calls ++ [.recordSuccess other name]) =
      if other = ip ∧ name = account then [] else pairFailures ip account calls := by
  rw [pairFailures, List.foldl_append]
  rfl

end Histories

def TracksIps (policy : Policy) (ipBuckets : Bytes → Option Bucket) (calls : List LoginCall)
    (last : Int) : Prop :=
  ∀ ip, Tracks policy.window policy.ipFailureLimit policy.ipBlock (ipBuckets ip)
    (ipFailures ip calls) last

def TracksPairs (policy : Policy) (pairBuckets : Bytes → Option Bucket) (calls : List LoginCall)
    (last : Int) : Prop :=
  ∀ ip account, 0x0A ∉ ip → account ≠ [] →
    Tracks policy.window policy.pairFailureLimit policy.pairBlock
      (pairBuckets (pairKey ip account)) (pairFailures ip account calls) last

structure Follows (limiter : LoginRateLimiter) (calls : List LoginCall) (last : Int) : Prop where
  begun : 0 ≤ last
  ips : TracksIps limiter.policy limiter.ipBuckets calls last
  pairs : TracksPairs limiter.policy limiter.pairBuckets calls last

section Steps

variable {limiter : LoginRateLimiter} {policy : Policy} {calls : List LoginCall} {last now : Int}
  {ip account : Bytes} {buckets : Bytes → Option Bucket}

theorem TracksIps.later (tracks : TracksIps policy buckets calls last) (after : last ≤ now)
    {call : LoginCall} (same : ∀ ip, ipFailures ip (calls ++ [call]) = ipFailures ip calls) :
    TracksIps policy buckets (calls ++ [call]) now := fun ip => by
  rw [same]
  exact (tracks ip).later after

theorem TracksPairs.later (tracks : TracksPairs policy buckets calls last) (after : last ≤ now)
    {call : LoginCall}
    (same : ∀ ip account, pairFailures ip account (calls ++ [call]) = pairFailures ip account calls) :
    TracksPairs policy buckets (calls ++ [call]) now := fun ip account address named => by
  rw [same]
  exact (tracks ip account address named).later after

theorem TracksIps.prune (tracks : TracksIps policy buckets calls now) (ip : Bytes) :
    TracksIps policy
      (Function.update buckets ip ((buckets ip).map (LoginRateLimiter.prune policy now))) calls
      now := by
  intro other
  by_cases same : other = ip
  · rw [same, Function.update_self]
    exact (tracks ip).prune (le_refl now)
  · rw [Function.update_of_ne same]
    exact tracks other

theorem TracksPairs.prune (tracks : TracksPairs policy buckets calls now) (key : Bytes) :
    TracksPairs policy
      (Function.update buckets key ((buckets key).map (LoginRateLimiter.prune policy now))) calls
      now := by
  intro other name address named
  by_cases same : pairKey other name = key
  · rw [same, Function.update_self, ← same]
    exact (tracks other name address named).prune (le_refl now)
  · rw [Function.update_of_ne same]
    exact tracks other name address named

theorem Follows.allow (follows : limiter.Follows calls last) (after : last ≤ now) :
    (limiter.allow ip account now).2.Follows (calls ++ [.allow ip account now]) now := by
  have begun := le_trans follows.begun after
  have ips : TracksIps limiter.policy limiter.ipBuckets (calls ++ [.allow ip account now]) now :=
    follows.ips.later after fun _ => ipFailures_concat _
  have pairs : TracksPairs limiter.policy limiter.pairBuckets (calls ++ [.allow ip account now])
      now := follows.pairs.later after fun _ _ => pairFailures_allowed ..
  simp only [LoginRateLimiter.allow]
  split
  · exact ⟨begun, ips.prune ip, pairs⟩
  · split
    · exact ⟨begun, ips.prune ip, pairs⟩
    · exact ⟨begun, ips.prune ip, pairs.prune (pairKey ip account)⟩

theorem TracksIps.addFailure (tracks : TracksIps policy buckets calls last)
    (nonnegative : 0 ≤ policy.window) (after : last ≤ now) (ip account : Bytes) :
    TracksIps policy
      (Function.update buckets ip (some
        (LoginRateLimiter.addFailure policy policy.ipFailureLimit policy.ipBlock now (buckets ip))))
      (calls ++ [.recordFailure ip account now]) now := by
  intro other
  rw [ipFailures_concat]
  by_cases same : ip = other
  · subst same
    simp only [Function.update_self, if_true]
    exact (tracks ip).addFailure nonnegative after
  · simp only [Function.update_of_ne (Ne.symm same), if_neg same]
    exact (tracks other).later after

theorem TracksPairs.addFailure (tracks : TracksPairs policy buckets calls last)
    (nonnegative : 0 ≤ policy.window) (after : last ≤ now) (address : 0x0A ∉ ip) (account : Bytes) :
    TracksPairs policy
      (Function.update buckets (pairKey ip account) (some
        (LoginRateLimiter.addFailure policy policy.pairFailureLimit policy.pairBlock now
          (buckets (pairKey ip account)))))
      (calls ++ [.recordFailure ip account now]) now := by
  intro other name otherAddress named
  rw [pairFailures_failed]
  by_cases same : ip = other ∧ account = name
  · obtain ⟨rfl, rfl⟩ := same
    simp only [Function.update_self, and_self, if_true]
    exact (tracks ip account address named).addFailure nonnegative after
  · have keys := pairKey_ne address otherAddress same
    simp only [Function.update_of_ne keys, if_neg same]
    exact (tracks other name otherAddress named).later after

theorem Follows.tally (follows : limiter.Follows calls last) (nonnegative : 0 ≤ limiter.policy.window)
    (after : last ≤ now) (address : 0x0A ∉ ip) :
    (limiter.tally ip account now).Follows (calls ++ [.recordFailure ip account now]) now := by
  have begun := le_trans follows.begun after
  have ips := follows.ips.addFailure nonnegative after ip account
  by_cases named : account = []
  · have unnamed (other name : Bytes) (given : name ≠ []) :
        pairFailures other name (calls ++ [.recordFailure ip account now]) =
          pairFailures other name calls := by
      rw [pairFailures_failed, if_neg]
      rintro ⟨_, same⟩
      exact given (same ▸ named)
    simp only [LoginRateLimiter.tally, if_pos named]
    refine ⟨begun, ips, fun other name otherAddress given => ?_⟩
    rw [unnamed other name given]
    exact (follows.pairs other name otherAddress given).later after
  · simp only [LoginRateLimiter.tally, if_neg named]
    exact ⟨begun, ips, follows.pairs.addFailure nonnegative after address account⟩

theorem Follows.cleanupMaps (follows : limiter.Follows calls last)
    (nonnegative : 0 ≤ limiter.policy.window) (blockNonnegative : 0 ≤ limiter.policy.ipBlock) :
    (limiter.cleanupMaps last).Follows calls last := by
  have stale : last - limiter.policy.window - limiter.policy.ipBlock ≤
      last - limiter.policy.window := by omega
  have past : last - limiter.policy.window - limiter.policy.ipBlock ≤ last := by omega
  exact ⟨follows.begun, fun ip => (follows.ips ip).swept follows.begun stale past,
    fun ip account address named =>
      (follows.pairs ip account address named).swept follows.begun stale past⟩

theorem tally_policy : (limiter.tally ip account now).policy = limiter.policy := by
  unfold tally
  dsimp only
  split <;> rfl

theorem Follows.recordFailure (follows : limiter.Follows calls last)
    (nonnegative : 0 ≤ limiter.policy.window) (blockNonnegative : 0 ≤ limiter.policy.ipBlock)
    (after : last ≤ now) (address : 0x0A ∉ ip) :
    (limiter.recordFailure ip account now).Follows (calls ++ [.recordFailure ip account now])
      now := by
  have tallied : (limiter.tally ip account now).Follows _ now :=
    follows.tally nonnegative after address
  have same : (limiter.tally ip account now).policy = limiter.policy := tally_policy
  rw [recordFailure_eq]
  split
  · exact tallied.cleanupMaps (same ▸ nonnegative) (same ▸ blockNonnegative)
  · exact tallied

theorem Follows.recordSuccess (follows : limiter.Follows calls last) (address : 0x0A ∉ ip) :
    (limiter.recordSuccess ip account).Follows (calls ++ [.recordSuccess ip account]) last := by
  have ips : TracksIps _ _ (calls ++ [.recordSuccess ip account]) last :=
    follows.ips.later (le_refl last) fun _ => ipFailures_concat _
  unfold LoginRateLimiter.recordSuccess
  split
  · rename_i unnamed
    refine ⟨follows.begun, ips, fun other name otherAddress given => ?_⟩
    rw [pairFailures_succeeded, if_neg]
    · exact follows.pairs other name otherAddress given
    · rintro ⟨_, same⟩
      exact given (same ▸ unnamed)
  · refine ⟨follows.begun, ips, fun other name otherAddress given => ?_⟩
    rw [pairFailures_succeeded]
    by_cases same : ip = other ∧ account = name
    · obtain ⟨rfl, rfl⟩ := same
      simp only [Function.update_self, and_self, if_true]
      exact Tracks.fresh follows.begun
    · have keys := pairKey_ne address otherAddress same
      simp only [Function.update_of_ne keys, if_neg same]
      exact follows.pairs other name otherAddress given

theorem Follows.refuses (follows : limiter.Follows calls last) (after : last ≤ now)
    (address : 0x0A ∉ ip) :
    (limiter.allow ip account now).1 = false ↔
      Blocks limiter.policy.ipFailureLimit limiter.policy.window limiter.policy.ipBlock
          (ipFailures ip calls) now ∨
        account ≠ [] ∧ Blocks limiter.policy.pairFailureLimit limiter.policy.window
          limiter.policy.pairBlock (pairFailures ip account calls) now := by
  have byIp := (follows.ips ip).refuses follows.begun after
  simp only [LoginRateLimiter.allow]
  split
  · rename_i blocked
    simp only [byIp.mp blocked, true_or]
  · rename_i free
    rw [byIp] at free
    split
    · rename_i unnamed
      simp [free, unnamed]
    · rename_i named
      have byPair := (follows.pairs ip account address named).refuses follows.begun after
      simp only [Bool.not_eq_false', byPair, free, false_or, ne_eq, named, not_false_eq_true,
        true_and]

end Steps

def Records (record : LoginRateLimiter → Bytes → Bytes → Int → LoginRateLimiter) : Prop :=
  ∀ {limiter : LoginRateLimiter} {calls : List LoginCall} {last now : Int} {ip account : Bytes},
    limiter.Follows calls last → 0 ≤ limiter.policy.window → 0 ≤ limiter.policy.ipBlock →
    last ≤ now → 0x0A ∉ ip →
      (record limiter ip account now).Follows (calls ++ [.recordFailure ip account now]) now ∧
        (record limiter ip account now).policy = limiter.policy

theorem records_tally : Records tally := fun follows nonnegative _ after address =>
  ⟨follows.tally nonnegative after address, tally_policy⟩

theorem records_recordFailure : Records recordFailure := by
  intro limiter calls last now ip account follows nonnegative blockNonnegative after address
  refine ⟨follows.recordFailure nonnegative blockNonnegative after address, ?_⟩
  rw [recordFailure_eq]
  split
  · exact tally_policy
  · exact tally_policy

structure Clocked (calls : List LoginCall) : Prop where
  ordered : (calls.filterMap LoginCall.time).Pairwise (· ≤ ·)
  begun : ∀ time ∈ calls.filterMap LoginCall.time, 0 ≤ time

theorem Clocked.front {calls more : List LoginCall} (clocked : Clocked (calls ++ more)) :
    Clocked calls := by
  obtain ⟨ordered, begun⟩ := clocked
  rw [List.filterMap_append] at ordered begun
  exact ⟨(List.pairwise_append.mp ordered).1, fun time member =>
    begun time (List.mem_append_left _ member)⟩

theorem Clocked.last {calls : List LoginCall} {call : LoginCall} {now : Int}
    (clocked : Clocked (calls ++ [call])) (timed : call.time = some now) :
    0 ≤ now ∧ ∀ time ∈ calls.filterMap LoginCall.time, time ≤ now := by
  obtain ⟨ordered, begun⟩ := clocked
  simp only [List.filterMap_append, List.filterMap_cons, timed, List.filterMap_nil] at ordered begun
  exact ⟨begun now (by simp), fun time member =>
    (List.pairwise_append.mp ordered).2.2 time member now (by simp)⟩

section Runs

variable {record : LoginRateLimiter → Bytes → Bytes → Int → LoginRateLimiter} {policy : Policy}
  {calls : List LoginCall}

theorem Records.run (records : Records record) (nonnegative : 0 ≤ policy.window)
    (blockNonnegative : 0 ≤ policy.ipBlock) (clocked : Clocked calls)
    (addresses : ∀ call ∈ calls, call.HasAddress) :
    (calls.foldl (stepBy record) (create policy)).policy = (create policy).policy ∧
      ∃ last, (calls.foldl (stepBy record) (create policy)).Follows calls last ∧
        ∀ now, 0 ≤ now → (∀ time ∈ calls.filterMap LoginCall.time, time ≤ now) → last ≤ now := by
  induction calls using List.reverseRecOn with
  | nil =>
      exact ⟨rfl, 0, ⟨le_refl 0, fun _ => Tracks.fresh (le_refl 0),
        fun _ _ _ _ => Tracks.fresh (le_refl 0)⟩, fun _ begun _ => begun⟩
  | append_singleton front call ih =>
      obtain ⟨samePolicy, last, follows, earliest⟩ := ih clocked.front fun call member =>
        addresses call (List.mem_append_left _ member)
      have address : 0x0A ∉ call.ip := addresses call (by simp)
      rw [List.foldl_append]
      have window : (front.foldl (stepBy record) (create policy)).policy.window = policy.window := by
        rw [samePolicy]
        rfl
      have ipBlock : (front.foldl (stepBy record) (create policy)).policy.ipBlock =
          policy.ipBlock := by
        rw [samePolicy]
        rfl
      have upTo (now : Int) (timed : call.time = some now) :
          ∀ future, 0 ≤ future →
            (∀ time ∈ (front ++ [call]).filterMap LoginCall.time, time ≤ future) →
              now ≤ future := by
        intro future _ bound
        exact bound now (by simp [timed])
      cases call with
      | allow ip account now =>
          obtain ⟨begun, latest⟩ := clocked.last rfl
          have after := earliest now begun latest
          refine ⟨?_, now, follows.allow after, upTo now rfl⟩
          rw [← samePolicy]
          change (LoginRateLimiter.allow _ ip account now).2.policy = _
          simp only [LoginRateLimiter.allow]
          split
          · rfl
          · split <;> rfl
      | recordFailure ip account now =>
          obtain ⟨begun, latest⟩ := clocked.last rfl
          have after := earliest now begun latest
          obtain ⟨recorded, kept⟩ := records follows (window ▸ nonnegative)
            (ipBlock ▸ blockNonnegative) after address
          exact ⟨kept.trans samePolicy, now, recorded, upTo now rfl⟩
      | recordSuccess ip account =>
          refine ⟨?_, last, follows.recordSuccess address, fun future begun bound =>
            earliest future begun fun time member => bound time (by simp [member])⟩
          rw [← samePolicy]
          change (LoginRateLimiter.recordSuccess _ ip account).policy = _
          unfold LoginRateLimiter.recordSuccess
          split <;> rfl

theorem Records.refuses (records : Records record) (nonnegative : 0 ≤ policy.window)
    (blockNonnegative : 0 ≤ policy.ipBlock) {ip account : Bytes} {now : Int}
    (clocked : Clocked (calls ++ [.allow ip account now]))
    (addresses : ∀ call ∈ calls ++ [.allow ip account now], call.HasAddress) :
    ((calls.foldl (stepBy record) (create policy)).allow ip account now).1 = false ↔
      Blocks policy.ipFailureLimit policy.window policy.ipBlock (ipFailures ip calls) now ∨
        account ≠ [] ∧ Blocks policy.pairFailureLimit policy.window policy.pairBlock
          (pairFailures ip account calls) now := by
  obtain ⟨samePolicy, last, follows, earliest⟩ := records.run nonnegative blockNonnegative
    clocked.front fun call member => addresses call (List.mem_append_left _ member)
  obtain ⟨begun, latest⟩ := clocked.last rfl
  have address : 0x0A ∉ ip := addresses (.allow ip account now) (by simp)
  rw [follows.refuses (earliest now begun latest) address, samePolicy]
  exact or_congr (blocks_max_one nonnegative)
    (and_congr_right fun _ => blocks_max_one nonnegative)

/-- Who is refused is told by the failures in the windows alone, and the cleanup of the maps does
not change an answer. -/
theorem allow_refuses_iff (nonnegative : 0 ≤ policy.window) (blockNonnegative : 0 ≤ policy.ipBlock)
    {ip account : Bytes} {now : Int} (clocked : Clocked (calls ++ [.allow ip account now]))
    (addresses : ∀ call ∈ calls ++ [.allow ip account now], call.HasAddress) :
    (((calls.foldl step (create policy)).allow ip account now).1 = false ↔
      Blocks policy.ipFailureLimit policy.window policy.ipBlock (ipFailures ip calls) now ∨
        account ≠ [] ∧ Blocks policy.pairFailureLimit policy.window policy.pairBlock
          (pairFailures ip account calls) now) ∧
    ((calls.foldl step (create policy)).allow ip account now).1 =
      ((calls.foldl stepUnswept (create policy)).allow ip account now).1 := by
  have swept := records_recordFailure.refuses nonnegative blockNonnegative clocked addresses
  have unswept := records_tally.refuses nonnegative blockNonnegative clocked addresses
  refine ⟨swept, ?_⟩
  rw [Bool.eq_iff_iff, ← not_iff_not, Bool.not_eq_true, Bool.not_eq_true]
  exact swept.trans unswept.symm

end Runs

/-- Three failures of a pair, and the limits of the windows and of the blocks. -/
theorem allow_refuses_third :
    let policy : Policy := { pairFailureLimit := 3, window := seconds 60, pairBlock := seconds 10 }
    let failure := LoginCall.recordFailure (ascii "127.0.0.1") (ascii "13800138000") (seconds 5)
    (([failure, failure, failure].foldl step (create policy)).allow (ascii "127.0.0.1")
        (ascii "13800138000") (seconds 14)).1 = false ∧
      (Blocks 30 (seconds 60) (seconds 300) [seconds 5, seconds 5, seconds 5] (seconds 14) ∨
        ascii "13800138000" ≠ [] ∧
          Blocks 3 (seconds 60) (seconds 10) [seconds 5, seconds 5, seconds 5] (seconds 14)) := by
  intro policy failure
  have refused : (([failure, failure, failure].foldl step (create policy)).allow
      (ascii "127.0.0.1") (ascii "13800138000") (seconds 14)).1 = false := by decide +kernel
  refine ⟨refused, ?_⟩
  refine ((@allow_refuses_iff policy [failure, failure, failure] (by decide +kernel)
    (by decide +kernel) _ _ _ ⟨by decide +kernel, by decide +kernel⟩ ?_).1).mp refused
  unfold LoginCall.HasAddress
  decide +kernel

/-- Where the limiter and the specification part: an account that is empty, an address with a line
break, times before the clock begins, and windows and blocks that are negative. -/
theorem refuses_otherwise :
    (∃ (policy : Policy) (calls : List LoginCall) (ip : Bytes) (now : Int),
      ((calls.foldl step (create policy)).allow ip [] now).1 = true ∧
        Refuses policy calls ip [] now) ∧
    (∃ (policy : Policy) (calls : List LoginCall) (ip account : Bytes) (now : Int),
      0x0A ∈ ip ∧ ((calls.foldl step (create policy)).allow ip account now).1 = false ∧
        ¬ Refuses policy calls ip account now) ∧
    (∃ (calls : List LoginCall) (ip account : Bytes) (now : Int),
      now < 0 ∧ ((calls.foldl step (create {})).allow ip account now).1 = false ∧
        ¬ Refuses {} calls ip account now) ∧
    (∃ (policy : Policy) (calls : List LoginCall) (ip account : Bytes) (now : Int),
      policy.window < 0 ∧ ((calls.foldl step (create policy)).allow ip account now).1 = false ∧
        ¬ Refuses policy calls ip account now) ∧
    ∃ (policy : Policy) (calls : List LoginCall) (ip account : Bytes) (now : Int),
      policy.ipBlock < 0 ∧ ((calls.foldl step (create policy)).allow ip account now).1 = true ∧
        Refuses policy calls ip account now := by
  refine ⟨⟨{ pairFailureLimit := 1 }, [.recordFailure (ascii "a") [] 0], ascii "a", 0, ?_⟩,
    ⟨{ pairFailureLimit := 1 }, [.recordFailure (ascii "a") (ascii "b\nc") 0], ascii "a\nb",
      ascii "c", 0, ?_⟩,
    ⟨[.recordFailure (ascii "a") (ascii "b") (-2)], ascii "a", ascii "b", -1, ?_⟩,
    ⟨{ pairFailureLimit := 1, window := -1 }, [.recordFailure (ascii "a") (ascii "b") 0],
      ascii "a", ascii "b", 0, ?_⟩,
    ⟨{ pairFailureLimit := 2, ipBlock := seconds (-400) },
      .recordFailure (ascii "a") (ascii "b") 0 ::
        List.replicate 255 (.recordFailure (ascii "c") [] 1) ++
        [.recordFailure (ascii "a") (ascii "b") 2], ascii "a", ascii "b", 2, ?_⟩⟩
  · decide +kernel
  · decide +kernel
  · decide +kernel
  · decide +kernel
  · decide +kernel

end LoginRateLimiter

end Jitong
