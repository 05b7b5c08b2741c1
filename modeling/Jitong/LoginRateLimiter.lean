import Jitong.Text

/-!
`auth/LoginRateLimiter.cpp`: failed password logins are counted by address and
by address and account, over a sliding window. Times are steady-clock
nanoseconds.
-/

namespace Jitong

def seconds (count : Int) : Int := count * 1000000000

structure LoginRateLimiter.Policy where
  pairFailureLimit : Nat := 5
  ipFailureLimit : Nat := 30
  window : Int := seconds 300
  pairBlock : Int := seconds 60
  ipBlock : Int := seconds 300

structure LoginRateLimiter.Bucket where
  failures : List Int := []
  blockedUntil : Int := 0
  lastSeen : Int := 0

structure LoginRateLimiter where
  policy : LoginRateLimiter.Policy
  ipBuckets : Bytes → Option LoginRateLimiter.Bucket
  pairBuckets : Bytes → Option LoginRateLimiter.Bucket
  operations : Nat

namespace LoginRateLimiter

def create (policy : Policy) : LoginRateLimiter where
  policy := {
    policy with
    pairFailureLimit := max policy.pairFailureLimit 1
    ipFailureLimit := max policy.ipFailureLimit 1 }
  ipBuckets := fun _ => none
  pairBuckets := fun _ => none
  operations := 0

def pairKey (ip account : Bytes) : Bytes := ip ++ 0x0A :: account

def prune (policy : Policy) (now : Int) (bucket : Bucket) : Bucket :=
  { bucket with failures := bucket.failures.dropWhile (· < now - policy.window) }

def blocked (now : Int) (bucket : Bucket) : Bool := now < bucket.blockedUntil

def allow (limiter : LoginRateLimiter) (ip account : Bytes) (now : Int) :
    Bool × LoginRateLimiter :=
  let pruned := (limiter.ipBuckets ip).map (prune limiter.policy now)
  let limiter := { limiter with ipBuckets := Function.update limiter.ipBuckets ip pruned }
  if pruned.any (blocked now) then (false, limiter)
  else if account = [] then (true, limiter)
  else
    let key := pairKey ip account
    let pruned := (limiter.pairBuckets key).map (prune limiter.policy now)
    let limiter := { limiter with pairBuckets := Function.update limiter.pairBuckets key pruned }
    (!pruned.any (blocked now), limiter)

def addFailure (policy : Policy) (limit : Nat) (block : Int) (now : Int)
    (bucket : Option Bucket) : Bucket :=
  let bucket := prune policy now (bucket.getD {})
  let failures := bucket.failures ++ [now]
  {
    failures
    lastSeen := now
    blockedUntil :=
      if limit ≤ failures.length then max bucket.blockedUntil (now + block)
      else bucket.blockedUntil
  }

def cleanupMaps (limiter : LoginRateLimiter) (now : Int) : LoginRateLimiter :=
  let staleBefore := now - limiter.policy.window - limiter.policy.ipBlock
  let cleanup := fun buckets : Bytes → Option Bucket => fun key =>
    (buckets key).filter fun bucket =>
      !(bucket.lastSeen < staleBefore ∧ bucket.blockedUntil ≤ staleBefore)
  { limiter with
    ipBuckets := cleanup limiter.ipBuckets
    pairBuckets := cleanup limiter.pairBuckets }

def recordFailure (limiter : LoginRateLimiter) (ip account : Bytes) (now : Int) :
    LoginRateLimiter :=
  let policy := limiter.policy
  let ipBucket := addFailure policy policy.ipFailureLimit policy.ipBlock now (limiter.ipBuckets ip)
  let limiter : LoginRateLimiter := {
    limiter with
    ipBuckets := Function.update limiter.ipBuckets ip (some ipBucket)
    operations := limiter.operations + 1 }
  let limiter : LoginRateLimiter :=
    if account = [] then limiter
    else
      let key := pairKey ip account
      let pairBucket :=
        addFailure policy policy.pairFailureLimit policy.pairBlock now (limiter.pairBuckets key)
      { limiter with pairBuckets := Function.update limiter.pairBuckets key (some pairBucket) }
  if limiter.operations % 256 = 0 then limiter.cleanupMaps now else limiter

def recordSuccess (limiter : LoginRateLimiter) (ip account : Bytes) : LoginRateLimiter :=
  if account = [] then limiter
  else { limiter with pairBuckets := Function.update limiter.pairBuckets (pairKey ip account) none }

end LoginRateLimiter

end Jitong
