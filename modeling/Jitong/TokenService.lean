import Jitong.AuthTables

/-!
`auth/TokenService.cpp`: issuing, validating, rotating and revoking tokens over
the auth tables and the in-memory idempotency cache.
-/

namespace Jitong

/-- What one request takes from outside: the wall clock, the steady clock, the
results of `RAND_bytes` (`none` when it fails), whether each SQL write goes
through, which entry `m_refreshResults.begin()` designates, and the outcome of
`hashPasswordArgon2id`. -/
structure Env where
  now : Int
  steady : Int
  rand : Nat → Option Bytes
  writes : Nat → Bool
  bucket : Nat
  argonHash : Option Bytes

/-- The outcomes of the writes after the first `count`. -/
def Env.skipWrites (env : Env) (count : Nat) : Env :=
  { env with writes := fun index => env.writes (index + count) }

structure TokenPair where
  sessionId : Bytes
  familyId : Bytes
  accessToken : Bytes
  refreshToken : Bytes
  accessExpiresAt : Int
  refreshExpiresAt : Int
  deriving DecidableEq

structure RefreshResultCacheEntry where
  refreshHash : Bytes
  deviceId : Bytes
  pair : TokenPair
  expiresAt : Int
  deriving DecidableEq

structure TokenService where
  db : AuthTables
  refreshResults : List (Bytes × RefreshResultCacheEntry)

/-- How `rotateRefresh` ends: `true` with `outPair`, `false` with
`outRevokedUserId`, or the exception of a failing `RAND_bytes`. -/
inductive RotateOutcome
  | granted (outPair : TokenPair)
  | refused (outRevokedUserId : Int32)
  | thrown
  deriving DecidableEq

namespace TokenService

def empty : TokenService := ⟨.empty, []⟩

def randomToken (env : Env) (call : Nat) : Option Bytes := (env.rand call).map toHex

def issue (crypto : Crypto) (env : Env) (service : TokenService) (userId : Int32)
    (deviceId : Bytes) : Option (TokenPair × TokenService) := do
  let sessionId ← randomToken env 0
  let familyId ← randomToken env 1
  let accessToken ← randomToken env 2
  let refreshToken ← randomToken env 3
  let pair : TokenPair := {
    sessionId, familyId, accessToken, refreshToken
    accessExpiresAt := env.now + 5 * 60
    refreshExpiresAt := env.now + 2 * 24 * 60 * 60
  }
  let db ← AuthTables.createAuthSession (env.writes 0) service.db pair.sessionId pair.familyId
    userId deviceId (crypto.tokenHash pair.accessToken) pair.accessExpiresAt
    (crypto.tokenHash pair.refreshToken) pair.refreshExpiresAt
  return (pair, { service with db })

def validateAccess (crypto : Crypto) (now : Int) (service : TokenService)
    (token sessionId deviceId : Bytes) : Option (Int32 × Bytes × Int) :=
  if token = [] ∨ deviceId = [] then none else
  match service.db.findByAccessHash (crypto.tokenHash token) with
  | none => none
  | some record =>
      if record.revoked ∨ record.accessExpiresAt ≤ now ∨ record.deviceId.bytes ≠ deviceId ∨
          (sessionId ≠ [] ∧ record.sessionId.bytes ≠ sessionId) then none
      else some (record.userId, record.sessionId.bytes, record.accessExpiresAt)

theorem validateAccess_eq_some {crypto : Crypto} {now : Int} {service : TokenService}
    {token sessionId deviceId : Bytes} {accepted : Int32 × Bytes × Int}
    (valid : service.validateAccess crypto now token sessionId deviceId = some accepted) :
    ∃ row ∈ service.db.sessions.rows, row.accessHash = crypto.hashText token ∧
      row.revoked = false ∧ now < row.accessExpiresAt ∧ row.deviceId.bytes = deviceId ∧
      (sessionId ≠ [] → row.sessionId.bytes = sessionId) ∧
      accepted = (row.userId, row.sessionId.bytes, row.accessExpiresAt) := by
  unfold validateAccess at valid
  split at valid
  · simp at valid
  · split at valid
    · simp at valid
    · rename_i record found
      split at valid
      · simp at valid
      · rename_i passed
        obtain ⟨row, located, rfl⟩ := Option.map_eq_some_iff.mp found
        simp only [AuthTables.readAuthSession, not_or, not_le, Decidable.not_not, not_and,
          Bool.not_eq_true] at passed
        exact ⟨row, List.mem_of_find?_eq_some located,
          of_decide_eq_true (List.find?_some located :),
          passed.1, passed.2.1, passed.2.2.1, passed.2.2.2, (Option.some.inj valid).symm⟩

def dropExpired (now : Int) (service : TokenService) : TokenService :=
  { service with refreshResults := service.refreshResults.filter fun entry => now < entry.2.expiresAt }

def cached (service : TokenService) (requestId : Bytes) : Option RefreshResultCacheEntry :=
  service.refreshResults.lookup requestId

def remember (bucket : Nat) (service : TokenService) (requestId : Bytes)
    (entry : RefreshResultCacheEntry) : TokenService :=
  let kept :=
    if 1024 ≤ service.refreshResults.length then
      service.refreshResults.eraseIdx (bucket % service.refreshResults.length)
    else service.refreshResults
  { service with refreshResults := kept ++ [(requestId, entry)] }

def punishReplay (env : Env) (service : TokenService) (oldHash : Bytes) :
    RotateOutcome × TokenService :=
  match service.db.wasRefreshTokenUsed oldHash with
  | none => (.refused 0, service)
  | some familyId =>
      if familyId = [] then (.refused 0, service) else
      let (uid, db) := service.db.revokeTokenFamily (env.writes 4) (env.writes 5) familyId
      (.refused (if 0 < uid then uid else 0), { service with db })

/-- The part of `rotateRefresh` that follows a miss in the cache. -/
def rotateUncached (crypto : Crypto) (env : Env) (service : TokenService)
    (refreshToken deviceId requestId : Bytes) : RotateOutcome × TokenService :=
  let oldHash := crypto.tokenHash refreshToken
  match service.db.findByRefreshHash oldHash with
  | none => service.punishReplay env oldHash
  | some old =>
      if old.revoked ∨ old.refreshExpiresAt ≤ env.now ∨ old.deviceId.bytes ≠ deviceId then
        (.refused 0, service)
      else
        match randomToken env 0, randomToken env 1 with
        | some accessToken, some nextRefreshToken =>
            let next : TokenPair := {
              sessionId := old.sessionId.bytes
              familyId := old.familyId.bytes
              accessToken
              refreshToken := nextRefreshToken
              accessExpiresAt := env.now + 15 * 60
              refreshExpiresAt := env.now + 30 * 24 * 60 * 60
            }
            match service.db.rotateRefreshToken env.writes old oldHash
                (crypto.tokenHash next.accessToken) next.accessExpiresAt
                (crypto.tokenHash next.refreshToken) next.refreshExpiresAt with
            | (true, db) =>
                (.granted next, { service with db }.remember env.bucket requestId
                  ⟨oldHash, deviceId, next, env.now + 120⟩)
            | (false, db) => { service with db }.punishReplay env oldHash
        | _, _ => (.thrown, service)

def rotateRefresh (crypto : Crypto) (env : Env) (service : TokenService)
    (refreshToken deviceId requestId : Bytes) : RotateOutcome × TokenService :=
  if refreshToken = [] ∨ deviceId = [] ∨ requestId = [] then (.refused 0, service) else
  -- Single flight with a short memory: a retry whose response was lost gets the first pair back.
  let service := service.dropExpired env.now
  match service.cached requestId with
  | some entry =>
      if entry.refreshHash ≠ crypto.tokenHash refreshToken ∨ entry.deviceId ≠ deviceId then
        (.refused 0, service)
      else (.granted entry.pair, service)
  | none => service.rotateUncached crypto env refreshToken deviceId requestId

def revokeSession (env : Env) (service : TokenService) (sessionId : Bytes) : TokenService :=
  if sessionId = [] then service
  else { service with db := service.db.revokeSession (env.writes 0) sessionId }

def revokeAllForUser (env : Env) (service : TokenService) (userId : Int32) : TokenService :=
  if 0 < userId then { service with db := service.db.revokeAllUserSessions (env.writes 0) userId }
  else service

end TokenService

end Jitong
