import Jitong.Lib.Run
import Jitong.TokenService

/-!
Runs of the token service. A ledger kept beside the tables records every pair
that was minted, so that "the latest generation of a session" has a meaning
that does not come from the tables themselves.
-/

namespace Jitong

open Lib

/-- A pair that `issue` (`rotation = false`) or `rotateRefresh` generated. -/
structure Mint where
  pair : TokenPair
  rotation : Bool
  deriving DecidableEq

/-- The session a pair belongs to, as `auth_sessions` names it. -/
def Mint.session (mint : Mint) : Text := cstr mint.pair.sessionId

abbrev Ledger := List Mint

def Ledger.latest (ledger : Ledger) (sessionId : Text) : Option TokenPair :=
  (ledger.find? fun mint => mint.session = sessionId).map (·.pair)

def Ledger.rotations (ledger : Ledger) (sessionId : Text) : Nat :=
  ledger.countP fun mint => mint.rotation ∧ mint.session = sessionId

def RotateOutcome.mint : RotateOutcome → Option Mint
  | granted pair => some ⟨pair, true⟩
  | _ => none

inductive TokenOp
  | issue (env : Env) (userId : Int32) (deviceId : Bytes)
  | rotateRefresh (env : Env) (refreshToken deviceId requestId : Bytes)
  | validateAccess (now : Int) (token sessionId deviceId : Bytes)
  | revokeSession (env : Env) (sessionId : Bytes)
  | revokeAllForUser (env : Env) (userId : Int32)
  | revokeTokenFamily (env : Env) (familyId : Bytes)

namespace TokenOp

def apply (crypto : Crypto) (service : TokenService) : TokenOp → TokenService
  | issue env userId deviceId =>
      ((service.issue crypto env userId deviceId).map (·.2)).getD service
  | rotateRefresh env refreshToken deviceId requestId =>
      (service.rotateRefresh crypto env refreshToken deviceId requestId).2
  | validateAccess .. => service
  | revokeSession env sessionId => service.revokeSession env sessionId
  | revokeAllForUser env userId => service.revokeAllForUser env userId
  | revokeTokenFamily env familyId =>
      { service with
        db := (service.db.revokeTokenFamily (env.writes 4) (env.writes 5) familyId).2 }

def minted (crypto : Crypto) (service : TokenService) : TokenOp → Option Mint
  | issue env userId deviceId =>
      (service.issue crypto env userId deviceId).map fun result => ⟨result.1, false⟩
  | rotateRefresh env refreshToken deviceId requestId =>
      if ((service.dropExpired env.now).cached requestId).isSome then none
      else (service.rotateRefresh crypto env refreshToken deviceId requestId).1.mint
  | _ => none

end TokenOp

structure TokenState where
  service : TokenService
  ledger : Ledger

def FreshMint (ledger : Ledger) (mint : Mint) : Prop :=
  mint.pair.accessToken ∉ ledger.map (·.pair.accessToken) ∧
  mint.pair.refreshToken ∉ ledger.map (·.pair.refreshToken) ∧
  (mint.rotation = false → mint.pair.familyId ∉ ledger.map (·.pair.familyId))

instance (ledger : Ledger) (mint : Mint) : Decidable (FreshMint ledger mint) :=
  inferInstanceAs (Decidable (_ ∧ _ ∧ _))

def TokenStep (crypto : Crypto) (before : TokenState) (op : TokenOp) (after : TokenState) : Prop :=
  (∀ mint, op.minted crypto before.service = some mint → FreshMint before.ledger mint) ∧
  after.service = op.apply crypto before.service ∧
  after.ledger = (op.minted crypto before.service).toList ++ before.ledger

abbrev TokenRun (crypto : Crypto) : List TokenOp → TokenState → Prop :=
  Run (TokenStep crypto) ⟨.empty, []⟩

def TokenState.next (crypto : Crypto) (state : TokenState) (op : TokenOp) : TokenState :=
  ⟨op.apply crypto state.service, (op.minted crypto state.service).toList ++ state.ledger⟩

def TokenState.fresh (crypto : Crypto) (state : TokenState) (op : TokenOp) : Bool :=
  (op.minted crypto state.service).all fun mint => FreshMint state.ledger mint

theorem TokenStep.of_fresh {crypto : Crypto} {state : TokenState} {op : TokenOp}
    (fresh : state.fresh crypto op = true) : TokenStep crypto state op (state.next crypto op) := by
  refine ⟨?_, rfl, rfl⟩
  intro mint minted
  simpa [TokenState.fresh, minted] using fresh

/-! What one call can do to the tables and the cache. -/

def issuedRow (crypto : Crypto) (pair : TokenPair) (userId : Int32) (deviceId : Bytes) :
    AuthSessionRecord where
  sessionId := cstr pair.sessionId
  familyId := cstr pair.familyId
  userId := userId
  deviceId := cstr deviceId
  accessHash := crypto.hashText pair.accessToken
  accessExpiresAt := pair.accessExpiresAt
  refreshHash := crypto.hashText pair.refreshToken
  refreshExpiresAt := pair.refreshExpiresAt
  generation := 1
  revoked := false

def rotatedRow (crypto : Crypto) (pair : TokenPair) (row : AuthSessionRecord) : AuthSessionRecord :=
  { row with
    accessHash := crypto.hashText pair.accessToken, accessExpiresAt := pair.accessExpiresAt,
    refreshHash := crypto.hashText pair.refreshToken, refreshExpiresAt := pair.refreshExpiresAt,
    generation := row.generation + 1 }

/-- A rotation of `row` that presented `refreshToken` and was granted `pair`. -/
structure Rotation (crypto : Crypto) (now : Int) (before after : TokenService)
    (refreshToken deviceId : Bytes) (row : AuthSessionRecord) (pair : TokenPair) : Prop where
  stored : row ∈ before.db.sessions.rows
  live : row.revoked = false
  unexpired : now < row.refreshExpiresAt
  presented : row.refreshHash = crypto.hashText refreshToken
  device : row.deviceId.bytes = deviceId
  session : pair.sessionId = row.sessionId.bytes
  family : pair.familyId = row.familyId.bytes
  unused : ∀ used ∈ before.db.history.rows, used.tokenHash ≠ row.refreshHash
  history : after.db.history.rows =
    before.db.history.rows ++ [⟨row.familyId, row.refreshHash, row.generation⟩]
  sessions : after.db.sessions.rows = before.db.sessions.rows.map fun other =>
    if other = row then rotatedRow crypto pair row else other
  cache : ∀ entry ∈ after.refreshResults, entry ∈ before.refreshResults ∨
    (entry.2.refreshHash = crypto.tokenHash refreshToken ∧ entry.2.pair = pair)

inductive TokenChange (crypto : Crypto) (before after : TokenService) : Option Mint → Prop
  | quiet (tables : after.db = before.db ∨ ∃ hit, after.db = before.db.revokeWhere hit)
      (cache : after.refreshResults ⊆ before.refreshResults) : TokenChange crypto before after none
  | issued {pair : TokenPair} {userId : Int32} {deviceId : Bytes}
      (plain : (0 : UInt8) ∉ pair.familyId)
      (free : ∀ other ∈ before.db.sessions.rows,
        authSessionClash other (issuedRow crypto pair userId deviceId) = false)
      (sessions : after.db.sessions.rows =
        before.db.sessions.rows ++ [issuedRow crypto pair userId deviceId])
      (history : after.db.history = before.db.history)
      (cache : after.refreshResults ⊆ before.refreshResults) :
      TokenChange crypto before after (some ⟨pair, false⟩)
  | rotated {now : Int} {refreshToken deviceId : Bytes} {row : AuthSessionRecord}
      {pair : TokenPair}
      (rotation : Rotation crypto now before after refreshToken deviceId row pair) :
      TokenChange crypto before after (some ⟨pair, true⟩)

namespace AuthTables

theorem revokeTokenFamily_tables (prepared written : Bool) (db : AuthTables) (familyId : Bytes) :
    (db.revokeTokenFamily prepared written familyId).2 = db ∨
      ∃ hit, (db.revokeTokenFamily prepared written familyId).2 = db.revokeWhere hit := by
  unfold revokeTokenFamily
  cases prepared <;> cases written
  · exact .inl rfl
  · exact .inl rfl
  · exact .inl rfl
  · exact .inr ⟨_, rfl⟩

theorem rotateRefreshToken_rollback {writes : Nat → Bool} {db after : AuthTables}
    {old : AuthSessionRecord} {oldHash newAccess newRefresh : Bytes} {accessEnd refreshEnd : Int}
    (failed : db.rotateRefreshToken writes old oldHash newAccess accessEnd newRefresh refreshEnd =
      (false, after)) : after = db := by
  unfold rotateRefreshToken at failed
  dsimp only at failed
  split at failed
  · exact (Prod.mk.inj failed).2.symm
  · split at failed
    · exact (Prod.mk.inj failed).2.symm
    · split at failed
      · exact (Prod.mk.inj failed).2.symm
      · split at failed
        · simp at failed
        · exact (Prod.mk.inj failed).2.symm

theorem rotateRefreshToken_committed {writes : Nat → Bool} {db after : AuthTables}
    {old : AuthSessionRecord} {oldHash newAccess newRefresh : Bytes} {accessEnd refreshEnd : Int}
    (rotated : db.rotateRefreshToken writes old oldHash newAccess accessEnd newRefresh refreshEnd =
      (true, after)) :
    (∀ used ∈ db.history.rows, used.tokenHash ≠ cstr oldHash) ∧
    after.history.rows = db.history.rows ++ [⟨old.familyId, cstr oldHash, old.generation⟩] ∧
    (∃ row ∈ db.sessions.rows, rotates old oldHash row = true) ∧
    after.sessions.rows = db.sessions.rows.map fun row =>
      if rotates old oldHash row then
        { row with
          accessHash := cstr newAccess, accessExpiresAt := accessEnd,
          refreshHash := cstr newRefresh, refreshExpiresAt := refreshEnd,
          generation := row.generation + 1 }
      else row := by
  unfold rotateRefreshToken at rotated
  dsimp only at rotated
  split at rotated
  · simp at rotated
  · split at rotated
    · simp at rotated
    · rename_i history historyDone
      split at rotated
      · simp at rotated
      · rename_i sessions updateDone
        split at rotated
        · rename_i committed
          simp only [Txn.write_commit, Prod.mk.injEq, true_and] at rotated
          subst after
          split at historyDone
          · split at updateDone
            · obtain ⟨historyRows, unused⟩ := Table.insert_eq_some historyDone
              have sessionRows := Table.update_eq_some updateDone
              refine ⟨?_, by simpa using historyRows, ?_, by simpa using sessionRows⟩
              · intro used stored same
                simpa [refreshHistoryClash, same] using unused used stored
              · have positive : 0 < db.sessions.rows.countP (rotates old oldHash) := by
                  have one := committed.1
                  simp only [Txn.write_tables, Txn.begin_tables] at one
                  omega
                simpa using List.countP_pos_iff.mp positive
            · simp at updateDone
          · simp at historyDone
        · simp at rotated

end AuthTables

namespace TokenService

theorem issue_change {crypto : Crypto} {env : Env} {service after : TokenService} {userId : Int32}
    {deviceId : Bytes} {pair : TokenPair}
    (issued : service.issue crypto env userId deviceId = some (pair, after)) :
    TokenChange crypto service after (some ⟨pair, false⟩) := by
  simp only [issue, bind, Option.bind_eq_some_iff] at issued
  obtain ⟨sessionId, _, familyId, familyDrawn, access, _, refresh, _, db, created, made⟩ := issued
  simp only [pure, Option.some.injEq, Prod.mk.injEq] at made
  obtain ⟨rfl, rfl⟩ := made
  unfold AuthTables.createAuthSession at created
  split at created
  · obtain ⟨sessions, inserted, rfl⟩ := Option.map_eq_some_iff.mp created
    obtain ⟨rows, free⟩ := Table.insert_eq_some inserted
    obtain ⟨raw, _, hex⟩ := Option.map_eq_some_iff.mp familyDrawn
    exact .issued (hex ▸ toHex_noNul raw) free rows rfl (List.Subset.refl _)
  · simp at created

theorem punishReplay_change (crypto : Crypto) (env : Env) (service : TokenService)
    (oldHash : Bytes) :
    (service.punishReplay env oldHash).1.mint = none ∧
      TokenChange crypto service (service.punishReplay env oldHash).2 none := by
  unfold punishReplay
  split
  · exact ⟨rfl, .quiet (.inl rfl) (List.Subset.refl _)⟩
  · split
    · exact ⟨rfl, .quiet (.inl rfl) (List.Subset.refl _)⟩
    · exact ⟨rfl, .quiet (AuthTables.revokeTokenFamily_tables _ _ _ _) (List.Subset.refl _)⟩

theorem remember_entries {bucket : Nat} {service : TokenService} {requestId : Bytes}
    {added : RefreshResultCacheEntry} {entry : Bytes × RefreshResultCacheEntry}
    (member : entry ∈ (service.remember bucket requestId added).refreshResults) :
    entry ∈ service.refreshResults ∨ entry.2 = added := by
  unfold remember at member
  simp only [List.mem_append, List.mem_singleton] at member
  rcases member with kept | new
  · split at kept
    · exact .inl (List.eraseIdx_subset kept)
    · exact .inl kept
  · exact .inr (congrArg Prod.snd new)

theorem rotates_iff {db : AuthTables} {row other : AuthSessionRecord} {oldHash : Bytes}
    (stored : row ∈ db.sessions.rows) (otherStored : other ∈ db.sessions.rows)
    (hits : ∃ target ∈ db.sessions.rows,
      AuthTables.rotates (AuthTables.readAuthSession row) oldHash target = true) :
    AuthTables.rotates (AuthTables.readAuthSession row) oldHash other = true ↔ other = row := by
  have only : ∀ target ∈ db.sessions.rows,
      AuthTables.rotates (AuthTables.readAuthSession row) oldHash target = true → target = row := by
    intro target targetStored hit
    have same : target.sessionId = row.sessionId := (of_decide_eq_true hit).1
    exact db.sessions.eq_of_clash authSessionClash_comm targetStored stored
      (by simp [authSessionClash, same])
  constructor
  · exact only other otherStored
  · rintro rfl
    obtain ⟨target, targetStored, hit⟩ := hits
    rwa [only target targetStored hit] at hit

theorem rotateUncached_cases (crypto : Crypto) (env : Env) (service : TokenService)
    (refreshToken deviceId requestId : Bytes) :
    (∃ row pair,
      (service.rotateUncached crypto env refreshToken deviceId requestId).1 = .granted pair ∧
      Rotation crypto env.now service
        (service.rotateUncached crypto env refreshToken deviceId requestId).2
        refreshToken deviceId row pair) ∨
    ((service.rotateUncached crypto env refreshToken deviceId requestId).1.mint = none ∧
      TokenChange crypto service
        (service.rotateUncached crypto env refreshToken deviceId requestId).2 none) := by
  have unchanged : TokenChange crypto service service none :=
    .quiet (.inl rfl) (List.Subset.refl _)
  unfold rotateUncached
  dsimp only
  split
  · exact .inr (punishReplay_change crypto env service _)
  · rename_i old found
    split
    · exact .inr ⟨rfl, unchanged⟩
    · rename_i accepted
      split
      · rename_i accessToken nextRefreshToken _ _
        split
        · rename_i db rotated
          obtain ⟨row, located, rfl⟩ := Option.map_eq_some_iff.mp found
          have stored := List.mem_of_find?_eq_some located
          have presented : row.refreshHash = cstr (crypto.tokenHash refreshToken) := by
            simpa using List.find?_some located
          simp only [not_or, AuthTables.readAuthSession, not_le, Decidable.not_not,
            Bool.not_eq_true] at accepted
          obtain ⟨unused, history, ⟨hits, sessions⟩⟩ :=
            AuthTables.rotateRefreshToken_committed rotated
          have generation : AuthTables.columnInt row.generation = row.generation := by
            obtain ⟨target, targetStored, hit⟩ := hits
            have same := (rotates_iff stored targetStored ⟨target, targetStored, hit⟩).mp hit
            rw [same] at hit
            exact (of_decide_eq_true hit).2.2.1.symm
          refine .inl ⟨row, _, rfl, {
            stored, presented
            live := accepted.1
            unexpired := accepted.2.1
            device := accepted.2.2
            session := rfl
            family := rfl
            unused := fun used member => presented ▸ unused used member
            history := ?_
            sessions := ?_
            cache := ?_ }⟩
          · simpa [remember, AuthTables.readAuthSession, presented, generation] using history
          · rw [remember, sessions]
            refine List.map_congr_left ?_
            intro other otherStored
            have iff := rotates_iff stored otherStored hits
            by_cases same : other = row
            · rw [if_pos (iff.mpr same), if_pos same, same]
              rfl
            · rw [if_neg (mt iff.mp same), if_neg same]
          · intro entry member
            rcases remember_entries member with kept | new
            · exact .inl kept
            · exact .inr (by rw [new]; exact ⟨rfl, rfl⟩)
        · rename_i db failed
          rw [AuthTables.rotateRefreshToken_rollback failed]
          exact .inr (punishReplay_change crypto env service _)
      · exact .inr ⟨rfl, unchanged⟩

theorem dropExpired_subset (now : Int) (service : TokenService) :
    (service.dropExpired now).refreshResults ⊆ service.refreshResults :=
  List.filter_sublist.subset

theorem rotateRefresh_cases (crypto : Crypto) (env : Env) (service : TokenService)
    (refreshToken deviceId requestId : Bytes) :
    (∃ row pair,
      (service.rotateRefresh crypto env refreshToken deviceId requestId).1 = .granted pair ∧
      (service.dropExpired env.now).cached requestId = none ∧
      Rotation crypto env.now service
        (service.rotateRefresh crypto env refreshToken deviceId requestId).2
        refreshToken deviceId row pair) ∨
    (∃ entry,
      (service.rotateRefresh crypto env refreshToken deviceId requestId).1 = .granted entry.pair ∧
      (service.dropExpired env.now).cached requestId = some entry ∧
      entry.refreshHash = crypto.tokenHash refreshToken ∧
      (service.rotateRefresh crypto env refreshToken deviceId requestId).2 =
        service.dropExpired env.now) ∨
    ((service.rotateRefresh crypto env refreshToken deviceId requestId).1.mint = none ∧
      TokenChange crypto service
        (service.rotateRefresh crypto env refreshToken deviceId requestId).2 none) := by
  have fewer := service.dropExpired_subset env.now
  unfold rotateRefresh
  split
  · exact .inr (.inr ⟨rfl, .quiet (.inl rfl) (List.Subset.refl _)⟩)
  · dsimp only
    cases entry : (service.dropExpired env.now).cached requestId with
    | none =>
        rcases (service.dropExpired env.now).rotateUncached_cases crypto env refreshToken deviceId
          requestId with ⟨row, pair, granted, rotation⟩ | ⟨refused, change⟩
        · refine .inl ⟨row, pair, granted, rfl, { rotation with cache := ?_ }⟩
          intro entry member
          exact (rotation.cache entry member).imp_left fun kept => fewer kept
        · refine .inr (.inr ⟨refused, ?_⟩)
          cases change with
          | quiet tables cache => exact .quiet tables (List.Subset.trans cache fewer)
    | some found =>
        dsimp only
        split
        · exact .inr (.inr ⟨rfl, .quiet (.inl rfl) fewer⟩)
        · rename_i accepted
          simp only [not_or, Decidable.not_not] at accepted
          exact .inr (.inl ⟨found, rfl, rfl, accepted.1, rfl⟩)

end TokenService

theorem TokenOp.change (crypto : Crypto) (service : TokenService) (op : TokenOp) :
    TokenChange crypto service (op.apply crypto service) (op.minted crypto service) := by
  have unchanged : TokenChange crypto service service none :=
    .quiet (.inl rfl) (List.Subset.refl _)
  cases op with
  | issue env userId deviceId =>
      simp only [apply, minted]
      cases result : service.issue crypto env userId deviceId with
      | none => exact unchanged
      | some issued => exact TokenService.issue_change result
  | rotateRefresh env refreshToken deviceId requestId =>
      simp only [apply, minted]
      rcases service.rotateRefresh_cases crypto env refreshToken deviceId requestId with
        ⟨row, pair, granted, missed, rotation⟩ | ⟨entry, _, hit, _, kept⟩ | ⟨refused, change⟩
      · rw [missed, granted]
        exact .rotated rotation
      · rw [hit, kept]
        exact .quiet (.inl rfl) (service.dropExpired_subset env.now)
      · rw [refused, ite_self]
        exact change
  | validateAccess => exact unchanged
  | revokeSession env sessionId =>
      simp only [apply, minted, TokenService.revokeSession, AuthTables.revokeSession]
      split
      · exact unchanged
      · cases env.writes 0
        · exact unchanged
        · exact .quiet (.inr ⟨_, rfl⟩) (List.Subset.refl _)
  | revokeAllForUser env userId =>
      simp only [apply, minted, TokenService.revokeAllForUser, AuthTables.revokeAllUserSessions]
      split
      · cases env.writes 0
        · exact unchanged
        · exact .quiet (.inr ⟨_, rfl⟩) (List.Subset.refl _)
      · exact unchanged
  | revokeTokenFamily env familyId =>
      exact .quiet (AuthTables.revokeTokenFamily_tables _ _ _ _) (List.Subset.refl _)

end Jitong
