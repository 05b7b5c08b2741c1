import Jitong.TokenStore

/-!
What holds of the auth tables, the idempotency cache and the ledger after any
run of token calls.
-/

namespace Jitong

open Lib

namespace Ledger

variable {ledger : Ledger} {mint : Mint} {sessionId : Text}

theorem latest_cons_self (same : mint.session = sessionId) :
    latest (mint :: ledger) sessionId = some mint.pair := by
  simp [latest, same]

theorem latest_cons_other (different : mint.session ≠ sessionId) :
    latest (mint :: ledger) sessionId = latest ledger sessionId := by
  simp [latest, different]

theorem rotations_cons_self (rotated : mint.rotation = true) (same : mint.session = sessionId) :
    rotations (mint :: ledger) sessionId = rotations ledger sessionId + 1 := by
  simp [rotations, rotated, same]

theorem rotations_cons_other (different : mint.session ≠ sessionId) :
    rotations (mint :: ledger) sessionId = rotations ledger sessionId := by
  simp [rotations, different]

theorem rotations_cons_issued (issued : mint.rotation = false) :
    rotations (mint :: ledger) sessionId = rotations ledger sessionId := by
  simp [rotations, issued]

theorem latest_mem {pair : TokenPair} (found : latest ledger sessionId = some pair) :
    ∃ mint ∈ ledger, mint.pair = pair ∧ mint.session = sessionId := by
  obtain ⟨mint, located, rfl⟩ := Option.map_eq_some_iff.mp found
  exact ⟨mint, List.mem_of_find?_eq_some located, rfl, by simpa using List.find?_some located⟩

theorem rotations_eq_zero (unknown : ∀ mint ∈ ledger, mint.session ≠ sessionId) :
    rotations ledger sessionId = 0 := by
  refine List.countP_eq_zero.mpr ?_
  intro mint member
  simp [unknown mint member]

end Ledger

/-- What the ledger and the history say about one row of `auth_sessions`. -/
structure RowInvariant (crypto : Crypto) (ledger : Ledger) (history : List RefreshHistoryRow)
    (row : AuthSessionRecord) : Prop where
  latest : ∃ pair, ledger.latest row.sessionId = some pair ∧ pair.familyId = row.familyId.bytes ∧
    row.accessHash = crypto.hashText pair.accessToken ∧
    row.refreshHash = crypto.hashText pair.refreshToken
  generation : row.generation = 1 + ledger.rotations row.sessionId
  uses : history.countP (fun used => used.familyId = row.familyId) =
    ledger.rotations row.sessionId
  unspent : ∀ used ∈ history, used.tokenHash ≠ row.refreshHash

structure StoreInvariant (crypto : Crypto) (state : TokenState) : Prop where
  rows : ∀ row ∈ state.service.db.sessions.rows,
    RowInvariant crypto state.ledger state.service.db.history.rows row
  families : (state.service.db.sessions.rows.map (·.familyId)).Nodup
  sessions : ∀ mint ∈ state.ledger,
    mint.session ∈ state.service.db.sessions.rows.map (·.sessionId)
  history : ∀ used ∈ state.service.db.history.rows,
    used.familyId ∈ state.service.db.sessions.rows.map (·.familyId)
  spent : ∀ used ∈ state.service.db.history.rows, ∃ mint ∈ state.ledger,
    used.tokenHash = crypto.hashText mint.pair.refreshToken
  accessTokens : (state.ledger.map (·.pair.accessToken)).Nodup
  refreshTokens : (state.ledger.map (·.pair.refreshToken)).Nodup
  cache : ∀ entry ∈ state.service.refreshResults, ⟨entry.2.pair, true⟩ ∈ state.ledger ∧
    cstr entry.2.refreshHash ∈ state.service.db.history.rows.map (·.tokenHash)

namespace AuthTables

theorem mem_revokeWhere {db : AuthTables} {hit : AuthSessionRecord → Bool}
    {row : AuthSessionRecord} (stored : row ∈ (db.revokeWhere hit).sessions.rows) :
    ∃ old ∈ db.sessions.rows, row = old ∨ row = { old with revoked := true } := by
  obtain ⟨old, oldStored, rfl⟩ := List.mem_map.mp stored
  refine ⟨old, oldStored, ?_⟩
  split
  · exact .inr rfl
  · exact .inl rfl

@[simp] theorem revokeWhere_history (db : AuthTables) (hit : AuthSessionRecord → Bool) :
    (db.revokeWhere hit).history = db.history := rfl

theorem revokeWhere_map {Column : Type} (db : AuthTables) (hit : AuthSessionRecord → Bool)
    (column : AuthSessionRecord → Column)
    (kept : ∀ row, column { row with revoked := true } = column row) :
    (db.revokeWhere hit).sessions.rows.map column = db.sessions.rows.map column := by
  simp only [revokeWhere, Table.rewrite_rows, List.map_map]
  refine List.map_congr_left ?_
  intro row _
  simp only [Function.comp_apply]
  split
  · exact kept row
  · rfl

theorem revokeWhere_keeps {db : AuthTables} {hit : AuthSessionRecord → Bool}
    {row : AuthSessionRecord} (stored : row ∈ db.sessions.rows) (revoked : row.revoked = true) :
    row ∈ (db.revokeWhere hit).sessions.rows := by
  refine List.mem_map.mpr ⟨row, stored, ?_⟩
  split
  · cases row
    simp_all
  · rfl

end AuthTables

theorem rotatedRow_map {Column : Type} (crypto : Crypto) (pair : TokenPair)
    (target : AuthSessionRecord) (column : AuthSessionRecord → Column)
    (kept : ∀ row, column (rotatedRow crypto pair row) = column row)
    (rows : List AuthSessionRecord) :
    (rows.map fun row => if row = target then rotatedRow crypto pair target else row).map column =
      rows.map column := by
  rw [List.map_map]
  refine List.map_congr_left ?_
  intro row _
  simp only [Function.comp_apply]
  split
  · rename_i same
    rw [same, kept]
  · rfl

namespace StoreInvariant

variable {crypto : Crypto} {before after : TokenState}

theorem initial : StoreInvariant crypto ⟨.empty, []⟩ where
  rows := by simp [TokenService.empty, AuthTables.empty]
  families := by simp [TokenService.empty, AuthTables.empty]
  sessions := by simp
  history := by simp [TokenService.empty, AuthTables.empty]
  spent := by simp [TokenService.empty, AuthTables.empty]
  accessTokens := .nil
  refreshTokens := .nil
  cache := by simp [TokenService.empty]

theorem quiet (invariant : StoreInvariant crypto before)
    (tables : after.service.db = before.service.db ∨
      ∃ hit, after.service.db = before.service.db.revokeWhere hit)
    (cache : after.service.refreshResults ⊆ before.service.refreshResults)
    (ledger : after.ledger = before.ledger) : StoreInvariant crypto after := by
  obtain ⟨service, _⟩ := after
  obtain rfl : _ = before.ledger := ledger
  dsimp only at tables cache
  rcases tables with same | ⟨hit, revoked⟩
  · exact {
      rows := same ▸ invariant.rows
      families := same ▸ invariant.families
      sessions := same ▸ invariant.sessions
      history := same ▸ invariant.history
      spent := same ▸ invariant.spent
      accessTokens := invariant.accessTokens
      refreshTokens := invariant.refreshTokens
      cache := fun entry member => same ▸ invariant.cache entry (cache member) }
  · have families : service.db.sessions.rows.map (·.familyId) =
        before.service.db.sessions.rows.map (·.familyId) :=
      revoked ▸ AuthTables.revokeWhere_map _ hit _ fun _ => rfl
    have sessions : service.db.sessions.rows.map (·.sessionId) =
        before.service.db.sessions.rows.map (·.sessionId) :=
      revoked ▸ AuthTables.revokeWhere_map _ hit _ fun _ => rfl
    have history : service.db.history = before.service.db.history := revoked ▸ rfl
    refine {
      rows := ?_
      families := families ▸ invariant.families
      sessions := sessions ▸ invariant.sessions
      history := by rw [families, history]; exact invariant.history
      spent := history ▸ invariant.spent
      accessTokens := invariant.accessTokens
      refreshTokens := invariant.refreshTokens
      cache := fun entry member => history ▸ invariant.cache entry (cache member) }
    intro row stored
    rw [history]
    rw [revoked] at stored
    obtain ⟨old, oldStored, same⟩ := AuthTables.mem_revokeWhere stored
    have kept := invariant.rows old oldStored
    rcases same with rfl | rfl
    · exact kept
    · exact ⟨kept.latest, kept.generation, kept.uses, kept.unspent⟩

theorem fresh_unspent (invariant : StoreInvariant crypto before)
    (collisionFree : Function.Injective crypto.sha256) {mint : Mint}
    (fresh : FreshMint before.ledger mint) :
    ∀ used ∈ before.service.db.history.rows,
      used.tokenHash ≠ crypto.hashText mint.pair.refreshToken := by
  intro used member same
  obtain ⟨earlier, minted, hash⟩ := invariant.spent used member
  have token := Crypto.hashText_injective collisionFree (hash.symm.trans same)
  exact fresh.2.1 (List.mem_map.mpr ⟨earlier, minted, token⟩)

theorem fresh_tokens (invariant : StoreInvariant crypto before) {mint : Mint}
    (fresh : FreshMint before.ledger mint) :
    ((mint :: before.ledger).map (·.pair.accessToken)).Nodup ∧
      ((mint :: before.ledger).map (·.pair.refreshToken)).Nodup := by
  rw [List.map_cons, List.map_cons, List.nodup_cons, List.nodup_cons]
  exact ⟨⟨fresh.1, invariant.accessTokens⟩, fresh.2.1, invariant.refreshTokens⟩

theorem issued (invariant : StoreInvariant crypto before)
    (collisionFree : Function.Injective crypto.sha256) {pair : TokenPair} {userId : Int32}
    {deviceId : Bytes} (fresh : FreshMint before.ledger ⟨pair, false⟩)
    (plain : (0 : UInt8) ∉ pair.familyId)
    (free : ∀ other ∈ before.service.db.sessions.rows,
      authSessionClash other (issuedRow crypto pair userId deviceId) = false)
    (rows : after.service.db.sessions.rows =
      before.service.db.sessions.rows ++ [issuedRow crypto pair userId deviceId])
    (history : after.service.db.history = before.service.db.history)
    (cache : after.service.refreshResults ⊆ before.service.refreshResults)
    (ledger : after.ledger = ⟨pair, false⟩ :: before.ledger) : StoreInvariant crypto after := by
  have apart : ∀ other ∈ before.service.db.sessions.rows,
      other.sessionId ≠ cstr pair.sessionId := by
    intro other stored same
    simpa [authSessionClash, issuedRow, same] using free other stored
  have newFamily : cstr pair.familyId ∉ before.service.db.sessions.rows.map (·.familyId) := by
    intro member
    obtain ⟨other, stored, same⟩ := List.mem_map.mp member
    obtain ⟨earlier, found, family, _⟩ := (invariant.rows other stored).latest
    obtain ⟨mint, minted, rfl, _⟩ := Ledger.latest_mem found
    refine fresh.2.2 rfl (List.mem_map.mpr ⟨mint, minted, ?_⟩)
    rw [family, same, cstr_bytes plain]
  have newSession : ∀ mint ∈ before.ledger, mint.session ≠ cstr pair.sessionId := by
    intro mint minted same
    obtain ⟨other, stored, session⟩ := List.mem_map.mp (invariant.sessions mint minted)
    exact apart other stored (session.trans same)
  have tokens := invariant.fresh_tokens fresh
  refine {
    rows := ?_
    families := ?_
    sessions := ?_
    history := ?_
    spent := ?_
    accessTokens := ledger ▸ tokens.1
    refreshTokens := ledger ▸ tokens.2
    cache := ?_ }
  · intro row stored
    rw [ledger, history]
    rw [rows] at stored
    rcases List.mem_append.mp stored with old | new
    · have kept := invariant.rows row old
      have different : Mint.session ⟨pair, false⟩ ≠ row.sessionId := (apart row old).symm
      refine ⟨?_, ?_, ?_, kept.unspent⟩
      · rw [Ledger.latest_cons_other different]
        exact kept.latest
      · rw [Ledger.rotations_cons_other different]
        exact kept.generation
      · rw [Ledger.rotations_cons_other different]
        exact kept.uses
    · obtain rfl := List.mem_singleton.mp new
      have none : Ledger.rotations (⟨pair, false⟩ :: before.ledger) (cstr pair.sessionId) = 0 := by
        rw [Ledger.rotations_cons_issued rfl, Ledger.rotations_eq_zero newSession]
      refine ⟨⟨pair, Ledger.latest_cons_self rfl, (cstr_bytes plain).symm, rfl, rfl⟩, ?_, ?_, ?_⟩
      · simp [issuedRow, none]
      · rw [issuedRow, none, List.countP_eq_zero]
        intro used member same
        have family := invariant.history used member
        rw [of_decide_eq_true same] at family
        exact newFamily family
      · exact invariant.fresh_unspent collisionFree fresh
  · rw [rows, List.map_append, List.nodup_append]
    refine ⟨invariant.families, List.nodup_singleton _, ?_⟩
    intro family member added new same
    rw [List.map_singleton, List.mem_singleton] at new
    exact newFamily (by rw [same, new] at member; exact member)
  · intro mint minted
    rw [ledger] at minted
    rw [rows, List.map_append]
    rcases List.mem_cons.mp minted with rfl | earlier
    · exact List.mem_append_right _ (List.mem_singleton.mpr rfl)
    · exact List.mem_append_left _ (invariant.sessions mint earlier)
  · intro used member
    rw [history] at member
    rw [rows, List.map_append]
    exact List.mem_append_left _ (invariant.history used member)
  · intro used member
    rw [history] at member
    obtain ⟨mint, minted, hash⟩ := invariant.spent used member
    exact ⟨mint, ledger ▸ List.mem_cons_of_mem _ minted, hash⟩
  · intro entry member
    have kept := invariant.cache entry (cache member)
    rw [ledger, history]
    exact ⟨List.mem_cons_of_mem _ kept.1, kept.2⟩

theorem rotated (invariant : StoreInvariant crypto before)
    (collisionFree : Function.Injective crypto.sha256) {now : Int} {refreshToken deviceId : Bytes}
    {pair : TokenPair} {row : AuthSessionRecord} (fresh : FreshMint before.ledger ⟨pair, true⟩)
    (rotation : Rotation crypto now before.service after.service refreshToken deviceId row pair)
    (ledger : after.ledger = ⟨pair, true⟩ :: before.ledger) : StoreInvariant crypto after := by
  have stored := rotation.stored
  have history := rotation.history
  have rows := rotation.sessions
  have named : Mint.session ⟨pair, true⟩ = row.sessionId := by
    simp [Mint.session, rotation.session]
  have families : after.service.db.sessions.rows.map (·.familyId) =
      before.service.db.sessions.rows.map (·.familyId) := by
    rw [rows]
    exact rotatedRow_map crypto pair row (·.familyId) (fun _ => rfl) _
  have sessions : after.service.db.sessions.rows.map (·.sessionId) =
      before.service.db.sessions.rows.map (·.sessionId) := by
    rw [rows]
    exact rotatedRow_map crypto pair row (·.sessionId) (fun _ => rfl) _
  have kept := invariant.rows row stored
  obtain ⟨current, found, _, _, refreshHash⟩ := kept.latest
  obtain ⟨earlier, minted, rfl, _⟩ := Ledger.latest_mem found
  have tokens := invariant.fresh_tokens fresh
  refine {
    rows := ?_
    families := families ▸ invariant.families
    sessions := ?_
    history := ?_
    spent := ?_
    accessTokens := ledger ▸ tokens.1
    refreshTokens := ledger ▸ tokens.2
    cache := ?_ }
  · intro target member
    rw [rows] at member
    obtain ⟨other, otherStored, changed⟩ := List.mem_map.mp member
    rw [ledger, history]
    by_cases same : other = row
    · rw [if_pos same] at changed
      subst target
      have advanced : Ledger.rotations (⟨pair, true⟩ :: before.ledger) row.sessionId =
          before.ledger.rotations row.sessionId + 1 := Ledger.rotations_cons_self rfl named
      refine ⟨⟨pair, Ledger.latest_cons_self named, rotation.family, rfl, rfl⟩, ?_, ?_, ?_⟩
      · simp only [rotatedRow, advanced, kept.generation]
        omega
      · change List.countP (fun used : RefreshHistoryRow => used.familyId = row.familyId) _ =
          Ledger.rotations _ row.sessionId
        rw [List.countP_append, kept.uses, advanced]
        simp
      · intro used member
        rcases List.mem_append.mp member with old | new
        · exact invariant.fresh_unspent collisionFree fresh used old
        · rw [List.mem_singleton.mp new]
          intro hash
          have token := Crypto.hashText_injective collisionFree (refreshHash.symm.trans hash)
          exact fresh.2.1 (List.mem_map.mpr ⟨earlier, minted, token⟩)
    · rw [if_neg same] at changed
      subst target
      have otherKept := invariant.rows other otherStored
      have unclash : authSessionClash other row = false := by
        by_contra clash
        exact same (before.service.db.sessions.eq_of_clash authSessionClash_comm otherStored stored
          (by simpa using clash))
      simp only [authSessionClash, decide_eq_false_iff_not, not_or] at unclash
      have otherSession : Mint.session ⟨pair, true⟩ ≠ other.sessionId := by
        rw [named]
        exact fun equal => unclash.1 equal.symm
      have otherFamily : row.familyId ≠ other.familyId := fun equal =>
        same (List.inj_on_of_nodup_map invariant.families otherStored stored equal.symm)
      refine ⟨?_, ?_, ?_, ?_⟩
      · rw [Ledger.latest_cons_other otherSession]
        exact otherKept.latest
      · rw [Ledger.rotations_cons_other otherSession]
        exact otherKept.generation
      · rw [Ledger.rotations_cons_other otherSession, List.countP_append, otherKept.uses]
        simp [otherFamily]
      · intro used member
        rcases List.mem_append.mp member with old | new
        · exact otherKept.unspent used old
        · rw [List.mem_singleton.mp new]
          exact fun equal => unclash.2.2 equal.symm
  · intro mint member
    rw [ledger] at member
    rw [sessions]
    rcases List.mem_cons.mp member with rfl | old
    · exact List.mem_map.mpr ⟨row, stored, named.symm⟩
    · exact invariant.sessions mint old
  · intro used member
    rw [history] at member
    rw [families]
    rcases List.mem_append.mp member with old | new
    · exact invariant.history used old
    · rw [List.mem_singleton.mp new]
      exact List.mem_map.mpr ⟨row, stored, rfl⟩
  · intro used member
    rw [history] at member
    rw [ledger]
    rcases List.mem_append.mp member with old | new
    · obtain ⟨mint, spentBy, hash⟩ := invariant.spent used old
      exact ⟨mint, List.mem_cons_of_mem _ spentBy, hash⟩
    · rw [List.mem_singleton.mp new]
      exact ⟨earlier, List.mem_cons_of_mem _ minted, refreshHash⟩
  · intro entry member
    rw [ledger, history, List.map_append]
    rcases rotation.cache entry member with old | ⟨hash, rfl⟩
    · have known := invariant.cache entry old
      exact ⟨List.mem_cons_of_mem _ known.1, List.mem_append_left _ known.2⟩
    · refine ⟨List.mem_cons_self, List.mem_append_right _ ?_⟩
      rw [hash]
      exact List.mem_singleton.mpr rotation.presented.symm

theorem step (invariant : StoreInvariant crypto before)
    (collisionFree : Function.Injective crypto.sha256) {op : TokenOp}
    (taken : TokenStep crypto before op after) : StoreInvariant crypto after := by
  obtain ⟨fresh, service, ledger⟩ := taken
  have change := op.change crypto before.service
  rw [← service] at change
  generalize op.minted crypto before.service = mint at change fresh ledger
  cases change with
  | quiet tables cache => exact invariant.quiet tables cache (by simpa using ledger)
  | issued plain free rows history cache =>
      exact invariant.issued collisionFree (fresh _ rfl) plain free rows history cache
        (by simpa using ledger)
  | rotated rotation =>
      exact invariant.rotated collisionFree (fresh _ rfl) rotation (by simpa using ledger)

theorem run (collisionFree : Function.Injective crypto.sha256) {ops : List TokenOp}
    {state : TokenState} (run : TokenRun crypto ops state) : StoreInvariant crypto state :=
  run.invariant initial fun _ _ _ invariant taken => invariant.step collisionFree taken

theorem session_of_accessHash {state : TokenState} (invariant : StoreInvariant crypto state)
    (collisionFree : Function.Injective crypto.sha256) {mint : Mint} {row : AuthSessionRecord}
    (minted : mint ∈ state.ledger) (stored : row ∈ state.service.db.sessions.rows)
    (same : row.accessHash = crypto.hashText mint.pair.accessToken) :
    mint.session = row.sessionId := by
  obtain ⟨pair, found, _, accessHash, _⟩ := (invariant.rows row stored).latest
  obtain ⟨latest, latestMinted, rfl, session⟩ := Ledger.latest_mem found
  have token := Crypto.hashText_injective collisionFree (accessHash.symm.trans same)
  rw [← List.inj_on_of_nodup_map invariant.accessTokens latestMinted minted token, session]

theorem session_of_refreshHash {state : TokenState} (invariant : StoreInvariant crypto state)
    (collisionFree : Function.Injective crypto.sha256) {mint : Mint} {row : AuthSessionRecord}
    (minted : mint ∈ state.ledger) (stored : row ∈ state.service.db.sessions.rows)
    (same : row.refreshHash = crypto.hashText mint.pair.refreshToken) :
    mint.session = row.sessionId := by
  obtain ⟨pair, found, _, _, refreshHash⟩ := (invariant.rows row stored).latest
  obtain ⟨latest, latestMinted, rfl, session⟩ := Ledger.latest_mem found
  have token := Crypto.hashText_injective collisionFree (refreshHash.symm.trans same)
  rw [← List.inj_on_of_nodup_map invariant.refreshTokens latestMinted minted token, session]

theorem validateAccess_revoked {state : TokenState} (invariant : StoreInvariant crypto state)
    (collisionFree : Function.Injective crypto.sha256) {mint : Mint} {row : AuthSessionRecord}
    (minted : mint ∈ state.ledger) (stored : row ∈ state.service.db.sessions.rows)
    (session : mint.session = row.sessionId) (revoked : row.revoked = true) (now : Int)
    (sessionId deviceId : Bytes) :
    state.service.validateAccess crypto now mint.pair.accessToken sessionId deviceId = none := by
  cases result : state.service.validateAccess crypto now mint.pair.accessToken sessionId deviceId with
  | none => rfl
  | some accepted =>
      obtain ⟨other, otherStored, hash, live, _⟩ := TokenService.validateAccess_eq_some result
      have owner := invariant.session_of_accessHash collisionFree minted otherStored hash
      have same : row = other :=
        state.service.db.sessions.eq_of_clash authSessionClash_comm stored otherStored
          (by simp [authSessionClash, ← session, owner])
      rw [same, live] at revoked
      exact Bool.noConfusion revoked

theorem rotateRefresh_revoked {state : TokenState} (invariant : StoreInvariant crypto state)
    (collisionFree : Function.Injective crypto.sha256) {mint : Mint} {row : AuthSessionRecord}
    (minted : mint ∈ state.ledger) (stored : row ∈ state.service.db.sessions.rows)
    (session : mint.session = row.sessionId) (revoked : row.revoked = true) (env : Env)
    (deviceId requestId : Bytes) :
    (TokenOp.rotateRefresh env mint.pair.refreshToken deviceId requestId).minted crypto
      state.service = none := by
  simp only [TokenOp.minted]
  rcases state.service.rotateRefresh_cases crypto env mint.pair.refreshToken deviceId requestId with
    ⟨other, pair, _, _, rotation⟩ | ⟨entry, _, hit, _⟩ | ⟨refused, _⟩
  · have owner := invariant.session_of_refreshHash collisionFree minted rotation.stored
      rotation.presented
    have same : row = other :=
      state.service.db.sessions.eq_of_clash authSessionClash_comm stored rotation.stored
        (by simp [authSessionClash, ← session, owner])
    rw [same, rotation.live] at revoked
    exact Bool.noConfusion revoked
  · simp [hit]
  · rw [refused, ite_self]

theorem findByRefreshHash_spent {state : TokenState} (invariant : StoreInvariant crypto state)
    {token : Bytes} {used : RefreshHistoryRow} (member : used ∈ state.service.db.history.rows)
    (spent : used.tokenHash = crypto.hashText token) :
    state.service.db.findByRefreshHash (crypto.tokenHash token) = none := by
  cases found : state.service.db.findByRefreshHash (crypto.tokenHash token) with
  | none => rfl
  | some record =>
      obtain ⟨row, stored, hash, _⟩ := AuthTables.findByRefreshHash_eq_some found
      exact absurd (spent.trans hash.symm) ((invariant.rows row stored).unspent used member)

theorem rotation_of_current {state : TokenState} (invariant : StoreInvariant crypto state)
    {env : Env} {token deviceId requestId : Bytes} {record : AuthSessionRecord} {pair : TokenPair}
    (current : state.service.db.findByRefreshHash (crypto.tokenHash token) = some record)
    (granted : (state.service.rotateRefresh crypto env token deviceId requestId).1 =
      .granted pair) :
    ∃ row, record = AuthTables.readAuthSession row ∧
      Rotation crypto env.now state.service
        (state.service.rotateRefresh crypto env token deviceId requestId).2 token deviceId row
        pair := by
  rcases state.service.rotateRefresh_cases crypto env token deviceId requestId with
    ⟨row, other, given, _, rotation⟩ | ⟨entry, _, hit, hash, _⟩ | ⟨refused, _⟩
  · obtain rfl : other = pair := by simpa using given.symm.trans granted
    obtain ⟨found, stored, presented, same⟩ := AuthTables.findByRefreshHash_eq_some current
    have only : found = row :=
      state.service.db.sessions.eq_of_clash authSessionClash_comm stored rotation.stored
        (by simp [authSessionClash, presented, rotation.presented, Crypto.hashText])
    exact ⟨row, only ▸ same, rotation⟩
  · have kept := List.mem_filter.mp (mem_of_lookup hit)
    obtain ⟨used, member, spent⟩ := List.mem_map.mp (invariant.cache _ kept.1).2
    have presented : used.tokenHash = crypto.hashText token := by
      rw [spent, hash]
      rfl
    have absent := invariant.findByRefreshHash_spent member presented
    rw [absent] at current
    simp at current
  · simp [granted, RotateOutcome.mint] at refused

end StoreInvariant

theorem TokenStep.revoked_kept {crypto : Crypto} {before after : TokenState} {op : TokenOp}
    (taken : TokenStep crypto before op after) {row : AuthSessionRecord}
    (stored : row ∈ before.service.db.sessions.rows) (revoked : row.revoked = true) :
    row ∈ after.service.db.sessions.rows := by
  have change := op.change crypto before.service
  rw [← taken.2.1] at change
  generalize op.minted crypto before.service = mint at change
  cases change with
  | quiet tables _ =>
      rcases tables with same | ⟨hit, same⟩
      · rwa [same]
      · rw [same]
        exact AuthTables.revokeWhere_keeps stored revoked
  | issued _ _ sessions => rw [sessions]; exact List.mem_append_left _ stored
  | rotated rotation =>
      rw [rotation.sessions]
      refine List.mem_map.mpr ⟨row, stored, if_neg ?_⟩
      rintro rfl
      rw [rotation.live] at revoked
      exact Bool.noConfusion revoked

theorem TokenStep.history {crypto : Crypto} {before after : TokenState} {op : TokenOp}
    (taken : TokenStep crypto before op after) :
    ∃ added, after.service.db.history.rows = before.service.db.history.rows ++ added ∧
      added.length = (op.minted crypto before.service).toList.countP (·.rotation) := by
  have change := op.change crypto before.service
  rw [← taken.2.1] at change
  generalize op.minted crypto before.service = mint at change
  cases change with
  | quiet tables _ =>
      refine ⟨[], ?_, rfl⟩
      rcases tables with same | ⟨hit, same⟩ <;> simp [same]
  | issued _ _ _ history => exact ⟨[], by simp [history], rfl⟩
  | rotated rotation => exact ⟨_, rotation.history, rfl⟩

structure TokenStoreSound (crypto : Crypto) (state : TokenState) : Prop where
  disjoint : ∀ row ∈ state.service.db.sessions.rows, ∀ used ∈ state.service.db.history.rows,
    row.refreshHash ≠ used.tokenHash
  /-- The generation counts the rotations of the session, and so does the history. -/
  generation : ∀ row ∈ state.service.db.sessions.rows,
    row.generation = 1 + state.ledger.rotations row.sessionId ∧
    state.service.db.history.rows.countP (fun used => used.familyId = row.familyId) =
      state.ledger.rotations row.sessionId
  /-- A call adds one history row for the rotation it made, and none otherwise. -/
  oneRow : ∀ op after, TokenStep crypto state op after →
    ∃ added, after.service.db.history.rows = state.service.db.history.rows ++ added ∧
      added.length = (op.minted crypto state.service).toList.countP (·.rotation)
  latestOnly : ∀ now token sessionId deviceId accepted,
    state.service.validateAccess crypto now token sessionId deviceId = some accepted →
    ∃ row ∈ state.service.db.sessions.rows, row.revoked = false ∧
      accepted = (row.userId, row.sessionId.bytes, row.accessExpiresAt) ∧
      ∃ pair, state.ledger.latest row.sessionId = some pair ∧ pair.accessToken = token
  cachedPairs : ∀ entry ∈ state.service.refreshResults, ⟨entry.2.pair, true⟩ ∈ state.ledger
  /-- Whatever is called afterwards, a revoked session's tokens stay dead: none of
  its access tokens is accepted and none of its refresh tokens mints a pair. -/
  revokedForever : ∀ row ∈ state.service.db.sessions.rows, row.revoked = true →
    ∀ ops later, Run (TokenStep crypto) state ops later →
    row ∈ later.service.db.sessions.rows ∧
    ∀ mint ∈ later.ledger, mint.session = row.sessionId →
      (∀ now sessionId deviceId,
        later.service.validateAccess crypto now mint.pair.accessToken sessionId deviceId = none) ∧
      ∀ env deviceId requestId,
        (TokenOp.rotateRefresh env mint.pair.refreshToken deviceId requestId).minted crypto
          later.service = none
  rollback : ∀ writes old oldHash newAccess accessEnd newRefresh refreshEnd,
    (state.service.db.rotateRefreshToken writes old oldHash newAccess accessEnd newRefresh
      refreshEnd).1 = false →
    (state.service.db.rotateRefreshToken writes old oldHash newAccess accessEnd newRefresh
      refreshEnd).2 = state.service.db

/-- The token store keeps its promises in every state that calls lead to. -/
theorem tokenStore_sound {crypto : Crypto} (collisionFree : Function.Injective crypto.sha256)
    {ops : List TokenOp} {state : TokenState} (run : TokenRun crypto ops state) :
    TokenStoreSound crypto state := by
  have invariant := StoreInvariant.run collisionFree run
  refine {
    disjoint := fun row stored used member => ((invariant.rows row stored).unspent used member).symm
    generation := fun row stored =>
      ⟨(invariant.rows row stored).generation, (invariant.rows row stored).uses⟩
    oneRow := fun op after taken => taken.history
    latestOnly := ?_
    cachedPairs := fun entry member => (invariant.cache entry member).1
    revokedForever := ?_
    rollback := ?_ }
  · intro now token sessionId deviceId accepted valid
    obtain ⟨row, stored, hash, live, _, _, _, same⟩ := TokenService.validateAccess_eq_some valid
    obtain ⟨pair, found, _, accessHash, _⟩ := (invariant.rows row stored).latest
    exact ⟨row, stored, live, same, pair, found,
      Crypto.hashText_injective collisionFree (accessHash.symm.trans hash)⟩
  · intro row stored revoked ops' later continued
    have laterInvariant := StoreInvariant.run collisionFree (run.append continued)
    have kept : row ∈ later.service.db.sessions.rows :=
      continued.invariant stored fun _ _ _ member taken => taken.revoked_kept member revoked
    refine ⟨kept, ?_⟩
    intro mint minted session
    exact ⟨laterInvariant.validateAccess_revoked collisionFree minted kept session revoked,
      laterInvariant.rotateRefresh_revoked collisionFree minted kept session revoked⟩
  · intro writes old oldHash newAccess accessEnd newRefresh refreshEnd failed
    exact AuthTables.rotateRefreshToken_rollback (Prod.ext failed rfl)

def countingEnv (now : Int) (first : UInt8) : Env where
  now := now
  steady := now
  rand := fun call => some (List.replicate 32 (first + UInt8.ofNat call))
  writes := fun _ => true
  bucket := 0
  argonHash := none

def issuedAndRefreshed : List TokenOp :=
  [.issue (countingEnv 1700000000 1) 1 (ascii "phone-a"),
   .rotateRefresh (countingEnv 1700000060 5) (numberedToken 4) (ascii "phone-a") (ascii "r-1")]

theorem recordedTokens_injective (signatures : List (Bytes × Bytes × Bytes)) :
    Function.Injective (Crypto.recorded tokenDigests signatures).sha256 :=
  recordedDigest_injective (by decide +kernel) (by decide +kernel)

theorem tokenStore_sound_refreshed :
    TokenStoreSound (.recorded tokenDigests [])
      (issuedAndRefreshed.foldl (TokenState.next (.recorded tokenDigests [])) ⟨.empty, []⟩) :=
  tokenStore_sound (recordedTokens_injective [])
    (Run.of_guarded (fun _ _ => TokenStep.of_fresh)
      (show guarded (TokenState.next (.recorded tokenDigests []))
        (TokenState.fresh (.recorded tokenDigests [])) ⟨.empty, []⟩ issuedAndRefreshed = true by
          decide +kernel))

example :
    ((issuedAndRefreshed.foldl (TokenState.next (.recorded tokenDigests []))
      ⟨.empty, []⟩).service.db.sessions.rows.map (·.generation)) = [2] := by decide +kernel

end Jitong
