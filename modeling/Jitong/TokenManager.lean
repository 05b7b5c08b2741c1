import Jitong.Protocol

/-!
`account/TokenManager.cpp`: the client's tokens, in memory and in the key-value store that
the platform lends to it.
-/

namespace Jitong

/-- `ITokenStore`, with the changes that it took, the earliest first. -/
structure KeyStore where
  values : Bytes → Option Bytes := fun _ => none
  applied : List (List (Bytes × Bytes) × List Bytes) := []

/-- `applyAtomically`, where the store takes the change. -/
def KeyStore.apply (store : KeyStore) (puts : List (Bytes × Bytes)) (removes : List Bytes) :
    KeyStore where
  values key := if key ∈ removes then none else (puts.reverse.lookup key).or (store.values key)
  applied := store.applied ++ [(puts, removes)]

/-- What the clock, the store, the signer, the channel and the jitter answer during one call;
an empty key or signature is one that the signer could not give. -/
structure Surroundings where
  now : Int
  accepts : List (Bytes × Bytes) → List Bytes → Bool
  publicKeyDer : Bytes := []
  sign : Bytes → Bytes := fun _ => []
  appSessionId : Bytes := []
  jitter : Option Int := none

structure TokenSession where
  accessToken : Bytes := []
  refreshToken : Bytes := []
  accessExpireAt : Int := 0
  refreshExpireAt : Int := 0
  sessionId : Bytes := []
  account : Bytes := []
  deriving DecidableEq

def TokenSession.valid (session : TokenSession) : Bool :=
  session.accessToken ≠ [] ∧ session.refreshToken ≠ []

def kAccess : Bytes := ascii "access"
def kRefresh : Bytes := ascii "refresh"
def kAccessExp : Bytes := ascii "access_exp"
def kRefreshExp : Bytes := ascii "refresh_exp"
def kSession : Bytes := ascii "session_id"
def kRefreshReqId : Bytes := ascii "refresh_request_id"

def tokenSuffixes : List Bytes := [kAccess, kRefresh, kAccessExp, kRefreshExp, kSession]

def keyOf (account suffix : Bytes) : Bytes := ascii "tok:" ++ account ++ 0x3A :: suffix

theorem keyOf_injective {account other suffix last : Bytes} (plain : (0x3A : UInt8) ∉ suffix)
    (plainLast : (0x3A : UInt8) ∉ last) (same : keyOf account suffix = keyOf other last) :
    account = other ∧ suffix = last := by
  simp only [keyOf, List.append_assoc, List.append_cancel_left_eq] at same
  rcases List.append_eq_append_iff.mp same with ⟨between, left, right⟩ | ⟨between, left, right⟩
  · cases between with
    | nil => simpa [left, eq_comm] using right
    | cons head tail =>
        simp only [List.cons_append, List.cons.injEq] at right
        exact absurd (right.2 ▸ List.mem_append_right _ List.mem_cons_self) plain
  · cases between with
    | nil => simpa [left, eq_comm] using right
    | cons head tail =>
        simp only [List.cons_append, List.cons.injEq] at right
        exact absurd (right.2 ▸ List.mem_append_right _ List.mem_cons_self) plainLast

def isSpace (letter : UInt8) : Bool := letter = 0x20 ∨ (0x09 ≤ letter ∧ letter ≤ 0x0D)
def isDecimal (letter : UInt8) : Bool := 0x30 ≤ letter ∧ letter ≤ 0x39

def maxInt64 : Int := 0x7FFFFFFFFFFFFFFF

/-- `std::stoll` skips white space and takes a sign; a number below zero is none of these. -/
def parsePositiveInt (text : Bytes) : Option Int :=
  let unspaced := text.dropWhile isSpace
  let digits := if unspaced.head? = some 0x2B then unspaced.tail else unspaced
  if digits = [] ∨ !digits.all isDecimal then none
  else
    let value := digits.foldl (fun value digit => 10 * value + (digit.toNat - 0x30 : Int)) 0
    if value ≤ 0 ∨ maxInt64 < value then none else some value

def storedSession (store : KeyStore) (account : Bytes) : Option TokenSession := do
  let accessToken ← store.values (keyOf account kAccess)
  let refreshToken ← store.values (keyOf account kRefresh)
  let accExp ← store.values (keyOf account kAccessExp)
  let refExp ← store.values (keyOf account kRefreshExp)
  let sessionId ← store.values (keyOf account kSession)
  if accessToken = [] ∨ refreshToken = [] ∨ sessionId = [] then none else
  let accessExpireAt ← parsePositiveInt accExp
  let refreshExpireAt ← parsePositiveInt refExp
  some { accessToken, refreshToken, accessExpireAt, refreshExpireAt, sessionId, account }

def storedRequestId (store : KeyStore) (account : Bytes) : Bytes :=
  (store.values (keyOf account kRefreshReqId)).getD []

structure TokenManager where
  store : KeyStore
  session : TokenSession := {}
  refreshInFlight : Bool := false
  refreshRequestId : Bytes := []
  requestSeq : UInt64 := 0

namespace TokenManager

def refreshSkew : Int := 60

def change (env : Surroundings) (manager : TokenManager) (puts : List (Bytes × Bytes))
    (removes : List Bytes) : Bool × TokenManager :=
  if env.accepts puts removes then (true, { manager with store := manager.store.apply puts removes })
  else (false, manager)

def accessNeedsRefresh (env : Surroundings) (manager : TokenManager) : Bool :=
  manager.session.valid ∧ env.now + refreshSkew ≥ manager.session.accessExpireAt

def accessUsable (env : Surroundings) (manager : TokenManager) : Bool :=
  manager.session.valid ∧ env.now + refreshSkew < manager.session.accessExpireAt

def refreshExpired (env : Surroundings) (manager : TokenManager) : Bool :=
  manager.session.refreshExpireAt ≤ 0 ∨ env.now ≥ manager.session.refreshExpireAt

def clearMemory (manager : TokenManager) : TokenManager :=
  { manager with
    session := { account := manager.session.account }
    refreshInFlight := false
    refreshRequestId := [] }

def familyKeys (account : Bytes) : List Bytes := (tokenSuffixes ++ [kRefreshReqId]).map (keyOf account)

def revokeFamily (env : Surroundings) (manager : TokenManager) : Bool × TokenManager :=
  let (removed, manager) := manager.change env [] (familyKeys manager.session.account)
  (removed, manager.clearMemory)

def recoverRequest (manager : TokenManager) : TokenManager :=
  let requestId := storedRequestId manager.store manager.session.account
  if requestId = [] then manager
  else { manager with refreshRequestId := requestId, refreshInFlight := true }

def loadFromStore (env : Surroundings) (manager : TokenManager) (account : Bytes) :
    Bool × TokenManager :=
  match storedSession manager.store account with
  | none => (false, ({ manager with session := { account } }.revokeFamily env).2)
  | some session =>
      let manager := { manager with session }.recoverRequest
      if manager.refreshExpired env then (false, (manager.revokeFamily env).2)
      else (manager.session.valid, manager)

def sessionPuts (session : TokenSession) : List (Bytes × Bytes) :=
  [(keyOf session.account kAccess, session.accessToken),
    (keyOf session.account kRefresh, session.refreshToken),
    (keyOf session.account kAccessExp, decimal session.accessExpireAt),
    (keyOf session.account kRefreshExp, decimal session.refreshExpireAt),
    (keyOf session.account kSession, session.sessionId)]

def persist (env : Surroundings) (manager : TokenManager) : Bool × TokenManager :=
  manager.change env (sessionPuts manager.session) [keyOf manager.session.account kRefreshReqId]

/-- The common end of `adopt` and `rotate`: the new session is kept where it is persisted. -/
def replaceSession (env : Surroundings) (manager : TokenManager) (session : TokenSession) :
    Bool × TokenManager :=
  match { manager with session }.persist env with
  | (false, _) => (false, manager)
  | (true, manager) => (true, { manager with refreshInFlight := false, refreshRequestId := [] })

def adopt (env : Surroundings) (manager : TokenManager) (session : TokenSession) :
    Bool × TokenManager := manager.replaceSession env session

/-- The session that `rotate` puts in the place of the old one. -/
def rotatedSession (manager : TokenManager) (accessToken refreshToken : Bytes)
    (accessExpireAt refreshExpireAt : Int) (sessionId : Bytes) : TokenSession :=
  { manager.session with
    accessToken, refreshToken, accessExpireAt, refreshExpireAt
    sessionId := if sessionId = [] then manager.session.sessionId else sessionId }

def rotate (env : Surroundings) (manager : TokenManager) (accessToken refreshToken : Bytes)
    (accessExpireAt refreshExpireAt : Int) (sessionId : Bytes) : Bool × TokenManager :=
  manager.replaceSession env
    (manager.rotatedSession accessToken refreshToken accessExpireAt refreshExpireAt sessionId)

def newRequestId (env : Surroundings) (manager : TokenManager) : Bytes :=
  ascii "rf-" ++ manager.session.account ++ ascii "-" ++ manager.session.sessionId ++ ascii "-" ++
    decimal (manager.requestSeq + 1).toNat ++ ascii "-" ++ decimal env.now

def beginRefresh (env : Surroundings) (manager : TokenManager) : Bytes × TokenManager :=
  if manager.refreshInFlight ∧ manager.refreshRequestId ≠ [] then (manager.refreshRequestId, manager)
  else
    let requestId := manager.newRequestId env
    match manager.change env [(keyOf manager.session.account kRefreshReqId, requestId)] [] with
    | (false, manager) => ([], manager)
    | (true, manager) =>
        (requestId, {
          manager with
          requestSeq := manager.requestSeq + 1
          refreshRequestId := requestId
          refreshInFlight := true })

def completeRefresh (env : Surroundings) (manager : TokenManager) : Bool × TokenManager :=
  match manager.change env [] [keyOf manager.session.account kRefreshReqId] with
  | (false, manager) => (false, manager)
  | (true, manager) => (true, { manager with refreshInFlight := false, refreshRequestId := [] })

def suspendRefresh (manager : TokenManager) : TokenManager := manager

def cancelRefresh (env : Surroundings) (manager : TokenManager) : Bool × TokenManager :=
  manager.completeRefresh env

/-! What the operations leave. -/

variable (env : Surroundings) (manager : TokenManager)

theorem storedSession_sound {store : KeyStore} {account : Bytes} {session : TokenSession}
    (stored : storedSession store account = some session) :
    session.account = account ∧ session.valid = true := by
  unfold storedSession at stored
  simp only [Option.bind_eq_bind, Option.bind_eq_some_iff] at stored
  obtain ⟨accessToken, _, refreshToken, _, accExp, _, refExp, _, sessionId, _, rest⟩ := stored
  split at rest
  · simp at rest
  · rename_i whole
    simp only [not_or] at whole
    simp only [Option.bind_eq_some_iff] at rest
    obtain ⟨accessExpireAt, _, refreshExpireAt, _, same⟩ := rest
    simp only [Option.some.injEq] at same
    subst same
    exact ⟨rfl, by simp [TokenSession.valid, whole.1, whole.2.1]⟩

def changedStore (puts : List (Bytes × Bytes)) (removes : List Bytes) : KeyStore :=
  if env.accepts puts removes then manager.store.apply puts removes else manager.store

theorem change_eq (puts : List (Bytes × Bytes)) (removes : List Bytes) :
    manager.change env puts removes =
      (env.accepts puts removes,
        { manager with store := manager.changedStore env puts removes }) := by
  unfold change changedStore
  cases env.accepts puts removes <;> rfl

theorem mem_familyKeys {account other suffix : Bytes}
    (known : suffix ∈ tokenSuffixes ++ [kRefreshReqId]) :
    keyOf account suffix ∈ familyKeys other ↔ account = other := by
  have plain : ∀ last ∈ tokenSuffixes ++ [kRefreshReqId], (0x3A : UInt8) ∉ last := by decide
  rw [familyKeys, List.mem_map]
  constructor
  · rintro ⟨last, member, same⟩
    exact (keyOf_injective (plain last member) (plain suffix known) same).1.symm
  · rintro rfl
    exact ⟨suffix, known, rfl⟩

theorem revokeFamily_eq :
    manager.revokeFamily env =
      (env.accepts [] (familyKeys manager.session.account),
        { manager with
          store := manager.changedStore env [] (familyKeys manager.session.account)
          session := { account := manager.session.account }
          refreshInFlight := false
          refreshRequestId := [] }) := by
  simp only [revokeFamily, change_eq, clearMemory]

theorem revokeFamily_values {other suffix : Bytes}
    (known : suffix ∈ tokenSuffixes ++ [kRefreshReqId]) :
    (manager.revokeFamily env).2.store.values (keyOf other suffix) =
      if other = manager.session.account ∧
          env.accepts [] (familyKeys manager.session.account) = true then none
      else manager.store.values (keyOf other suffix) := by
  rw [revokeFamily_eq]
  simp only [changedStore]
  cases taken : env.accepts [] (familyKeys manager.session.account) with
  | false => simp
  | true => simp [KeyStore.apply, mem_familyKeys known]

theorem apply_storedRequestId (store : KeyStore) (puts : List (Bytes × Bytes)) (account : Bytes) :
    storedRequestId (store.apply puts [keyOf account kRefreshReqId]) account = [] := by
  simp [storedRequestId, KeyStore.apply]

theorem recoverRequest_session : manager.recoverRequest.session = manager.session := by
  unfold recoverRequest
  simp only
  split <;> rfl

theorem recoverRequest_store : manager.recoverRequest.store = manager.store := by
  unfold recoverRequest
  simp only
  split <;> rfl

theorem recoverRequest_requestId :
    manager.recoverRequest.refreshRequestId =
      if storedRequestId manager.store manager.session.account = [] then manager.refreshRequestId
      else storedRequestId manager.store manager.session.account := by
  unfold recoverRequest
  simp only
  split <;> rfl

theorem loadFromStore_cases (account : Bytes) :
    (storedSession manager.store account = none ∧
      manager.loadFromStore env account =
        (false, ({ manager with session := { account } }.revokeFamily env).2)) ∨
    ∃ session, storedSession manager.store account = some session ∧
      (({ manager with session }.refreshExpired env = true ∧
        manager.loadFromStore env account =
          (false, ({ manager with session }.recoverRequest.revokeFamily env).2)) ∨
      { manager with session }.refreshExpired env = false ∧
        manager.loadFromStore env account = (true, { manager with session }.recoverRequest)) := by
  unfold loadFromStore
  cases stored : storedSession manager.store account with
  | none => exact .inl ⟨rfl, rfl⟩
  | some session =>
      refine .inr ⟨session, rfl, ?_⟩
      have same := { manager with session }.recoverRequest_session
      have expired : { manager with session }.recoverRequest.refreshExpired env =
          { manager with session }.refreshExpired env := by
        simp only [refreshExpired, same]
      simp only [expired]
      cases { manager with session }.refreshExpired env with
      | true => exact .inl ⟨rfl, rfl⟩
      | false =>
          refine .inr ⟨rfl, ?_⟩
          simp only [Bool.false_eq_true, if_false, same, (storedSession_sound stored).2]

theorem loadFromStore_refused {account : Bytes}
    (refused : (manager.loadFromStore env account).1 = false) :
    (manager.loadFromStore env account).2.session = { account } ∧
      (manager.loadFromStore env account).2.refreshRequestId = [] ∧
      ∀ other ≠ account, ∀ suffix ∈ tokenSuffixes ++ [kRefreshReqId],
        (manager.loadFromStore env account).2.store.values (keyOf other suffix) =
          manager.store.values (keyOf other suffix) := by
  rcases manager.loadFromStore_cases env account with
    ⟨_, answered⟩ | ⟨saved, stored, ⟨_, answered⟩ | ⟨_, answered⟩⟩
  · rw [answered]
    refine ⟨by rw [revokeFamily_eq], by rw [revokeFamily_eq], ?_⟩
    intro other foreign suffix known
    rw [revokeFamily_values env _ known, if_neg (by simp [foreign])]
  · have owner := (storedSession_sound stored).1
    rw [answered]
    refine ⟨?_, by rw [revokeFamily_eq], ?_⟩
    · rw [revokeFamily_eq]
      simp only [recoverRequest_session, owner]
    · intro other foreign suffix known
      rw [revokeFamily_values env _ known, recoverRequest_session,
        recoverRequest_store, if_neg (by simp [owner, foreign])]
  · simp [answered] at refused

theorem replaceSession_cases (session : TokenSession) :
    (env.accepts (sessionPuts session) [keyOf session.account kRefreshReqId] = false ∧
      manager.replaceSession env session = (false, manager)) ∨
    env.accepts (sessionPuts session) [keyOf session.account kRefreshReqId] = true ∧
      manager.replaceSession env session = (true, {
        manager with
        store := manager.store.apply (sessionPuts session) [keyOf session.account kRefreshReqId]
        session
        refreshInFlight := false
        refreshRequestId := [] }) := by
  unfold replaceSession persist
  simp only [change_eq, changedStore]
  cases env.accepts (sessionPuts session) [keyOf session.account kRefreshReqId] with
  | false => exact .inl ⟨rfl, rfl⟩
  | true => exact .inr ⟨rfl, rfl⟩

theorem beginRefresh_cases :
    (manager.refreshInFlight = true ∧ manager.refreshRequestId ≠ [] ∧
      manager.beginRefresh env = (manager.refreshRequestId, manager)) ∨
    ¬(manager.refreshInFlight = true ∧ manager.refreshRequestId ≠ []) ∧
      ((env.accepts [(keyOf manager.session.account kRefreshReqId, manager.newRequestId env)] [] =
          false ∧
        manager.beginRefresh env = ([], manager)) ∨
      env.accepts [(keyOf manager.session.account kRefreshReqId, manager.newRequestId env)] [] =
          true ∧
        manager.beginRefresh env = (manager.newRequestId env, {
          manager with
          store := manager.store.apply
            [(keyOf manager.session.account kRefreshReqId, manager.newRequestId env)] []
          requestSeq := manager.requestSeq + 1
          refreshRequestId := manager.newRequestId env
          refreshInFlight := true })) := by
  unfold beginRefresh
  split
  · rename_i pending
    exact .inl ⟨pending.1, pending.2, rfl⟩
  · rename_i free
    refine .inr ⟨free, ?_⟩
    simp only [change_eq, changedStore]
    cases env.accepts [(keyOf manager.session.account kRefreshReqId, manager.newRequestId env)] []
      with
    | false => exact .inl ⟨rfl, rfl⟩
    | true => exact .inr ⟨rfl, rfl⟩

theorem beginRefresh_session :
    (manager.beginRefresh env).2.session = manager.session := by
  rcases manager.beginRefresh_cases env with
    ⟨_, _, answered⟩ | ⟨_, ⟨_, answered⟩ | ⟨_, answered⟩⟩
  · rw [answered]
  · rw [answered]
  · rw [answered]

def canBegin : Bool :=
  (manager.refreshInFlight ∧ manager.refreshRequestId ≠ []) ∨
    env.accepts [(keyOf manager.session.account kRefreshReqId, manager.newRequestId env)] [] = true

theorem newRequestId_ne_nil : manager.newRequestId env ≠ [] := by
  simp [newRequestId, ascii]

theorem beginRefresh_eq_nil_iff :
    (manager.beginRefresh env).1 = [] ↔ manager.canBegin env = false := by
  have made := manager.newRequestId_ne_nil env
  unfold canBegin
  rcases manager.beginRefresh_cases env with
    ⟨pending, known, answered⟩ | ⟨free, ⟨refused, answered⟩ | ⟨taken, answered⟩⟩
  · simp [answered, pending, known]
  · simpa [answered, refused] using free
  · simp [answered, taken, made]

theorem cancelRefresh_cases :
    manager.cancelRefresh env = (false, manager) ∨
      manager.cancelRefresh env = (true, {
        manager with
        store := manager.store.apply [] [keyOf manager.session.account kRefreshReqId]
        refreshInFlight := false
        refreshRequestId := [] }) := by
  unfold cancelRefresh completeRefresh change
  by_cases taken : env.accepts [] [keyOf manager.session.account kRefreshReqId]
  · exact .inr (by simp [taken])
  · exact .inl (by simp [taken])

end TokenManager

end Jitong
