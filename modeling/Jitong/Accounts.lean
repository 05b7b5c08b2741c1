import Jitong.AuthHandler
import Jitong.Lib.Run
import Jitong.Lib.Utf8

/-!
`t_user` under `registerUser` and `loginUser`: a login reads its row on a pool connection, checks
the password, and may leave an upgrade of a legacy hash to the write queue; registrations and the
steps of other logins come in between. `hashPasswordArgon2id` is given by what it makes of a password
with a salt.
-/

namespace Jitong

open Lib

def registerSucc : Int32 := 1
def registerNickExit : Int32 := 2
def registerTelExit : Int32 := 3
def registerInvalid : Int32 := 4

def userNickLen : Nat := 30

structure RegisterRq where
  nick : Bytes
  tel : Bytes
  pass : Bytes
  deriving DecidableEq

structure PendingLogin where
  passHash : Bytes
  row : UserRecord
  deriving DecidableEq

/-- The queued `UPDATE t_user SET passwd=?,salt='',password_algo='argon2id' WHERE id=? AND
password_algo='legacy_sha256'`. -/
structure PasswordUpgrade where
  upgraded : Bytes
  userId : Int32
  deriving DecidableEq

/-- `registered` has the telephone numbers and passwords of the registrations that succeeded. -/
structure Accounts where
  users : List UserRecord
  logins : List PendingLogin := []
  upgrades : List PasswordUpgrade := []
  registered : List (Text × Bytes) := []

inductive CredentialEvent
  | register (rq : RegisterRq) (salt : Nat) (id : Int32) (written : Bool)
  | read (tel passHash : Bytes)
  | check (login : PendingLogin) (salt : Nat)
  | upgrade (job : PasswordUpgrade) (written : Bool)

namespace UserRecord

def argon2id : Bytes := ascii "argon2id"
def legacySha256 : Bytes := ascii "legacy_sha256"

/-- What `loginUser` answers for the row it has read. -/
def verdict (crypto : Crypto) (user : UserRecord) (passHash : Bytes) : Int32 :=
  if user.passwordAlgo.bytes = argon2id then
    if crypto.argon2idVerify user.passwd.bytes passHash then loginSuccess else loginPassError
  else
    if crypto.tokenHash (user.salt.bytes ++ passHash) ≠ user.passwd.bytes then loginPassError
    else loginSuccess

def upgrade (job : PasswordUpgrade) (row : UserRecord) : UserRecord :=
  if row.id = job.userId ∧ row.passwordAlgo.bytes = legacySha256 then
    { row with passwd := cstr job.upgraded, salt := cstr [], passwordAlgo := cstr argon2id }
  else row

end UserRecord

namespace Accounts

def registerUser (stored : Option Bytes) (id : Int32) (written : Bool) (users : List UserRecord)
    (nick tel : Bytes) : Int32 × List UserRecord :=
  match stored with
  | none => (-1, users)
  | some stored =>
      if users.any fun user => user.nick = cstr nick then (registerNickExit, users)
      else if users.any fun user => user.tel = cstr tel then (registerTelExit, users)
      else if !written ∨ users.any fun user => user.id = id then (-1, users)
      else
        (registerSucc, users ++ [{
          id
          iconId := 3
          nick := cstr nick
          feeling := cstr (Utf8.encode "努力实现财富自由".toList)
          tel := cstr tel
          passwd := cstr stored
          salt := cstr []
          passwordAlgo := cstr UserRecord.argon2id }])

section

variable (crypto : Crypto) (hashPasswordArgon2id : Nat → Bytes → Option Bytes)

def onRegister (rq : RegisterRq) (salt : Nat) (id : Int32) (written : Bool) (accounts : Accounts) :
    Int32 × Accounts :=
  if rq.nick = [] ∨ userNickLen ≤ rq.nick.length ∨ !validMainlandMobile rq.tel ∨
      !validSha256Proof rq.pass then (registerInvalid, accounts)
  else
    let (result, users) := registerUser (hashPasswordArgon2id salt rq.pass) id written accounts.users
      rq.nick rq.tel
    (result, { accounts with
      users
      registered :=
        if result = registerSucc then (cstr rq.tel, rq.pass) :: accounts.registered
        else accounts.registered })

def userOf (tel : Bytes) (users : List UserRecord) : Option UserRecord :=
  users.find? fun user => user.tel = cstr tel

def checkLogin (login : PendingLogin) (salt : Nat) (accounts : Accounts) : Accounts :=
  let accounts := { accounts with logins := accounts.logins.erase login }
  if login.row.passwordAlgo.bytes = UserRecord.argon2id then accounts
  else if login.row.verdict crypto login.passHash ≠ loginSuccess then accounts
  else
    match hashPasswordArgon2id salt login.passHash with
    | none => accounts
    | some upgraded =>
        { accounts with upgrades := ⟨upgraded, login.row.id⟩ :: accounts.upgrades }

def step (accounts : Accounts) : CredentialEvent → Accounts
  | .register rq salt id written => (accounts.onRegister hashPasswordArgon2id rq salt id written).2
  | .read tel passHash =>
      match userOf tel accounts.users with
      | none => accounts
      | some row => { accounts with logins := ⟨passHash, row⟩ :: accounts.logins }
  | .check login salt =>
      if login ∈ accounts.logins then accounts.checkLogin crypto hashPasswordArgon2id login salt
      else accounts
  | .upgrade job written =>
      if job ∈ accounts.upgrades then
        { accounts with
          upgrades := accounts.upgrades.erase job
          users := if written then accounts.users.map (·.upgrade job) else accounts.users }
      else accounts

def Accepts (users : List UserRecord) (tel passHash : Bytes) : Prop :=
  ∃ user ∈ users, user.tel = cstr tel ∧ user.verdict crypto passHash = loginSuccess

end

end Accounts

/-- An encoded hash as it is read back from `t_user` verifies one password. -/
def Crypto.Encodes (crypto : Crypto) (encoded passHash : Bytes) : Prop :=
  ∀ other, crypto.argon2idVerify (cstr encoded).bytes other = decide (other = passHash)

/-- The digest of the legacy hashes has no collisions, and an encoded hash verifies its password
and no other. -/
structure Crypto.Passwords (crypto : Crypto) (hashPasswordArgon2id : Nat → Bytes → Option Bytes) :
    Prop where
  collisionFree : Function.Injective crypto.sha256
  encodes : ∀ salt passHash encoded, hashPasswordArgon2id salt passHash = some encoded →
    crypto.Encodes encoded passHash

namespace UserRecord

variable {crypto : Crypto} {user : UserRecord} {passHash other encoded : Bytes}

theorem argon2id_plain : (cstr argon2id).bytes = argon2id := by
  decide +kernel

theorem verdict_of_argon2id (algorithm : user.passwordAlgo.bytes = argon2id)
    (stored : user.passwd = cstr encoded) (encodes : crypto.Encodes encoded passHash) :
    user.verdict crypto other = loginSuccess ↔ other = passHash := by
  rw [verdict, if_pos algorithm, stored, encodes other]
  by_cases same : other = passHash
  · simp [same]
  · simp [same, loginSuccess, loginPassError]

theorem verdict_of_legacy (collisionFree : Function.Injective crypto.sha256)
    (algorithm : user.passwordAlgo.bytes ≠ argon2id)
    (right : user.verdict crypto passHash = loginSuccess) :
    user.verdict crypto other = loginSuccess ↔ other = passHash := by
  have own : crypto.tokenHash (user.salt.bytes ++ passHash) = user.passwd.bytes := by
    rw [verdict, if_neg algorithm] at right
    by_contra different
    rw [if_pos different] at right
    exact absurd right (by decide)
  rw [verdict, if_neg algorithm, ← own]
  constructor
  · intro accepted
    by_contra different
    have apart : crypto.tokenHash (user.salt.bytes ++ other) ≠
        crypto.tokenHash (user.salt.bytes ++ passHash) := fun same =>
      different (List.append_cancel_left (collisionFree (toHex_injective same)))
    rw [if_pos apart] at accepted
    exact absurd accepted (by decide)
  · rintro rfl
    simp

@[simp] theorem upgrade_id (job : PasswordUpgrade) : (user.upgrade job).id = user.id := by
  unfold upgrade
  split <;> rfl

@[simp] theorem upgrade_tel (job : PasswordUpgrade) : (user.upgrade job).tel = user.tel := by
  unfold upgrade
  split <;> rfl

@[simp] theorem upgrade_nick (job : PasswordUpgrade) : (user.upgrade job).nick = user.nick := by
  unfold upgrade
  split <;> rfl

theorem upgrade_verdict {job : PasswordUpgrade} (encodes : crypto.Encodes job.upgraded passHash)
    (takes : user.id = job.userId →
      ∀ other, user.verdict crypto other = loginSuccess ↔ other = passHash) :
    (user.upgrade job).verdict crypto other = loginSuccess ↔
      user.verdict crypto other = loginSuccess := by
  unfold upgrade
  split
  · rename_i hit
    rw [takes hit.1 other]
    exact verdict_of_argon2id argon2id_plain rfl encodes
  · rfl

end UserRecord

namespace Accounts

structure Kept (crypto : Crypto) (start : List UserRecord) (accounts : Accounts) : Prop where
  ids : (accounts.users.map (·.id)).Nodup
  nicks : (accounts.users.map (·.nick)).Nodup
  tels : (accounts.users.map (·.tel)).Nodup
  credentials : ∀ tel passHash, Accepts crypto accounts.users tel passHash ↔
    Accepts crypto start tel passHash ∨ (cstr tel, passHash) ∈ accounts.registered
  reads : ∀ login ∈ accounts.logins, ∃ user ∈ accounts.users, user.id = login.row.id ∧
    user.tel = login.row.tel ∧ ∀ passHash, login.row.verdict crypto passHash = loginSuccess ↔
      user.verdict crypto passHash = loginSuccess
  upgrading : ∀ job ∈ accounts.upgrades, ∃ passHash, crypto.Encodes job.upgraded passHash ∧
    ∃ user ∈ accounts.users, user.id = job.userId ∧
      ∀ other, user.verdict crypto other = loginSuccess ↔ other = passHash

section

variable {crypto : Crypto} {users : List UserRecord}

theorem accepts_append (user : UserRecord) (tel passHash : Bytes) :
    Accepts crypto (users ++ [user]) tel passHash ↔ Accepts crypto users tel passHash ∨
      user.tel = cstr tel ∧ user.verdict crypto passHash = loginSuccess := by
  unfold Accepts
  constructor
  · rintro ⟨taken, member, accepted⟩
    rcases List.mem_append.mp member with old | new
    · exact .inl ⟨taken, old, accepted⟩
    · exact .inr (List.mem_singleton.mp new ▸ accepted)
  · rintro (⟨taken, old, accepted⟩ | accepted)
    · exact ⟨taken, List.mem_append_left _ old, accepted⟩
    · exact ⟨user, by simp, accepted⟩

theorem nodup_snoc {Key : Type} (view : UserRecord → Key) (user : UserRecord)
    (single : (users.map view).Nodup) (fresh : ∀ old ∈ users, view old ≠ view user) :
    ((users ++ [user]).map view).Nodup := by
  rw [List.map_append, List.nodup_append]
  refine ⟨single, by simp, ?_⟩
  intro key member other only
  obtain ⟨old, inside, rfl⟩ := List.mem_map.mp member
  obtain rfl : other = view user := by simpa using only
  exact fresh old inside

end

namespace Kept

variable {crypto : Crypto} {hashPasswordArgon2id : Nat → Bytes → Option Bytes}
  {start : List UserRecord} {accounts : Accounts}

theorem register (kept : accounts.Kept crypto start)
    (passwords : crypto.Passwords hashPasswordArgon2id) (rq : RegisterRq) (salt : Nat) (id : Int32)
    (written : Bool) :
    (accounts.onRegister hashPasswordArgon2id rq salt id written).2.Kept crypto start := by
  unfold onRegister
  split
  · exact kept
  unfold registerUser
  cases hashed : hashPasswordArgon2id salt rq.pass with
  | none => exact kept
  | some stored =>
      dsimp only
      split
      · exact kept
      split
      · exact kept
      split
      · exact kept
      rename_i freshNick freshTel freshId
      simp only [List.any_eq_true, decide_eq_true_eq, not_exists, not_and, not_or]
        at freshNick freshTel freshId
      have encodes := passwords.encodes salt rq.pass stored hashed
      dsimp only
      rw [if_pos rfl]
      refine ⟨nodup_snoc _ _ kept.ids freshId.2, nodup_snoc _ _ kept.nicks freshNick,
        nodup_snoc _ _ kept.tels freshTel, ?_, ?_, ?_⟩
      · intro tel passHash
        rw [accepts_append, kept.credentials, List.mem_cons, Prod.mk.injEq, or_assoc]
        refine or_congr_right (or_comm.trans (or_congr_left ?_))
        refine and_congr eq_comm ?_
        exact UserRecord.verdict_of_argon2id UserRecord.argon2id_plain rfl encodes
      · intro login pending
        obtain ⟨user, member, same⟩ := kept.reads login pending
        exact ⟨user, List.mem_append_left _ member, same⟩
      · intro job queued
        obtain ⟨passHash, own, user, member, same⟩ := kept.upgrading job queued
        exact ⟨passHash, own, user, List.mem_append_left _ member, same⟩

theorem read (kept : accounts.Kept crypto start) {tel passHash : Bytes} {row : UserRecord}
    (found : userOf tel accounts.users = some row) :
    ({ accounts with logins := ⟨passHash, row⟩ :: accounts.logins } : Accounts).Kept crypto
      start := by
  refine { kept with reads := fun login pending => ?_ }
  rcases List.mem_cons.mp pending with rfl | old
  · exact ⟨row, List.mem_of_find?_eq_some found, rfl, rfl, fun _ => Iff.rfl⟩
  · exact kept.reads login old

theorem check (kept : accounts.Kept crypto start)
    (passwords : crypto.Passwords hashPasswordArgon2id) {login : PendingLogin}
    (pending : login ∈ accounts.logins) (salt : Nat) :
    (accounts.checkLogin crypto hashPasswordArgon2id login salt).Kept crypto start := by
  have fewer : ({ accounts with logins := accounts.logins.erase login } : Accounts).Kept crypto
      start :=
    { kept with reads := fun other left => kept.reads other (List.mem_of_mem_erase left) }
  unfold checkLogin
  dsimp only
  split
  · exact fewer
  split
  · exact fewer
  rename_i legacy refused
  have right : login.row.verdict crypto login.passHash = loginSuccess := not_not.mp refused
  cases hashed : hashPasswordArgon2id salt login.passHash with
  | none => exact fewer
  | some upgraded =>
      refine { fewer with upgrading := fun job queued => ?_ }
      rcases List.mem_cons.mp queued with rfl | old
      · obtain ⟨user, member, own, _, same⟩ := kept.reads login pending
        refine ⟨login.passHash, passwords.encodes salt _ _ hashed, user, member, own, ?_⟩
        intro other
        rw [← same other]
        exact UserRecord.verdict_of_legacy passwords.collisionFree legacy right
      · exact kept.upgrading job old

theorem upgrade (kept : accounts.Kept crypto start) {job : PasswordUpgrade}
    (queued : job ∈ accounts.upgrades) (upgrades : List PasswordUpgrade)
    (left : upgrades ⊆ accounts.upgrades) :
    ({ accounts with upgrades, users := accounts.users.map (·.upgrade job) } : Accounts).Kept crypto
      start := by
  obtain ⟨passHash, encodes, target, member, own, takes⟩ := kept.upgrading job queued
  have same : ∀ user ∈ accounts.users, ∀ other,
      (user.upgrade job).verdict crypto other = loginSuccess ↔
        user.verdict crypto other = loginSuccess := by
    intro user listed other
    refine UserRecord.upgrade_verdict encodes fun hit => ?_
    rwa [List.inj_on_of_nodup_map kept.ids listed member (hit.trans own.symm)]
  refine ⟨?_, ?_, ?_, ?_, ?_, ?_⟩
  · simpa [Function.comp_def] using kept.ids
  · simpa [Function.comp_def] using kept.nicks
  · simpa [Function.comp_def] using kept.tels
  · intro tel other
    rw [← kept.credentials tel other]
    constructor
    · rintro ⟨_, listed, telSame, accepted⟩
      obtain ⟨user, old, rfl⟩ := List.mem_map.mp listed
      exact ⟨user, old, by simpa using telSame, (same user old other).mp accepted⟩
    · rintro ⟨user, old, telSame, accepted⟩
      exact ⟨_, List.mem_map_of_mem old, by simpa using telSame, (same user old other).mpr accepted⟩
  · intro login pending
    obtain ⟨user, old, idSame, telSame, verdicts⟩ := kept.reads login pending
    exact ⟨_, List.mem_map_of_mem old, by simpa using idSame, by simpa using telSame,
      fun other => (verdicts other).trans (same user old other).symm⟩
  · intro other waiting
    obtain ⟨pass, ownEncodes, user, old, idSame, only⟩ := kept.upgrading other (left waiting)
    exact ⟨pass, ownEncodes, _, List.mem_map_of_mem old, by simpa using idSame,
      fun candidate => (same user old candidate).trans (only candidate)⟩

theorem step (kept : accounts.Kept crypto start)
    (passwords : crypto.Passwords hashPasswordArgon2id) (event : CredentialEvent) :
    (accounts.step crypto hashPasswordArgon2id event).Kept crypto start := by
  cases event with
  | register rq salt id written => exact kept.register passwords rq salt id written
  | read tel passHash =>
      unfold Accounts.step
      dsimp only
      split
      · exact kept
      · rename_i row found
        exact kept.read found
  | check login salt =>
      unfold Accounts.step
      dsimp only
      split
      · rename_i pending
        exact kept.check passwords pending salt
      · exact kept
  | upgrade job written =>
      unfold Accounts.step
      dsimp only
      split
      · rename_i queued
        have left : accounts.upgrades.erase job ⊆ accounts.upgrades := List.erase_subset
        cases written with
        | true => exact kept.upgrade queued _ left
        | false =>
            exact { kept with upgrading := fun other waiting => kept.upgrading other (left waiting) }
      · exact kept

end Kept

theorem start_kept {crypto : Crypto} {start : List UserRecord} (ids : (start.map (·.id)).Nodup)
    (nicks : (start.map (·.nick)).Nodup) (tels : (start.map (·.tel)).Nodup) :
    ({ users := start } : Accounts).Kept crypto start where
  ids := ids
  nicks := nicks
  tels := tels
  credentials := by simp
  reads := by simp
  upgrading := by simp

end Accounts

end Jitong
