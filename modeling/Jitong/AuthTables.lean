import Jitong.Lib.Sql
import Jitong.DeviceProof

/-!
The tables `auth_sessions` and `auth_refresh_history` and the `Database` calls
on them.
-/

namespace Jitong

open Lib

/-- A row of `auth_sessions`, and the `AuthSessionRecord` read from it. -/
structure AuthSessionRecord where
  sessionId : Text
  familyId : Text
  userId : Int32
  deviceId : Text
  accessHash : Text
  accessExpiresAt : Int
  refreshHash : Text
  refreshExpiresAt : Int
  generation : Int
  revoked : Bool
  deriving DecidableEq

structure RefreshHistoryRow where
  familyId : Text
  tokenHash : Text
  generation : Int
  deriving DecidableEq

def authSessionClash (first second : AuthSessionRecord) : Bool :=
  first.sessionId = second.sessionId ∨ first.accessHash = second.accessHash ∨
    first.refreshHash = second.refreshHash

def refreshHistoryClash (first second : RefreshHistoryRow) : Bool :=
  first.tokenHash = second.tokenHash

theorem authSessionClash_comm (first second : AuthSessionRecord) :
    authSessionClash first second = authSessionClash second first := by
  simp only [authSessionClash, eq_comm]

structure AuthTables where
  sessions : Table AuthSessionRecord authSessionClash
  history : Table RefreshHistoryRow refreshHistoryClash

namespace AuthTables

def empty : AuthTables := ⟨.empty, .empty⟩

/-- `sqlite3_column_int`: the low 32 bits of the stored integer, signed. -/
def columnInt (stored : Int) : Int := stored.bmod (2 ^ 32)

def readAuthSession (row : AuthSessionRecord) : AuthSessionRecord :=
  { row with generation := columnInt row.generation }

/-- `written` tells whether SQLite could run the statement at all. -/
def createAuthSession (written : Bool) (db : AuthTables) (sessionId familyId : Bytes)
    (userId : Int32) (deviceId accessHash : Bytes) (accessExpiresAt : Int) (refreshHash : Bytes)
    (refreshExpiresAt : Int) : Option AuthTables :=
  if written then
    (db.sessions.insert {
      sessionId := cstr sessionId, familyId := cstr familyId, userId, deviceId := cstr deviceId,
      accessHash := cstr accessHash, accessExpiresAt, refreshHash := cstr refreshHash,
      refreshExpiresAt, generation := 1, revoked := false
    }).map fun sessions => { db with sessions }
  else none

def findByAccessHash (db : AuthTables) (accessHash : Bytes) : Option AuthSessionRecord :=
  (db.sessions.rows.find? fun row => row.accessHash = cstr accessHash).map readAuthSession

def findByRefreshHash (db : AuthTables) (refreshHash : Bytes) : Option AuthSessionRecord :=
  (db.sessions.rows.find? fun row => row.refreshHash = cstr refreshHash).map readAuthSession

theorem findByRefreshHash_eq_some {db : AuthTables} {refreshHash : Bytes}
    {record : AuthSessionRecord} (found : db.findByRefreshHash refreshHash = some record) :
    ∃ row ∈ db.sessions.rows, row.refreshHash = cstr refreshHash ∧ record = readAuthSession row := by
  obtain ⟨row, located, rfl⟩ := Option.map_eq_some_iff.mp found
  exact ⟨row, List.mem_of_find?_eq_some located, of_decide_eq_true (List.find?_some located :), rfl⟩

def rotates (old : AuthSessionRecord) (oldRefreshHash : Bytes) (row : AuthSessionRecord) : Bool :=
  row.sessionId = old.sessionId ∧ row.refreshHash = cstr oldRefreshHash ∧
    row.generation = old.generation ∧ row.revoked = false

/-- `writes 0` to `writes 3` are the `BEGIN`, the two statements and the `COMMIT`. -/
def rotateRefreshToken (writes : Nat → Bool) (db : AuthTables) (old : AuthSessionRecord)
    (oldRefreshHash newAccessHash : Bytes) (newAccessExpiresAt : Int) (newRefreshHash : Bytes)
    (newRefreshExpiresAt : Int) : Bool × AuthTables :=
  if !writes 0 then (false, db) else
  let txn := Txn.begin db
  let historyRow := ⟨old.familyId, cstr oldRefreshHash, old.generation⟩
  match (if writes 1 then txn.tables.history.insert historyRow else none) with
  | none => (false, txn.rollback)
  | some history =>
      let txn := txn.write { txn.tables with history }
      let hit := rotates old oldRefreshHash
      let advance := fun row : AuthSessionRecord =>
        if hit row then
          { row with
            accessHash := cstr newAccessHash, accessExpiresAt := newAccessExpiresAt,
            refreshHash := cstr newRefreshHash, refreshExpiresAt := newRefreshExpiresAt,
            generation := row.generation + 1 }
        else row
      match (if writes 2 then txn.tables.sessions.update advance else none) with
      | none => (false, txn.rollback)
      | some sessions =>
          let changes := txn.tables.sessions.rows.countP hit
          let txn := txn.write { txn.tables with sessions }
          if changes = 1 ∧ writes 3 then (true, txn.commit) else (false, txn.rollback)

def wasRefreshTokenUsed (db : AuthTables) (refreshHash : Bytes) : Option Bytes :=
  (db.history.rows.find? fun row => row.tokenHash = cstr refreshHash).map fun row =>
    row.familyId.bytes

def revokeWhere (db : AuthTables) (hit : AuthSessionRecord → Bool) : AuthTables :=
  { db with
    sessions := db.sessions.rewrite (fun row => if hit row then { row with revoked := true } else row)
      (by intro first second; unfold authSessionClash; split <;> split <;> rfl) }

def revokeTokenFamily (prepared written : Bool) (db : AuthTables) (familyId : Bytes) :
    Int32 × AuthTables :=
  let hit := fun row : AuthSessionRecord => decide (row.familyId = cstr familyId)
  let userId := ((db.sessions.rows.find? hit).map (·.userId)).getD 0
  if prepared then (userId, if written then db.revokeWhere hit else db) else (0, db)

def revokeSession (written : Bool) (db : AuthTables) (sessionId : Bytes) : AuthTables :=
  if written then db.revokeWhere fun row => row.sessionId = cstr sessionId else db

def revokeAllUserSessions (written : Bool) (db : AuthTables) (userId : Int32) : AuthTables :=
  if written then db.revokeWhere fun row => row.userId = userId else db

end AuthTables

end Jitong
