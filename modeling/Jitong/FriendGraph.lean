import Jitong.Lib.Run
import Jitong.Lib.Sql

/-!
Friendships and friend requests: `t_friend`, `friend_requests`, the `Database`
calls that write them, and the handlers of `FriendHandler` cut where they leave
the database.
-/

namespace Jitong

open Lib

structure FriendRequestRow where
  requesterId : Int32
  targetId : Int32
  status : Int32
  createdAt : Int
  updatedAt : Int
  deriving DecidableEq

def friendClash (first second : Int32 × Int32) : Bool := first = second

def friendRequestClash (first second : FriendRequestRow) : Bool :=
  first.requesterId = second.requesterId ∧ first.targetId = second.targetId

structure FriendTables where
  friends : Table (Int32 × Int32) friendClash
  requests : Table FriendRequestRow friendRequestClash

def FriendRequestRow.between (requesterId targetId : Int32) (row : FriendRequestRow) : Bool :=
  row.requesterId = requesterId && row.targetId = targetId

def FriendRequestRow.awaits (requesterId targetId : Int32) (row : FriendRequestRow) : Bool :=
  row.between requesterId targetId && row.status = 0

def FriendRequestRow.set (status now : Int) (row : FriendRequestRow) : FriendRequestRow :=
  { row with status := Int32.ofInt status, updatedAt := now }

namespace FriendTables

instance lawfulUsers : LawfulBEq (Int32 × Int32) := inferInstance

def isFriend (db : FriendTables) (idA idB : Int32) : Bool := (idA, idB) ∈ db.friends.rows

def setStatus (db : FriendTables) (requesterId targetId : Int32) (status now : Int) :
    FriendTables :=
  let requests := db.requests.rewrite
    (fun row => if row.awaits requesterId targetId then row.set status now else row)
    (by intro first second; unfold friendRequestClash; split <;> split <;> rfl)
  { db with requests }

def addPair (db : FriendTables) (pair : Int32 × Int32) : FriendTables :=
  { db with friends := db.friends.insertOrIgnore pair }

/-- `writes 0` to `writes 3` are the `BEGIN`, the two inserts and the `COMMIT`. -/
def addFriendBidirectional (writes : Nat → Bool) (db : FriendTables) (idA idB : Int32) :
    Bool × FriendTables :=
  if !writes 0 then (false, db) else
  let txn := Txn.begin db
  if !writes 1 then (false, txn.rollback) else
  let txn := txn.write (txn.tables.addPair (idA, idB))
  if !writes 2 then (false, txn.rollback) else
  let txn := txn.write (txn.tables.addPair (idB, idA))
  if writes 3 then (true, txn.commit) else (false, txn.rollback)

def createFriendRequest (written : Bool) (now : Int) (db : FriendTables)
    (requesterId targetId : Int32) : Bool × FriendTables :=
  if requesterId ≤ 0 ∨ targetId ≤ 0 ∨ requesterId = targetId ∨ written = false then (false, db) else
  match db.requests.insert ⟨requesterId, targetId, 0, now, now⟩ with
  | some requests => (true, { db with requests })
  | none =>
      let requests := db.requests.rewrite
        (fun row => if row.between requesterId targetId then
          { row with status := 0, createdAt := now, updatedAt := now } else row)
        (by intro first second; unfold friendRequestClash; split <;> split <;> rfl)
      (true, { db with requests })

/-- `writes 0` and `writes 1` are the `BEGIN` and the first update; of an
acceptance, `writes 2` to `writes 4` are the inserts and the second update; the
last is the `COMMIT`. -/
def resolveFriendRequest (writes : Nat → Bool) (now : Int) (db : FriendTables)
    (requesterId targetId : Int32) (accept : Bool) : Bool × FriendTables :=
  if !writes 0 then (false, db) else
  let txn := Txn.begin db
  if writes 1 = false ∨ txn.tables.requests.rows.countP (·.awaits requesterId targetId) ≠ 1 then
    (false, txn.rollback) else
  let txn := txn.write (txn.tables.setStatus requesterId targetId (if accept then 1 else 2) now)
  if !accept then
    if writes 5 then (true, txn.commit) else (false, txn.rollback)
  else
    if !writes 2 then (false, txn.rollback) else
    let txn := txn.write (txn.tables.addPair (requesterId, targetId))
    if !writes 3 then (false, txn.rollback) else
    let txn := txn.write (txn.tables.addPair (targetId, requesterId))
    -- Both may have asked at the same time: the other request is not left waiting.
    if !writes 4 then (false, txn.rollback) else
    let txn := txn.write (txn.tables.setStatus targetId requesterId 1 now)
    if writes 5 then (true, txn.commit) else (false, txn.rollback)

/-- `writes 0` to `writes 2` are the `BEGIN`, the `DELETE` and the `COMMIT`. -/
def removeFriendBidirectional (writes : Nat → Bool) (db : FriendTables) (idA idB : Int32) :
    Bool × FriendTables :=
  if idA ≤ 0 ∨ idB ≤ 0 ∨ idA = idB ∨ writes 0 = false then (false, db) else
  let txn := Txn.begin db
  if !writes 1 then (false, txn.rollback) else
  let txn := txn.write { txn.tables with
    friends := txn.tables.friends.delete fun pair => pair = (idA, idB) || pair = (idB, idA) }
  if writes 2 then (true, txn.commit) else (false, txn.rollback)

def seeded : FriendTables :=
  [(1, 2), (2, 1), (2, 3), (3, 2)].foldl addPair ⟨.empty, .empty⟩

end FriendTables

def addFriendAgree : Int32 := 0
def addFriendReject : Int32 := 1
def addFriendNotexit : Int32 := 3
def addFriendSelf : Int32 := 4
def addFriendAlready : Int32 := 5
def addFriendPending : Int32 := 6
def addFriendDbError : Int32 := 7
def deleteFriendSuccess : Int32 := 0
def deleteFriendDbError : Int32 := 1
def deleteFriendNotFriend : Int32 := 2
def deleteFriendInvalid : Int32 := 3

inductive FriendAnswer
  | added (userId result : Int32)
  | deleted (userId result : Int32)
  deriving DecidableEq

/-- The tables, the handlers that are past their check (the user who asks and the
other one), and the results that were answered, the newest first. -/
structure FriendState where
  db : FriendTables
  adding : List (Int32 × Int32)
  deleting : List (Int32 × Int32)
  answers : List FriendAnswer

inductive FriendEvent
  /-- `onAddFriend` up to its check; the name has led to `friendId`, or to 0. -/
  | checkAdd (userId friendId : Int32)
  | createRequest (written : Bool) (now : Int) (userId friendId : Int32)
  | reply (writes : Nat → Bool) (now : Int) (userId destId result : Int32)
  /-- `onDeleteFriend` up to its check. -/
  | checkDelete (userId friendId : Int32)
  | remove (writes : Nat → Bool) (userId friendId : Int32)

namespace FriendState

def start : FriendState := ⟨.seeded, [], [], []⟩

def answer (state : FriendState) (given : FriendAnswer) : FriendState :=
  { state with answers := given :: state.answers }

def step (state : FriendState) : FriendEvent → Option FriendState
  | .checkAdd userId friendId =>
      if userId ≤ 0 then none
      else if friendId = 0 then some (state.answer (.added userId addFriendNotexit))
      else if userId = friendId then some (state.answer (.added userId addFriendSelf))
      else if state.db.isFriend userId friendId then
        some (state.answer (.added userId addFriendAlready))
      else some { state with adding := (userId, friendId) :: state.adding }
  | .createRequest written now userId friendId =>
      if (userId, friendId) ∉ state.adding then none else
      let (created, db) := state.db.createFriendRequest written now userId friendId
      some { state with
        db
        adding := state.adding.erase (userId, friendId)
        answers := .added userId (if created then addFriendPending else addFriendDbError) ::
          state.answers }
  | .reply writes now userId destId result =>
      if userId ≤ 0 ∨ (result ≠ addFriendAgree ∧ result ≠ addFriendReject) then none else
      some { state with db :=
        (state.db.resolveFriendRequest writes now destId userId (result = addFriendAgree)).2 }
  | .checkDelete userId friendId =>
      if userId ≤ 0 ∨ friendId ≤ 0 ∨ userId = friendId then
        some (state.answer (.deleted userId deleteFriendInvalid))
      else if !state.db.isFriend userId friendId then
        some (state.answer (.deleted userId deleteFriendNotFriend))
      else some { state with deleting := (userId, friendId) :: state.deleting }
  | .remove writes userId friendId =>
      if (userId, friendId) ∉ state.deleting then none else
      let (removed, db) := state.db.removeFriendBidirectional writes userId friendId
      some { state with
        db
        deleting := state.deleting.erase (userId, friendId)
        answers := .deleted userId
          (if removed then deleteFriendSuccess else deleteFriendDbError) :: state.answers }

end FriendState

def FriendStep (before : FriendState) (event : FriendEvent) (after : FriendState) : Prop :=
  before.step event = some after

namespace FriendTables

variable {db : FriendTables} {requesterId targetId : Int32}

structure Mutual (db : FriendTables) : Prop where
  symm : ∀ idA idB, (idA, idB) ∈ db.friends.rows → (idB, idA) ∈ db.friends.rows
  irrefl : ∀ id, (id, id) ∉ db.friends.rows
  requested : ∀ row ∈ db.requests.rows, row.requesterId ≠ row.targetId

def NonePending (db : FriendTables) : Prop :=
  ∀ idA idB, (idA, idB) ∈ db.friends.rows → ∀ row ∈ db.requests.rows, row.status = 0 →
    ¬((row.requesterId = idA ∧ row.targetId = idB) ∨
      (row.requesterId = idB ∧ row.targetId = idA))

theorem mem_addPair {pair other : Int32 × Int32} :
    other ∈ (db.addPair pair).friends.rows ↔ other ∈ db.friends.rows ∨ other = pair :=
  Table.mem_insertOrIgnore fun _ _ same => of_decide_eq_true same

theorem mem_setStatus {status now : Int} {row : FriendRequestRow}
    (stored : row ∈ (db.setStatus requesterId targetId status now).requests.rows) :
    ∃ old ∈ db.requests.rows,
      row = if old.awaits requesterId targetId then old.set status now else old := by
  obtain ⟨old, oldStored, same⟩ := List.mem_map.mp stored
  exact ⟨old, oldStored, same.symm⟩

theorem addPairs_mutual {idA idB : Int32} (bothWays : db.Mutual) (different : idA ≠ idB) :
    ((db.addPair (idA, idB)).addPair (idB, idA)).Mutual where
  symm first second stored := by
    simp only [mem_addPair, Prod.mk.injEq] at stored ⊢
    rcases stored with (old | ⟨rfl, rfl⟩) | ⟨rfl, rfl⟩
    · exact .inl (.inl (bothWays.symm first second old))
    · exact .inr ⟨rfl, rfl⟩
    · exact .inl (.inr ⟨rfl, rfl⟩)
  irrefl id stored := by
    simp only [mem_addPair, Prod.mk.injEq] at stored
    rcases stored with (old | ⟨rfl, same⟩) | ⟨rfl, same⟩
    · exact bothWays.irrefl id old
    · exact different same
    · exact different same.symm
  requested := bothWays.requested

theorem setStatus_mutual {status now : Int} (bothWays : db.Mutual) :
    (db.setStatus requesterId targetId status now).Mutual where
  symm := bothWays.symm
  irrefl := bothWays.irrefl
  requested row stored := by
    obtain ⟨old, oldStored, rfl⟩ := mem_setStatus stored
    split
    · exact bothWays.requested old oldStored
    · exact bothWays.requested old oldStored

theorem addFriendBidirectional_mutual {writes : Nat → Bool} {idA idB : Int32}
    (bothWays : db.Mutual) (different : idA ≠ idB) :
    (db.addFriendBidirectional writes idA idB).2.Mutual := by
  unfold addFriendBidirectional
  dsimp only
  split
  · exact bothWays
  · split
    · exact bothWays
    · split
      · exact bothWays
      · split
        · exact addPairs_mutual bothWays different
        · exact bothWays

theorem createFriendRequest_cases (written : Bool) (now : Int) (db : FriendTables)
    (requesterId targetId : Int32) :
    (db.createFriendRequest written now requesterId targetId).2 = db ∨
    (requesterId ≠ targetId ∧
      (db.createFriendRequest written now requesterId targetId).2.friends = db.friends ∧
      ∀ row ∈ (db.createFriendRequest written now requesterId targetId).2.requests.rows,
        row ∈ db.requests.rows ∨ row.requesterId = requesterId ∧ row.targetId = targetId) := by
  unfold createFriendRequest
  split
  · exact .inl rfl
  · rename_i valid
    right
    refine ⟨fun same => valid (.inr (.inr (.inl same))), ?_⟩
    split
    · rename_i requests inserted
      refine ⟨rfl, fun row stored => ?_⟩
      rw [(Table.insert_eq_some inserted).1] at stored
      rcases List.mem_append.mp stored with old | new
      · exact .inl old
      · rw [List.mem_singleton.mp new]
        exact .inr ⟨rfl, rfl⟩
    · refine ⟨rfl, fun row stored => ?_⟩
      obtain ⟨old, oldStored, rfl⟩ := List.mem_map.mp stored
      split
      · rename_i same
        simp only [FriendRequestRow.between, Bool.and_eq_true, decide_eq_true_eq] at same
        exact .inr same
      · exact .inl oldStored

theorem resolveFriendRequest_cases (writes : Nat → Bool) (now : Int) (db : FriendTables)
    (requesterId targetId : Int32) (accept : Bool) :
    (db.resolveFriendRequest writes now requesterId targetId accept).2 = db ∨
    ((∃ row ∈ db.requests.rows, row.requesterId = requesterId ∧ row.targetId = targetId) ∧
      ((db.resolveFriendRequest writes now requesterId targetId accept).2 =
          db.setStatus requesterId targetId 2 now ∨
        (db.resolveFriendRequest writes now requesterId targetId accept).2 =
          ((((db.setStatus requesterId targetId 1 now).addPair (requesterId, targetId)).addPair
            (targetId, requesterId)).setStatus targetId requesterId 1 now))) := by
  unfold resolveFriendRequest
  dsimp only
  split
  · exact .inl rfl
  · split
    · exact .inl rfl
    · rename_i updated
      simp only [not_or, ne_eq, Decidable.not_not, Txn.begin_tables] at updated
      have pending : ∃ row ∈ db.requests.rows,
          row.requesterId = requesterId ∧ row.targetId = targetId := by
        obtain ⟨row, stored, awaits⟩ := List.countP_pos_iff.mp (updated.2 ▸ Nat.one_pos)
        simp only [FriendRequestRow.awaits, FriendRequestRow.between, Bool.and_eq_true,
          decide_eq_true_eq] at awaits
        exact ⟨row, stored, awaits.1⟩
      cases accept with
      | false =>
          simp only [Bool.not_false, if_true, Bool.false_eq_true, if_false]
          split
          · exact .inr ⟨pending, .inl rfl⟩
          · exact .inl rfl
      | true =>
          simp only [Bool.not_true, Bool.false_eq_true, if_false, if_true]
          split
          · exact .inl rfl
          · split
            · exact .inl rfl
            · split
              · exact .inl rfl
              · split
                · exact .inr ⟨pending, .inr rfl⟩
                · exact .inl rfl

theorem removeFriendBidirectional_cases (writes : Nat → Bool) (db : FriendTables)
    (idA idB : Int32) :
    (db.removeFriendBidirectional writes idA idB).2 = db ∨
    (db.removeFriendBidirectional writes idA idB).2 = { db with
      friends := db.friends.delete fun pair => pair = (idA, idB) || pair = (idB, idA) } := by
  unfold removeFriendBidirectional
  dsimp only
  split
  · exact .inl rfl
  · split
    · exact .inl rfl
    · split
      · exact .inr rfl
      · exact .inl rfl

theorem mem_delete {idA idB : Int32} {pair : Int32 × Int32} :
    pair ∈ (db.friends.delete fun pair => pair = (idA, idB) || pair = (idB, idA)).rows ↔
      pair ∈ db.friends.rows ∧ pair ≠ (idA, idB) ∧ pair ≠ (idB, idA) := by
  simp [Table.delete, List.mem_filter]

/-! What the calls keep. -/

theorem Mutual.createFriendRequest (bothWays : db.Mutual) (written : Bool) (now : Int) :
    (db.createFriendRequest written now requesterId targetId).2.Mutual := by
  rcases createFriendRequest_cases written now db requesterId targetId with
    same | ⟨different, friends, requests⟩
  · rwa [same]
  · refine ⟨friends ▸ bothWays.symm, friends ▸ bothWays.irrefl, fun row stored => ?_⟩
    rcases requests row stored with old | ⟨requester, target⟩
    · exact bothWays.requested row old
    · rw [requester, target]
      exact different

theorem Mutual.resolveFriendRequest (bothWays : db.Mutual) (writes : Nat → Bool) (now : Int)
    (accept : Bool) :
    (db.resolveFriendRequest writes now requesterId targetId accept).2.Mutual := by
  rcases resolveFriendRequest_cases writes now db requesterId targetId accept with
    same | ⟨⟨row, stored, requester, target⟩, rejected | accepted⟩
  · rwa [same]
  · rw [rejected]
    exact setStatus_mutual bothWays
  · have different : requesterId ≠ targetId := by
      rw [← requester, ← target]
      exact bothWays.requested row stored
    rw [accepted]
    exact setStatus_mutual (addPairs_mutual (setStatus_mutual bothWays) different)

theorem Mutual.removeFriendBidirectional (bothWays : db.Mutual) (writes : Nat → Bool)
    (idA idB : Int32) : (db.removeFriendBidirectional writes idA idB).2.Mutual := by
  rcases removeFriendBidirectional_cases writes db idA idB with same | removed
  · rwa [same]
  · rw [removed]
    refine ⟨fun first second stored => ?_, fun id stored => ?_, bothWays.requested⟩
    · obtain ⟨old, one, other⟩ := mem_delete.mp stored
      refine mem_delete.mpr ⟨bothWays.symm first second old, ?_, ?_⟩
      · intro same
        simp_all
      · intro same
        simp_all
    · exact bothWays.irrefl id (mem_delete.mp stored).1

theorem NonePending.createFriendRequest (none : db.NonePending) (bothWays : db.Mutual)
    (strangers : (requesterId, targetId) ∉ db.friends.rows) (written : Bool) (now : Int) :
    (db.createFriendRequest written now requesterId targetId).2.NonePending := by
  rcases createFriendRequest_cases written now db requesterId targetId with
    same | ⟨_, friends, requests⟩
  · rwa [same]
  · intro idA idB friend row stored status between
    rw [friends] at friend
    rcases requests row stored with old | ⟨requester, target⟩
    · exact none idA idB friend row old status between
    · rw [requester, target] at between
      rcases between with ⟨rfl, rfl⟩ | ⟨rfl, rfl⟩
      · exact strangers friend
      · exact strangers (bothWays.symm _ _ friend)

theorem setStatus_pending {status now : Int} (answered : Int32.ofInt status ≠ 0)
    {row : FriendRequestRow}
    (stored : row ∈ (db.setStatus requesterId targetId status now).requests.rows)
    (pending : row.status = 0) :
    row ∈ db.requests.rows ∧ ¬(row.requesterId = requesterId ∧ row.targetId = targetId) := by
  obtain ⟨old, oldStored, rfl⟩ := mem_setStatus stored
  split at pending
  · exact absurd pending answered
  · rename_i other
    rw [if_neg other]
    refine ⟨oldStored, fun same => other ?_⟩
    simpa [FriendRequestRow.awaits, FriendRequestRow.between, pending] using same

theorem NonePending.resolveFriendRequest (none : db.NonePending) (writes : Nat → Bool)
    (now : Int) (accept : Bool) :
    (db.resolveFriendRequest writes now requesterId targetId accept).2.NonePending := by
  rcases resolveFriendRequest_cases writes now db requesterId targetId accept with
    same | ⟨_, rejected | accepted⟩
  · rwa [same]
  · rw [rejected]
    intro idA idB friend row stored status
    exact none idA idB friend row (setStatus_pending (by decide) stored status).1 status
  · rw [accepted]
    intro idA idB friend row stored status between
    obtain ⟨afterPairs, reverse⟩ := setStatus_pending (by decide) stored status
    obtain ⟨old, forward⟩ := setStatus_pending (by decide) afterPairs status
    rcases mem_addPair.mp friend with earlier | second
    · rcases mem_addPair.mp earlier with first | pair
      · exact none idA idB first row old status between
      · obtain ⟨rfl, rfl⟩ := Prod.mk.inj pair
        exact between.elim forward reverse
    · obtain ⟨rfl, rfl⟩ := Prod.mk.inj second
      exact between.elim reverse forward

theorem NonePending.removeFriendBidirectional (none : db.NonePending) (writes : Nat → Bool)
    (idA idB : Int32) : (db.removeFriendBidirectional writes idA idB).2.NonePending := by
  rcases removeFriendBidirectional_cases writes db idA idB with same | removed
  · rwa [same]
  · rw [removed]
    intro first second friend
    exact none first second (mem_delete.mp friend).1

theorem seeded_mutual : seeded.Mutual := by
  have first : Mutual ⟨.empty, .empty⟩ := ⟨by simp, by simp, by simp⟩
  have second := addPairs_mutual first (show (1 : Int32) ≠ 2 by decide)
  exact addPairs_mutual second (show (2 : Int32) ≠ 3 by decide)

theorem seeded_nonePending : seeded.NonePending := by
  intro _ _ _ row stored
  exact absurd stored (by simp [seeded, addPair])

end FriendTables

def FriendEvent.Timely (state : FriendState) : FriendEvent → Prop
  | .createRequest _ _ userId friendId => state.db.isFriend userId friendId = false
  | _ => True

theorem FriendStep.bothWays {before after : FriendState} {event : FriendEvent}
    (taken : FriendStep before event after) (bothWays : before.db.Mutual) : after.db.Mutual := by
  cases event with
  | checkAdd userId friendId =>
      simp only [FriendStep, FriendState.step] at taken
      split_ifs at taken <;> (obtain rfl := Option.some.inj taken; exact bothWays)
  | createRequest written now userId friendId =>
      simp only [FriendStep, FriendState.step] at taken
      split_ifs at taken <;>
        (obtain rfl := Option.some.inj taken; exact bothWays.createFriendRequest written now)
  | reply writes now userId destId result =>
      simp only [FriendStep, FriendState.step] at taken
      split_ifs at taken
      obtain rfl := Option.some.inj taken
      exact bothWays.resolveFriendRequest writes now _
  | checkDelete userId friendId =>
      simp only [FriendStep, FriendState.step] at taken
      split_ifs at taken <;> (obtain rfl := Option.some.inj taken; exact bothWays)
  | remove writes userId friendId =>
      simp only [FriendStep, FriendState.step] at taken
      split_ifs at taken <;>
        (obtain rfl := Option.some.inj taken
         exact bothWays.removeFriendBidirectional writes userId friendId)

theorem FriendStep.nonePending {before after : FriendState} {event : FriendEvent}
    (taken : FriendStep before event after) (timely : event.Timely before)
    (bothWays : before.db.Mutual) (none : before.db.NonePending) : after.db.NonePending := by
  cases event with
  | checkAdd userId friendId =>
      simp only [FriendStep, FriendState.step] at taken
      split_ifs at taken <;> (obtain rfl := Option.some.inj taken; exact none)
  | createRequest written now userId friendId =>
      simp only [FriendStep, FriendState.step] at taken
      split_ifs at taken <;>
        (obtain rfl := Option.some.inj taken
         exact none.createFriendRequest bothWays (of_decide_eq_false timely) written now)
  | reply writes now userId destId result =>
      simp only [FriendStep, FriendState.step] at taken
      split_ifs at taken
      obtain rfl := Option.some.inj taken
      exact none.resolveFriendRequest writes now _
  | checkDelete userId friendId =>
      simp only [FriendStep, FriendState.step] at taken
      split_ifs at taken <;> (obtain rfl := Option.some.inj taken; exact none)
  | remove writes userId friendId =>
      simp only [FriendStep, FriendState.step] at taken
      split_ifs at taken <;>
        (obtain rfl := Option.some.inj taken
         exact none.removeFriendBidirectional writes userId friendId)

def FriendState.Kept (state : FriendState) : Prop := state.db.Mutual ∧ state.db.NonePending

/-- Friendship goes both ways in every run. Nothing is pending between friends in
every run in which requests are stored between strangers. -/
theorem friendGraph_run (events : List FriendEvent) (state : FriendState) :
    (Run FriendStep .start events state →
      (∀ idA idB, (idA, idB) ∈ state.db.friends.rows → (idB, idA) ∈ state.db.friends.rows) ∧
      ∀ id, (id, id) ∉ state.db.friends.rows) ∧
    (Run (fun before event after => FriendStep before event after ∧
      event.Timely before) .start events state → state.db.NonePending) := by
  constructor
  · intro run
    have initial : FriendState.start.db.Mutual := FriendTables.seeded_mutual
    have bothWays : state.db.Mutual :=
      run.invariant initial fun _ _ _ bothWays taken => FriendStep.bothWays taken bothWays
    exact ⟨bothWays.symm, bothWays.irrefl⟩
  · intro run
    have initial : FriendState.start.Kept :=
      ⟨FriendTables.seeded_mutual, FriendTables.seeded_nonePending⟩
    have kept : state.Kept := run.invariant initial fun _ _ _ kept taken =>
      ⟨FriendStep.bothWays taken.1 kept.1, FriendStep.nonePending taken.1 taken.2 kept.1 kept.2⟩
    exact kept.2

def lateRequest : List FriendEvent :=
  [.checkAdd 1 3, .createRequest true 0 1 3, .checkAdd 1 3,
    .reply (fun _ => true) 1 3 1 addFriendAgree, .createRequest true 2 1 3]

theorem lateRequest_pending :
    ¬∀ events state, Run FriendStep .start events state → state.db.NonePending := by
  intro holds
  have found : (lateRequest.foldlM FriendState.step .start).any (fun state =>
      (1, 3) ∈ state.db.friends.rows ∧ ∃ row ∈ state.db.requests.rows, row.awaits 1 3) = true := by
    decide +kernel
  obtain ⟨state, reached, both⟩ := (Option.any_eq_true _ _).mp found
  obtain ⟨friend, row, stored, awaits⟩ := of_decide_eq_true both
  simp only [FriendRequestRow.awaits, FriendRequestRow.between, Bool.and_eq_true,
    decide_eq_true_eq] at awaits
  exact holds _ state (Run.of_foldlM reached) 1 3 friend row stored awaits.2 (.inl awaits.1)

end Jitong
