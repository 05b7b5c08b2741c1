import Jitong.Lib.Sql
import Jitong.OperationResults

/-!
Friend requests on the client: the packets that tell of them, the rows of `friend_requests`, and the
answers that the user gives.
-/

namespace Jitong

open Lib ClientRuntime

/-- What `ClientCore` hands on of a request, and what the packet `FriendRequestItem` holds. -/
structure FriendProtocolRequest where
  requesterId : Int32
  targetId : Int32
  createdAt : Int := 0
  requesterNick : Bytes
  targetNick : Bytes
  deriving DecidableEq

inductive RequestDirection
  | incoming | outgoing
  deriving DecidableEq

inductive RequestState
  | pending | accepted | rejected
  deriving DecidableEq

structure FriendRequestDto where
  requestId : Bytes
  fromUserId : Int
  toUserId : Int
  direction : RequestDirection
  state : RequestState := .pending
  message : Bytes
  createdAt : Int
  deriving DecidableEq

structure LocalRequestRow extends FriendRequestDto where
  ownerId : Int
  updatedAt : Int
  deriving DecidableEq

def localRequestClash (first second : LocalRequestRow) : Bool :=
  first.ownerId = second.ownerId ∧ first.requestId = second.requestId

structure FriendProfile where
  friendId : Int
  nick : Bytes
  tel : Bytes
  avatar : Bytes
  signature : Bytes
  sex : Int32
  deriving DecidableEq

structure LocalFriends where
  requests : Table LocalRequestRow localRequestClash := .empty
  friends : Int × Int → Option FriendProfile := fun _ => none

def LocalRequestRow.keyed (ownerId : Int) (requestId : Bytes) (row : LocalRequestRow) : Bool :=
  row.ownerId = ownerId ∧ row.requestId = requestId

namespace LocalFriends

/-- `UPDATE friend_requests SET` columns outside the key, for the rows that a condition holds of. -/
def updateRequests (db : LocalFriends) (matching : LocalRequestRow → Bool)
    (change : LocalRequestRow → LocalRequestRow)
    (keeps : ∀ row, (change row).ownerId = row.ownerId ∧ (change row).requestId = row.requestId) :
    LocalFriends :=
  { db with
    requests := db.requests.rewrite (fun row => if matching row then change row else row) (by
      intro first second
      unfold localRequestClash
      split <;> split <;> simp [keeps]) }

def upsertFriendRequest (db : LocalFriends) (ownerId : Int) (r : FriendRequestDto) :
    Option (Bool × LocalFriends) :=
  if ownerId ≤ 0 ∨ r.requestId = [] then none
  else
    match db.requests.insert { r with ownerId := ownerId, updatedAt := r.createdAt } with
    | some requests => some (true, { db with requests := requests })
    | none =>
        some (false, db.updateRequests (·.keyed ownerId r.requestId)
          (fun row => { row with state := r.state, message := r.message, updatedAt := r.createdAt })
          fun _ => ⟨rfl, rfl⟩)

def setFriendRequestState (db : LocalFriends) (ownerId : Int) (requestId : Bytes)
    (state : RequestState) : Option LocalFriends :=
  if ownerId ≤ 0 ∨ requestId = [] then none
  else
    some (db.updateRequests (·.keyed ownerId requestId) (fun row => { row with state := state })
      fun _ => ⟨rfl, rfl⟩)

def acceptFriendRequest (db : LocalFriends) (ownerId : Int) (requestId : Bytes)
    (accepted : FriendProfile) : Option LocalFriends :=
  if ownerId ≤ 0 ∨ requestId = [] ∨ accepted.friendId ≤ 0 then none
  else
    let waits (row : LocalRequestRow) : Bool := row.keyed ownerId requestId && row.state = .pending
    if !db.requests.rows.any waits then some db
    else
      some
        { db.updateRequests waits (fun row => { row with state := .accepted })
            fun _ => ⟨rfl, rfl⟩ with
          friends := Function.update db.friends (ownerId, accepted.friendId) (some accepted) }

def rejectFriendRequest (db : LocalFriends) (ownerId : Int) (requestId : Bytes) :
    Option LocalFriends :=
  db.setFriendRequestState ownerId requestId .rejected

def requestIdOf (requesterId targetId : Int32) (createdAt : Int) : Bytes :=
  decimal requesterId.toInt ++ colon ++ decimal targetId.toInt ++ colon ++ decimal createdAt

def dtoOf (ownerId : Int) (value : FriendProtocolRequest) : FriendRequestDto where
  requestId := requestIdOf value.requesterId value.targetId value.createdAt
  fromUserId := value.requesterId.toInt
  toUserId := value.targetId.toInt
  direction := if value.targetId.toInt = ownerId then .incoming else .outgoing
  message := value.requesterNick
  createdAt := value.createdAt

def takeRequest (ownerId : Int) (db : LocalFriends) (value : FriendProtocolRequest) :
    LocalFriends :=
  if value.requesterId ≤ 0 ∨ value.targetId ≤ 0 then db
  else
    match db.upsertFriendRequest ownerId (dtoOf ownerId value) with
    | some (_, db) => db
    | none => db

def handleFriendRequestList (db : LocalFriends) (ownerId : Int)
    (values : List FriendProtocolRequest) : LocalFriends :=
  values.foldl (takeRequest ownerId) db

end LocalFriends

inductive FriendRequestEvent
  | addFriendRq (myid : Int32) (mynick frinick : Bytes)
  | friendRequestListRs (requests : List FriendProtocolRequest)
  | acceptFriendRequest (requestId : Bytes) (accepted : FriendProfile)
  | rejectFriendRequest (requestId : Bytes)
  deriving DecidableEq

namespace LocalFriends

/-- `onAddFriRq`: the packet says nothing of the time, which stays 0. -/
def onAddFriRq (myId : Int32) (myid : Int32) (mynick frinick : Bytes) : FriendProtocolRequest where
  requesterId := myid
  targetId := myId
  requesterNick := mynick
  targetNick := frinick

/-- The requests that an event tells the account `myId` of. -/
def told (myId : Int32) : FriendRequestEvent → List FriendProtocolRequest
  | .addFriendRq myid mynick frinick => [onAddFriRq myId myid mynick frinick]
  | .friendRequestListRs requests => requests
  | _ => []

def step (myId : Int32) (db : LocalFriends) : FriendRequestEvent → LocalFriends
  | .addFriendRq myid mynick frinick =>
      db.handleFriendRequestList myId.toInt [onAddFriRq myId myid mynick frinick]
  | .friendRequestListRs requests => db.handleFriendRequestList myId.toInt requests
  | .acceptFriendRequest requestId accepted =>
      (db.acceptFriendRequest myId.toInt requestId accepted).getD db
  | .rejectFriendRequest requestId => (db.rejectFriendRequest myId.toInt requestId).getD db

/-! Rows by their keys. -/

def row (db : LocalFriends) (ownerId : Int) (requestId : Bytes) : Option LocalRequestRow :=
  db.requests.rows.find? (·.keyed ownerId requestId)

variable {db after : LocalFriends} {ownerId : Int} {requestId : Bytes} {stored : LocalRequestRow}

theorem row_eq_some : db.row ownerId requestId = some stored ↔
    stored ∈ db.requests.rows ∧ stored.ownerId = ownerId ∧ stored.requestId = requestId := by
  constructor
  · intro found
    exact ⟨List.mem_of_find?_eq_some found, by
      simpa [LocalRequestRow.keyed] using List.find?_some found⟩
  · rintro ⟨member, rfl, rfl⟩
    refine db.requests.find?_eq_some_of_unique ?_ member (by simp [LocalRequestRow.keyed]) ?_
    · intro first second
      simp [localRequestClash, eq_comm]
    · intro other keyed
      simpa [LocalRequestRow.keyed, localRequestClash] using keyed

theorem row_updateRequests {matching : LocalRequestRow → Bool}
    {change : LocalRequestRow → LocalRequestRow}
    {keeps : ∀ row, (change row).ownerId = row.ownerId ∧ (change row).requestId = row.requestId} :
    (db.updateRequests matching change keeps).row ownerId requestId =
      (db.row ownerId requestId).map fun row => if matching row then change row else row := by
  have keyed (row : LocalRequestRow) :
      (if matching row then change row else row).keyed ownerId requestId =
        row.keyed ownerId requestId := by
    split <;> simp [LocalRequestRow.keyed, keeps]
  simp only [row, updateRequests, Table.rewrite_rows, List.find?_map]
  congr 2
  funext row
  exact keyed row

theorem updateRequests_isSome (matching : LocalRequestRow → Bool)
    (change : LocalRequestRow → LocalRequestRow)
    (keeps : ∀ row, (change row).ownerId = row.ownerId ∧ (change row).requestId = row.requestId) :
    ((db.updateRequests matching change keeps).row ownerId requestId).isSome =
      (db.row ownerId requestId).isSome := by
  rw [row_updateRequests, Option.isSome_map]

theorem upsertFriendRequest_row {r : FriendRequestDto} (owned : 0 < ownerId)
    (named : r.requestId ≠ []) :
    ∃ new after, db.upsertFriendRequest ownerId r = some (new, after) ∧
      (∃ stored, after.row ownerId r.requestId = some stored ∧ stored.state = r.state) ∧
      ∀ requestId, requestId ≠ r.requestId →
        after.row ownerId requestId = db.row ownerId requestId := by
  unfold upsertFriendRequest
  rw [if_neg (by simp [named, owned])]
  cases inserted : db.requests.insert { r with ownerId := ownerId, updatedAt := r.createdAt } with
  | some requests =>
      obtain ⟨rows, free⟩ := Table.insert_eq_some inserted
      refine ⟨true, _, rfl, ⟨{ r with ownerId := ownerId, updatedAt := r.createdAt },
        row_eq_some.mpr ⟨?_, rfl, rfl⟩, rfl⟩, ?_⟩
      · rw [rows]
        exact List.mem_append_right _ (List.mem_singleton.mpr rfl)
      · intro other differs
        simp [row, rows, List.find?_append, LocalRequestRow.keyed, Ne.symm differs]
  | none =>
      obtain ⟨known, member, clash⟩ := Table.insert_eq_none.mp inserted
      simp only [localRequestClash, decide_eq_true_eq] at clash
      refine ⟨false, _, rfl, ⟨{ known with
        state := r.state
        message := r.message
        updatedAt := r.createdAt }, ?_, rfl⟩, ?_⟩
      · rw [row_updateRequests, row_eq_some.mpr ⟨member, clash⟩]
        simp [LocalRequestRow.keyed, clash]
      · intro other differs
        rw [row_updateRequests]
        cases found : db.row ownerId other with
        | none => rfl
        | some stored =>
            obtain ⟨_, _, rfl⟩ := row_eq_some.mp found
            simp [LocalRequestRow.keyed, differs]

/-! The keys of the requests. -/

theorem decimal_injective {left right : Int} (same : decimal left = decimal right) :
    left = right := by
  unfold decimal at same
  have minus (number : Nat) (rest : Bytes) : digitBytes number ≠ 0x2D :: rest := by
    intro signed
    exact absurd ((digitBytes_spec number).2.1 0x2D (signed ▸ List.mem_cons_self)) (by decide)
  split at same <;> split at same
  · have digits := digitBytes_injective (List.cons.inj same).2
    omega
  · exact absurd same.symm (minus _ _)
  · exact absurd same (minus _ _)
  · have digits := digitBytes_injective same
    omega

theorem requestIdOf_injective {requesterId targetId otherRequester otherTarget : Int32}
    {createdAt otherTime : Int}
    (same : requestIdOf requesterId targetId createdAt =
      requestIdOf otherRequester otherTarget otherTime) :
    requesterId = otherRequester ∧ targetId = otherTarget ∧ createdAt = otherTime := by
  obtain ⟨front, times⟩ := last_colon (colon_notin_decimal _) (colon_notin_decimal _) same
  obtain ⟨requesters, targets⟩ := last_colon (colon_notin_decimal _) (colon_notin_decimal _) front
  exact ⟨Int32.toInt_inj.mp (decimal_injective requesters),
    Int32.toInt_inj.mp (decimal_injective targets), decimal_injective times⟩

theorem requestIdOf_ne_nil (requesterId targetId : Int32) (createdAt : Int) :
    requestIdOf requesterId targetId createdAt ≠ [] := by
  simp [requestIdOf, colon, ascii]

/-! One request that waits on the server, and all that is told of it. -/

def names (r : FriendProtocolRequest) (requestId : Bytes) : Bool :=
  requestId = requestIdOf r.requesterId r.targetId 0 ∨
    requestId = requestIdOf r.requesterId r.targetId r.createdAt

def concerns (r value : FriendProtocolRequest) : Bool :=
  value.requesterId = r.requesterId ∧ value.targetId = r.targetId

def deliveredAt (r : FriendProtocolRequest) : FriendRequestEvent → Int
  | .addFriendRq .. => 0
  | _ => r.createdAt

def deliveredId (r : FriendProtocolRequest) (event : FriendRequestEvent) : Bytes :=
  requestIdOf r.requesterId r.targetId (deliveredAt r event)

def delivers (myId : Int32) (r : FriendProtocolRequest) (event : FriendRequestEvent) : Bool :=
  (told myId event).any (concerns r)

def About (myId : Int32) (r : FriendProtocolRequest) (event : FriendRequestEvent) : Prop :=
  ∀ value ∈ told myId event, concerns r value = true → value.createdAt = deliveredAt r event

variable {myId : Int32} {r : FriendProtocolRequest} {event : FriendRequestEvent}

theorem names_deliveredId : names r (deliveredId r event) = true := by
  unfold names deliveredId deliveredAt
  cases event <;> simp

theorem takeRequest_row {value : FriendProtocolRequest} (owned : 0 < ownerId)
    (real : 0 < value.requesterId ∧ 0 < value.targetId) :
    (∃ stored, (takeRequest ownerId db value).row ownerId
        (requestIdOf value.requesterId value.targetId value.createdAt) = some stored ∧
      stored.state = .pending) ∧
    ∀ requestId, requestId ≠ requestIdOf value.requesterId value.targetId value.createdAt →
      (takeRequest ownerId db value).row ownerId requestId = db.row ownerId requestId := by
  have positive : ¬(value.requesterId ≤ 0 ∨ value.targetId ≤ 0) := by
    simpa [not_or, Int32.not_le] using real
  obtain ⟨new, after, upserted, own, others⟩ := @upsertFriendRequest_row db ownerId
    (dtoOf ownerId value) owned (requestIdOf_ne_nil _ _ _)
  rw [takeRequest, if_neg positive, upserted]
  exact ⟨own, others⟩

theorem takeRequest_other {value : FriendProtocolRequest} (owned : 0 < ownerId)
    (other : concerns r value = false) (named : names r requestId = true) :
    (takeRequest ownerId db value).row ownerId requestId = db.row ownerId requestId := by
  by_cases real : 0 < value.requesterId ∧ 0 < value.targetId
  · refine (takeRequest_row owned real).2 requestId ?_
    rintro rfl
    simp only [names, decide_eq_true_eq] at named
    simp only [concerns, decide_eq_false_iff_not] at other
    rcases named with same | same
    · obtain ⟨requesters, targets, _⟩ := requestIdOf_injective same
      exact other ⟨requesters, targets⟩
    · obtain ⟨requesters, targets, _⟩ := requestIdOf_injective same
      exact other ⟨requesters, targets⟩
  · rw [takeRequest, if_pos]
    simpa [← Int32.not_le, ← not_or, imp_iff_not_or] using real

theorem handleFriendRequestList_row {values : List FriendProtocolRequest} {time : Int}
    (owned : 0 < ownerId) (real : 0 < r.requesterId ∧ 0 < r.targetId)
    (own : names r (requestIdOf r.requesterId r.targetId time) = true)
    (timed : ∀ value ∈ values, concerns r value = true → value.createdAt = time) :
    (values.any (concerns r) = true → ∃ stored,
      (db.handleFriendRequestList ownerId values).row ownerId
        (requestIdOf r.requesterId r.targetId time) = some stored ∧ stored.state = .pending) ∧
    ∀ requestId, names r requestId = true →
      (values.any (concerns r) = true → requestId ≠ requestIdOf r.requesterId r.targetId time) →
      (db.handleFriendRequestList ownerId values).row ownerId requestId =
        db.row ownerId requestId := by
  unfold handleFriendRequestList
  induction values using List.reverseRecOn with
  | nil => simp
  | append_singleton front value ih =>
      obtain ⟨pends, kept⟩ := ih fun other member => timed other (List.mem_append_left _ member)
      have last := timed value (List.mem_append_right _ List.mem_cons_self)
      rw [List.foldl_append, List.foldl_cons, List.foldl_nil]
      simp only [List.any_append, List.any_cons, List.any_nil, Bool.or_false, Bool.or_eq_true]
      cases concern : concerns r value with
      | true =>
          have same := last concern
          simp only [concerns, decide_eq_true_eq] at concern
          obtain ⟨taken, others⟩ := @takeRequest_row (front.foldl (takeRequest ownerId) db) ownerId
            value owned (by rw [concern.1, concern.2]; exact real)
          rw [concern.1, concern.2, same] at taken others
          refine ⟨fun _ => taken, fun requestId named apart => ?_⟩
          rw [others requestId (apart (.inr rfl))]
          exact kept requestId named fun _ => apart (.inr rfl)
      | false =>
          simp only [Bool.false_eq_true, or_false]
          constructor
          · intro earlier
            rw [takeRequest_other owned concern own]
            exact pends earlier
          · intro requestId named apart
            rw [takeRequest_other owned concern named]
            exact kept requestId named apart

theorem step_answer (quiet : told myId event = []) :
    ((step myId db event).row ownerId requestId).isSome = (db.row ownerId requestId).isSome := by
  cases event with
  | addFriendRq => simp [told] at quiet
  | friendRequestListRs requests =>
      simp only [told] at quiet
      subst quiet
      rfl
  | acceptFriendRequest answered accepted =>
      unfold step acceptFriendRequest
      dsimp only
      split
      · rfl
      · split
        · rfl
        · exact updateRequests_isSome
            (fun row => row.keyed myId.toInt answered && row.state = .pending)
            (fun row => { row with state := .accepted }) fun _ => ⟨rfl, rfl⟩
  | rejectFriendRequest answered =>
      unfold step rejectFriendRequest setFriendRequestState
      dsimp only
      split
      · rfl
      · exact updateRequests_isSome (·.keyed myId.toInt answered)
          (fun row => { row with state := .rejected }) fun _ => ⟨rfl, rfl⟩

theorem step_row (owned : 0 < myId) (real : 0 < r.requesterId ∧ 0 < r.targetId)
    (about : About myId r event) :
    (delivers myId r event = true → ∃ stored,
      (step myId db event).row myId.toInt (deliveredId r event) = some stored ∧
        stored.state = .pending ∧
      ∀ requestId, names r requestId = true → requestId ≠ deliveredId r event →
        (step myId db event).row myId.toInt requestId = db.row myId.toInt requestId) ∧
    (delivers myId r event = false → ∀ requestId, names r requestId = true →
      ((step myId db event).row myId.toInt requestId).isSome =
        (db.row myId.toInt requestId).isSome) := by
  have positive : 0 < myId.toInt := Int32.lt_iff_toInt_lt.mp owned
  by_cases quiet : told myId event = []
  · have silent : delivers myId r event = false := by simp [delivers, quiet]
    exact ⟨by simp [silent], fun _ requestId _ => step_answer quiet⟩
  · have taken : step myId db event =
        db.handleFriendRequestList myId.toInt (told myId event) := by
      cases event <;> simp_all [told, step]
    obtain ⟨pends, others⟩ := @handleFriendRequestList_row db myId.toInt r (told myId event)
      (deliveredAt r event) positive real names_deliveredId about
    rw [taken]
    constructor
    · intro delivered
      obtain ⟨stored, found, pending⟩ := pends delivered
      exact ⟨stored, found, pending, fun requestId named apart =>
        others requestId named fun _ => apart⟩
    · intro undelivered requestId named
      rw [others requestId named fun delivered => absurd delivered (by
        simpa [delivers] using undelivered)]

/-! Mirrored once. -/

def isRow (myId : Int32) (r : FriendProtocolRequest) (row : LocalRequestRow) : Bool :=
  row.ownerId = myId.toInt && names r row.requestId

def Single (myId : Int32) (r : FriendProtocolRequest) (db : LocalFriends) : Prop :=
  ∃! row, row ∈ db.requests.rows ∧ isRow myId r row = true

def StaysAnswered (myId : Int32) (r : FriendProtocolRequest) (before after : LocalFriends) : Prop :=
  ∀ row ∈ before.requests.rows, isRow myId r row = true → row.state ≠ .pending →
    ∃ later ∈ after.requests.rows, later.ownerId = row.ownerId ∧
      later.requestId = row.requestId ∧ later.state ≠ .pending

/-- Over a run, from tables without the request: one row when it was told of, and no delivery undoes
an answer. -/
structure Mirrored (myId : Int32) (r : FriendProtocolRequest) (start : LocalFriends)
    (events : List FriendRequestEvent) : Prop where
  once : ∀ front back, front ++ back = events → (∃ event ∈ front, delivers myId r event = true) →
    Single myId r (front.foldl (step myId) start)
  answered : ∀ front event back, front ++ event :: back = events → delivers myId r event = true →
    StaysAnswered myId r (front.foldl (step myId) start)
      (step myId (front.foldl (step myId) start) event)

def permits (myId : Int32) (r : FriendProtocolRequest) (db : LocalFriends)
    (event : FriendRequestEvent) : Bool :=
  !delivers myId r event || db.requests.rows.all fun row => !isRow myId r row ||
    row.requestId = deliveredId r event && row.state = .pending

theorem isRow_iff : (stored ∈ db.requests.rows ∧ isRow myId r stored = true) ↔
    db.row myId.toInt stored.requestId = some stored ∧ names r stored.requestId = true := by
  rw [row_eq_some]
  simp only [isRow, Bool.and_eq_true, decide_eq_true_eq]
  tauto

theorem single_iff : Single myId r db ↔
    ∃! requestId, names r requestId = true ∧ (db.row myId.toInt requestId).isSome = true := by
  constructor
  · rintro ⟨row, own, unique⟩
    obtain ⟨found, named⟩ := isRow_iff.mp own
    refine ⟨row.requestId, ⟨named, by simp [found]⟩, ?_⟩
    rintro requestId ⟨alsoNamed, held⟩
    obtain ⟨other, there⟩ := Option.isSome_iff_exists.mp held
    obtain ⟨_, _, rfl⟩ := row_eq_some.mp there
    rw [unique other (isRow_iff.mpr ⟨there, alsoNamed⟩)]
  · rintro ⟨requestId, ⟨named, held⟩, unique⟩
    obtain ⟨row, there⟩ := Option.isSome_iff_exists.mp held
    obtain ⟨_, _, rfl⟩ := row_eq_some.mp there
    refine ⟨row, isRow_iff.mpr ⟨there, named⟩, ?_⟩
    intro other own
    obtain ⟨found, alsoNamed⟩ := isRow_iff.mp own
    have same := unique other.requestId ⟨alsoNamed, by simp [found]⟩
    rw [same, there, Option.some.injEq] at found
    exact found.symm

theorem permits_iff : permits myId r db event = true ↔ (delivers myId r event = true →
    ∀ requestId stored, names r requestId = true → db.row myId.toInt requestId = some stored →
      requestId = deliveredId r event ∧ stored.state = .pending) := by
  simp only [permits, Bool.or_eq_true, Bool.not_eq_true', List.all_eq_true, Bool.and_eq_true,
    decide_eq_true_eq, ← Bool.not_eq_true, ← imp_iff_not_or]
  refine imp_congr_right fun _ => ?_
  constructor
  · intro all requestId stored named found
    obtain ⟨member, _, rfl⟩ := row_eq_some.mp found
    exact all stored member (isRow_iff.mpr ⟨found, named⟩).2
  · intro all stored member own
    obtain ⟨found, named⟩ := isRow_iff.mp ⟨member, own⟩
    exact all stored.requestId stored named found

theorem step_mirrored_iff (owned : 0 < myId) (real : 0 < r.requesterId ∧ 0 < r.targetId)
    (about : About myId r event) :
    (delivers myId r event = true → Single myId r (step myId db event) ∧
      StaysAnswered myId r db (step myId db event)) ↔ permits myId r db event = true := by
  rw [permits_iff]
  refine forall_congr' fun delivered => ?_
  obtain ⟨stored, found, pending, others⟩ := (@step_row db myId r event owned real about).1 delivered
  rw [single_iff]
  constructor
  · rintro ⟨⟨only, _, unique⟩, answered⟩ requestId known named there
    have own := unique _ ⟨names_deliveredId, by rw [found]; rfl⟩
    have same : requestId = deliveredId r event := by
      by_contra apart
      have kept := others requestId named apart
      exact apart ((unique requestId ⟨named, by rw [kept, there]; rfl⟩).trans own.symm)
    refine ⟨same, ?_⟩
    by_contra settled
    obtain ⟨_, _, rfl⟩ := row_eq_some.mp there
    obtain ⟨later, member, owner, id, lasting⟩ :=
      answered known (row_eq_some.mp there).1 (isRow_iff.mpr ⟨there, named⟩).2 settled
    have held := row_eq_some.mpr ⟨member, owner.trans (row_eq_some.mp there).2.1, id.trans same⟩
    rw [found, Option.some.injEq] at held
    exact lasting (held ▸ pending)
  · intro all
    refine ⟨⟨deliveredId r event, ⟨names_deliveredId, by rw [found]; rfl⟩, ?_⟩, ?_⟩
    · rintro requestId ⟨named, held⟩
      by_contra apart
      rw [others requestId named apart] at held
      obtain ⟨known, there⟩ := Option.isSome_iff_exists.mp held
      exact apart (all requestId known named there).1
    · intro row member own settled
      obtain ⟨there, named⟩ := isRow_iff.mp ⟨member, own⟩
      exact absurd (all _ row named there).2 settled

theorem step_single (owned : 0 < myId) (real : 0 < r.requesterId ∧ 0 < r.targetId)
    (about : About myId r event) (undelivered : delivers myId r event = false)
    (single : Single myId r db) : Single myId r (step myId db event) := by
  have kept := (@step_row db myId r event owned real about).2 undelivered
  rw [single_iff] at single ⊢
  obtain ⟨only, ⟨named, held⟩, unique⟩ := single
  refine ⟨only, ⟨named, by rw [kept only named]; exact held⟩, ?_⟩
  rintro requestId ⟨alsoNamed, alsoHeld⟩
  exact unique requestId ⟨alsoNamed, by rw [← kept requestId alsoNamed]; exact alsoHeld⟩

/-- A request that waits for a user is mirrored once in every run of permitted events, and in no
other run. -/
theorem friendRequest_mirrored_iff (real : 0 < r.requesterId ∧ 0 < r.targetId)
    (mine : myId = r.requesterId ∨ myId = r.targetId) (start : LocalFriends)
    (events : List FriendRequestEvent) (about : ∀ event ∈ events, About myId r event) :
    Mirrored myId r start events ↔
      guarded (step myId) (permits myId r) start events = true := by
  have owned : 0 < myId := by
    rcases mine with rfl | rfl
    · exact real.1
    · exact real.2
  rw [← permitted_iff_guarded (fun _ => True) (About myId r)
    (fun db event => delivers myId r event = true → Single myId r (step myId db event) ∧
      StaysAnswered myId r db (step myId db event))
    (fun _ _ _ _ => trivial) (fun _ _ about _ => step_mirrored_iff owned real about) start trivial
    events about]
  constructor
  · intro mirrored front event back split delivered
    have told := mirrored.once (front ++ [event]) back (by simpa using split)
      ⟨event, by simp, delivered⟩
    rw [List.foldl_append] at told
    exact ⟨told, mirrored.answered front event back split delivered⟩
  · intro steps
    refine ⟨fun front back split => ?_, fun front event back split delivered =>
      (steps front event back split delivered).2⟩
    induction front using List.reverseRecOn generalizing back with
    | nil => simp
    | append_singleton earlier event ih =>
        have whole : earlier ++ event :: back = events := by simpa using split
        rintro ⟨first, member, delivered⟩
        rw [List.foldl_append, List.foldl_cons, List.foldl_nil]
        cases last : delivers myId r event with
        | true => exact (steps earlier event back whole last).1
        | false =>
            have before : first ∈ earlier := by
              rcases List.mem_append.mp member with front | only
              · exact front
              · rw [List.mem_singleton.mp only, last] at delivered
                exact Bool.noConfusion delivered
            exact step_single owned real (about event (by simp [← whole])) last
              (ih (event :: back) whole ⟨first, before, delivered⟩)

def asked : FriendProtocolRequest where
  requesterId := 1
  targetId := 2
  createdAt := 1700000000
  requesterNick := ascii "ann"
  targetNick := ascii "bob"

def listedTwice : List FriendRequestEvent :=
  [.friendRequestListRs [asked],
    .friendRequestListRs [asked],
    .acceptFriendRequest (ascii "1:2:1700000000") ⟨1, ascii "ann", [], [], [], 0⟩]

theorem friendRequest_mirrored_iff_listed :
    Mirrored 2 asked {} listedTwice ↔
      guarded (step 2) (permits 2 asked) {} listedTwice = true :=
  @friendRequest_mirrored_iff 2 asked ⟨by decide, by decide⟩ (.inr rfl) {} listedTwice (by
    unfold About
    decide +kernel)

def pushedAndListed : List FriendRequestEvent :=
  [.addFriendRq 1 (ascii "ann") (ascii "bob"), .friendRequestListRs [asked]]

def listedLate : List FriendRequestEvent :=
  [.friendRequestListRs [asked],
    .rejectFriendRequest (ascii "1:2:1700000000"),
    .friendRequestListRs [asked]]

theorem friendRequest_unmirrored :
    ¬Mirrored 2 asked {} pushedAndListed ∧ ¬Mirrored 2 asked {} listedLate := by
  constructor
  · intro mirrored
    have told : ∃ event ∈ pushedAndListed, delivers 2 asked event = true :=
      ⟨_, List.mem_cons_self, by decide⟩
    obtain ⟨only, _, unique⟩ := mirrored.once pushedAndListed [] (List.append_nil _) told
    have rows : (pushedAndListed.foldl (step 2) {}).requests.rows.map (·.requestId) =
          [ascii "1:2:0", ascii "1:2:1700000000"] ∧
        (pushedAndListed.foldl (step 2) {}).requests.rows.all (isRow 2 asked) = true := by
      decide +kernel
    have same (row : LocalRequestRow)
        (member : row ∈ (pushedAndListed.foldl (step 2) {}).requests.rows) : row = only :=
      unique row ⟨member, List.all_eq_true.mp rows.2 row member⟩
    have ids : ∀ id ∈ [ascii "1:2:0", ascii "1:2:1700000000"], id = only.requestId := by
      rw [← rows.1]
      intro id member
      obtain ⟨row, stored, rfl⟩ := List.mem_map.mp member
      rw [same row stored]
    have first := ids (ascii "1:2:0") (by simp)
    have second := ids (ascii "1:2:1700000000") (by simp)
    exact absurd (first.trans second.symm) (by decide +kernel)
  · intro mirrored
    have pends : (listedLate.foldl (step 2) {}).requests.rows.all (·.state = .pending) = true := by
      decide +kernel
    obtain ⟨row, member, own, settled⟩ : ∃ row ∈
        ((listedLate.take 2).foldl (step 2) {}).requests.rows,
        isRow 2 asked row = true ∧ row.state ≠ .pending := by decide +kernel
    obtain ⟨later, stored, _, _, lasting⟩ := mirrored.answered (listedLate.take 2)
      (.friendRequestListRs [asked]) [] rfl (by decide) row member own settled
    exact lasting (by simpa using List.all_eq_true.mp pends later stored)

end LocalFriends

end Jitong
