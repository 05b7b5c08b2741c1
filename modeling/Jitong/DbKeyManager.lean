import Jitong.Lib.Run

/-!
`DbKeyManager`: the key of the databases of one account, its two wrappers on disk, and the
database files that decide whether a key may be made or removed.
-/

namespace Jitong

open Lib

inductive DbKeyFailure
  | blobCorrupt | unwrapFailed | databaseExistsWithoutKey | needsPasswordUnlock | lockedWithData
  deriving DecidableEq

inductive DbKeyResult (Key : Type)
  | success (key : Key) (deviceWrapperReady passwordUpgradePending : Bool)
  | unavailable (reason : DbKeyFailure)
  deriving DecidableEq

namespace DbKeyManager

inductive Store
  | room | native
  deriving DecidableEq

inductive Part
  | main | wal | shm
  deriving DecidableEq

def Part.suffix : Part → String
  | .main => ""
  | .wal => "-wal"
  | .shm => "-shm"

def parts : List Part := [.main, .wal, .shm]

structure DatabaseFile where
  store : Store
  part : Part
  deriving DecidableEq

inductive Folder
  | databases | filesDir
  deriving DecidableEq

structure Location where
  folder : Folder
  name : String
  deriving DecidableEq

def roomBase (ownerId : Int) : Location := ⟨.databases, "jitong_" ++ toString ownerId ++ ".db"⟩

def nativeBase (ownerId : Int) : Location :=
  ⟨.filesDir, "native_db/account_" ++ toString ownerId ++ ".db"⟩

/-- `resolveNativeDatabasePath` below `File(appContext.filesDir, "native_kernel")` -/
def kernelBase (ownerId : Int) : Location :=
  ⟨.filesDir, "native_kernel/" ++ (nativeBase ownerId).name⟩

def Location.part (base : Location) (part : Part) : Location :=
  { base with name := base.name ++ part.suffix }

/-- Where the databases have their files: `AppDatabase` and `NativeKernelHost`. -/
def DatabaseFile.location (ownerId : Int) (file : DatabaseFile) : Location :=
  match file.store with
  | .room => (roomBase ownerId).part file.part
  | .native => (kernelBase ownerId).part file.part

inductive BlobFormat
  | legacy | current | malformed
  deriving DecidableEq

structure PasswordBlob (Key : Type) where
  key : Key
  passHash : String
  format : BlobFormat
  deriving DecidableEq

structure DeviceBlob (Key : Type) where
  key : Key
  currentFormat : Bool
  deriving DecidableEq

/-- `db_key_N.blob`, `db_device_key_N.blob`, and the database files that exist. -/
structure Disk (Key : Type) where
  databases : List DatabaseFile := []
  blob : Option (PasswordBlob Key) := none
  device : Option (DeviceBlob Key) := none
  deriving DecidableEq

/-- What the system does during one call: whether the lock is had, whether the blobs can be read
and written, and the bytes of `SecureRandom`. -/
structure Platform (Key : Type) where
  locks : Bool := true
  blobReads : Bool := true
  blobWrites : Bool := true
  deviceReads : Bool := true
  deviceWrites : Bool := true
  random : Key

structure Access (Key : Type) where
  result : Option (DbKeyResult Key)
  disk : Disk Key
  generated : Option Key := none

variable {Key : Type} (isWhitespace : Char → Bool) (ownerId : Int)

def isBlank (text : String) : Bool := text.toList.all isWhitespace

namespace Disk

def exist (disk : Disk Key) (location : Location) : Bool :=
  disk.databases.any fun file => file.location ownerId = location

def roomDatabaseExists (disk : Disk Key) : Bool :=
  parts.any fun part => disk.exist ownerId ((roomBase ownerId).part part)

def nativeDatabaseExists (disk : Disk Key) : Bool :=
  parts.any fun part => disk.exist ownerId ((nativeBase ownerId).part part)

/-- `unwrap`: the tag is right under the hash that sealed the blob. -/
def unwrapBlob (platform : Platform Key) (blob : PasswordBlob Key) (passHash : String) : Option Key :=
  if platform.blobReads ∧ blob.format ≠ .malformed ∧ blob.passHash = passHash then some blob.key
  else none

def unwrapDevice (platform : Platform Key) (disk : Disk Key) : Option Key :=
  if platform.deviceReads then disk.device.map (·.key) else none

def isCurrentFormat (disk : Disk Key) : Bool := disk.device.any (·.currentFormat)

def createDevice (platform : Platform Key) (disk : Disk Key) (key : Key) : Bool × Disk Key :=
  if platform.deviceWrites then (true, { disk with device := some ⟨key, true⟩ }) else (false, disk)

def generateAndPersist (platform : Platform Key) (disk : Disk Key) (passHash : String) (realKey : Key) :
    Option (Disk Key) :=
  if isBlank isWhitespace passHash ∨ !platform.blobWrites then none
  else some { disk with blob := some ⟨realKey, passHash, .current⟩ }

def repair [DecidableEq Key] (platform : Platform Key) (disk : Disk Key) (blob : PasswordBlob Key)
    (passHash : String) (key : Key) : Access Key :=
  let (deviceReady, repaired) :=
    if disk.unwrapDevice platform ≠ some key ∨ !disk.isCurrentFormat then
      disk.createDevice platform key
    else (true, disk)
  if blob.format = .legacy then
    match repaired.generateAndPersist isWhitespace platform passHash key with
    | some upgraded => ⟨some (.success key deviceReady false), upgraded, none⟩
    | none => ⟨some (.success key deviceReady true), repaired, none⟩
  else ⟨some (.success key deviceReady false), repaired, none⟩

def hasData (disk : Disk Key) : Bool :=
  disk.roomDatabaseExists ownerId || disk.nativeDatabaseExists ownerId

def getOrCreateRealKeyLocked [DecidableEq Key] (platform : Platform Key) (disk : Disk Key)
    (passHash : String) (allowCreate : Bool) : Access Key :=
  match disk.blob with
  | some blob =>
      match if passHash ≠ "" then unwrapBlob platform blob passHash else none with
      | some key => disk.repair isWhitespace platform blob passHash key
      | none =>
          match disk.unwrapDevice platform with
          | some key => ⟨some (.success key true false), disk, none⟩
          | none =>
              if disk.hasData ownerId then ⟨some (.unavailable .lockedWithData), disk, none⟩
              else if passHash = "" then ⟨some (.unavailable .needsPasswordUnlock), disk, none⟩
              else if blob.format ≠ .malformed then ⟨some (.unavailable .unwrapFailed), disk, none⟩
              else ⟨some (.unavailable .blobCorrupt), disk, none⟩
  | none =>
      match disk.unwrapDevice platform with
      | some key => ⟨some (.success key true false), disk, none⟩
      | none =>
          if disk.device.isSome then
            ⟨some (.unavailable (if disk.hasData ownerId then .lockedWithData else .blobCorrupt)),
              disk, none⟩
          else if disk.hasData ownerId then
            ⟨some (.unavailable .databaseExistsWithoutKey), disk, none⟩
          else if isBlank isWhitespace passHash ∨ !allowCreate then
            ⟨some (.unavailable .needsPasswordUnlock), disk, none⟩
          else
            match disk.generateAndPersist isWhitespace platform passHash platform.random with
            | none => ⟨none, disk, some platform.random⟩
            | some persisted =>
                let (deviceReady, ready) := persisted.createDevice platform platform.random
                ⟨some (.success platform.random deviceReady false), ready, some platform.random⟩

def accessKey [DecidableEq Key] (platform : Platform Key) (disk : Disk Key) (passHash : String)
    (allowCreate : Bool) : Access Key :=
  if ownerId ≤ 0 ∨ !platform.locks then ⟨none, disk, none⟩
  else disk.getOrCreateRealKeyLocked isWhitespace ownerId platform passHash allowCreate

/-- `deleteIfPresent` on the files one after the other, up to the first that stays. -/
def deleteAll (deletes : Location → Bool) : List Location → Disk Key → Bool × Disk Key
  | [], disk => (true, disk)
  | location :: later, disk =>
      if !disk.exist ownerId location then deleteAll deletes later disk
      else if deletes location then
        deleteAll deletes later { disk with
          databases := disk.databases.filter fun file => file.location ownerId ≠ location }
      else (false, disk)

structure Clearing where
  locks : Bool := true
  deletes : Location → Bool := fun _ => true
  blobDeletes : Bool := true
  deviceDeletes : Bool := true

def clearLocalDatabase (clearing : Clearing) (disk : Disk Key) : Option Bool × Disk Key :=
  if !clearing.locks then (none, disk)
  else
    let (databasesDeleted, cleared) := deleteAll ownerId clearing.deletes
      (parts.map (roomBase ownerId).part ++ parts.map (nativeBase ownerId).part) disk
    if databasesDeleted && (cleared.blob.isNone || clearing.blobDeletes) then
      (some true, { cleared with
        blob := none
        device := if clearing.deviceDeletes then none else cleared.device })
    else (some false, cleared)

end Disk

inductive KeyEvent (Key : Type)
  | access (platform : Platform Key) (passHash : String) (allowCreate : Bool)
  | clear (clearing : Disk.Clearing)
  | created (file : DatabaseFile)
  | deleted (file : DatabaseFile)

def KeyEvent.isClear : KeyEvent Key → Bool
  | .clear _ => true
  | _ => false

namespace Disk

variable [DecidableEq Key]

def take (disk : Disk Key) : KeyEvent Key → Access Key
  | .access platform passHash allowCreate =>
      disk.accessKey isWhitespace ownerId platform passHash allowCreate
  | .clear clearing => ⟨none, (clearLocalDatabase ownerId clearing disk).2, none⟩
  | .created file => ⟨none, { disk with databases := file :: disk.databases }, none⟩
  | .deleted file => ⟨none, { disk with databases := disk.databases.filter (· ≠ file) }, none⟩

def step (disk : Disk Key) (event : KeyEvent Key) : Disk Key :=
  (disk.take isWhitespace ownerId event).disk

def run (disk : Disk Key) (events : List (KeyEvent Key)) : Disk Key :=
  events.foldl (step isWhitespace ownerId) disk

def returned (disk : Disk Key) (event : KeyEvent Key) : Option Key :=
  match (disk.take isWhitespace ownerId event).result with
  | some (.success key _ _) => some key
  | _ => none

def hasFile (disk : Disk Key) (store : Store) : Bool :=
  disk.databases.any fun file => file.store = store

def Agreed (disk : Disk Key) : Prop :=
  ∀ blob ∈ disk.blob, ∀ device ∈ disk.device, blob.key = device.key

structure Kept (disk : Disk Key) (event : KeyEvent Key) : Prop where
  generated : (disk.step isWhitespace ownerId event).databases ≠ [] →
    (disk.take isWhitespace ownerId event).generated = none
  blob : (disk.step isWhitespace ownerId event).databases ≠ [] → ∀ blob, disk.blob = some blob →
    ∃ later, (disk.step isWhitespace ownerId event).blob = some later ∧ later.key = blob.key
  cleared : event.isClear = true → disk.blob.isSome = true →
    (disk.step isWhitespace ownerId event).blob = none →
    (disk.step isWhitespace ownerId event).databases = []

structure KeyOutlives (disk : Disk Key) (events : List (KeyEvent Key)) : Prop where
  kept : ∀ front event back, front ++ event :: back = events →
    Kept isWhitespace ownerId (disk.run isWhitespace ownerId front) event
  same : ∀ front first middle second back,
    front ++ first :: (middle ++ second :: back) = events →
    (∀ event ∈ first :: middle, event.isClear = false) → ∀ key later,
    (disk.run isWhitespace ownerId front).returned isWhitespace ownerId first = some key →
    (disk.run isWhitespace ownerId (front ++ first :: middle)).returned isWhitespace ownerId second =
      some later → later = key

def sparesNative (disk : Disk Key) : KeyEvent Key → Bool
  | .access platform passHash allowCreate =>
      !(disk.hasFile .native && !disk.hasFile .room && disk.blob.isNone && disk.device.isNone &&
        0 < ownerId && platform.locks && allowCreate && !isBlank isWhitespace passHash)
  | .clear clearing =>
      !(disk.hasFile .native && disk.blob.isSome && clearing.locks && clearing.blobDeletes &&
        disk.databases.all fun file =>
          file.store ≠ .room || clearing.deletes (file.location ownerId))
  | _ => true

end Disk

/-! ### The paths -/

theorem location_room {file : DatabaseFile} {ownerId : Int} (room : file.store = .room) :
    file.location ownerId = (roomBase ownerId).part file.part := by
  simp [DatabaseFile.location, room]

theorem location_native {file : DatabaseFile} {ownerId : Int} (native : file.store = .native) :
    file.location ownerId = (kernelBase ownerId).part file.part := by
  simp [DatabaseFile.location, native]

theorem location_native_ne_room {file : DatabaseFile} (ownerId : Int) (native : file.store = .native)
    (part : Part) : file.location ownerId ≠ (roomBase ownerId).part part := by
  rw [location_native native]
  intro same
  exact nomatch congrArg Location.folder same

theorem location_ne_nativeBase (file : DatabaseFile) (ownerId : Int) (part : Part) :
    file.location ownerId ≠ (nativeBase ownerId).part part := by
  intro same
  cases kind : file.store with
  | room =>
      rw [location_room kind] at same
      exact nomatch congrArg Location.folder same
  | native =>
      rw [location_native kind] at same
      have names := congrArg (fun location => location.name.toList) same
      simp [kernelBase, nativeBase, Location.part, String.toList_append] at names

namespace Disk

variable {isWhitespace ownerId} {disk : Disk Key}

theorem nativeDatabaseExists_eq : disk.nativeDatabaseExists ownerId = false := by
  simp only [nativeDatabaseExists, exist, List.any_eq_false, decide_eq_true_eq,
    List.any_eq_true, not_exists, not_and]
  intro part _ file _
  exact location_ne_nativeBase file ownerId part

theorem roomDatabaseExists_eq : disk.roomDatabaseExists ownerId = disk.hasFile .room := by
  rw [Bool.eq_iff_iff]
  simp only [roomDatabaseExists, exist, hasFile, List.any_eq_true, decide_eq_true_eq]
  constructor
  · rintro ⟨part, _, file, member, same⟩
    refine ⟨file, member, ?_⟩
    cases kind : file.store with
    | room => rfl
    | native => exact absurd same (location_native_ne_room ownerId kind part)
  · rintro ⟨file, member, room⟩
    exact ⟨file.part, by cases file.part <;> simp [parts], file, member, location_room room⟩

theorem hasData_eq : disk.hasData ownerId = disk.hasFile .room := by
  rw [hasData, nativeDatabaseExists_eq, roomDatabaseExists_eq, Bool.or_false]

theorem hasFile_eq_true {store : Store} :
    disk.hasFile store = true ↔ ∃ file ∈ disk.databases, file.store = store := by
  simp [hasFile]

theorem databases_eq_nil_iff :
    disk.databases = [] ↔ disk.hasFile .native = false ∧ disk.hasFile .room = false := by
  constructor
  · intro none
    simp [hasFile, none]
  · rintro ⟨noNative, noRoom⟩
    rw [List.eq_nil_iff_forall_not_mem]
    intro file member
    cases kind : file.store with
    | native => exact absurd (hasFile_eq_true.mpr ⟨file, member, kind⟩) (by simp [noNative])
    | room => exact absurd (hasFile_eq_true.mpr ⟨file, member, kind⟩) (by simp [noRoom])

/-! ### Clearing -/

theorem exist_eq_true {location : Location} : disk.exist ownerId location = true ↔
    ∃ file ∈ disk.databases, file.location ownerId = location := by
  simp [exist]

theorem deleteAll_spec (deletes : Location → Bool) (locations : List Location) (disk : Disk Key) :
    (deleteAll ownerId deletes locations disk).2.blob = disk.blob ∧
    (deleteAll ownerId deletes locations disk).2.device = disk.device ∧
    (∀ file, file ∈ (deleteAll ownerId deletes locations disk).2.databases →
      file ∈ disk.databases) ∧
    (∀ file ∈ disk.databases, file.location ownerId ∉ locations →
      file ∈ (deleteAll ownerId deletes locations disk).2.databases) ∧
    ((deleteAll ownerId deletes locations disk).1 = true →
      ∀ file ∈ (deleteAll ownerId deletes locations disk).2.databases,
        file.location ownerId ∉ locations) ∧
    ((deleteAll ownerId deletes locations disk).1 = true ↔
      ∀ file ∈ disk.databases, file.location ownerId ∈ locations →
        deletes (file.location ownerId) = true) := by
  induction locations generalizing disk with
  | nil => simp [deleteAll]
  | cons location later ih =>
      rw [deleteAll]
      split
      · rename_i absent
        rw [Bool.not_eq_true', ← Bool.not_eq_true, exist_eq_true] at absent
        obtain ⟨blob, device, fewer, others, gone, all⟩ := ih disk
        refine ⟨blob, device, fewer, ?_, ?_, ?_⟩
        · intro file member outside
          exact others file member fun inside => outside (List.mem_cons_of_mem _ inside)
        · intro ok file member inside
          rcases List.mem_cons.mp inside with here | inside
          · exact absent ⟨file, fewer file member, here⟩
          · exact gone ok file member inside
        · rw [all]
          constructor
          · intro works file member inside
            rcases List.mem_cons.mp inside with here | inside
            · exact absurd ⟨file, member, here⟩ absent
            · exact works file member inside
          · intro works file member inside
            exact works file member (List.mem_cons_of_mem _ inside)
      · rename_i present
        rw [Bool.not_eq_true', ← Bool.not_eq_true, not_not, exist_eq_true] at present
        obtain ⟨here, held, at'⟩ := present
        split
        · rename_i works
          obtain ⟨blob, device, fewer, others, gone, all⟩ := ih { disk with
            databases := disk.databases.filter fun file => file.location ownerId ≠ location }
          refine ⟨blob, device, ?_, ?_, ?_, ?_⟩
          · intro file member
            exact List.mem_of_mem_filter (fewer file member)
          · intro file member outside
            rw [List.mem_cons, not_or] at outside
            exact others file (List.mem_filter.mpr ⟨member, by simpa using outside.1⟩) outside.2
          · intro ok file member inside
            rcases List.mem_cons.mp inside with same | inside
            · have stays := (List.mem_filter.mp (fewer file member)).2
              exact absurd same (by simpa using stays)
            · exact gone ok file member inside
          · rw [all]
            constructor
            · intro rest file member inside
              by_cases same : file.location ownerId = location
              · rw [same]
                exact works
              · refine rest file (List.mem_filter.mpr ⟨member, by simpa using same⟩) ?_
                exact (List.mem_cons.mp inside).resolve_left same
            · intro rest file member inside
              exact rest file (List.mem_of_mem_filter member) (List.mem_cons_of_mem _ inside)
        · rename_i stays
          refine ⟨rfl, rfl, fun _ => id, fun _ member _ => member, nofun, ?_⟩
          constructor
          · exact nofun
          · intro works
            exact absurd (at' ▸ works here held (at' ▸ List.mem_cons_self)) stays

theorem clear_native (clearing : Clearing) :
    (clearLocalDatabase ownerId clearing disk).2.hasFile .native = disk.hasFile .native := by
  obtain ⟨_, _, fewer, others, _, _⟩ := @deleteAll_spec Key ownerId clearing.deletes
    (parts.map (roomBase ownerId).part ++ parts.map (nativeBase ownerId).part) disk
  have same : (deleteAll ownerId clearing.deletes (parts.map (roomBase ownerId).part ++
      parts.map (nativeBase ownerId).part) disk).2.hasFile .native = disk.hasFile .native := by
    rw [Bool.eq_iff_iff, hasFile_eq_true, hasFile_eq_true]
    constructor
    · rintro ⟨file, member, native⟩
      exact ⟨file, fewer file member, native⟩
    · rintro ⟨file, member, native⟩
      refine ⟨file, others file member ?_, native⟩
      rw [List.mem_append, List.mem_map, List.mem_map]
      rintro (⟨part, _, same⟩ | ⟨part, _, same⟩)
      · exact location_native_ne_room ownerId native part same.symm
      · exact location_ne_nativeBase file ownerId part same.symm
  unfold clearLocalDatabase
  split
  · rfl
  · simp only
    split
    · exact same
    · exact same

theorem clear_blob (clearing : Clearing) (blob : PasswordBlob Key) (known : disk.blob = some blob) :
    let cleared := (clearLocalDatabase ownerId clearing disk).2
    let works := clearing.locks = true ∧ clearing.blobDeletes = true ∧
      ∀ file ∈ disk.databases, file.store = .room → clearing.deletes (file.location ownerId) = true
    (works → cleared.blob = none ∧ cleared.hasFile .room = false) ∧
      (¬ works → cleared.blob = some blob) := by
  obtain ⟨sameBlob, _, fewer, _, gone, all⟩ := @deleteAll_spec Key ownerId clearing.deletes
    (parts.map (roomBase ownerId).part ++ parts.map (nativeBase ownerId).part) disk
  have listed (file : DatabaseFile) : file.location ownerId ∈ parts.map (roomBase ownerId).part ++
      parts.map (nativeBase ownerId).part ↔ file.store = .room := by
    rw [List.mem_append, List.mem_map, List.mem_map]
    constructor
    · rintro (⟨part, _, same⟩ | ⟨part, _, same⟩)
      · cases kind : file.store with
        | room => rfl
        | native => exact absurd same.symm (location_native_ne_room ownerId kind part)
      · exact absurd same.symm (location_ne_nativeBase file ownerId part)
    · intro room
      exact .inl ⟨file.part, by cases file.part <;> simp [parts], (location_room room).symm⟩
  simp only [listed] at gone all
  unfold clearLocalDatabase
  rw [known] at sameBlob
  simp only [sameBlob, Option.isNone_some, Bool.false_or]
  constructor
  · rintro ⟨locks, blobDeletes, works⟩
    have ended := all.mpr works
    simp only [locks, blobDeletes, ended, Bool.not_true, Bool.false_eq_true, if_false, Bool.and_true,
      if_true, true_and]
    rw [← Bool.not_eq_true, hasFile_eq_true]
    rintro ⟨file, member, room⟩
    exact gone ended file member room
  · intro fails
    split
    · exact known
    · rename_i locks
      rw [Bool.not_eq_true', Bool.not_eq_false] at locks
      split
      · rename_i ended
        rw [Bool.and_eq_true] at ended
        exact absurd ⟨locks, ended.2, all.mp ended.1⟩ fails
      · exact sameBlob

/-! ### Opening -/

/-- What a call for the key comes to; a key is made where that is `asked`. -/
inductive Opens (disk : Disk Key) (access : Access Key) (random : Key) (asked : Prop) : Prop
  | closed (refused : ∀ key ready pending, access.result ≠ some (.success key ready pending))
      (same : access.disk = disk) (none : access.generated = none) : Opens disk access random asked
  | known (key : Key) (ready pending : Bool)
      (opened : access.result = some (.success key ready pending)) (none : access.generated = none)
      (files : access.disk.databases = disk.databases)
      (held : (∃ blob, disk.blob = some blob ∧ blob.key = key) ∨
        ∃ device, disk.device = some device ∧ device.key = key)
      (blob : access.disk.blob = disk.blob ∨ ∃ before later, disk.blob = some before ∧
        before.key = key ∧ access.disk.blob = some later ∧ later.key = key)
      (device : access.disk.device = disk.device ∨
        ∃ later, access.disk.device = some later ∧ later.key = key) : Opens disk access random asked
  | made (wanted : asked) (made : access.generated = some random) (noBlob : disk.blob = none)
      (noDevice : disk.device = none) (noRoom : disk.hasFile .room = false)
      (files : access.disk.databases = disk.databases)
      (outcome : access.result = none ∧ access.disk = disk ∨
        ∃ ready pending passHash, access.result = some (.success random ready pending) ∧
          access.disk.blob = some ⟨random, passHash, .current⟩ ∧
          ∀ device ∈ access.disk.device, device.key = random) : Opens disk access random asked

theorem unwrapBlob_key {platform : Platform Key} {blob : PasswordBlob Key} {passHash : String}
    {key : Key} (opened : unwrapBlob platform blob passHash = some key) : blob.key = key := by
  unfold unwrapBlob at opened
  split at opened
  · exact Option.some.inj opened
  · exact nomatch opened

theorem unwrapDevice_key {platform : Platform Key} {key : Key}
    (opened : disk.unwrapDevice platform = some key) :
    ∃ device, disk.device = some device ∧ device.key = key := by
  unfold unwrapDevice at opened
  split at opened
  · exact Option.map_eq_some_iff.mp opened
  · exact nomatch opened

variable [DecidableEq Key]

theorem repair_opens (platform : Platform Key) {blob : PasswordBlob Key} (passHash : String)
    (held : disk.blob = some blob) (random : Key) (asked : Prop) :
    Opens disk (disk.repair isWhitespace platform blob passHash blob.key) random asked := by
  have created : ∀ ready repaired,
      (if disk.unwrapDevice platform ≠ some blob.key ∨ !disk.isCurrentFormat then
        disk.createDevice platform blob.key else (true, disk)) = (ready, repaired) →
      repaired.databases = disk.databases ∧ repaired.blob = disk.blob ∧
        (repaired.device = disk.device ∨
          ∃ later, repaired.device = some later ∧ later.key = blob.key) := by
    intro ready repaired done
    unfold createDevice at done
    split at done
    · split at done
      · obtain ⟨rfl, rfl⟩ := Prod.mk.inj done
        exact ⟨rfl, rfl, .inr ⟨_, rfl, rfl⟩⟩
      · obtain ⟨rfl, rfl⟩ := Prod.mk.inj done
        exact ⟨rfl, rfl, .inl rfl⟩
    · obtain ⟨rfl, rfl⟩ := Prod.mk.inj done
      exact ⟨rfl, rfl, .inl rfl⟩
  unfold repair
  split
  rename_i ready repaired done
  obtain ⟨files, sameBlob, device⟩ := created ready repaired done
  split
  · split
    · rename_i upgraded persisted
      unfold generateAndPersist at persisted
      split at persisted
      · exact nomatch persisted
      · obtain rfl := Option.some.inj persisted
        exact .known blob.key _ _ rfl rfl files (.inl ⟨blob, held, rfl⟩)
          (.inr ⟨blob, _, held, rfl, rfl, rfl⟩) device
    · exact .known blob.key _ _ rfl rfl files (.inl ⟨blob, held, rfl⟩) (.inl sameBlob) device
  · exact .known blob.key _ _ rfl rfl files (.inl ⟨blob, held, rfl⟩) (.inl sameBlob) device

variable (isWhitespace ownerId disk)

theorem access_opens (platform : Platform Key) (passHash : String) (allowCreate : Bool) :
    Opens disk (disk.accessKey isWhitespace ownerId platform passHash allowCreate) platform.random
      (0 < ownerId ∧ platform.locks = true ∧ allowCreate = true ∧
        isBlank isWhitespace passHash = false) := by
  unfold accessKey
  split
  · exact .closed nofun rfl rfl
  rename_i allowed
  rw [not_or, Int.not_le, Bool.not_eq_true', Bool.not_eq_false] at allowed
  unfold getOrCreateRealKeyLocked
  split
  · rename_i blob held
    split
    · rename_i key opened
      split at opened
      · obtain rfl := unwrapBlob_key opened
        exact repair_opens platform passHash held platform.random _
      · exact nomatch opened
    · split
      · rename_i key opened
        exact .known key _ _ rfl rfl rfl (.inr (unwrapDevice_key opened)) (.inl rfl) (.inl rfl)
      · split
        · exact .closed nofun rfl rfl
        · split
          · exact .closed nofun rfl rfl
          · split
            · exact .closed nofun rfl rfl
            · exact .closed nofun rfl rfl
  · rename_i noBlob
    split
    · rename_i key opened
      exact .known key _ _ rfl rfl rfl (.inr (unwrapDevice_key opened)) (.inl rfl) (.inl rfl)
    · split
      · exact .closed nofun rfl rfl
      · rename_i noDevice
        rw [Bool.not_eq_true, Option.isSome_eq_false_iff, Option.isNone_iff_eq_none] at noDevice
        split
        · exact .closed nofun rfl rfl
        · rename_i noData
          rw [hasData_eq, Bool.not_eq_true] at noData
          split
          · exact .closed nofun rfl rfl
          · rename_i wanted
            rw [not_or, Bool.not_eq_true', Bool.not_eq_false, Bool.not_eq_true] at wanted
            have asked := And.intro allowed.1 (And.intro allowed.2 wanted.symm)
            split
            · exact .made asked rfl noBlob noDevice noData rfl (.inl ⟨rfl, rfl⟩)
            · rename_i persisted done
              unfold generateAndPersist at done
              split at done
              · exact nomatch done
              · obtain rfl := Option.some.inj done
                unfold createDevice
                split
                rename_i ready final created
                split at created
                · obtain ⟨rfl, rfl⟩ := Prod.mk.inj created
                  refine .made asked rfl noBlob noDevice noData rfl (.inr ⟨_, _, _, rfl, rfl, ?_⟩)
                  rintro device ⟨⟩
                  rfl
                · obtain ⟨rfl, rfl⟩ := Prod.mk.inj created
                  refine .made asked rfl noBlob noDevice noData rfl (.inr ⟨_, _, _, rfl, rfl, ?_⟩)
                  intro device member
                  exact nomatch noDevice.symm.trans member

theorem generated_isSome_iff (platform : Platform Key) (passHash : String) (allowCreate : Bool) :
    (disk.accessKey isWhitespace ownerId platform passHash allowCreate).generated.isSome = true ↔
      (0 < ownerId ∧ platform.locks = true ∧ allowCreate = true ∧
        isBlank isWhitespace passHash = false) ∧
      disk.blob = none ∧ disk.device = none ∧ disk.hasFile .room = false := by
  constructor
  · intro some
    cases access_opens isWhitespace ownerId disk platform passHash allowCreate with
    | closed _ _ none =>
        rw [none] at some
        exact nomatch some
    | known _ _ _ _ none =>
        rw [none] at some
        exact nomatch some
    | made wanted _ noBlob noDevice noRoom => exact ⟨wanted, noBlob, noDevice, noRoom⟩
  · rintro ⟨⟨positive, locks, creates, filled⟩, noBlob, noDevice, noRoom⟩
    have noKey : disk.unwrapDevice platform = none := by
      simp [unwrapDevice, noDevice]
    unfold accessKey getOrCreateRealKeyLocked
    rw [if_neg (by simp [positive, locks]), noBlob]
    simp only [noKey, noDevice, hasData_eq, noRoom, filled, creates, Option.isSome_none,
      Bool.false_eq_true, if_false, Bool.not_true, or_self]
    split
    · rfl
    · rfl

theorem access_databases (platform : Platform Key) (passHash : String) (allowCreate : Bool) :
    (disk.accessKey isWhitespace ownerId platform passHash allowCreate).disk.databases =
      disk.databases := by
  cases access_opens isWhitespace ownerId disk platform passHash allowCreate with
  | closed _ same _ => rw [same]
  | known _ _ _ _ _ files => exact files
  | made _ _ _ _ _ files => exact files

theorem access_blob (platform : Platform Key) (passHash : String) (allowCreate : Bool)
    (blob : PasswordBlob Key) (known : disk.blob = some blob) : ∃ later,
    (disk.accessKey isWhitespace ownerId platform passHash allowCreate).disk.blob = some later ∧
      later.key = blob.key := by
  cases access_opens isWhitespace ownerId disk platform passHash allowCreate with
  | closed _ same _ => exact ⟨blob, by rw [same, known], rfl⟩
  | known _ _ _ _ _ _ _ kept =>
      rcases kept with same | ⟨before, later, same, holds, after, key⟩
      · exact ⟨blob, same.trans known, rfl⟩
      · obtain rfl := Option.some.inj (known.symm.trans same)
        exact ⟨later, after, key.trans holds.symm⟩
  | made _ _ noBlob => exact nomatch noBlob.symm.trans known

theorem kept_iff (event : KeyEvent Key) :
    Kept isWhitespace ownerId disk event ↔ disk.sparesNative isWhitespace ownerId event = true := by
  cases event with
  | access platform passHash allowCreate =>
      have files := access_databases isWhitespace ownerId disk platform passHash allowCreate
      have created := generated_isSome_iff isWhitespace ownerId disk platform passHash allowCreate
      have spared : disk.sparesNative isWhitespace ownerId (.access platform passHash allowCreate) =
          true ↔ ¬ (disk.hasFile .native = true ∧ (disk.accessKey isWhitespace ownerId platform
            passHash allowCreate).generated.isSome = true) := by
        rw [created, ← Bool.not_eq_false, not_iff_not]
        simp only [sparesNative, Bool.not_eq_false', Bool.and_eq_true, decide_eq_true_eq,
          Bool.not_eq_true', Option.isNone_iff_eq_none]
        tauto
      rw [spared]
      constructor
      · rintro kept ⟨native, made⟩
        have held : disk.databases ≠ [] := fun empty => by
          rw [databases_eq_nil_iff] at empty
          exact absurd native (by simp [empty.1])
        have nothing : (disk.accessKey isWhitespace ownerId platform passHash
          allowCreate).generated = none := kept.generated (files ▸ held)
        rw [nothing] at made
        exact nomatch made
      · intro spares
        refine ⟨?_, ?_, nofun⟩
        · intro held
          rw [← Option.not_isSome_iff_eq_none]
          intro made
          obtain ⟨_, _, _, noRoom⟩ := created.mp made
          have noNative : disk.hasFile .native = false :=
            Bool.not_eq_true _ ▸ fun native => spares ⟨native, made⟩
          exact held (files.trans (databases_eq_nil_iff.mpr ⟨noNative, noRoom⟩))
        · intro _ blob known
          exact access_blob isWhitespace ownerId disk platform passHash allowCreate blob known
  | clear clearing =>
      have native := @clear_native Key ownerId disk clearing
      cases known : disk.blob with
      | none =>
          refine iff_of_true ⟨fun _ => rfl, ?_, ?_⟩ (by simp [sparesNative, known])
          · intro _ blob held
            exact nomatch known.symm.trans held
          · intro _ held
            rw [known] at held
            exact nomatch held
      | some blob =>
          obtain ⟨takes, leaves⟩ := @clear_blob Key ownerId disk clearing blob known
          have spared : disk.sparesNative isWhitespace ownerId (.clear clearing) = true ↔
              ¬ (disk.hasFile .native = true ∧ clearing.locks = true ∧ clearing.blobDeletes = true ∧
                ∀ file ∈ disk.databases, file.store = .room →
                  clearing.deletes (file.location ownerId) = true) := by
            rw [← Bool.not_eq_false, not_iff_not]
            simp only [sparesNative, known, Option.isSome_some, Bool.and_true, Bool.not_eq_false',
              Bool.and_eq_true, List.all_eq_true, Bool.or_eq_true, decide_eq_true_eq, ne_eq,
              ← Decidable.imp_iff_not_or, and_assoc]
          rw [spared]
          constructor
          · rintro kept ⟨held, works⟩
            have empty : (clearLocalDatabase ownerId clearing disk).2.databases = [] :=
              kept.cleared rfl (by rw [known]; rfl) (takes works).1
            rw [databases_eq_nil_iff, native, held] at empty
            exact nomatch empty.1
          · intro spares
            by_cases works : clearing.locks = true ∧ clearing.blobDeletes = true ∧
                ∀ file ∈ disk.databases, file.store = .room →
                  clearing.deletes (file.location ownerId) = true
            · have empty : (clearLocalDatabase ownerId clearing disk).2.databases = [] := by
                rw [databases_eq_nil_iff, native, ← Bool.not_eq_true]
                exact ⟨fun held => spares ⟨held, works⟩, (takes works).2⟩
              exact ⟨fun _ => rfl, fun held => absurd empty held, fun _ _ _ => empty⟩
            · refine ⟨fun _ => rfl, ?_, ?_⟩
              · intro _ before held
                obtain rfl := Option.some.inj (known.symm.trans held)
                exact ⟨blob, leaves works, rfl⟩
              · intro _ _ gone
                exact nomatch (leaves works).symm.trans gone
  | created file =>
      refine iff_of_true ⟨fun _ => rfl, ?_, nofun⟩ rfl
      intro _ blob known
      exact ⟨blob, known, rfl⟩
  | deleted file =>
      refine iff_of_true ⟨fun _ => rfl, ?_, nofun⟩ rfl
      intro _ blob known
      exact ⟨blob, known, rfl⟩

/-! ### One key until a clear -/

structure Holds (disk : Disk Key) (key : Key) : Prop where
  blob : ∀ blob ∈ disk.blob, blob.key = key
  device : ∀ device ∈ disk.device, device.key = key
  some : disk.blob.isSome = true ∨ disk.device.isSome = true

omit [DecidableEq Key] in
variable {disk} in
theorem Holds.agreed {key : Key} (holds : disk.Holds key) : disk.Agreed := by
  intro blob known device held
  rw [holds.blob blob known, holds.device device held]

omit [DecidableEq Key] in
variable {disk} in
theorem Holds.unique {key later : Key} (holds : disk.Holds key) (others : disk.Holds later) :
    later = key := by
  rcases holds.some with present | present
  · obtain ⟨blob, known⟩ := Option.isSome_iff_exists.mp present
    exact (others.blob blob known).symm.trans (holds.blob blob known)
  · obtain ⟨device, known⟩ := Option.isSome_iff_exists.mp present
    exact (others.device device known).symm.trans (holds.device device known)

omit [DecidableEq Key] in
variable {disk} in
theorem Agreed.holds {key : Key} (agreed : disk.Agreed)
    (held : (∃ blob, disk.blob = some blob ∧ blob.key = key) ∨
      ∃ device, disk.device = some device ∧ device.key = key) : disk.Holds key := by
  rcases held with ⟨blob, known, rfl⟩ | ⟨device, known, rfl⟩
  · refine ⟨?_, fun device held => (agreed blob known device held).symm, .inl (by rw [known]; rfl)⟩
    intro other same
    rw [Option.some.inj (known.symm.trans same)]
  · refine ⟨fun blob held => agreed blob held device known, ?_, .inr (by rw [known]; rfl)⟩
    intro other same
    rw [Option.some.inj (known.symm.trans same)]

theorem access_holds (agreed : disk.Agreed) (platform : Platform Key) (passHash : String)
    (allowCreate : Bool) :
    let event := KeyEvent.access platform passHash allowCreate
    disk.step isWhitespace ownerId event = disk ∧ disk.returned isWhitespace ownerId event = none ∨
      ∃ key, disk.returned isWhitespace ownerId event = some key ∧
        (disk.step isWhitespace ownerId event).Holds key ∧
        (disk.Holds key ∨ disk.blob = none ∧ disk.device = none) := by
  simp only [step, returned, take]
  cases access_opens isWhitespace ownerId disk platform passHash allowCreate with
  | closed refused same _ =>
      refine .inl ⟨same, ?_⟩
      split
      · rename_i key ready pending opened
        exact absurd opened (refused key ready pending)
      · rfl
  | known key ready pending opened _ _ held blob device =>
      have holds := agreed.holds held
      refine .inr ⟨key, by rw [opened], ⟨?_, ?_, ?_⟩, .inl holds⟩
      · intro later known
        rcases blob with same | ⟨_, after, _, _, kept, key⟩
        · exact holds.blob later (same ▸ known)
        · exact Option.some.inj (kept.symm.trans known) ▸ key
      · intro later known
        rcases device with same | ⟨after, kept, key⟩
        · exact holds.device later (same ▸ known)
        · exact Option.some.inj (kept.symm.trans known) ▸ key
      · rcases holds.some with present | present
        · left
          rcases blob with same | ⟨_, after, _, _, kept, _⟩
          · rwa [same]
          · rw [kept]
            rfl
        · right
          rcases device with same | ⟨after, kept, _⟩
          · rwa [same]
          · rw [kept]
            rfl
  | made _ _ noBlob noDevice _ _ outcome =>
      rcases outcome with ⟨threw, same⟩ | ⟨ready, pending, hash, opened, blob, device⟩
      · exact .inl ⟨same, by rw [threw]⟩
      · refine .inr ⟨platform.random, by rw [opened], ⟨?_, device, ?_⟩, .inr ⟨noBlob, noDevice⟩⟩
        · intro later known
          obtain rfl := Option.some.inj (blob.symm.trans known)
          rfl
        · rw [blob]
          exact .inl rfl

variable {disk}

theorem step_agreed (agreed : disk.Agreed) (event : KeyEvent Key) :
    (disk.step isWhitespace ownerId event).Agreed := by
  cases event with
  | access platform passHash allowCreate =>
      rcases access_holds isWhitespace ownerId disk agreed platform passHash allowCreate with
        ⟨same, _⟩ | ⟨key, _, holds, _⟩
      · rwa [same]
      · exact holds.agreed
  | clear clearing =>
      obtain ⟨blob, device, _⟩ := @deleteAll_spec Key ownerId clearing.deletes
        (parts.map (roomBase ownerId).part ++ parts.map (nativeBase ownerId).part) disk
      change (clearLocalDatabase ownerId clearing disk).2.Agreed
      unfold clearLocalDatabase
      split
      · exact agreed
      · simp only
        split
        · exact nofun
        · rwa [Agreed, blob, device]
  | created file => exact agreed
  | deleted file => exact agreed

theorem run_agreed (agreed : disk.Agreed) (events : List (KeyEvent Key)) :
    (disk.run isWhitespace ownerId events).Agreed := by
  induction events generalizing disk with
  | nil => exact agreed
  | cons event events ih => exact ih (step_agreed isWhitespace ownerId agreed event)

theorem step_holds {key : Key} (holds : disk.Holds key) (event : KeyEvent Key)
    (keeps : event.isClear = false) : (disk.step isWhitespace ownerId event).Holds key := by
  cases event with
  | access platform passHash allowCreate =>
      rcases access_holds isWhitespace ownerId disk holds.agreed platform passHash allowCreate with
        ⟨same, _⟩ | ⟨later, _, after, before | ⟨noBlob, noDevice⟩⟩
      · rwa [same]
      · exact holds.unique before ▸ after
      · have present := holds.some
        rw [noBlob, noDevice] at present
        exact absurd present (by simp)
  | clear clearing => exact nomatch keeps
  | created file => exact ⟨holds.blob, holds.device, holds.some⟩
  | deleted file => exact ⟨holds.blob, holds.device, holds.some⟩

theorem run_holds {key : Key} (holds : disk.Holds key) (events : List (KeyEvent Key))
    (keeps : ∀ event ∈ events, event.isClear = false) :
    (disk.run isWhitespace ownerId events).Holds key := by
  induction events generalizing disk with
  | nil => exact holds
  | cons event events ih =>
      refine ih (step_holds isWhitespace ownerId holds event (keeps event List.mem_cons_self)) ?_
      exact fun later member => keeps later (List.mem_cons_of_mem event member)

theorem returned_holds (agreed : disk.Agreed) {event : KeyEvent Key} {key : Key}
    (opened : disk.returned isWhitespace ownerId event = some key) :
    (disk.step isWhitespace ownerId event).Holds key := by
  cases event with
  | access platform passHash allowCreate =>
      rcases access_holds isWhitespace ownerId disk agreed platform passHash allowCreate with
        ⟨_, none⟩ | ⟨later, returned, after, _⟩
      · exact nomatch none.symm.trans opened
      · exact Option.some.inj (returned.symm.trans opened) ▸ after
  | clear clearing => exact nomatch opened
  | created file => exact nomatch opened
  | deleted file => exact nomatch opened

theorem holds_returned {key later : Key} (holds : disk.Holds key) {event : KeyEvent Key}
    (opened : disk.returned isWhitespace ownerId event = some later) : later = key := by
  have keeps : event.isClear = false := by
    cases event with
    | clear clearing => exact nomatch opened
    | access | created | deleted => rfl
  exact (step_holds isWhitespace ownerId holds event keeps).unique
    (returned_holds isWhitespace ownerId holds.agreed opened)

theorem run_append (front back : List (KeyEvent Key)) : disk.run isWhitespace ownerId (front ++ back) =
    (disk.run isWhitespace ownerId front).run isWhitespace ownerId back :=
  List.foldl_append

/-- The key outlives the databases exactly in the runs whose every step spares the native one. -/
theorem keyOutlives_iff (agreed : disk.Agreed) (events : List (KeyEvent Key)) :
    KeyOutlives isWhitespace ownerId disk events ↔
      guarded (step isWhitespace ownerId) (sparesNative isWhitespace ownerId) disk events = true := by
  rw [← steps_iff_guarded (fun _ => True) (Kept isWhitespace ownerId) (fun _ _ _ => trivial)
    (fun disk event _ => kept_iff isWhitespace ownerId disk event) disk trivial events]
  refine ⟨fun outlives => outlives.kept, fun kept => ⟨kept, ?_⟩⟩
  intro front first middle second back _ keeps key later opened again
  have holds := returned_holds isWhitespace ownerId
    (run_agreed isWhitespace ownerId agreed front) opened
  have held : (disk.run isWhitespace ownerId (front ++ first :: middle)).Holds key := by
    rw [run_append]
    exact run_holds isWhitespace ownerId holds middle fun event member =>
      keeps event (List.mem_cons_of_mem first member)
  exact holds_returned isWhitespace ownerId held again

def firstLogin : List (KeyEvent Nat) :=
  [.access { random := 7 } "h" true, .created ⟨.native, .main⟩, .created ⟨.native, .wal⟩]

/-- A clear that has to leave a file of Room leaves the key as well. -/
theorem keyOutlives_iff_roomHeld : KeyOutlives Char.isWhitespace 1 ({} : Disk Nat)
    (firstLogin ++ [.created ⟨.room, .main⟩, .clear { deletes := fun _ => false },
      .access { random := 8 } "h" true]) :=
  (keyOutlives_iff Char.isWhitespace 1 (fun _ absent => absurd absent (by simp)) _).mpr
    (by decide +kernel)

/-- The clear that the user asks for takes the key and leaves the native database. -/
theorem clear_losesNative :
    ¬ KeyOutlives Char.isWhitespace 1 ({} : Disk Nat) (firstLogin ++ [.clear {}]) := by
  intro outlives
  have empty := (outlives.kept firstLogin (.clear {}) [] rfl).cleared rfl
    (by decide +kernel) (by decide +kernel)
  exact absurd empty (by decide +kernel)

end Disk

end DbKeyManager

end Jitong
