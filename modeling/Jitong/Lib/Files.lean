import Mathlib

/-!
Files by path, and writing into the middle of one: a write past the end fills
the gap, and two writes to regions that are apart do not disturb each other.
-/

namespace Jitong.Lib

universe u v

abbrev Files (Path : Type u) (Byte : Type v) := Path → Option (List Byte)

namespace Files

variable {Path : Type u} {Byte : Type v} [DecidableEq Path]

def put (files : Files Path Byte) (path : Path) (content : List Byte) : Files Path Byte :=
  Function.update files path (some content)

def remove (files : Files Path Byte) (path : Path) : Files Path Byte :=
  Function.update files path none

def rename (files : Files Path Byte) (source target : Path) : Files Path Byte :=
  match files source with
  | none => files
  | some content => (files.remove source).put target content

@[simp] theorem put_self (files : Files Path Byte) (path : Path) (content : List Byte) :
    files.put path content path = some content := Function.update_self ..

theorem put_other (files : Files Path Byte) {path other : Path} (content : List Byte)
    (different : other ≠ path) : files.put path content other = files other :=
  Function.update_of_ne different ..

@[simp] theorem remove_self (files : Files Path Byte) (path : Path) : files.remove path path = none :=
  Function.update_self ..

theorem remove_other (files : Files Path Byte) {path other : Path} (different : other ≠ path) :
    files.remove path other = files other := Function.update_of_ne different ..

theorem rename_target {files : Files Path Byte} {source target : Path} {content : List Byte}
    (found : files source = some content) : files.rename source target target = some content := by
  simp [rename, found]

theorem rename_source (files : Files Path Byte) (source target : Path) :
    files.rename source target source = none ∨
      files.rename source target source = files source := by
  unfold rename
  cases found : files source with
  | none => exact .inl found
  | some content =>
      by_cases same : source = target
      · subst target
        exact .inr (put_self ..)
      · left
        simp only [put_other _ _ same, remove_self]

theorem of_foldl_remove {Item : Type u} (path : Item → Path) (items : List Item)
    {files : Files Path Byte} {gone : Path}
    (removed : items.foldl (fun files item => remove files (path item)) files gone = none) :
    (∃ item ∈ items, path item = gone) ∨ files gone = none := by
  induction items generalizing files with
  | nil => exact .inr removed
  | cons item rest ih =>
      rcases ih removed with ⟨other, member, same⟩ | before
      · exact .inl ⟨other, List.mem_cons_of_mem item member, same⟩
      · by_cases own : path item = gone
        · exact .inl ⟨item, List.mem_cons_self, own⟩
        · exact .inr ((remove_other files (Ne.symm own)).symm.trans before)

end Files

section Regions

variable {Byte : Type v}

def region (file : List Byte) (offset count : Nat) : List Byte := (file.drop offset).take count

def overwrite (zero : Byte) (file : List Byte) (offset : Nat) (data : List Byte) : List Byte :=
  if data = [] then file else
  (file ++ List.replicate (offset - file.length) zero).take offset ++ data ++
    file.drop (offset + data.length)

variable {zero : Byte} {file data : List Byte} {offset : Nat}

theorem region_clip (file : List Byte) (offset count : Nat) :
    region file offset (min count (file.length - offset)) = region file offset count := by
  refine List.take_eq_take_iff.mpr ?_
  rw [List.length_drop]
  omega

theorem length_padded : ((file ++ List.replicate (offset - file.length) zero).take offset).length =
    offset := by
  simp only [List.length_take, List.length_append, List.length_replicate]
  omega

theorem length_overwrite (written : data ≠ []) :
    (overwrite zero file offset data).length = max file.length (offset + data.length) := by
  rw [overwrite, if_neg written, List.length_append, List.length_append, length_padded,
    List.length_drop]
  omega

theorem region_overwrite_self (written : data ≠ []) :
    region (overwrite zero file offset data) offset data.length = data := by
  rw [overwrite, if_neg written, region, List.append_assoc, List.drop_left' length_padded,
    List.take_left' rfl]

theorem region_overwrite_apart {start count : Nat} (inside : start + count ≤ file.length)
    (apart : start + count ≤ offset ∨ offset + data.length ≤ start) :
    region (overwrite zero file offset data) start count = region file start count := by
  by_cases written : data = []
  · rw [overwrite, if_pos written]
  · rw [overwrite, if_neg written]
    unfold region
    rcases apart with before | after
    · rw [List.append_assoc, List.drop_append_of_le_length (by rw [length_padded]; omega),
        List.take_append_of_le_length (by rw [List.length_drop, length_padded]; omega),
        List.drop_take, List.take_take, Nat.min_eq_left (by omega),
        List.drop_append_of_le_length (by omega), List.take_append_of_le_length (by
          rw [List.length_drop]
          omega)]
    · have length : ((file ++ List.replicate (offset - file.length) zero).take offset ++
          data).length = offset + data.length := by
        rw [List.length_append, length_padded]
      have skipped : start = offset + data.length + (start - (offset + data.length)) := by omega
      rw [skipped, ← List.drop_drop, List.drop_left' length, List.drop_drop]

theorem eq_of_regions {other : List Byte} {size count : Nat} (positive : 0 < size)
    (covered : file.length ≤ count * size) (length : other.length = file.length)
    (agree : ∀ index < count,
      region file (index * size) size = region other (index * size) size) : file = other := by
  refine List.ext_getElem length.symm fun position inFile inOther => ?_
  have index : position / size < count := by
    rw [Nat.div_lt_iff_lt_mul positive]
    omega
  have here := agree (position / size) index
  have split : position / size * size + position % size = position := Nat.div_add_mod' ..
  have bound : position % size < size := Nat.mod_lt _ positive
  have same : (region file (position / size * size) size)[position % size]? =
      (region other (position / size * size) size)[position % size]? := by rw [here]
  simpa [region, List.getElem?_take, bound, List.getElem?_drop, split, inFile, inOther]
    using same

end Regions

end Jitong.Lib
