import Mathlib

/-!
The expand step of HKDF over any function that makes blocks, as the definition
with its numbered blocks and as the loop that appends one block after another.
-/

namespace Jitong.Lib

universe u

variable {Byte : Type u}

/-- Block `T(count)`; `make previous counter` is the function of the blocks. -/
def expandBlock (make : List Byte → Nat → List Byte) : Nat → List Byte
  | 0 => []
  | count + 1 => make (expandBlock make count) (count + 1)

def expandBlocks (make : List Byte → Nat → List Byte) (count : Nat) : List Byte :=
  (List.range count).flatMap fun index => expandBlock make (index + 1)

/-- The first `size` bytes of as many blocks of `blockSize` bytes as it takes. -/
def expand (make : List Byte → Nat → List Byte) (blockSize size : Nat) : List Byte :=
  (expandBlocks make ((size + blockSize - 1) / blockSize)).take size

/-- The loop with its counter; `fuel` bounds its rounds. -/
def expandLoop (make : List Byte → Nat → List Byte) (size : Nat) :
    Nat → Nat → List Byte → List Byte → List Byte
  | 0, _, _, output => output
  | fuel + 1, counter, previous, output =>
      if output.length < size then
        let block := make previous counter
        expandLoop make size fuel (counter + 1) block
          (output ++ block.take (min block.length (size - output.length)))
      else output

section Blocks

variable {make : List Byte → Nat → List Byte} {blockSize : Nat}

theorem expandBlocks_succ (make : List Byte → Nat → List Byte) (count : Nat) :
    expandBlocks make (count + 1) = expandBlocks make count ++ expandBlock make (count + 1) := by
  simp [expandBlocks, List.range_succ]

theorem length_expandBlocks (sized : ∀ previous counter, (make previous counter).length = blockSize)
    (count : Nat) : (expandBlocks make count).length = count * blockSize := by
  induction count with
  | zero => simp [expandBlocks]
  | succ count ih =>
      rw [expandBlocks_succ, List.length_append, ih, expandBlock, sized, Nat.succ_mul]

theorem expandBlocks_take (sized : ∀ previous counter, (make previous counter).length = blockSize)
    {size first second : Nat} (enough : size ≤ first * blockSize) (later : first ≤ second) :
    (expandBlocks make second).take size = (expandBlocks make first).take size := by
  induction second, later using Nat.le_induction with
  | base => rfl
  | succ second later ih =>
      have long : size ≤ (expandBlocks make second).length := by
        rw [length_expandBlocks sized]
        exact enough.trans (Nat.mul_le_mul_right blockSize later)
      rw [expandBlocks_succ, List.take_append_of_le_length long, ih]

theorem enough_blocks (positive : 0 < blockSize) (size : Nat) :
    size ≤ (size + blockSize - 1) / blockSize * blockSize := by
  have whole : size + blockSize - 1 < (size + blockSize - 1) / blockSize * blockSize + blockSize :=
    Nat.lt_div_mul_add positive
  omega

theorem length_expand (positive : 0 < blockSize)
    (sized : ∀ previous counter, (make previous counter).length = blockSize) (size : Nat) :
    (expand make blockSize size).length = size := by
  rw [expand, List.length_take, length_expandBlocks sized]
  exact Nat.min_eq_left (enough_blocks positive size)

theorem expandLoop_eq_expand (positive : 0 < blockSize)
    (sized : ∀ previous counter, (make previous counter).length = blockSize) {size : Nat}
    {fuel count : Nat} (enough : size ≤ fuel + count * blockSize) :
    expandLoop make size fuel (count + 1) (expandBlock make count)
      ((expandBlocks make count).take size) = expand make blockSize size := by
  have stop (count : Nat) (done : size ≤ count * blockSize) :
      (expandBlocks make count).take size = expand make blockSize size := by
    unfold expand
    have blocks := enough_blocks positive size
    rcases Nat.le_total ((size + blockSize - 1) / blockSize) count with fewer | more
    · exact expandBlocks_take sized blocks fewer
    · exact (expandBlocks_take sized done more).symm
  induction fuel generalizing count with
  | zero =>
      simp only [expandLoop]
      exact stop count (by omega)
  | succ fuel ih =>
      simp only [expandLoop]
      rw [List.length_take, length_expandBlocks sized]
      split
      · rename_i missing
        have short : count * blockSize < size := by omega
        have whole : (expandBlocks make count).take size = expandBlocks make count := by
          refine List.take_of_length_le ?_
          rw [length_expandBlocks sized]
          exact short.le
        have next : (expandBlocks make (count + 1)).take size = expandBlocks make count ++
            (expandBlock make (count + 1)).take (size - count * blockSize) := by
          rw [expandBlocks_succ, List.take_append, length_expandBlocks sized, whole]
        have step : size ≤ fuel + (count + 1) * blockSize := by
          rw [Nat.succ_mul]
          omega
        rw [← ih step, next, whole, Nat.min_eq_right short.le]
        refine congrArg (fun taken => expandLoop make size fuel (count + 1 + 1)
          (expandBlock make (count + 1)) (expandBlocks make count ++ taken)) ?_
        rw [expandBlock, ← List.take_take]
        exact List.take_of_length_le (List.length_take_le' _ _)
      · rename_i full
        exact stop count (by omega)

theorem expandLoop_start (positive : 0 < blockSize)
    (sized : ∀ previous counter, (make previous counter).length = blockSize) (size : Nat) :
    expandLoop make size size 1 [] [] = expand make blockSize size := by
  have enough : size ≤ size + 0 * blockSize := Nat.le_add_right _ _
  simpa [expandBlock, expandBlocks] using expandLoop_eq_expand positive sized enough

end Blocks

end Jitong.Lib
