import Mathlib

/-!
Decoders that read an input from a position on, where a read past its ends is an outcome of its
own, what it says of a decoder that it reads back what a writer wrote, and numbers with their
lowest byte first.
-/

namespace Jitong.Lib

structure Input (Cell : Type) where
  data : List Cell
  position : Nat
  inside : position ≤ data.length
  deriving DecidableEq

def Input.whole {Cell : Type} (data : List Cell) : Input Cell := ⟨data, 0, Nat.zero_le _⟩

inductive Outcome (Error α : Type)
  | done (value : α)
  | refused (error : Error)
  | outside
  deriving DecidableEq

def Decoder (Cell Error α : Type) := Input Cell → Outcome Error (α × Input Cell)

namespace Decoder

variable {Cell Error α β : Type}

def pure (value : α) : Decoder Cell Error α := fun input => .done (value, input)

def bind (first : Decoder Cell Error α) (next : α → Decoder Cell Error β) :
    Decoder Cell Error β := fun input =>
  match first input with
  | .done (value, rest) => next value rest
  | .refused error => .refused error
  | .outside => .outside

instance : Monad (Decoder Cell Error) where
  pure := pure
  bind := bind

def refuse (error : Error) : Decoder Cell Error α := fun _ => .refused error

def orError {Inner : Type} (decoder : Decoder Cell Inner α) (error : Error) :
    Decoder Cell Error α := fun input =>
  match decoder input with
  | .done found => .done found
  | .refused _ => .refused error
  | .outside => .outside

def take (error : Error) (count : Nat) : Decoder Cell Error (List Cell) := fun input =>
  if short : input.data.length < input.position + count then .refused error
  else
    match (List.range count).mapM fun index => input.data[input.position + index]? with
    | none => .outside
    | some cells => .done (cells, ⟨input.data, input.position + count, Nat.not_lt.mp short⟩)

def each (item : Nat → Decoder Cell Error α) : List Nat → Decoder Cell Error (List α)
  | [] => pure []
  | index :: later => bind (item index) fun value => bind (each item later) fun values =>
      pure (value :: values)

end Decoder

structure Advances {Cell : Type} (start : Input Cell) (cells : List Cell) (stop : Input Cell) :
    Prop where
  data : stop.data = start.data
  position : stop.position = start.position + cells.length
  between : start.data.drop start.position = cells ++ start.data.drop stop.position

/-- Among the values that are known already, the decoder gives those that fit, each for what is
written for it, and it reads nothing outside the input. -/
structure Reads {Cell Error α : Type} (decoder : Decoder Cell Error α) (known : α → Prop)
    (written : α → List Cell) (fits : α → Prop) : Prop where
  done_iff : ∀ start value stop, decoder start = .done (value, stop) ↔
    known value ∧ fits value ∧ Advances start (written value) stop
  inside : ∀ start, decoder start ≠ .outside

namespace Advances

variable {Cell : Type} {start middle stop : Input Cell} {front back : List Cell}

theorem nil_iff : Advances start [] stop ↔ stop = start := by
  constructor
  · rintro ⟨data, position, _⟩
    cases start
    cases stop
    simp_all
  · rintro rfl
    exact ⟨rfl, rfl, rfl⟩

theorem append_iff : Advances start (front ++ back) stop ↔
    ∃ middle, Advances start front middle ∧ Advances middle back stop := by
  constructor
  · rintro ⟨data, position, between⟩
    rw [List.length_append] at position
    have later : start.data.drop (start.position + front.length) =
        back ++ start.data.drop stop.position := by
      rw [← List.drop_drop, between, List.append_assoc, List.drop_left]
    have inside : start.position + front.length ≤ start.data.length := by
      have bound := stop.inside
      rw [data] at bound
      omega
    refine ⟨⟨start.data, start.position + front.length, inside⟩, ⟨rfl, rfl, ?_⟩,
      ⟨data, ?_, later⟩⟩
    · rw [between, List.append_assoc, ← later]
    · simp only
      omega
  · rintro ⟨middle, ⟨firstData, firstPosition, firstBetween⟩, ⟨data, position, between⟩⟩
    refine ⟨data.trans firstData, ?_, ?_⟩
    · rw [position, firstPosition, List.length_append, Nat.add_assoc]
    · rw [firstBetween, ← firstData, between, List.append_assoc]

theorem whole_iff {cells written : List Cell} (ends : stop.position = stop.data.length) :
    Advances (.whole cells) written stop ↔
      written = cells ∧ stop = ⟨cells, cells.length, Nat.le_refl _⟩ := by
  constructor
  · rintro ⟨data, position, between⟩
    simp only [Input.whole] at data position between
    rw [data] at ends
    rw [ends, List.drop_length, List.drop_zero, List.append_nil] at between
    refine ⟨between.symm, ?_⟩
    cases stop
    simp_all
  · rintro ⟨rfl, rfl⟩
    exact ⟨rfl, by simp [Input.whole], by simp [Input.whole]⟩

end Advances

namespace Reads

variable {Cell Error α β : Type} {decoder : Decoder Cell Error α} {known fits : α → Prop}
  {written : α → List Cell}

theorem take_done (error : Error) (count : Nat) (start : Input Cell)
    (enough : start.position + count ≤ start.data.length) :
    Decoder.take error count start =
      .done ((start.data.drop start.position).take count,
        ⟨start.data, start.position + count, enough⟩) := by
  have cells : ∀ size, start.position + size ≤ start.data.length →
      (List.range size).mapM (fun index => start.data[start.position + index]?) =
        some ((start.data.drop start.position).take size) := by
    intro size
    induction size with
    | zero => intro _; simp
    | succ size ih =>
        intro bound
        have here : start.position + size < start.data.length := by omega
        rw [List.range_succ, List.mapM_append, ih (by omega)]
        simp only [List.mapM_cons, List.mapM_nil, List.getElem?_eq_getElem here, Option.pure_def,
          Option.bind_eq_bind, Option.bind_some]
        rw [List.take_add_one]
        simp [List.getElem?_drop, List.getElem?_eq_getElem here]
  rw [Decoder.take, dif_neg (by omega), cells count enough]

theorem take (error : Error) (count : Nat) :
    Reads (Decoder.take error count : Decoder Cell Error (List Cell)) (fun _ => True)
      (fun cells => cells) (fun cells => cells.length = count) := by
  constructor
  · intro start cells stop
    by_cases enough : start.position + count ≤ start.data.length
    · rw [take_done error count start enough]
      constructor
      · intro same
        obtain ⟨rfl, rfl⟩ := Prod.mk.inj (Outcome.done.inj same)
        have size : ((start.data.drop start.position).take count).length = count := by
          rw [List.length_take, List.length_drop]
          omega
        refine ⟨trivial, size, rfl, by rw [size], ?_⟩
        rw [← List.drop_drop, List.take_append_drop]
      · rintro ⟨_, size, data, position, between⟩
        subst size
        rw [between, List.take_left]
        cases stop
        simp_all
    · constructor
      · intro done
        rw [Decoder.take, dif_pos (by omega)] at done
        exact nomatch done
      · rintro ⟨_, size, data, position, _⟩
        have bound := stop.inside
        rw [data] at bound
        omega
  · intro start
    by_cases enough : start.position + count ≤ start.data.length
    · rw [take_done error count start enough]
      exact nofun
    · rw [Decoder.take, dif_pos (by omega)]
      exact nofun

theorem pure (value : α) :
    Reads (Decoder.pure value : Decoder Cell Error α) (fun found => found = value)
      (fun _ => []) (fun _ => True) := by
  constructor
  · intro start found stop
    rw [Advances.nil_iff]
    constructor
    · intro same
      obtain ⟨rfl, rfl⟩ := Prod.mk.inj (Outcome.done.inj same)
      exact ⟨rfl, trivial, rfl⟩
    · rintro ⟨rfl, _, rfl⟩
      rfl
  · intro start
    exact nofun

theorem bind_done {first : Decoder Cell Error β} {next : β → Decoder Cell Error α}
    {start stop : Input Cell} {whole : α} :
    Decoder.bind first next start = .done (whole, stop) ↔
      ∃ value rest, first start = .done (value, rest) ∧ next value rest = .done (whole, stop) := by
  unfold Decoder.bind
  constructor
  · intro done
    split at done
    · rename_i value rest taken
      exact ⟨value, rest, taken, done⟩
    · exact nomatch done
    · exact nomatch done
  · rintro ⟨value, rest, taken, done⟩
    simp only [taken, done]

theorem bind_inside {first : Decoder Cell Error β} {next : β → Decoder Cell Error α}
    {start : Input Cell} (front : first start ≠ .outside)
    (back : ∀ value rest, first start = .done (value, rest) → next value rest ≠ .outside) :
    Decoder.bind first next start ≠ .outside := by
  unfold Decoder.bind
  split
  · rename_i value rest taken
    exact back value rest taken
  · exact nofun
  · rename_i taken
    exact absurd taken front

theorem bind {first : Decoder Cell Error β} {next : β → Decoder Cell Error α}
    {small : β → Prop} {writes : β → List Cell} (part : α → β)
    (reads : Reads first (fun _ => True) writes small)
    (later : ∀ value, small value → Reads (next value)
      (fun whole => known whole ∧ part whole = value) written fits) :
    Reads (Decoder.bind first next) known (fun whole => writes (part whole) ++ written whole)
      (fun whole => small (part whole) ∧ fits whole) := by
  constructor
  · intro start whole stop
    rw [bind_done, Advances.append_iff]
    constructor
    · rintro ⟨value, rest, taken, done⟩
      obtain ⟨_, small, front⟩ := (reads.done_iff _ _ _).mp taken
      obtain ⟨⟨known, rfl⟩, fits, back⟩ := ((later value small).done_iff _ _ _).mp done
      exact ⟨known, ⟨small, fits⟩, rest, front, back⟩
    · rintro ⟨known, ⟨small, fits⟩, rest, front, back⟩
      exact ⟨part whole, rest, (reads.done_iff _ _ _).mpr ⟨trivial, small, front⟩,
        ((later (part whole) small).done_iff _ _ _).mpr ⟨⟨known, rfl⟩, fits, back⟩⟩
  · intro start
    refine bind_inside (reads.inside start) ?_
    intro value rest taken
    exact (later value ((reads.done_iff _ _ _).mp taken).2.1).inside rest

theorem congr {known' fits' : α → Prop} {written' : α → List Cell}
    (reads : Reads decoder known written fits)
    (same : ∀ value, known value ∧ fits value ↔ known' value ∧ fits' value)
    (writes : ∀ value, known value → fits value → written value = written' value) :
    Reads decoder known' written' fits' := by
  refine ⟨?_, reads.inside⟩
  intro start value stop
  rw [reads.done_iff, ← and_assoc, ← and_assoc, ← same value]
  refine and_congr_right ?_
  rintro ⟨known, fits⟩
  rw [writes value known fits]

theorem rewritten {fits' : α → Prop} {written' : α → List Cell}
    (reads : Reads decoder known written fits) (same : ∀ value, fits value ↔ fits' value)
    (writes : ∀ value, written value = written' value) : Reads decoder known written' fits' :=
  reads.congr (fun value => and_congr_right fun _ => same value) fun value _ _ => writes value

theorem done {value : α} (all : ∀ whole, known whole ↔ whole = value) :
    Reads (Decoder.pure value : Decoder Cell Error α) known (fun _ => []) (fun _ => True) :=
  (pure value).congr (fun whole => by rw [all whole]) fun _ _ _ => rfl

theorem map {first : Decoder Cell Error β} {writes : β → List Cell} {small : β → Prop}
    (reads : Reads first (fun _ => True) writes small) (form : β → α) (back : α → β)
    (turned : ∀ value, small value → back (form value) = value)
    (formed : ∀ whole, fits whole ↔ small (back whole) ∧ form (back whole) = whole) :
    Reads (Decoder.bind first fun value => Decoder.pure (form value)) (fun _ => True)
      (fun whole => writes (back whole)) fits := by
  have later (value : β) (smallValue : small value) :
      Reads (Decoder.pure (form value) : Decoder Cell Error α)
        (fun whole => True ∧ back whole = value) (fun _ => [])
        (fun whole => form (back whole) = whole) := by
    refine (pure (form value)).congr ?_ fun _ _ _ => rfl
    intro whole
    constructor
    · rintro ⟨rfl, _⟩
      rw [turned value smallValue]
      exact ⟨⟨trivial, rfl⟩, rfl⟩
    · rintro ⟨⟨_, rfl⟩, same⟩
      exact ⟨same.symm, trivial⟩
  refine (bind back reads later).congr ?_ fun _ _ _ => List.append_nil _
  intro whole
  rw [formed whole]

theorem refuse (error : Error) (nothing : ∀ value, known value → ¬ fits value) :
    Reads (Decoder.refuse error : Decoder Cell Error α) known written fits := by
  constructor
  · intro start value stop
    constructor
    · exact nofun
    · rintro ⟨known, fits, _⟩
      exact absurd fits (nothing value known)
  · intro start
    exact nofun

theorem orError {error : Error} {Inner : Type} {decoder : Decoder Cell Inner α}
    (reads : Reads decoder known written fits) :
    Reads (Decoder.orError decoder error) known written fits := by
  constructor
  · intro start value stop
    rw [← reads.done_iff, Decoder.orError]
    split
    · rename_i found
      rw [found]
      constructor
      · intro same
        rw [Outcome.done.inj same]
      · intro same
        rw [Outcome.done.inj same]
    · rename_i refused
      rw [refused]
      exact ⟨nofun, nofun⟩
    · rename_i outside
      rw [outside]
      exact ⟨nofun, nofun⟩
  · intro start
    rw [Decoder.orError]
    split
    · exact nofun
    · exact nofun
    · rename_i outside
      exact absurd outside (reads.inside start)

theorem front_done (reads : Reads decoder (fun _ => True) written fits) {value : α}
    (small : fits value) (back : List Cell) :
    ∃ stop, decoder (.whole (written value ++ back)) = .done (value, stop) := by
  have inside : (written value).length ≤ (written value ++ back).length := by
    rw [List.length_append]
    omega
  refine ⟨⟨written value ++ back, (written value).length, inside⟩,
    (reads.done_iff _ _ _).mpr ⟨trivial, small, rfl, ?_, ?_⟩⟩
  · exact (Nat.zero_add _).symm
  · simp [Input.whole]

theorem prefix_free (reads : Reads decoder (fun _ => True) written fits) {left right : α}
    {front back : List Cell} (leftFits : fits left) (rightFits : fits right)
    (same : written left ++ front = written right ++ back) : left = right ∧ front = back := by
  obtain ⟨leftStop, leftDone⟩ := reads.front_done leftFits front
  obtain ⟨rightStop, rightDone⟩ := reads.front_done rightFits back
  rw [same, rightDone] at leftDone
  obtain ⟨rfl, _⟩ := Prod.mk.inj (Outcome.done.inj leftDone)
  exact ⟨rfl, List.append_cancel_left same⟩

theorem each {item : Nat → Decoder Cell Error α}
    (reads : ∀ index, Reads (item index) (fun _ => True) written fits) (indices : List Nat) :
    Reads (Decoder.each item indices) (fun _ => True) (fun values => values.flatMap written)
      (fun values => values.length = indices.length ∧ ∀ value ∈ values, fits value) := by
  induction indices with
  | nil =>
      refine (pure []).congr ?_ ?_
      · intro values
        cases values <;> simp
      · rintro _ rfl _
        rfl
  | cons index indices ih =>
      constructor
      · intro start values stop
        simp only [Decoder.each, bind_done, (reads index).done_iff, ih.done_iff,
          (pure _).done_iff, Advances.nil_iff]
        constructor
        · rintro ⟨value, rest, ⟨_, small, front⟩, later, last, ⟨_, ⟨size, all⟩, back⟩,
            rfl, _, rfl⟩
          refine ⟨trivial, ⟨?_, ?_⟩, ?_⟩
          · simp only [List.length_cons, size]
          · exact List.forall_mem_cons.mpr ⟨small, all⟩
          · rw [List.flatMap_cons]
            exact Advances.append_iff.mpr ⟨rest, front, back⟩
        · rintro ⟨_, ⟨size, all⟩, moved⟩
          obtain - | ⟨value, later⟩ := values
          · exact nomatch size
          obtain ⟨small, all⟩ := List.forall_mem_cons.mp all
          rw [List.flatMap_cons] at moved
          obtain ⟨rest, front, back⟩ := Advances.append_iff.mp moved
          exact ⟨value, rest, ⟨trivial, small, front⟩, later, stop,
            ⟨trivial, ⟨Nat.succ.inj size, all⟩, back⟩, rfl, trivial, rfl⟩
      · intro start
        refine bind_inside ((reads index).inside start) ?_
        intro value rest _
        refine bind_inside (ih.inside rest) ?_
        intro later last _
        exact nofun

end Reads

def littleEndian (size number : Nat) : List UInt8 :=
  (List.range size).map fun index => UInt8.ofNat (number >>> (8 * index))

def littleEndianNumber (bytes : List UInt8) : Nat :=
  bytes.foldr (fun byte number => byte.toNat + 256 * number) 0

@[simp] theorem littleEndian_length (size number : Nat) :
    (littleEndian size number).length = size := by
  simp [littleEndian]

theorem littleEndian_succ (size number : Nat) :
    littleEndian (size + 1) number = UInt8.ofNat number :: littleEndian size (number / 256) := by
  rw [littleEndian, List.range_succ_eq_map, List.map_cons, List.map_map]
  refine congrArg₂ List.cons (by simp) (List.map_congr_left ?_)
  intro index _
  simp only [Function.comp_apply, Nat.shiftRight_eq_div_pow]
  rw [Nat.div_div_eq_div_mul, show 256 = 2 ^ 8 from rfl, ← Nat.pow_add]
  congr 3
  omega

theorem littleEndianNumber_lt (bytes : List UInt8) :
    littleEndianNumber bytes < 256 ^ bytes.length := by
  induction bytes with
  | nil => simp [littleEndianNumber]
  | cons byte bytes ih =>
      have small := byte.toNat_lt
      have power : 256 ^ (byte :: bytes).length = 256 * 256 ^ bytes.length := by
        rw [List.length_cons, Nat.pow_succ, Nat.mul_comm]
      change byte.toNat + 256 * littleEndianNumber bytes < _
      omega

theorem littleEndianNumber_concat (bytes : List UInt8) (byte : UInt8) :
    littleEndianNumber (bytes ++ [byte]) =
      littleEndianNumber bytes + byte.toNat * 2 ^ (8 * bytes.length) := by
  induction bytes with
  | nil => simp [littleEndianNumber]
  | cons first bytes ih =>
      change first.toNat + 256 * littleEndianNumber (bytes ++ [byte]) =
        first.toNat + 256 * littleEndianNumber bytes + _
      have power : 2 ^ (8 * (first :: bytes).length) = 256 * 2 ^ (8 * bytes.length) := by
        rw [List.length_cons, Nat.mul_add, Nat.pow_add]
        omega
      rw [ih, power]
      ring

theorem littleEndianNumber_littleEndian (size number : Nat) :
    littleEndianNumber (littleEndian size number) = number % 256 ^ size := by
  induction size generalizing number with
  | zero => simp [littleEndian, littleEndianNumber, Nat.mod_one]
  | succ size ih =>
      rw [littleEndian_succ]
      change (UInt8.ofNat number).toNat +
        256 * littleEndianNumber (littleEndian size (number / 256)) = _
      have power : 256 ^ (size + 1) = 256 * 256 ^ size := by rw [Nat.pow_succ, Nat.mul_comm]
      rw [ih, UInt8.toNat_ofNat', power, Nat.mod_mul]

theorem littleEndian_littleEndianNumber (bytes : List UInt8) :
    littleEndian bytes.length (littleEndianNumber bytes) = bytes := by
  induction bytes with
  | nil => rfl
  | cons byte bytes ih =>
      have small := byte.toNat_lt
      have number : littleEndianNumber (byte :: bytes) =
          byte.toNat + 256 * littleEndianNumber bytes := rfl
      have first : UInt8.ofNat (littleEndianNumber (byte :: bytes)) = byte := by
        apply UInt8.toNat_inj.mp
        rw [UInt8.toNat_ofNat', number]
        omega
      have rest : littleEndianNumber (byte :: bytes) / 256 = littleEndianNumber bytes := by omega
      rw [List.length_cons, littleEndian_succ, first, rest, ih]

theorem or_bytes (bytes : List UInt8) (count : Nat) (inside : count ≤ bytes.length) :
    (List.range count).foldl (fun number i => number ||| (bytes.getD i 0).toNat <<< (8 * i)) 0 =
      littleEndianNumber (bytes.take count) := by
  induction count with
  | zero => rfl
  | succ count ih =>
      have here : count < bytes.length := by omega
      have length : (bytes.take count).length = count := by
        rw [List.length_take]
        omega
      have below := littleEndianNumber_lt (bytes.take count)
      rw [length, show 256 = 2 ^ 8 from rfl, ← Nat.pow_mul] at below
      rw [List.range_succ, List.foldl_append, List.foldl_cons, List.foldl_nil, ih (by omega),
        List.getD_eq_getElem _ _ here, Nat.or_comm, ← Nat.shiftLeft_add_eq_or_of_lt below,
        Nat.shiftLeft_eq, Nat.add_comm, List.take_add_one, List.getElem?_eq_getElem here,
        Option.toList_some, littleEndianNumber_concat, length]

theorem shiftLeft_lt (byte : UInt8) (index width : Nat) (room : 8 * (index + 1) ≤ width) :
    byte.toNat <<< (8 * index) < 2 ^ width := by
  have power := Nat.pow_le_pow_right (show 0 < 2 by decide) room
  rw [Nat.mul_add, Nat.pow_add, Nat.mul_comm] at power
  rw [Nat.shiftLeft_eq]
  exact lt_of_lt_of_le (Nat.mul_lt_mul_of_pos_right byte.toNat_lt (Nat.two_pow_pos _)) power

end Jitong.Lib
