import Jitong.Protocol
import Jitong.SearchHighlights

/-!
The initials that `PinyinIndex.of` stores beside a text, and the texts whose highlights are right:
those of which every initial has as many indexable characters around it as bytes.
-/

namespace Jitong

open Lib Lib.Utf8

def unitChar (unit : UInt16) : Char := .ofNat unit.toNat

/-- A syllable of TinyPinyin is of letters, and the lower case of a letter or digit is a letter or
digit of the basic plane. -/
structure CharData.Spelled (k : CharData) : Prop where
  syllable : ∀ ch, k.isChinese ch = true →
    ∃ first rest, k.syllable ch = first :: rest ∧ PinyinIndex.isLowerLetter first = true
  letter : ∀ ch, k.isLetterOrDigit ch = true →
    0x30 ≤ k.lowercaseChar ch ∧ (k.lowercaseChar ch < 0xD800 ∨ 0xE000 ≤ k.lowercaseChar ch)

namespace SearchService

def initials (k : CharData) (chars : List Char) : List UInt16 :=
  (PinyinIndex.of k (chars.flatMap utf16)).initials

def storedInitials (k : CharData) (chars : List Char) : Bytes :=
  encode ((initials k chars).map unitChar)

def Indexed (k : CharData) (row : SearchRow) : Prop :=
  ∃ chars, row.content = encode chars ∧ row.initials = storedInitials k chars

def Before (left right : HighlightRange) : Prop :=
  left.start < right.start ∨ left.start = right.start ∧ left.stop < right.stop

structure Sound (k : CharData) (chars : List Char) (key : Bytes) (ranges : List HighlightRange) :
    Prop where
  sorted : ranges.Pairwise Before
  listed : ∀ range, range ∈ ranges ↔ range ∈ contentRanges (encode chars) key ∨
    range ∈ initialRanges (encode chars) (storedInitials k chars) key
  inside : ∀ range ∈ ranges, range.start < range.stop ∧ range.stop ≤ utf16Length chars
  content : ∀ range ∈ contentRanges (encode chars) key, ∃ middle,
    Covers chars middle range ∧ lower (encode middle) = key
  initials : ∀ range ∈ initialRanges (encode chars) (storedInitials k chars) key, ∃ middle,
    Covers chars middle range ∧ lower (storedInitials k middle) = key

/-- Characters with one initial, from an indexable one to an indexable one, and with as many
indexable ones as the initial has bytes. -/
structure InitialRun (k : CharData) (middle : List Char) : Prop where
  edged : Edged middle
  single : ∃ unit, initials k middle = [unit]
  balanced : (storedInitials k middle).length = indexables middle

inductive Aligned (k : CharData) : List Char → Prop
  | nil : Aligned k []
  | plain (char : Char) (rest : List Char) (silent : initials k [char] = [])
      (notIndexable : indexable char.toNat = false) (later : Aligned k rest) :
      Aligned k (char :: rest)
  | run (middle rest : List Char) (one : InitialRun k middle) (later : Aligned k rest) :
      Aligned k (middle ++ rest)

/-! Normalizing. -/

section Normalize

variable {ranges : List HighlightRange} {range : HighlightRange}

theorem mem_destutter' (first : HighlightRange) :
    range ∈ ranges.destutter' (· ≠ ·) first ↔ range = first ∨ range ∈ ranges := by
  induction ranges generalizing first with
  | nil => simp
  | cons next rest ih =>
      rw [List.destutter'_cons]
      split
      · rw [List.mem_cons, ih, List.mem_cons]
      · rename_i same
        obtain rfl := not_not.mp same
        rw [ih, List.mem_cons]
        tauto

theorem mem_normalizeRanges : range ∈ normalizeRanges ranges ↔ range ∈ ranges := by
  have sorted : range ∈ ranges.mergeSort notAfter ↔ range ∈ ranges := List.mem_mergeSort
  rw [← sorted]
  unfold normalizeRanges
  generalize ranges.mergeSort notAfter = ascending
  cases ascending with
  | nil => rfl
  | cons first rest => rw [List.destutter_cons', mem_destutter', List.mem_cons]

theorem normalizeRanges_pairwise : (normalizeRanges ranges).Pairwise Before := by
  have total : ∀ left right, (notAfter left right || notAfter right left) = true := by
    intro left right
    simp only [notAfter, Bool.or_eq_true, Bool.and_eq_true, decide_eq_true_eq]
    omega
  have transitive : ∀ left middle right, notAfter left middle = true →
      notAfter middle right = true → notAfter left right = true := by
    intro left middle right
    simp only [notAfter, Bool.or_eq_true, Bool.and_eq_true, decide_eq_true_eq]
    omega
  have sorted := (List.pairwise_mergeSort transitive total ranges).sublist
    (List.destutter_sublist (· ≠ ·) (ranges.mergeSort notAfter))
  have differ := List.isChain_destutter (R := (· ≠ ·)) (ranges.mergeSort notAfter)
  have trans : Trans Before Before Before := ⟨fun {left middle right} first second => by
    unfold Before at *
    omega⟩
  refine List.isChain_iff_pairwise.mp ?_
  refine List.isChain_iff_forall_rel_of_append_cons_cons.mpr fun left right front back split => ?_
  have before := List.isChain_iff_forall_rel_of_append_cons_cons.mp sorted.isChain split
  have other := List.isChain_iff_forall_rel_of_append_cons_cons.mp differ split
  simp only [notAfter, Bool.or_eq_true, Bool.and_eq_true, decide_eq_true_eq] at before
  unfold Before
  by_contra neither
  refine other ?_
  obtain ⟨start, stop⟩ := left
  obtain ⟨start', stop'⟩ := right
  simp only [HighlightRange.mk.injEq] at *
  omega

end Normalize

/-! Initials. -/

section Initials

variable {k : CharData} {char : Char} {chars front middle back rest : List Char}
  {units earlier later : List UInt16} {key : List Char} {start count : Nat} {range : HighlightRange}

@[simp] theorem initials_nil : initials k [] = [] := rfl

theorem initials_append (front back : List Char) :
    initials k (front ++ back) = initials k front ++ initials k back := by
  unfold initials PinyinIndex.of
  rw [List.flatMap_append, List.map_append, List.filter_append]

theorem storedInitials_append (front back : List Char) :
    storedInitials k (front ++ back) = storedInitials k front ++ storedInitials k back := by
  unfold storedInitials
  rw [initials_append, List.map_append, encode_append]

theorem lower_storedInitials (chars : List Char) :
    lower (storedInitials k chars) =
      encode ((initials k chars).map fun unit => lowerChar (unitChar unit)) := by
  unfold storedInitials
  rw [lower_encode, List.map_map]
  rfl

theorem utf16_ne_nil (char : Char) : 0 < (utf16 char).length := by
  rw [length_utf16]
  split <;> omega

theorem front_eq {front' back' : List Char} (same : front ++ back = front' ++ back')
    (units : utf16Length front = utf16Length front') : front = front' := by
  rcases List.append_eq_append_iff.mp same with ⟨more, rfl, _⟩ | ⟨more, rfl, _⟩
  · cases more with
    | nil => simp
    | cons head more =>
        have := utf16_ne_nil head
        rw [utf16Length_append, utf16Length_cons] at units
        omega
  · cases more with
    | nil => simp
    | cons head more =>
        have := utf16_ne_nil head
        rw [utf16Length_append, utf16Length_cons] at units
        omega

theorem Covers.unique {middle' : List Char} (left : Covers chars middle range)
    (right : Covers chars middle' range) : middle = middle' := by
  obtain ⟨front, back, rfl, _, rfl⟩ := left
  obtain ⟨front', back', split, _, same⟩ := right
  obtain ⟨starts, stops⟩ := HighlightRange.mk.inj same
  have whole : front ++ (middle ++ back) = front' ++ (middle' ++ back') := by
    rw [← List.append_assoc, split, List.append_assoc]
  obtain rfl := front_eq whole starts
  exact List.append_cancel_left (front_eq split stops)

theorem Covers.inside (covers : Covers chars middle range) :
    range.start < range.stop ∧ range.stop ≤ utf16Length chars := by
  obtain ⟨front, back, rfl, some, rfl⟩ := covers
  obtain ⟨char, tail, rfl⟩ := List.exists_cons_of_ne_nil some
  have := utf16_ne_nil char
  dsimp only
  rw [utf16Length_append, utf16Length_append, utf16Length_append, utf16Length_cons]
  omega

theorem sound_of_initials (some : key ≠ [])
    (spells : ∀ range ∈ initialRanges (encode chars) (storedInitials k chars) (encode key), ∃ middle,
      Covers chars middle range ∧ lower (storedInitials k middle) = encode key) :
    Sound k chars (encode key)
      (highlightRanges (encode chars) (storedInitials k chars) (encode key)) := by
  have listed (range : HighlightRange) :
      range ∈ highlightRanges (encode chars) (storedInitials k chars) (encode key) ↔
        range ∈ contentRanges (encode chars) (encode key) ∨
          range ∈ initialRanges (encode chars) (storedInitials k chars) (encode key) := by
    unfold highlightRanges
    rw [mem_normalizeRanges, List.mem_append]
  refine ⟨normalizeRanges_pairwise, listed, fun range member => ?_,
    fun range member => contentRanges_covers some member, spells⟩
  rcases (listed range).mp member with found | found
  · obtain ⟨_, covers, _⟩ := contentRanges_covers some found
    exact covers.inside
  · obtain ⟨_, covers, _⟩ := spells range found
    exact covers.inside

/-! Aligned texts. -/

theorem Aligned.split_front (aligned : Aligned k chars) (split : initials k chars = earlier ++ later)
    (some : later ≠ []) :
    ∃ front back, chars = front ++ back ∧ Aligned k back ∧ initials k front = earlier ∧
      initials k back = later ∧ indexables front = (storedInitials k front).length ∧
      ∃ char rest, back = char :: rest ∧ indexable char.toNat = true := by
  induction aligned generalizing earlier with
  | nil =>
      rw [initials_nil] at split
      exact absurd (List.append_eq_nil_iff.mp split.symm).2 some
  | plain char rest silent notIndexable _ ih =>
      rw [← List.singleton_append, initials_append, silent, List.nil_append] at split
      obtain ⟨front, back, rfl, aligned, first, second, balanced, edge⟩ := ih split
      refine ⟨char :: front, back, rfl, aligned, ?_, second, ?_, edge⟩
      · rw [← List.singleton_append, initials_append, silent, first, List.nil_append]
      · rw [indexables_cons_neg notIndexable, balanced, ← List.singleton_append,
          storedInitials_append]
        simp [storedInitials, silent]
  | run middle rest one aligned ih =>
      obtain ⟨unit, single⟩ := one.single
      cases earlier with
      | nil =>
          obtain ⟨first, tail, begins, isFirst⟩ := one.edged.first
          refine ⟨[], middle ++ rest, rfl, .run middle rest one aligned, rfl, split, rfl, first,
            tail ++ rest, by simp [begins], isFirst⟩
      | cons head earlier =>
          rw [initials_append, single, List.singleton_append, List.cons_append, List.cons.injEq]
            at split
          obtain ⟨rfl, split⟩ := split
          obtain ⟨front, back, rfl, aligned, first, second, balanced, edge⟩ := ih split
          refine ⟨middle ++ front, back, by simp, aligned, ?_, second, ?_, edge⟩
          · rw [initials_append, single, first, List.singleton_append]
          · rw [indexables_append, balanced, storedInitials_append, List.length_append, one.balanced]

theorem Aligned.split_back (aligned : Aligned k chars) (split : initials k chars = earlier ++ later)
    (some : earlier ≠ []) :
    ∃ front back, chars = front ++ back ∧ initials k front = earlier ∧
      indexables front = (storedInitials k front).length ∧
      ∃ rest char, front = rest ++ [char] ∧ indexable char.toNat = true := by
  induction aligned generalizing earlier with
  | nil =>
      rw [initials_nil] at split
      exact absurd (List.append_eq_nil_iff.mp split.symm).1 some
  | plain char rest silent notIndexable _ ih =>
      rw [← List.singleton_append, initials_append, silent, List.nil_append] at split
      obtain ⟨front, back, rfl, first, balanced, init, last, ends, isLast⟩ := ih split some
      refine ⟨char :: front, back, rfl, ?_, ?_, char :: init, last, by simp [ends], isLast⟩
      · rw [← List.singleton_append, initials_append, silent, first, List.nil_append]
      · rw [indexables_cons_neg notIndexable, balanced, ← List.singleton_append,
          storedInitials_append]
        simp [storedInitials, silent]
  | run middle rest one aligned ih =>
      obtain ⟨unit, single⟩ := one.single
      cases earlier with
      | nil => exact absurd rfl some
      | cons head earlier =>
          rw [initials_append, single, List.singleton_append, List.cons_append, List.cons.injEq]
            at split
          obtain ⟨rfl, split⟩ := split
          by_cases none : earlier = []
          · refine ⟨middle, rest, rfl, ?_, one.balanced.symm, one.edged.last⟩
            rw [single, none]
          · obtain ⟨front, back, rfl, first, balanced, init, last, ends, isLast⟩ := ih split none
            refine ⟨middle ++ front, back, by simp, ?_, ?_, middle ++ init, last, by simp [ends],
              isLast⟩
            · rw [initials_append, single, first, List.singleton_append]
            · rw [indexables_append, balanced, storedInitials_append, List.length_append,
                one.balanced]

theorem length_lower_encode (chars : List Char) :
    (encode (chars.map lowerChar)).length = (encode chars).length := by
  rw [← lower_encode, length_lower]

theorem Aligned.stretch {middle : List UInt16} (aligned : Aligned k chars)
    (split : initials k chars = earlier ++ middle ++ later) (some : middle ≠ []) :
    ∃ front here back, Stretch chars front here back
      (encode (earlier.map unitChar)).length (encode (middle.map unitChar)).length ∧
      initials k here = middle := by
  rw [List.append_assoc] at split
  obtain ⟨front, tail, rfl, aligned, first, second, balanced, edge⟩ :=
    aligned.split_front split (by simp [some])
  obtain ⟨here, back, rfl, spells, counts, last⟩ := aligned.split_back second some
  refine ⟨front, here, back, ⟨by simp, ?_, ?_, ?_, last⟩, spells⟩
  · rw [balanced, storedInitials, first]
  · rw [counts, storedInitials, spells]
  · obtain ⟨char, rest, begins, isFirst⟩ := edge
    cases here with
    | nil =>
        rw [initials_nil] at spells
        exact absurd spells.symm some
    | cons head others =>
        obtain rfl := (List.cons.inj begins).1
        exact ⟨head, others, rfl, isFirst⟩

theorem Aligned.spells (aligned : Aligned k chars)
    (same : (storedInitials k chars).length = indexables chars) (some : key ≠ [])
    (found : range ∈ initialRanges (encode chars) (storedInitials k chars) (encode key)) :
    ∃ middle, Covers chars middle range ∧ lower (storedInitials k middle) = encode key := by
  obtain ⟨start, front, middle, back, occurs, stretch, rfl⟩ :=
    (mem_initialRanges same (encode_ne_nil some)).mp found
  rw [lower_storedInitials] at occurs
  obtain ⟨before, after, split, length⟩ := occurs_encode some occurs
  obtain ⟨both, later, units, left, _⟩ := List.map_eq_append_iff.mp split
  obtain ⟨earlier, inner, rfl, rfl, spelled⟩ := List.map_eq_append_iff.mp left
  have lengths (units : List UInt16) :
      (encode (units.map fun unit => lowerChar (unitChar unit))).length =
        (encode (units.map unitChar)).length := by
    rw [← length_lower_encode (units.map unitChar), List.map_map]
    rfl
  have inhabited : inner ≠ [] := by
    rintro rfl
    exact some spelled.symm
  obtain ⟨front', here, back', real, own⟩ := aligned.stretch units inhabited
  rw [← lengths, ← lengths, length, spelled] at real
  obtain ⟨_, rfl⟩ := stretch.unique real
  refine ⟨middle, stretch.covers, ?_⟩
  rw [lower_storedInitials, own, spelled]

inductive Spaced (k : CharData) : Nat → List Char → Prop
  | nil : Spaced k 0 []
  | gap (count : Nat) (char : Char) (rest : List Char) (notIndexable : indexable char.toNat = false)
      (later : Spaced k count rest) : Spaced k count (char :: rest)
  | run (count : Nat) (middle rest : List Char) (one : InitialRun k middle)
      (later : Spaced k count rest) : Spaced k (count + 1) (middle ++ rest)

theorem Spaced.count_le (spaced : Spaced k count chars) : count ≤ (initials k chars).length := by
  induction spaced with
  | nil => exact le_rfl
  | gap count char rest _ _ ih =>
      rw [← List.singleton_append, initials_append, List.length_append]
      omega
  | run count middle rest one _ ih =>
      obtain ⟨unit, single⟩ := one.single
      rw [initials_append, List.length_append, single, List.length_singleton]
      omega

theorem Spaced.aligned (spaced : Spaced k count chars) (all : (initials k chars).length = count) :
    Aligned k chars := by
  induction spaced with
  | nil => exact .nil
  | gap count char rest notIndexable later ih =>
      have least := later.count_le
      rw [← List.singleton_append, initials_append, List.length_append] at all
      have silent : initials k [char] = [] := List.eq_nil_of_length_eq_zero (by omega)
      exact .plain char rest silent notIndexable (ih (by omega))
  | run count middle rest one later ih =>
      obtain ⟨unit, single⟩ := one.single
      rw [initials_append, List.length_append, single, List.length_singleton] at all
      exact .run middle rest one (ih (by omega))

theorem Spaced.gaps {gap : List Char} (none : indexables gap = 0) (spaced : Spaced k count rest) :
    Spaced k count (gap ++ rest) := by
  induction gap with
  | nil => exact spaced
  | cons char gap ih =>
      cases here : indexable char.toNat with
      | true =>
          rw [indexables_cons_pos here] at none
          exact absurd none (Nat.succ_ne_zero _)
      | false =>
          rw [indexables_cons_neg here] at none
          exact .gap count char (gap ++ rest) here (ih none)

theorem occurs_initial {unit : UInt16} (split : initials k chars = earlier ++ unit :: later) :
    Occurs (lower (storedInitials k chars)) (encode [lowerChar (unitChar unit)])
      (encode (earlier.map unitChar)).length := by
  have bytes : storedInitials k chars =
      encode (earlier.map unitChar) ++ encode [unitChar unit] ++ encode (later.map unitChar) := by
    rw [storedInitials, split, ← encode_append, ← encode_append]
    simp
  have lowered : lower (storedInitials k chars) = lower (encode (earlier.map unitChar)) ++
      encode [lowerChar (unitChar unit)] ++ lower (encode (later.map unitChar)) := by
    rw [bytes, lower, List.map_append, List.map_append]
    congr 2
    exact lower_encode [unitChar unit]
  have here := occurs_append (lower (encode (earlier.map unitChar)))
    (encode [lowerChar (unitChar unit)]) (lower (encode (later.map unitChar)))
  rw [← lowered, length_lower] at here
  exact here

theorem run_of_spells {unit : UInt16} (same : (storedInitials k chars).length = indexables chars)
    (split : initials k chars = earlier ++ unit :: later)
    (spells : ∀ range ∈ initialRanges (encode chars) (storedInitials k chars)
        (encode [lowerChar (unitChar unit)]), ∃ middle,
      Covers chars middle range ∧
        lower (storedInitials k middle) = encode [lowerChar (unitChar unit)]) :
    ∃ front middle back, Stretch chars front middle back (encode (earlier.map unitChar)).length
      (encode [unitChar unit]).length ∧ InitialRun k middle := by
  have key : (encode [lowerChar (unitChar unit)]).length = (encode [unitChar unit]).length :=
    length_lower_encode [unitChar unit]
  have some : encode [lowerChar (unitChar unit)] ≠ [] := encode_ne_nil (List.cons_ne_nil _ _)
  have positive : 0 < (encode [unitChar unit]).length := by
    rw [← key]
    exact List.length_pos_iff.mpr some
  have within : (encode (earlier.map unitChar)).length + (encode [unitChar unit]).length ≤
      indexables chars := by
    obtain ⟨before, after, cut, length⟩ := (occurs_initial split).split
    have lengths := congrArg List.length cut
    rw [length_lower, List.length_append, List.length_append, length, key, same] at lengths
    omega
  obtain ⟨front, middle, back, stretch⟩ := exists_stretch positive within
  obtain ⟨other, covers, spelled⟩ := spells _ ((mem_initialRanges same some).mpr
    ⟨_, front, middle, back, occurs_initial split, key ▸ stretch, rfl⟩)
  obtain rfl := covers.unique stretch.covers
  refine ⟨front, other, back, stretch, stretch.edged, ?_, ?_⟩
  · rw [lower_storedInitials] at spelled
    have one := congrArg List.length (encode_injective spelled)
    rw [List.length_map, List.length_singleton] at one
    exact List.length_eq_one_iff.mp one
  · rw [← length_lower, spelled, key, stretch.counts]

theorem spaced_of_spells (same : (storedInitials k chars).length = indexables chars)
    (runs : ∀ earlier unit later, initials k chars = earlier ++ unit :: later →
      ∃ front middle back, Stretch chars front middle back (encode (earlier.map unitChar)).length
        (encode [unitChar unit]).length ∧ InitialRun k middle)
    (whole : chars = front ++ rest) (split : initials k chars = earlier ++ later)
    (counted : indexables front = (encode (earlier.map unitChar)).length) :
    Spaced k later.length rest := by
  induction later generalizing front rest earlier with
  | nil =>
      rw [storedInitials, split, List.append_nil, whole, indexables_append] at same
      have none : indexables rest = 0 := by omega
      have gap : Spaced k 0 (rest ++ []) := Spaced.nil.gaps none
      rwa [List.append_nil] at gap
  | cons unit later ih =>
      obtain ⟨start, middle, back, stretch, one⟩ := runs earlier unit later split
      obtain ⟨first, tail, begins, isFirst⟩ := one.edged.first
      have both : front ++ rest = start ++ (middle ++ back) := by
        rw [← whole, stretch.split, List.append_assoc]
      -- The stretch starts at or behind the cut, with nothing indexable between.
      obtain ⟨gap, rfl, rfl⟩ : ∃ gap, start = front ++ gap ∧ rest = gap ++ (middle ++ back) := by
        rcases List.append_eq_append_iff.mp both with ⟨more, starts, rests⟩ | ⟨more, starts, rests⟩
        · exact ⟨more, starts, rests⟩
        · cases more with
          | nil =>
              rw [List.append_nil] at starts
              rw [List.nil_append] at rests
              exact ⟨[], by simp [starts], by simp [rests]⟩
          | cons head more =>
              rw [begins, List.cons_append, List.cons_append, List.cons.injEq] at rests
              have counts := stretch.starts
              rw [starts, indexables_append, ← rests.1, indexables_cons_pos isFirst] at counted
              omega
      have starts := stretch.starts
      rw [indexables_append] at starts
      have next : initials k chars = (earlier ++ [unit]) ++ later := by
        rw [List.append_assoc, List.singleton_append, split]
      have ends : indexables (front ++ gap ++ middle) =
          (encode ((earlier ++ [unit]).map unitChar)).length := by
        rw [indexables_append, stretch.starts, stretch.counts, List.map_append, encode_append,
          List.length_append]
        rfl
      have later := ih stretch.split next ends
      exact (Spaced.run _ middle back one later).gaps (by omega)

end Initials

/-! The rows that are found. -/

section Search

variable {k : CharData} {chars : List Char} {input : SearchQuery} {rows : List SearchRow}
  {hits : List SearchHit} {hit : SearchHit}

theorem search_hit (found : search input (some rows) = some hits) (member : hit ∈ hits) :
    trimLower input.keyword ≠ [] ∧ ∃ row ∈ rows, hit.snippet = row.content ∧
      hit.highlightRanges =
        highlightRanges row.content row.initials (trimLower input.keyword) := by
  unfold search at found
  dsimp only at found
  split at found
  · exact absurd found (by simp)
  · rename_i valid
    rw [Option.map_some, Option.some.injEq] at found
    rw [← found] at member
    obtain ⟨row, listed, rfl⟩ := List.mem_map.mp member
    refine ⟨fun empty => valid (.inr (.inl empty)), row, ?_, rfl, rfl⟩
    exact (List.mem_filter.mp (List.mem_of_mem_take listed)).1

theorem search_single (input : SearchQuery) (row : SearchRow) (account : 0 < input.ownerId)
    (everywhere : input.conversationId = 0) (limit : input.limit = 100)
    (some : trimLower input.keyword ≠ [])
    (within : ∃ position, Occurs (lower row.initials) (trimLower input.keyword) position) :
    ∃ hit, search input (Option.some [row]) = Option.some [hit] ∧ hit.snippet = row.content ∧
      hit.highlightRanges =
        highlightRanges row.content row.initials (trimLower input.keyword) := by
  have here : (find (lower row.initials) (trimLower input.keyword) 0).isSome = true := by
    rw [Option.isSome_iff_ne_none]
    intro none
    obtain ⟨position, occurs⟩ := within
    exact find_eq_none.mp none position (Nat.zero_le _) occurs
  have listed : matchesRow input.conversationId (trimLower input.keyword) row = true := by
    unfold matchesRow
    dsimp only
    rw [everywhere, here]
    simp
  refine ⟨⟨row.msgId, row.conversationId, row.peerId, row.serverTime, row.content, _⟩, ?_, rfl, rfl⟩
  unfold search
  dsimp only
  rw [if_neg (by rw [limit]; simp [some, account]), Option.map_some,
    List.filter_cons_of_pos listed, limit]
  rfl

theorem trimLower_single (char : Char)
    (visible : isspace (.ofNat char.toNat) = false ∨ 128 ≤ char.toNat) :
    trimLower (encode [char]) = encode [lowerChar char] := by
  have none : ∀ byte ∈ encode [char], isspace byte = false := by
    rw [encode_cons, encode_nil, List.append_nil]
    rcases char_cases char with ⟨low, bytes⟩ | ⟨_, bytes⟩
    · rw [bytes]
      intro byte member
      obtain rfl := List.mem_singleton.mp member
      exact visible.resolve_right (by omega)
    · exact fun byte member => not_isspace_high byte (bytes byte member)
  have front : (encode [char]).dropWhile isspace = encode [char] := by
    rw [List.dropWhile_eq_self_iff]
    intro some
    simp [none _ (List.getElem_mem some)]
  have back : (encode [char]).rdropWhile isspace = encode [char] := by
    rw [List.rdropWhile_eq_self_iff]
    intro some
    simp [none _ (List.getLast_mem some)]
  unfold trimLower
  rw [front, back, lower_encode]
  rfl

theorem initialOfUnit_visible (documented : k.Spelled) {ch : UInt16}
    (written : PinyinIndex.initialOfUnit k ch ≠ 0x20) :
    0x30 ≤ (PinyinIndex.initialOfUnit k ch).toNat ∧
      ((PinyinIndex.initialOfUnit k ch).toNat < 0xD800 ∨
        0xE000 ≤ (PinyinIndex.initialOfUnit k ch).toNat) := by
  unfold PinyinIndex.initialOfUnit at *
  split
  · rename_i chinese
    obtain ⟨first, rest, syllable, letter⟩ := documented.syllable ch chinese
    rw [syllable, List.head?_cons, Option.getD_some]
    simp only [PinyinIndex.isLowerLetter, Bool.and_eq_true, decide_eq_true_eq,
      UInt16.le_iff_toNat_le, UInt16.reduceToNat] at letter
    omega
  · split
    · rename_i letter
      have plain := documented.letter ch letter
      simp only [UInt16.le_iff_toNat_le, UInt16.lt_iff_toNat_lt, UInt16.reduceToNat] at plain
      exact plain
    · rename_i chinese other
      rw [if_neg chinese, if_neg other] at written
      exact absurd rfl written

theorem initial_visible (documented : k.Spelled) {unit : UInt16} (member : unit ∈ initials k chars) :
    isspace (.ofNat (unitChar unit).toNat) = false ∨ 128 ≤ (unitChar unit).toNat := by
  unfold initials PinyinIndex.of at member
  obtain ⟨made, written⟩ := List.mem_filter.mp member
  obtain ⟨ch, _, rfl⟩ := List.mem_map.mp made
  obtain ⟨visible, plane⟩ := initialOfUnit_visible documented (of_decide_eq_true written)
  generalize PinyinIndex.initialOfUnit k ch = unit at visible plane
  have valid : unit.toNat.isValidChar := by
    have bound := unit.toNat_lt
    unfold Nat.isValidChar
    omega
  have number : (unitChar unit).toNat = unit.toNat := by
    rw [unitChar, Char.toNat_ofNat, if_pos valid]
  rw [number]
  by_cases low : unit.toNat < 128
  · have all : ∀ number : Fin 128, 0x30 ≤ number.val → isspace (.ofNat number) = false := by
      decide +kernel
    exact .inl (all ⟨unit.toNat, low⟩ visible)
  · exact .inr (by omega)

/-- The highlights of a text are right for every keyword when the initials have another length than
there are indexable characters, so that none come from them, or when the text is aligned. -/
theorem search_sound_iff (k : CharData) (documented : k.Spelled) (chars : List Char) :
    (∀ input rows hits, Valid input.keyword → (∀ row ∈ rows, Indexed k row) →
      search input (some rows) = some hits → ∀ hit ∈ hits, hit.snippet = encode chars →
        Sound k chars (trimLower input.keyword) hit.highlightRanges) ↔
      (storedInitials k chars).length ≠ indexables chars ∨ Aligned k chars := by
  constructor
  · intro sound
    by_cases same : (storedInitials k chars).length = indexables chars
    · refine .inr ?_
      have runs (earlier : List UInt16) (unit : UInt16) (later : List UInt16)
          (split : initials k chars = earlier ++ unit :: later) :
          ∃ front middle back, Stretch chars front middle back
            (encode (earlier.map unitChar)).length (encode [unitChar unit]).length ∧
            InitialRun k middle := by
        have member : unit ∈ initials k chars := by simp [split]
        have keyword := trimLower_single (unitChar unit) (initial_visible documented member)
        obtain ⟨hit, found, snippet, ranges⟩ := search_single
          { ownerId := 1, keyword := encode [unitChar unit] }
          ⟨[], 0, 0, 0, encode chars, [], storedInitials k chars⟩ Int.one_pos rfl rfl
          (by rw [keyword]; exact encode_ne_nil (List.cons_ne_nil _ _))
          (by rw [keyword]; exact ⟨_, occurs_initial split⟩)
        have right := sound _ _ _ ⟨_, rfl⟩ (by
          intro row listed
          obtain rfl := List.mem_singleton.mp listed
          exact ⟨chars, rfl, rfl⟩) found hit (List.mem_singleton_self _) snippet
        rw [keyword] at right
        exact run_of_spells same split right.initials
      have whole : chars = [] ++ chars := rfl
      have all : initials k chars = [] ++ initials k chars := rfl
      exact (spaced_of_spells same runs whole all rfl).aligned rfl
    · exact .inl same
  · intro condition input rows hits valid indexed found hit member snippet
    obtain ⟨some, row, listed, same, ranges⟩ := search_hit found member
    obtain ⟨others, content, stored⟩ := indexed row listed
    rw [content] at same
    obtain rfl := encode_injective (snippet.symm.trans same)
    obtain ⟨keyword, text⟩ := valid
    obtain ⟨key, trimmed⟩ := trimLower_encode keyword
    rw [← text, trimmed] at some ranges ⊢
    have some : key ≠ [] := by
      rintro rfl
      exact some rfl
    rw [ranges, content, stored]
    refine sound_of_initials some fun range inRanges => ?_
    by_cases sizes : (storedInitials k chars).length = indexables chars
    · exact (condition.resolve_left (not_not.mpr sizes)).spells sizes some inRanges
    · rw [initialRanges_of_ne _ sizes] at inRanges
      exact absurd inRanges List.not_mem_nil

end Search

def latinZero : CharData where
  __ := PinyinIndex.latin
  isChinese ch := ch = 0x4F60 || ch = 0x3007
  toPinyin ch :=
    if ch = 0x4F60 then [0x4E, 0x49] else if ch = 0x3007 then [0x4C, 0x49, 0x4E, 0x47] else [ch]

theorem latinZero_spelled : latinZero.Spelled where
  syllable ch chinese := by
    simp only [latinZero, Bool.or_eq_true, decide_eq_true_eq] at chinese
    rcases chinese with rfl | rfl
    · exact ⟨0x6E, [0x69], rfl, rfl⟩
    · exact ⟨0x6C, [0x69, 0x6E, 0x67], rfl, rfl⟩
  letter ch letter := by
    simp only [latinZero, PinyinIndex.latin, Bool.or_eq_true, Bool.and_eq_true, decide_eq_true_eq,
      UInt16.le_iff_toNat_le, UInt16.lt_iff_toNat_lt, UInt16.reduceToNat] at letter ⊢
    split
    · rename_i upper
      rw [UInt16.toNat_add]
      simp only [UInt16.reduceToNat]
      omega
    · split
      · decide
      · rename_i other
        rw [← UInt16.toNat_inj] at other
        simp only [UInt16.reduceToNat, ← UInt16.toNat_inj] at letter other
        omega

theorem search_sound_iff_latin :
    (∀ input rows hits, Valid input.keyword → (∀ row ∈ rows, Indexed latinZero row) →
      search input (some rows) = some hits → ∀ hit ∈ hits, hit.snippet = encode ['你', 'x'] →
        Sound latinZero ['你', 'x'] (trimLower input.keyword) hit.highlightRanges) ↔
      (storedInitials latinZero ['你', 'x']).length ≠ indexables ['你', 'x'] ∨
        Aligned latinZero ['你', 'x'] :=
  search_sound_iff latinZero latinZero_spelled ['你', 'x']

def zeroUnassigned : SearchRow where
  msgId := ascii "m1"
  conversationId := 7
  peerId := 2
  serverTime := 100
  content := encode ['\u3007', '\ufa6e']
  pinyin := ascii "ling"
  initials := storedInitials latinZero ['\u3007', '\ufa6e']

/-- The letter l is highlighted at the character that does not have it. -/
theorem zeroUnassigned_misplaced :
    Indexed latinZero zeroUnassigned ∧
    ∃ hit, search { ownerId := 1, keyword := ascii "l" } (some [zeroUnassigned]) = some [hit] ∧
      hit.highlightRanges = [⟨1, 2⟩] ∧
      ¬Sound latinZero ['\u3007', '\ufa6e'] (ascii "l") hit.highlightRanges := by
  have trimmed : trimLower (ascii "l") = ascii "l" := by decide +kernel
  obtain ⟨hit, found, _, ranges⟩ := search_single { ownerId := 1, keyword := ascii "l" }
    zeroUnassigned (by decide) rfl rfl (by decide +kernel)
    ⟨0, Nat.zero_le _, List.isPrefixOf_iff_prefix.mp (by decide +kernel)⟩
  have inText : contentRanges zeroUnassigned.content (ascii "l") = [] := by decide +kernel
  have inInitials : initialRanges zeroUnassigned.content zeroUnassigned.initials (ascii "l") =
      [⟨1, 2⟩] := by decide +kernel
  refine ⟨⟨['\u3007', '\ufa6e'], rfl, rfl⟩, hit, found, ?_, fun sound => ?_⟩
  · rw [ranges, trimmed, highlightRanges, inText, inInitials]
    simp [normalizeRanges]
  · have misplaced : (⟨1, 2⟩ : HighlightRange) ∈ initialRanges zeroUnassigned.content
        zeroUnassigned.initials (ascii "l") := by
      rw [inInitials]
      exact List.mem_singleton_self _
    obtain ⟨middle, covers, spelled⟩ := sound.initials _ misplaced
    have here : Covers ['\u3007', '\ufa6e'] ['\ufa6e'] ⟨1, 2⟩ :=
      ⟨['\u3007'], [], rfl, List.cons_ne_nil _ _, by decide⟩
    obtain rfl := covers.unique here
    exact absurd spelled (by decide +kernel)

end SearchService

end Jitong
