import Jitong.Lib.Occurrences
import Jitong.Lib.Spans

/-!
`PinyinIndex.kt`: the pinyin and the initials of a text, and where a keyword is found in the text,
its initials or its pinyin. A `String` is its UTF-16 units.
-/

namespace Jitong

open Lib Lib.Span

/-- What Kotlin and TinyPinyin know of a UTF-16 unit. `lowercase()` of a `String` writes one unit
for each, which may depend on the others, but for U+0130. -/
structure CharData where
  lower : List UInt16 → Nat → UInt16
  lowercaseChar : UInt16 → UInt16
  isWhitespace : UInt16 → Bool
  isDigit : UInt16 → Bool
  isLetterOrDigit : UInt16 → Bool
  isChinese : UInt16 → Bool
  toPinyin : UInt16 → List UInt16

namespace CharData

def trim (k : CharData) (text : List UInt16) : List UInt16 :=
  (text.dropWhile k.isWhitespace).rdropWhile k.isWhitespace

/-- What becomes of each unit of a text under `lowercase()`. -/
def pieces (k : CharData) (text : List UInt16) : List (List UInt16) :=
  text.mapIdx fun index ch => if ch = 0x130 then [0x69, 0x307] else [k.lower text index]

def lowercase (k : CharData) (text : List UInt16) : List UInt16 := (k.pieces text).flatten

def syllable (k : CharData) (ch : UInt16) : List UInt16 := k.lowercase (k.toPinyin ch)

end CharData

/-- What Unicode has of U+0307, the combining dot above, which is no letter and its own lower case;
no unit but U+0130 has it in its lower case. -/
structure CharData.DotAbove (k : CharData) : Prop where
  lower : ∀ text index ch, text[index]? = some ch → ch ≠ 0x130 →
    (k.lower text index = 0x307 ↔ ch = 0x307)
  mark : k.isWhitespace 0x307 = false
  notDigit : k.isDigit 0x307 = false

namespace PinyinIndex

structure Tokens where
  full : List UInt16
  initials : List UInt16
  deriving DecidableEq

/-- What `PinyinIndex.of` appends for a unit, to the pinyin and to the initials. -/
def fullOfUnit (k : CharData) (ch : UInt16) : List UInt16 :=
  if k.isChinese ch then k.syllable ch
  else if k.isLetterOrDigit ch then [k.lowercaseChar ch]
  else [0x20]

def initialOfUnit (k : CharData) (ch : UInt16) : UInt16 :=
  if k.isChinese ch then (k.syllable ch).head?.getD ch
  else if k.isLetterOrDigit ch then k.lowercaseChar ch
  else 0x20

def of (k : CharData) (text : List UInt16) : Tokens where
  full := k.trim (text.flatMap (fullOfUnit k))
  initials := (text.map (initialOfUnit k)).filter (· ≠ 0x20)

structure CharToken where
  charIndex : Nat
  pinyin : List UInt16
  initial : UInt16
  deriving DecidableEq

def charToken (k : CharData) (ch : UInt16) (index : Nat) : Option CharToken :=
  if k.isChinese ch then
    some ⟨index, k.syllable ch, (k.syllable ch).head?.getD ch⟩
  else if k.isLetterOrDigit ch then
    some ⟨index, [k.lowercaseChar ch], k.lowercaseChar ch⟩
  else none

def buildCharTokens (k : CharData) (text : List UInt16) : List CharToken :=
  text.zipIdx.filterMap fun entry => charToken k entry.1 entry.2

def findAllRanges (source keyword : List UInt16) : List Span :=
  (findAll source keyword).map fun start : Nat => ⟨start, (start + keyword.length - 1 : Nat)⟩

/-- `addMappedRanges`, without the output that it adds to. -/
def mappedRanges (source : List UInt16) (offsets : List Nat) (keyword : List UInt16) : List Span :=
  (findAll source keyword).filterMap fun start : Nat => do
    let first ← offsets[start]?
    let last ← offsets[start + keyword.length - 1]?
    return ⟨(min first last : Nat), (max first last : Nat)⟩

def notAfter (left right : Span) : Bool :=
  left.first < right.first || left.first = right.first && left.last ≤ right.last

/-- The loop of `mergeRanges`, with the last range of the output in front. -/
def mergeStep (output : List Span) (range : Span) : List Span :=
  match output with
  | [] => [range]
  | previous :: earlier =>
      if previous.last + 1 < range.first then range :: previous :: earlier
      else ⟨previous.first, max previous.last range.last⟩ :: earlier

def mergeRanges (input : List Span) : List Span :=
  ((input.mergeSort notAfter).foldl mergeStep []).reverse

def isLowerLetter (ch : UInt16) : Bool := 0x61 ≤ ch && ch ≤ 0x7A

def isPlain (k : CharData) (keyword : List UInt16) : Bool :=
  keyword.all fun ch => isLowerLetter ch || k.isDigit ch

def keywordOf (k : CharData) (query : List UInt16) : List UInt16 := k.lowercase (k.trim query)

def fullOf (tokens : List CharToken) : List UInt16 := tokens.flatMap (·.pinyin)

def fullOffsets (tokens : List CharToken) : List Nat :=
  tokens.flatMap fun token => token.pinyin.map fun _ => token.charIndex

def matchRanges (k : CharData) (text query : List UInt16) : List Span :=
  let keyword := keywordOf k query
  if keyword = [] ∨ text = [] then []
  else
    let ranges := findAllRanges (k.lowercase text) keyword
    if !isPlain k keyword then mergeRanges ranges
    else
      let tokens := buildCharTokens k text
      if keyword.length = 1 ∧ keyword.all isLowerLetter then
        mergeRanges (ranges ++
          (tokens.filter fun token => some token.initial = keyword[0]?).map fun token =>
            ⟨token.charIndex, token.charIndex⟩)
      else
        mergeRanges (ranges ++ mappedRanges (fullOf tokens) (fullOffsets tokens) keyword ++
          mappedRanges (tokens.map (·.initial)) (tokens.map (·.charIndex)) keyword)

def run (k : CharData) (text : List UInt16) (first last : Nat) : List CharToken :=
  (buildCharTokens k text).filter fun token => first ≤ token.charIndex && token.charIndex ≤ last

/-- A run of characters whose lower-cased text or initials are the keyword, or whose pinyin has it
from within the first syllable to within the last. -/
inductive Hit (k : CharData) (text keyword : List UInt16) : Span → Prop
  | text (first last : Nat) (ordered : first ≤ last) (inside : last < text.length)
      (spells : (((k.pieces text).drop first).take (last + 1 - first)).flatten = keyword) :
      Hit k text keyword ⟨first, last⟩
  | initials (tokens : List CharToken) (first last : CharToken) (plain : isPlain k keyword = true)
      (covers : run k text first.charIndex last.charIndex = tokens)
      (starts : tokens.head? = some first) (ends : tokens.getLast? = some last)
      (spells : tokens.map (·.initial) = keyword) :
      Hit k text keyword ⟨first.charIndex, last.charIndex⟩
  | pinyin (tokens : List CharToken) (first last : CharToken) (before after : List UInt16)
      (plain : isPlain k keyword = true)
      (covers : run k text first.charIndex last.charIndex = tokens)
      (starts : tokens.head? = some first) (ends : tokens.getLast? = some last)
      (spells : fullOf tokens = before ++ keyword ++ after)
      (within : before.length < first.pinyin.length ∧ after.length < last.pinyin.length) :
      Hit k text keyword ⟨first.charIndex, last.charIndex⟩

/-! Merging. -/

section Merge

variable {output input : List Span}

theorem members_reverse (spans : List Span) : members spans.reverse = members spans := by
  ext number
  simp [members]

theorem mergeStep_spec {range : Span} (ordered : range.first ≤ range.last)
    (apart : Apart output.reverse) (behind : ∀ previous ∈ output.head?, previous.first ≤ range.first) :
    Apart (mergeStep output range).reverse ∧
      (∀ number, number ∈ members (mergeStep output range) ↔
        number ∈ members output ∨ range.first ≤ number ∧ number ≤ range.last) ∧
      ∀ latest ∈ (mergeStep output range).head?, latest.first ≤ range.first := by
  cases output with
  | nil =>
      refine ⟨apart_cons.mpr ⟨ordered, by simp, apart_nil⟩, fun number => ?_, ?_⟩
      · simp [mergeStep]
      · simp [mergeStep]
  | cons previous earlier =>
      have begins : previous.first ≤ range.first := behind previous rfl
      rw [List.reverse_cons] at apart
      obtain ⟨before, single, below⟩ := apart_append.mp apart
      have previousOrdered := (apart_cons.mp single).1
      unfold mergeStep
      dsimp only
      split
      · rename_i gap
        refine ⟨?_, fun number => ?_, by simp⟩
        · rw [List.reverse_cons, List.reverse_cons]
          refine apart_append.mpr ⟨apart, apart_cons.mpr ⟨ordered, by simp, apart_nil⟩, ?_⟩
          intro left member right new
          obtain rfl := List.mem_singleton.mp new
          rcases List.mem_append.mp member with old | last
          · have := below left old previous (List.mem_singleton_self _)
            omega
          · obtain rfl := List.mem_singleton.mp last
            exact gap
        · simp only [mem_members_cons]
          tauto
      · rename_i touches
        refine ⟨?_, fun number => ?_, by simpa using begins⟩
        · rw [List.reverse_cons]
          refine apart_append.mpr ⟨before, apart_cons.mpr ⟨?_, by simp, apart_nil⟩, ?_⟩
          · dsimp only
            omega
          · intro left member right new
            obtain rfl := List.mem_singleton.mp new
            exact below left member previous (List.mem_singleton_self _)
        · simp only [mem_members_cons]
          have joined : previous.first ≤ number ∧ number ≤ max previous.last range.last ↔
              (previous.first ≤ number ∧ number ≤ previous.last) ∨
                range.first ≤ number ∧ number ≤ range.last := by
            omega
          rw [joined]
          tauto

theorem foldl_mergeStep (sorted : input.Pairwise fun left right => left.first ≤ right.first)
    (ordered : ∀ range ∈ input, range.first ≤ range.last) (apart : Apart output.reverse)
    (behind : ∀ previous ∈ output.head?, ∀ range ∈ input, previous.first ≤ range.first) :
    Apart (input.foldl mergeStep output).reverse ∧
      ∀ number, number ∈ members (input.foldl mergeStep output) ↔
        number ∈ members output ∨ number ∈ members input := by
  induction input generalizing output with
  | nil => exact ⟨apart, by simp⟩
  | cons range rest ih =>
      obtain ⟨first, sorted⟩ := List.pairwise_cons.mp sorted
      obtain ⟨next, members, latest⟩ := mergeStep_spec (ordered range (List.mem_cons_self ..)) apart
        fun previous member => behind previous member range (List.mem_cons_self ..)
      obtain ⟨final, all⟩ := ih sorted
        (fun other member => ordered other (List.mem_cons_of_mem _ member)) next
        fun previous member other later =>
          (latest previous member).trans (first other later)
      refine ⟨final, fun number => ?_⟩
      rw [List.foldl_cons, all, members, mem_members_cons]
      tauto

theorem mergeRanges_spec (ordered : ∀ range ∈ input, range.first ≤ range.last) :
    Apart (mergeRanges input) ∧ members (mergeRanges input) = members input := by
  have total : ∀ left right, (notAfter left right || notAfter right left) = true := by
    intro left right
    simp only [notAfter, Bool.or_eq_true, Bool.and_eq_true, decide_eq_true_eq]
    omega
  have transitive : ∀ left middle right, notAfter left middle = true →
      notAfter middle right = true → notAfter left right = true := by
    intro left middle right
    simp only [notAfter, Bool.or_eq_true, Bool.and_eq_true, decide_eq_true_eq]
    omega
  have sorted := List.pairwise_mergeSort transitive total input
  have none : Apart ([] : List Span).reverse := apart_nil
  obtain ⟨apart, all⟩ := foldl_mergeStep
    (sorted.imp fun {left right} before => by
      simp only [notAfter, Bool.or_eq_true, Bool.and_eq_true, decide_eq_true_eq] at before
      omega)
    (fun range member => ordered range (List.mem_mergeSort.mp member)) none (by simp)
  refine ⟨apart, ?_⟩
  unfold mergeRanges
  rw [members_reverse]
  ext number
  rw [all]
  simp [members, List.mem_mergeSort]

end Merge

/-! The lower-cased text. -/

section Text

variable {k : CharData} {text keyword : List UInt16}

@[simp] theorem length_pieces : (k.pieces text).length = text.length := by
  simp [CharData.pieces]

theorem pieces_getElem? (index : Nat) :
    (k.pieces text)[index]? =
      text[index]?.map fun ch => if ch = 0x130 then [0x69, 0x307] else [k.lower text index] := by
  simp [CharData.pieces]

theorem exists_units {pieces : List (List UInt16)}
    (single : ∀ piece ∈ pieces, piece.length = 1) :
    ∃ units : List UInt16, pieces = units.map fun unit => [unit] := by
  induction pieces with
  | nil => exact ⟨[], rfl⟩
  | cons piece rest ih =>
      obtain ⟨unit, rfl⟩ := List.length_eq_one_iff.mp (single piece (List.mem_cons_self ..))
      obtain ⟨units, rfl⟩ := ih fun other member => single other (List.mem_cons_of_mem _ member)
      exact ⟨unit :: units, rfl⟩

theorem flatten_window {pieces : List (List UInt16)} (single : ∀ piece ∈ pieces, piece.length = 1)
    (first count : Nat) :
    ((pieces.drop first).take count).flatten = (pieces.flatten.drop first).take count := by
  obtain ⟨units, rfl⟩ := exists_units single
  rw [← List.map_drop, ← List.map_take, ← List.flatMap_def, ← List.flatMap_def,
    List.flatMap_singleton', List.flatMap_singleton']

theorem pieces_single (plain : (0x130 : UInt16) ∉ text) :
    ∀ piece ∈ k.pieces text, piece.length = 1 := by
  intro piece member
  obtain ⟨index, found⟩ := List.mem_iff_getElem?.mp member
  rw [pieces_getElem?] at found
  obtain ⟨ch, here, rfl⟩ := Option.map_eq_some_iff.mp found
  have other : ch ≠ 0x130 := fun same => plain (same ▸ List.mem_of_getElem? here)
  rw [if_neg other]
  rfl

theorem length_lowercase (plain : (0x130 : UInt16) ∉ text) :
    (k.lowercase text).length = text.length := by
  obtain ⟨units, pieces⟩ := exists_units (pieces_single (k := k) plain)
  have length := congrArg List.length pieces
  rw [length_pieces, List.length_map] at length
  unfold CharData.lowercase
  rw [pieces, ← List.flatMap_def, List.flatMap_singleton', length]

theorem findAllRanges_hit (plain : (0x130 : UInt16) ∉ text) (some : keyword ≠ []) {range : Span}
    (found : range ∈ findAllRanges (k.lowercase text) keyword) : Hit k text keyword range := by
  obtain ⟨start, occurs, rfl⟩ := List.mem_map.mp found
  obtain ⟨inside, after, rest⟩ := mem_findAll.mp occurs
  have length := length_lowercase (k := k) plain
  have positive : 0 < keyword.length := List.length_pos_iff.mpr some
  have bound : start + keyword.length ≤ (k.lowercase text).length := by
    have lengths := congrArg List.length rest
    rw [List.length_append, List.length_drop] at lengths
    omega
  refine Hit.text start (start + keyword.length - 1) (by omega) (by omega) ?_
  rw [flatten_window (pieces_single plain), show start + keyword.length - 1 + 1 - start =
    keyword.length by omega]
  unfold CharData.lowercase at rest
  rw [← rest, List.take_left]

end Text

/-! The tokens. -/

section Tokens

variable {k : CharData} {text keyword : List UInt16} {tokens front middle back : List CharToken}
  {first last token : CharToken}

theorem charToken_index {ch : UInt16} {index : Nat} (made : charToken k ch index = some token) :
    token.charIndex = index := by
  unfold charToken at made
  split at made
  · rw [← Option.some.inj made]
  · split at made
    · rw [← Option.some.inj made]
    · simp at made

theorem buildCharTokens_pairwise :
    (buildCharTokens k text).Pairwise fun left right => left.charIndex < right.charIndex := by
  have positions : text.zipIdx.Pairwise fun left right => left.2 < right.2 := by
    have ascending : (text.zipIdx.map Prod.snd).Pairwise (· < ·) := by
      rw [List.zipIdx_map_snd]
      exact List.pairwise_lt_range'
    exact List.pairwise_map.mp ascending
  refine List.Pairwise.filterMap _ (fun left right before => ?_) positions
  intro made madeLeft other madeRight
  rw [charToken_index madeLeft, charToken_index madeRight]
  exact before

theorem charIndex_lt (member : token ∈ buildCharTokens k text) : token.charIndex < text.length := by
  obtain ⟨⟨ch, index⟩, listed, made⟩ := List.mem_filterMap.mp member
  rw [charToken_index made]
  have bound := List.snd_lt_of_mem_zipIdx listed
  simpa using bound

theorem run_eq (split : buildCharTokens k text = front ++ middle ++ back)
    (starts : middle.head? = some first) (ends : middle.getLast? = some last) :
    run k text first.charIndex last.charIndex = middle := by
  have ascending : (buildCharTokens k text).Pairwise fun left right =>
      left.charIndex < right.charIndex := buildCharTokens_pairwise
  rw [split] at ascending
  obtain ⟨inner, _, beyond⟩ := List.pairwise_append.mp ascending
  obtain ⟨_, sorted, before⟩ := List.pairwise_append.mp inner
  have firstMember : first ∈ middle := List.mem_of_head? starts
  have lastMember : last ∈ middle := List.mem_of_getLast? ends
  unfold run
  rw [split, List.filter_append, List.filter_append, List.filter_eq_nil_iff.mpr,
    List.filter_eq_self.mpr, List.filter_eq_nil_iff.mpr, List.nil_append, List.append_nil]
  · intro token member
    have later := beyond last (List.mem_append_right _ lastMember) token member
    simp
    omega
  · intro token member
    have afterFirst : first.charIndex ≤ token.charIndex := by
      obtain ⟨tail, rfl⟩ := List.head?_eq_some_iff.mp starts
      rcases List.mem_cons.mp member with rfl | later
      · exact Nat.le_refl _
      · exact Nat.le_of_lt ((List.pairwise_cons.mp sorted).1 token later)
    have beforeLast : token.charIndex ≤ last.charIndex := by
      obtain ⟨init, rfl⟩ := List.getLast?_eq_some_iff.mp ends
      rcases List.mem_append.mp member with earlier | same
      · exact Nat.le_of_lt ((List.pairwise_append.mp sorted).2.2 token earlier last (by simp))
      · rw [List.mem_singleton.mp same]
    simp [afterFirst, beforeLast]
  · intro token member
    have earlier := before token member first firstMember
    simp
    omega

theorem run_ordered (covers : run k text first.charIndex last.charIndex = middle)
    (starts : middle.head? = some first) : first.charIndex ≤ last.charIndex := by
  have member : first ∈ run k text first.charIndex last.charIndex :=
    covers ▸ List.mem_of_head? starts
  have within := (List.mem_filter.mp member).2
  simp only [Bool.and_eq_true, decide_eq_true_eq] at within
  exact within.2

theorem mem_mappedRanges {source : List UInt16} {offsets : List Nat} {range : Span}
    (found : range ∈ mappedRanges source offsets keyword) :
    ∃ start first last : Nat, Occurs source keyword start ∧ offsets[start]? = some first ∧
      offsets[start + keyword.length - 1]? = some last ∧
      range = ⟨(min first last : Nat), (max first last : Nat)⟩ := by
  obtain ⟨start, listed, mapped⟩ := List.mem_filterMap.mp found
  obtain ⟨first, firstAt, mapped⟩ := Option.bind_eq_some_iff.mp mapped
  obtain ⟨last, lastAt, mapped⟩ := Option.bind_eq_some_iff.mp mapped
  exact ⟨start, first, last, mem_findAll.mp listed, firstAt, lastAt, (Option.some.inj mapped).symm⟩

theorem initials_hit (plain : isPlain k keyword = true) (some : keyword ≠ []) {range : Span}
    (found : range ∈ mappedRanges ((buildCharTokens k text).map (·.initial))
      ((buildCharTokens k text).map (·.charIndex)) keyword) : Hit k text keyword range := by
  obtain ⟨start, firstIndex, lastIndex, occurs, firstIs, lastIs, rfl⟩ := mem_mappedRanges found
  obtain ⟨before, after, split, rfl⟩ := occurs.split
  obtain ⟨rest, back, tokens, inner, _⟩ := List.map_eq_append_iff.mp split
  obtain ⟨front, middle, rfl, rfl, spells⟩ := List.map_eq_append_iff.mp inner
  have middleSome : middle ≠ [] := fun empty => some (by rw [← spells, empty, List.map_nil])
  have starts := List.head?_eq_some_head middleSome
  have ends := List.getLast?_eq_some_getLast middleSome
  have positive : 0 < middle.length := List.length_pos_iff.mpr middleSome
  have lengths : keyword.length = middle.length := by rw [← spells, List.length_map]
  have firstAt : ((buildCharTokens k text).map (·.charIndex))[(front.map (·.initial)).length]? =
      Option.some (middle.head middleSome).charIndex := by
    rw [tokens, List.getElem?_map, List.length_map, List.append_assoc,
      List.getElem?_append_right (Nat.le_refl _), Nat.sub_self,
      List.getElem?_append_left positive, ← List.head?_eq_getElem?, starts]
    rfl
  have lastAt : ((buildCharTokens k text).map
      (·.charIndex))[(front.map (·.initial)).length + keyword.length - 1]? =
        Option.some (middle.getLast middleSome).charIndex := by
    rw [tokens, List.getElem?_map, List.length_map, List.append_assoc,
      List.getElem?_append_right (by omega), List.getElem?_append_left (by omega),
      show front.length + keyword.length - 1 - front.length = middle.length - 1 by omega,
      ← List.getLast?_eq_getElem?, ends]
    rfl
  have covers := run_eq tokens starts ends
  have ordered := run_ordered covers starts
  obtain rfl := Option.some.inj (firstIs.symm.trans firstAt)
  obtain rfl := Option.some.inj (lastIs.symm.trans lastAt)
  rw [Nat.min_eq_left ordered, Nat.max_eq_right ordered]
  exact Hit.initials middle _ _ plain covers starts ends spells

theorem exists_token {position index : Nat} (found : (fullOffsets tokens)[position]? = some index) :
    ∃ front token back, tokens = front ++ token :: back ∧ token.charIndex = index ∧
      (fullOf front).length ≤ position ∧
      position < (fullOf front).length + token.pinyin.length := by
  induction tokens generalizing position with
  | nil => simp [fullOffsets] at found
  | cons head rest ih =>
      unfold fullOffsets at found
      rw [List.flatMap_cons] at found
      by_cases inside : position < head.pinyin.length
      · rw [List.getElem?_append_left (by simpa using inside), List.getElem?_map,
          List.getElem?_eq_getElem inside] at found
        exact ⟨[], head, rest, rfl, by simpa using found, Nat.zero_le _, by simpa [fullOf] using inside⟩
      · rw [List.getElem?_append_right (by simpa using inside), List.length_map] at found
        obtain ⟨front, token, back, split, same, lower, upper⟩ := ih found
        refine ⟨head :: front, token, back, by rw [split, List.cons_append], same, ?_, ?_⟩
        · simp only [fullOf, List.flatMap_cons, List.length_append] at lower ⊢
          omega
        · simp only [fullOf, List.flatMap_cons, List.length_append] at upper ⊢
          omega

theorem fullOf_append : fullOf (front ++ back) = fullOf front ++ fullOf back :=
  List.flatMap_append ..

theorem exists_middle {rest others : List CharToken} {start stop : Nat}
    (firstSplit : tokens = front ++ first :: rest) (lastSplit : tokens = others ++ last :: back)
    (startBound : (fullOf front).length ≤ start)
    (stopBound : stop < (fullOf others).length + last.pinyin.length) (ordered : start ≤ stop) :
    ∃ middle, tokens = front ++ middle ++ back ∧ middle.head? = some first ∧
      middle.getLast? = some last ∧
      fullOf others ++ last.pinyin = fullOf front ++ fullOf middle := by
  rcases List.append_eq_append_iff.mp (firstSplit.symm.trans lastSplit) with
    ⟨between, rfl, same⟩ | ⟨between, rfl, same⟩
  · refine ⟨between ++ [last], by simp [lastSplit], ?_, by simp, ?_⟩
    · have heads := congrArg List.head? same
      cases between <;> simpa using heads.symm
    · rw [fullOf_append, fullOf_append]
      simp [fullOf]
  · cases between with
    | nil =>
        rw [List.nil_append, List.cons.injEq] at same
        obtain ⟨rfl, rfl⟩ := same
        exact ⟨[last], by simp [lastSplit], rfl, rfl, by simp [fullOf]⟩
    | cons other between =>
        -- The last token would come before the first.
        obtain ⟨rfl, _⟩ := List.cons.inj same
        simp only [fullOf, List.flatMap_append, List.flatMap_cons, List.length_append]
          at startBound stopBound
        omega

theorem pinyin_hit (plain : isPlain k keyword = true) (some : keyword ≠ []) {range : Span}
    (found : range ∈ mappedRanges (fullOf (buildCharTokens k text))
      (fullOffsets (buildCharTokens k text)) keyword) : Hit k text keyword range := by
  obtain ⟨start, firstIndex, lastIndex, occurs, firstIs, lastIs, rfl⟩ := mem_mappedRanges found
  have positive : 0 < keyword.length := List.length_pos_iff.mpr some
  obtain ⟨front, first, rest, firstSplit, rfl, startLow, startHigh⟩ := exists_token firstIs
  obtain ⟨others, last, back, lastSplit, rfl, stopLow, stopHigh⟩ := exists_token lastIs
  obtain ⟨middle, split, starts, ends, full⟩ :=
    exists_middle firstSplit lastSplit startLow stopHigh (by omega)
  have covers := run_eq split starts ends
  have ordered := run_ordered covers starts
  rw [Nat.min_eq_left ordered, Nat.max_eq_right ordered]
  have lengths := congrArg List.length full
  rw [List.length_append, List.length_append] at lengths
  -- Where the keyword is in the pinyin of the tokens between.
  obtain ⟨offset, rfl⟩ := Nat.exists_eq_add_of_le startLow
  have window : ((fullOf middle).drop offset).take keyword.length = keyword := by
    obtain ⟨_, after, tail⟩ := occurs
    rw [split, fullOf_append, fullOf_append, List.append_assoc, List.drop_append,
      List.drop_eq_nil_of_le (Nat.le_add_right _ _), List.nil_append, Nat.add_sub_cancel_left,
      List.drop_append_of_le_length (by omega)] at tail
    have first := congrArg (List.take keyword.length) tail
    rw [List.take_left, List.take_append_of_le_length (by simp; omega)] at first
    exact first.symm
  refine Hit.pinyin middle first last ((fullOf middle).take offset)
    ((fullOf middle).drop (offset + keyword.length)) plain covers starts ends ?_ ?_
  · have pieces : (fullOf middle).take offset ++ (keyword ++
        ((fullOf middle).drop offset).drop keyword.length) = fullOf middle := by
      conv_lhs =>
        enter [2, 1]
        rw [← window]
      rw [List.take_append_drop, List.take_append_drop]
    rw [List.append_assoc, ← List.drop_drop, pieces]
  · rw [List.length_take, List.length_drop]
    omega

end Tokens

/-! What is returned. -/

structure Sound (k : CharData) (text query : List UInt16) : Prop where
  apart : Apart (matchRanges k text query)
  inside : ∀ range ∈ matchRanges k text query, 0 ≤ range.first ∧ range.last < text.length
  union : ∀ range ∈ matchRanges k text query, ∃ hits : List Span,
    (∀ hit ∈ hits, Hit k text (keywordOf k query) hit) ∧
      ∀ number, number ∈ members hits ↔ range.first ≤ number ∧ number ≤ range.last

section Returned

variable {k : CharData} {text keyword query : List UInt16} {input : List Span}

theorem letter_hit {token : CharToken} (plain : isPlain k keyword = true) (single : keyword.length = 1)
    (member : token ∈ buildCharTokens k text) (same : some token.initial = keyword[0]?) :
    Hit k text keyword ⟨token.charIndex, token.charIndex⟩ := by
  obtain ⟨front, back, split⟩ := List.append_of_mem member
  have around : buildCharTokens k text = front ++ [token] ++ back := by
    rw [split, List.append_assoc, List.singleton_append]
  have covers : run k text token.charIndex token.charIndex = [token] := run_eq around rfl rfl
  obtain ⟨letter, rfl⟩ := List.length_eq_one_iff.mp single
  refine Hit.initials [token] token token plain covers rfl rfl ?_
  simpa using same

theorem Hit.bounds {range : Span} (hit : Hit k text keyword range) :
    0 ≤ range.first ∧ range.first ≤ range.last ∧ range.last < text.length := by
  have token {first last : CharToken} {tokens : List CharToken}
      (covers : run k text first.charIndex last.charIndex = tokens)
      (starts : tokens.head? = some first) (ends : tokens.getLast? = some last) :
      first.charIndex ≤ last.charIndex ∧ last.charIndex < text.length := by
    refine ⟨run_ordered covers starts, charIndex_lt (k := k) ?_⟩
    have member := List.mem_of_getLast? ends
    rw [← covers] at member
    exact (List.mem_filter.mp member).1
  cases hit with
  | text first last ordered inside spells => simp only; omega
  | initials tokens first last plain covers starts ends spells =>
      have bounds := token covers starts ends
      simp only
      omega
  | pinyin tokens first last before after plain covers starts ends spells within =>
      have bounds := token covers starts ends
      simp only
      omega

theorem matchRanges_hits (plain : (0x130 : UInt16) ∉ text) (query : List UInt16) :
    ∃ input, matchRanges k text query = mergeRanges input ∧
      ∀ range ∈ input, Hit k text (keywordOf k query) range := by
  unfold matchRanges
  dsimp only
  generalize keywordOf k query = keyword
  split
  · exact ⟨[], by simp [mergeRanges], fun range member => absurd member List.not_mem_nil⟩
  · rename_i both
    have some : keyword ≠ [] := fun empty => both (.inl empty)
    have inText {range : Span} (found : range ∈ findAllRanges (k.lowercase text) keyword) :
        Hit k text keyword range := findAllRanges_hit plain some found
    split
    · exact ⟨_, rfl, fun range member => inText member⟩
    · rename_i letters
      have letters : isPlain k keyword = true := by simpa using letters
      split
      · rename_i single
        refine ⟨_, rfl, fun range member => ?_⟩
        rcases List.mem_append.mp member with found | named
        · exact inText found
        · obtain ⟨token, chosen, rfl⟩ := List.mem_map.mp named
          obtain ⟨listed, same⟩ := List.mem_filter.mp chosen
          exact letter_hit letters single.1 listed (of_decide_eq_true same)
      · refine ⟨_, rfl, fun range member => ?_⟩
        rcases List.mem_append.mp member with earlier | initials
        · rcases List.mem_append.mp earlier with found | full
          · exact inText found
          · exact pinyin_hit letters some full
        · exact initials_hit letters some initials

theorem matchRanges_sound (plain : (0x130 : UInt16) ∉ text) (query : List UInt16) :
    Sound k text query := by
  obtain ⟨input, merged, hits⟩ := matchRanges_hits (k := k) plain query
  have ordered : ∀ range ∈ input, range.first ≤ range.last :=
    fun range member => (hits range member).bounds.2.1
  obtain ⟨apart, same⟩ := mergeRanges_spec ordered
  refine ⟨merged ▸ apart, fun range member => ?_, fun range member => ?_⟩
  · rw [merged] at member
    have nonempty := apart.ordered range member
    have covered (number : Int) (within : range.first ≤ number ∧ number ≤ range.last) :
        0 ≤ number ∧ number < text.length := by
      have listed : number ∈ members input := same ▸ ⟨range, member, within⟩
      obtain ⟨hit, chosen, first, last⟩ := listed
      have bounds := (hits hit chosen).bounds
      omega
    exact ⟨(covered _ ⟨le_rfl, nonempty⟩).1, (covered _ ⟨nonempty, le_rfl⟩).2⟩
  · rw [merged] at member
    obtain ⟨parts, chosen, exact'⟩ := apart.parts same member
    exact ⟨parts, fun part listed => hits part (chosen part listed), exact'⟩

theorem count_lowercase (documented : k.DotAbove) (text : List UInt16) :
    (k.lowercase text).count 0x307 = text.count 0x307 + text.count 0x130 := by
  have units : List.Forall₂ (fun ch piece => ch = 0x130 ∧ piece = [0x69, 0x307] ∨
      ch ≠ 0x130 ∧ ∃ unit : UInt16, piece = [unit] ∧ (unit = 0x307 ↔ ch = 0x307))
      text (k.pieces text) := by
    refine List.forall₂_iff_get.mpr ⟨length_pieces.symm, fun index bound bound' => ?_⟩
    have here : text[index]? = some (text.get ⟨index, bound⟩) := List.getElem?_eq_getElem bound
    have piece : (k.pieces text)[index]? = text[index]?.map fun ch =>
        if ch = 0x130 then [0x69, 0x307] else [k.lower text index] := pieces_getElem? index
    rw [here, List.getElem?_eq_getElem bound'] at piece
    have piece := Option.some.inj piece
    by_cases dotted : text.get ⟨index, bound⟩ = 0x130
    · exact .inl ⟨dotted, piece.trans (if_pos dotted)⟩
    · exact .inr ⟨dotted, _, piece.trans (if_neg dotted),
        documented.lower text index _ here dotted⟩
  unfold CharData.lowercase
  generalize k.pieces text = pieces at units
  induction units with
  | nil => rfl
  | cons head _ ih =>
      rw [List.flatten_cons, List.count_append, ih, List.count_cons, List.count_cons]
      rcases head with ⟨rfl, rfl⟩ | ⟨other, unit, rfl, same⟩
      · have own : [(0x69 : UInt16), 0x307].count 0x307 = 1 := by decide
        rw [own]
        simp
        omega
      · rw [List.count_singleton]
        simp only [beq_iff_eq, same, other]
        simp
        omega

theorem piece_ne_nil {piece : List UInt16} (member : piece ∈ k.pieces text) : piece ≠ [] := by
  obtain ⟨index, found⟩ := List.mem_iff_getElem?.mp member
  rw [pieces_getElem?] at found
  obtain ⟨ch, _, rfl⟩ := Option.map_eq_some_iff.mp found
  split <;> simp

theorem keywordOf_dot (documented : k.DotAbove) : keywordOf k [0x307] = [0x307] := by
  have trimmed : k.trim [0x307] = [0x307] := by
    simp [CharData.trim, documented.mark, List.rdropWhile]
  have lower : k.lower [0x307] 0 = 0x307 := (documented.lower [0x307] 0 _ rfl (by decide)).mpr rfl
  rw [keywordOf, trimmed]
  simp [CharData.lowercase, CharData.pieces, lower]

theorem dot_notPlain (documented : k.DotAbove) : isPlain k [0x307] = false := by
  have letter : isLowerLetter 0x307 = false := by decide
  simp [isPlain, letter, documented.notDigit]

theorem hit_dot (documented : k.DotAbove) {range : Span} (hit : Hit k text [0x307] range)
    {number : Nat} (within : range.first ≤ number ∧ (number : Int) ≤ range.last) :
    text[number]? = some 0x307 := by
  have notPlain := dot_notPlain documented
  cases hit with
  | initials _ _ _ plain => exact absurd plain (by simp [notPlain])
  | pinyin _ _ _ _ _ plain => exact absurd plain (by simp [notPlain])
  | text first last ordered inside spells =>
      have bound : first < (k.pieces text).length := by rw [length_pieces]; omega
      rw [List.drop_eq_getElem_cons bound, show last + 1 - first = (last - first) + 1 by omega,
        List.take_succ_cons, List.flatten_cons] at spells
      have piece : (k.pieces text)[first]? = text[first]?.map fun ch =>
          if ch = 0x130 then [0x69, 0x307] else [k.lower text first] := pieces_getElem? first
      rw [List.getElem?_eq_getElem bound] at piece
      obtain ⟨ch, here, made⟩ := Option.map_eq_some_iff.mp piece.symm
      rw [← made] at spells
      by_cases dotted : ch = 0x130
      · rw [if_pos dotted] at spells
        exact absurd (List.cons.inj spells).1 (by decide)
      · rw [if_neg dotted, List.singleton_append, List.cons.injEq] at spells
        obtain ⟨unit, rest⟩ := spells
        -- No piece is empty, so that the run ends here.
        have ended : last = first := by
          by_contra longer
          have next : first + 1 < (k.pieces text).length := by rw [length_pieces]; omega
          rw [List.drop_eq_getElem_cons next,
            show last - first = (last - first - 1) + 1 by omega, List.take_succ_cons,
            List.flatten_cons, List.append_eq_nil_iff] at rest
          exact piece_ne_nil (List.getElem_mem next) rest.1
        have same : number = first := by
          simp only at within
          omega
        rw [same, here, (documented.lower text first ch here dotted).mp unit]

/-- The ranges are right for every keyword when no character of the text has two in lower case. -/
theorem matchRanges_sound_iff (k : CharData) (documented : k.DotAbove) (text : List UInt16) :
    (∀ query, Sound k text query) ↔ (0x130 : UInt16) ∉ text := by
  constructor
  · intro sound
    have dots := sound [0x307]
    have keyword := keywordOf_dot documented
    have subset : ∀ position ∈ findAll (k.lowercase text) [0x307],
        position ∈ findAll text [0x307] := by
      intro position found
      have input : matchRanges k text [0x307] =
          mergeRanges (findAllRanges (k.lowercase text) [0x307]) := by
        have some : text ≠ [] := by
          rintro rfl
          have none := occurs_singleton.mp (mem_findAll.mp found)
          simp [CharData.lowercase, CharData.pieces] at none
        have notPlain : isPlain k [0x307] = false := dot_notPlain documented
        simp [matchRanges, keyword, some, notPlain]
      have ordered : ∀ range ∈ findAllRanges (k.lowercase text) [(0x307 : UInt16)],
          range.first ≤ range.last := by
        intro range member
        obtain ⟨start, _, rfl⟩ := List.mem_map.mp member
        simp
      have covered : (position : Int) ∈ members (matchRanges k text [0x307]) := by
        rw [input, (mergeRanges_spec ordered).2]
        exact ⟨_, List.mem_map.mpr ⟨position, found, rfl⟩, by simp⟩
      obtain ⟨range, listed, within⟩ := covered
      obtain ⟨hits, real, all⟩ := dots.union range listed
      obtain ⟨hit, chosen, inHit⟩ := (all position).mpr within
      have hit := real hit chosen
      rw [keyword] at hit
      exact mem_findAll.mpr (occurs_singleton.mpr (hit_dot documented hit inHit))
    have distinct : (findAll (k.lowercase text) [(0x307 : UInt16)]).Nodup :=
      findAll_pairwise.imp fun less => Nat.ne_of_lt less
    have fewer := (distinct.subperm subset).length_le
    rw [length_findAll_singleton, length_findAll_singleton, count_lowercase documented] at fewer
    exact List.count_eq_zero.mp (by omega)
  · intro plain query
    exact matchRanges_sound plain query

end Returned

def latin : CharData where
  lower text index :=
    match text[index]? with
    | none => 0
    | some ch => if 0x41 ≤ ch && ch ≤ 0x5A then ch + 0x20 else ch
  lowercaseChar ch :=
    if 0x41 ≤ ch && ch ≤ 0x5A then ch + 0x20 else if ch = 0x130 then 0x69 else ch
  isWhitespace ch := ch = 0x20 || 0x09 ≤ ch && ch ≤ 0x0D
  isDigit ch := 0x30 ≤ ch && ch ≤ 0x39
  isLetterOrDigit ch :=
    0x30 ≤ ch && ch ≤ 0x39 || 0x41 ≤ ch && ch ≤ 0x5A || 0x61 ≤ ch && ch ≤ 0x7A || ch = 0x130
  isChinese ch := ch = 0x4F60
  toPinyin ch := if ch = 0x4F60 then [0x4E, 0x49] else [ch]

theorem latin_dotAbove : latin.DotAbove where
  lower text index ch here _ := by
    simp only [latin, here]
    split
    · rename_i upper
      simp only [Bool.and_eq_true, decide_eq_true_eq, UInt16.le_iff_toNat_le] at upper
      rw [← UInt16.toNat_inj, ← UInt16.toNat_inj, UInt16.toNat_add]
      simp only [UInt16.reduceToNat] at upper ⊢
      omega
    · exact Iff.rfl
  mark := by decide
  notDigit := by decide

theorem matchRanges_sound_iff_latin :
    (∀ query, Sound latin [0x4F60, 0x78] query) ↔ (0x130 : UInt16) ∉ [(0x4F60 : UInt16), 0x78] :=
  matchRanges_sound_iff latin latin_dotAbove _

/-- The letter x behind the capital I with a dot is found one character too far, too. -/
theorem dottedCapital_outside :
    matchRanges latin [0x130, 0x78] [0x78] = [⟨1, 2⟩] ∧ ¬Sound latin [0x130, 0x78] [0x78] := by
  have input : matchRanges latin [0x130, 0x78] [0x78] = mergeRanges [⟨2, 2⟩, ⟨1, 1⟩] := rfl
  have ranges : matchRanges latin [0x130, 0x78] [0x78] = [⟨1, 2⟩] := by
    rw [input]
    simp [mergeRanges, List.mergeSort, notAfter, mergeStep]
  refine ⟨ranges, fun sound => ?_⟩
  have inside := (sound.inside ⟨1, 2⟩ (by simp [ranges])).2
  simp at inside

end PinyinIndex

end Jitong
