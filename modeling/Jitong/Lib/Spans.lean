import Mathlib

/-!
Sets of integers as ascending lists of their maximal intervals: such a list is
determined by the set, and the intervals that are missing between the members of
one list are such a list again.
-/

namespace Jitong.Lib

structure Span where
  first : Int
  last : Int
  deriving DecidableEq

namespace Span

structure Maximal (span : Span) (numbers : Set Int) : Prop where
  ordered : span.first ≤ span.last
  inside : ∀ number, span.first ≤ number → number ≤ span.last → number ∈ numbers
  before : span.first - 1 ∉ numbers
  after : span.last + 1 ∉ numbers

def members (spans : List Span) : Set Int :=
  {number | ∃ span ∈ spans, span.first ≤ number ∧ number ≤ span.last}

structure Apart (spans : List Span) : Prop where
  ordered : ∀ span ∈ spans, span.first ≤ span.last
  ascending : spans.Pairwise fun left right => left.last + 1 < right.first

structure Lists (numbers : Set Int) (spans : List Span) : Prop where
  apart : Apart spans
  listed : ∀ span, span ∈ spans ↔ span.Maximal numbers
  covered : members spans = numbers

def holes (low : Int) : List Span → List Span
  | [] => []
  | span :: rest =>
      if low < span.first then ⟨low, span.first - 1⟩ :: holes (span.last + 1) rest
      else holes (span.last + 1) rest

section Members

variable {span : Span} {spans left right : List Span} {number : Int}

@[simp] theorem mem_members_nil : number ∉ members [] := by
  rintro ⟨_, member, _⟩
  cases member

theorem members_nil : members [] = ∅ := Set.eq_empty_of_forall_notMem fun _ => mem_members_nil

@[simp] theorem mem_members_cons : number ∈ members (span :: spans) ↔
    (span.first ≤ number ∧ number ≤ span.last) ∨ number ∈ members spans := by
  simp [members]

@[simp] theorem mem_members_append : number ∈ members (left ++ right) ↔
    number ∈ members left ∨ number ∈ members right := by
  simp [members, or_and_right, exists_or]

theorem apart_nil : Apart [] := ⟨by simp, .nil⟩

theorem apart_cons : Apart (span :: spans) ↔
    span.first ≤ span.last ∧ (∀ later ∈ spans, span.last + 1 < later.first) ∧ Apart spans := by
  constructor
  · rintro ⟨ordered, ascending⟩
    rw [List.pairwise_cons] at ascending
    exact ⟨ordered _ (by simp), ascending.1, fun later member => ordered _ (by simp [member]),
      ascending.2⟩
  · rintro ⟨ordered, below, apart⟩
    refine ⟨?_, List.pairwise_cons.mpr ⟨below, apart.ascending⟩⟩
    rintro later member
    rcases List.mem_cons.mp member with rfl | member
    · exact ordered
    · exact apart.ordered later member

theorem apart_append : Apart (left ++ right) ↔
    Apart left ∧ Apart right ∧
      ∀ earlier ∈ left, ∀ later ∈ right, earlier.last + 1 < later.first := by
  constructor
  · rintro ⟨ordered, ascending⟩
    rw [List.pairwise_append] at ascending
    exact ⟨⟨fun span member => ordered span (by simp [member]), ascending.1⟩,
      ⟨fun span member => ordered span (by simp [member]), ascending.2.1⟩, ascending.2.2⟩
  · rintro ⟨first, second, below⟩
    refine ⟨?_, List.pairwise_append.mpr ⟨first.ascending, second.ascending, below⟩⟩
    intro span member
    rcases List.mem_append.mp member with member | member
    · exact first.ordered span member
    · exact second.ordered span member

theorem lt_of_mem (below : ∀ later ∈ spans, number < later.first) {other : Int}
    (member : other ∈ members spans) : number < other := by
  obtain ⟨span, listed, first, _⟩ := member
  have := below span listed
  omega

end Members

theorem Apart.maximal {spans : List Span} (apart : Apart spans) {span : Span}
    (member : span ∈ spans) : span.Maximal (members spans) := by
  induction spans with
  | nil => cases member
  | cons head rest ih =>
      obtain ⟨ordered, below, apart⟩ := apart_cons.mp apart
      rcases List.mem_cons.mp member with rfl | member
      · refine ⟨ordered, fun number first last => ?_, ?_, ?_⟩
        · exact mem_members_cons.mpr (.inl ⟨first, last⟩)
        · rintro held
          rcases mem_members_cons.mp held with held | held
          · omega
          · have := lt_of_mem (fun later listed => below later listed) held
            omega
        · rintro held
          rcases mem_members_cons.mp held with held | held
          · omega
          · have := lt_of_mem (fun later listed => below later listed) held
            omega
      · have inner := ih apart member
        have behind := below span member
        refine ⟨inner.ordered, fun number first last => ?_, ?_, ?_⟩
        · exact mem_members_cons.mpr (.inr (inner.inside number first last))
        · intro held
          rcases mem_members_cons.mp held with held | held
          · omega
          · exact inner.before held
        · intro held
          have := inner.ordered
          rcases mem_members_cons.mp held with held | held
          · omega
          · exact inner.after held

theorem Maximal.eq_of_common {numbers : Set Int} {left right : Span}
    (first : left.Maximal numbers) (second : right.Maximal numbers) {number : Int}
    (inLeft : left.first ≤ number ∧ number ≤ left.last)
    (inRight : right.first ≤ number ∧ number ≤ right.last) : left = right := by
  have starts : left.first = right.first := by
    rcases lt_trichotomy left.first right.first with less | same | more
    · exact absurd (first.inside (right.first - 1) (by omega) (by omega)) second.before
    · exact same
    · exact absurd (second.inside (left.first - 1) (by omega) (by omega)) first.before
  have ends : left.last = right.last := by
    rcases lt_trichotomy left.last right.last with less | same | more
    · exact absurd (second.inside (left.last + 1) (by omega) (by omega)) first.after
    · exact same
    · exact absurd (first.inside (right.last + 1) (by omega) (by omega)) second.after
  cases left
  cases right
  simp_all

theorem Apart.lists {spans : List Span} (apart : Apart spans) :
    Lists (members spans) spans := by
  refine ⟨apart, fun span => ⟨apart.maximal, fun maximal => ?_⟩, rfl⟩
  obtain ⟨other, member, first, last⟩ :=
    maximal.inside span.first le_rfl maximal.ordered
  have same := (apart.maximal member).eq_of_common maximal ⟨first, last⟩
    ⟨le_rfl, maximal.ordered⟩
  exact same ▸ member

theorem Lists.unique {numbers : Set Int} {left right : List Span}
    (first : Lists numbers left) (second : Lists numbers right) : left = right := by
  have nodup : ∀ {spans : List Span}, Apart spans → spans.Nodup := by
    intro spans apart
    refine List.Pairwise.imp_of_mem ?_ apart.ascending
    rintro one other member _ below rfl
    have := apart.ordered one member
    omega
  have permuted : left.Perm right :=
    (List.perm_ext_iff_of_nodup (nodup first.apart) (nodup second.apart)).mpr
      fun span => (first.listed span).trans (second.listed span).symm
  refine permuted.eq_of_pairwise ?_ first.apart.ascending second.apart.ascending
  intro one other inLeft inRight below above
  have := first.apart.ordered one inLeft
  have := second.apart.ordered other inRight
  omega

section Holes

theorem holes_bound {low : Int} {spans : List Span} (apart : Apart spans)
    (above : ∀ span ∈ spans, low ≤ span.first) :
    ∀ hole ∈ holes low spans, low ≤ hole.first := by
  induction spans generalizing low with
  | nil => simp [holes]
  | cons span rest ih =>
      obtain ⟨ordered, below, apart⟩ := apart_cons.mp apart
      have start := above span (by simp)
      have later := @ih (span.last + 1) apart
        fun later member => (below later member).le
      intro hole member
      simp only [holes] at member
      split at member
      · rcases List.mem_cons.mp member with rfl | member
        · exact le_rfl
        · have := later hole member
          omega
      · have := later hole member
        omega

theorem holes_apart {low : Int} {spans : List Span} (apart : Apart spans)
    (above : ∀ span ∈ spans, low ≤ span.first) : Apart (holes low spans) := by
  induction spans generalizing low with
  | nil => exact apart_nil
  | cons span rest ih =>
      obtain ⟨ordered, below, apart⟩ := apart_cons.mp apart
      have start : ∀ later ∈ rest, span.last + 1 ≤ later.first :=
        fun later member => (below later member).le
      simp only [holes]
      split
      · refine apart_cons.mpr ⟨?_, fun hole member => ?_, ih apart start⟩
        · simp only
          omega
        · have := holes_bound apart start hole member
          simp only
          omega
      · exact ih apart start

theorem mem_holes {low number : Int} {spans : List Span} (apart : Apart spans)
    (above : ∀ span ∈ spans, low ≤ span.first) :
    number ∈ members (holes low spans) ↔
      low ≤ number ∧ number ∉ members spans ∧ ∃ greater ∈ members spans, number < greater := by
  induction spans generalizing low with
  | nil => simp [holes]
  | cons span rest ih =>
      obtain ⟨ordered, below, apart⟩ := apart_cons.mp apart
      have start := above span (by simp)
      have behind : ∀ other, other ∈ members rest → span.last + 1 < other :=
        fun other member => lt_of_mem below member
      have later := @ih (span.last + 1) apart
        fun later member => (below later member).le
      have split : number ∈ members (holes low (span :: rest)) ↔
          (low ≤ number ∧ number < span.first) ∨
            number ∈ members (holes (span.last + 1) rest) := by
        simp only [holes]
        split
        · simp only [mem_members_cons]
          refine or_congr ⟨?_, ?_⟩ Iff.rfl <;> intro bounds <;> omega
        · refine ⟨Or.inr, ?_⟩
          rintro (bounds | inner)
          · omega
          · exact inner
      rw [split, later]
      constructor
      · rintro (⟨first, last⟩ | ⟨first, absent, greater, member, less⟩)
        · refine ⟨first, ?_, span.first, mem_members_cons.mpr (.inl ⟨le_rfl, ordered⟩), last⟩
          intro held
          rcases mem_members_cons.mp held with held | held
          · omega
          · have := behind number held
            omega
        · refine ⟨by omega, ?_, greater, mem_members_cons.mpr (.inr member), less⟩
          intro held
          rcases mem_members_cons.mp held with held | held
          · omega
          · exact absent held
      · rintro ⟨first, absent, greater, member, less⟩
        rw [mem_members_cons, not_or] at absent
        rcases mem_members_cons.mp member with held | held
        · exact .inl ⟨first, by omega⟩
        · by_cases early : number < span.first
          · exact .inl ⟨first, early⟩
          · exact .inr ⟨by omega, absent.2, greater, held, less⟩

theorem lists_holes {low : Int} {spans : List Span} (apart : Apart spans)
    (above : ∀ span ∈ spans, low ≤ span.first) :
    Lists {number | low ≤ number ∧ number ∉ members spans ∧
      ∃ greater ∈ members spans, number < greater} (holes low spans) := by
  have same : members (holes low spans) = {number | low ≤ number ∧ number ∉ members spans ∧
      ∃ greater ∈ members spans, number < greater} :=
    Set.ext fun _ => mem_holes apart above
  exact same ▸ (holes_apart apart above).lists

end Holes

theorem Apart.unbroken {span : Span} {rest : List Span} (apart : Apart (span :: rest))
    {number : Int} :
    (∀ between, span.first ≤ between → between ≤ number → between ∈ members (span :: rest)) ↔
      number ≤ span.last := by
  obtain ⟨ordered, below, _⟩ := apart_cons.mp apart
  constructor
  · intro held
    by_contra beyond
    rcases mem_members_cons.mp (held (span.last + 1) (by omega) (by omega)) with inside | later
    · omega
    · have := lt_of_mem below later
      omega
  · intro bound between first last
    exact mem_members_cons.mpr (.inl ⟨first, by omega⟩)

theorem Apart.parts {spans parts : List Span} (apart : Apart spans)
    (same : members spans = members parts) {span : Span} (member : span ∈ spans) :
    ∃ inside : List Span, (∀ part ∈ inside, part ∈ parts) ∧
      ∀ number, number ∈ members inside ↔ span.first ≤ number ∧ number ≤ span.last := by
  have maximal := apart.maximal member
  rw [same] at maximal
  refine ⟨parts.filter fun part => span.first ≤ part.first ∧ part.last ≤ span.last,
    fun part listed => (List.mem_filter.mp listed).1, fun number => ?_⟩
  constructor
  · rintro ⟨part, listed, first, last⟩
    have within := (List.mem_filter.mp listed).2
    simp only [decide_eq_true_eq] at within
    omega
  · rintro ⟨first, last⟩
    obtain ⟨part, listed, begins, ends⟩ := maximal.inside number first last
    refine ⟨part, List.mem_filter.mpr ⟨listed, ?_⟩, begins, ends⟩
    rw [decide_eq_true_eq]
    constructor
    · by_contra early
      exact maximal.before ⟨part, listed, by omega, by omega⟩
    · by_contra late
      exact maximal.after ⟨part, listed, by omega, by omega⟩

end Span

end Jitong.Lib
