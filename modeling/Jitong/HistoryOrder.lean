import Jitong.Lib.Paging
import Jitong.LocalOrder
import Jitong.PreviewNewest

/-!
The pages of a conversation's history and the order of the server: drafts that are stored, numbered
and dated by three writers, over whole runs.
-/

namespace Jitong

open NativeRepository Jitong.Lib

namespace NativeRepository

instance : DecidableRel NativeMessageRow.newerThan := fun row other =>
  inferInstanceAs (Decidable (other.serverTime < row.serverTime ∨ row.serverTime = other.serverTime ∧
    tieAfter row.conversationSeq row.localOrder row.msgId other.conversationSeq other.localOrder
      other.msgId))

structure MessageCursor where
  serverTime : Int := 0
  conversationSeq : Int := 0
  localOrder : Int := 0
  msgId : Bytes := []
  deriving DecidableEq

def MessageCursor.of (row : NativeMessageRow) : MessageCursor :=
  ⟨row.serverTime, row.conversationSeq, row.localOrder, row.msgId⟩

def MessageCursor.After (key : MessageCursor) (row : NativeMessageRow) : Prop :=
  row.serverTime < key.serverTime ∨ key.serverTime = row.serverTime ∧
    tieAfter key.conversationSeq key.localOrder key.msgId row.conversationSeq row.localOrder row.msgId

instance (key : MessageCursor) (row : NativeMessageRow) : Decidable (key.After row) :=
  inferInstanceAs (Decidable (_ ∨ _ ∧ _))

structure MessagePage where
  messages : List NativeMessageRow
  hasMore : Bool := false
  next : MessageCursor := {}
  deriving DecidableEq

def listConversation (db : NativeRepository) (conversationId : Int) (cursor : Option MessageCursor)
    (limit : Int) : Option MessagePage :=
  if conversationId ≤ 0 ∨ limit ≤ 0 ∨ 200 < limit ∨ (cursor.any fun key => key.msgId = []) then none
  else
    let found := (newestFirst NativeMessageRow.newerThan (db.messages.rows.filter fun row =>
      row.conversationId = conversationId && cursor.all fun key => key.After row)).take
        (limit.toNat + 1)
    let messages := found.take limit.toNat
    some { messages := messages
           hasMore := limit.toNat < found.length
           next := (messages.getLast?.map MessageCursor.of).getD {} }

def history (db : NativeRepository) (conversationId : Int) (limit : Int) : List NativeMessageRow :=
  scroll (fun cursor => (db.listConversation conversationId cursor limit).map fun page =>
    (page.messages, if page.hasMore then some page.next else none)) (db.messages.rows.length + 1) none

structure HistoryOrdered (db : NativeRepository) : Prop where
  numbered : ∀ limit, 0 < limit → limit ≤ 200 → ∀ row ∈ db.messages.rows,
    ∀ other ∈ db.messages.rows, other.conversationId = row.conversationId →
      0 < other.conversationSeq → other.conversationSeq < row.conversationSeq →
      Precedes row other (db.history row.conversationId limit)
  /-- A draft that is not acknowledged comes before all rows stored before it. -/
  drafts : ∀ limit, 0 < limit → limit ≤ 200 → db.messages.rows.Pairwise fun row draft =>
    draft.conversationId = row.conversationId → draft.fromMe = true → draft.conversationSeq = 0 →
      Precedes draft row (db.history row.conversationId limit)
  /-- The first page begins with a draft that was just stored, and with the message that has the
  largest number. -/
  firstPage : ∀ limit, 0 < limit → limit ≤ 200 → ∀ row ∈ db.messages.rows,
    db.messages.rows.getLast? = some row ∧ row.fromMe = true ∧ row.conversationSeq = 0 ∨
      0 < row.conversationSeq ∧ (∀ other ∈ db.messages.rows,
        other.conversationId = row.conversationId → other ≠ row →
          other.conversationSeq < row.conversationSeq) →
    ∃ page, db.listConversation row.conversationId none limit = some page ∧
      page.messages.head? = some row

namespace MessageCall

/-- The calls as `MessageService` and `ClientRuntime` make them, with the times of the server. -/
def Sequenced (time : Int → Int → Int) : MessageCall → Prop
  | .commitOutgoingDraft m _ => 0 < m.conversationId ∧ m.seq = 0 ∧ m.ts = 0 ∧ m.fromMe = true
  | .commitAck _ serverTime conversationSeq _ => serverTime = 0 ∧ 0 < conversationSeq
  | .mergeIncoming m _ => 0 < m.seq ∧ m.ts = time m.conversationId m.seq

end MessageCall

/-- What holds in every run of such calls: a row without a number is a draft, which has no time and
an order that the counter has reached, and a time is that of the number. -/
structure Sequenced (time : Int → Int → Int) (db : NativeRepository) : Prop where
  listable : ∀ row ∈ db.messages.rows, row.msgId ≠ [] ∧ 0 < row.conversationId
  drafts : ∀ row ∈ db.messages.rows, row.conversationSeq = 0 → row.serverTime = 0 ∧
    row.fromMe = true ∧ ∃ last, db.lastOrder = some last ∧ row.localOrder ≤ last
  numbers : ∀ row ∈ db.messages.rows, row.conversationSeq ≠ 0 → 0 < row.conversationSeq ∧
    (row.serverTime = 0 ∨ row.serverTime = time row.conversationId row.conversationSeq)
  increasing : db.messages.rows.Pairwise fun row later =>
    row.conversationSeq = 0 → later.conversationSeq = 0 → row.localOrder < later.localOrder

structure Placed (rows : List NativeMessageRow) : Prop where
  dated : ∀ row ∈ rows, ∀ other ∈ rows, other.conversationId = row.conversationId →
    0 < other.conversationSeq → other.conversationSeq < row.conversationSeq →
      0 < other.serverTime → 0 < row.serverTime
  unmixed : rows.Pairwise fun row draft =>
    draft.conversationId = row.conversationId → draft.conversationSeq = 0 → row.conversationSeq = 0

variable {db after : NativeRepository} {time : Int → Int → Int} {m : MessageDto}
  {ctx : IncomingContext}

theorem newerThan_weakOrder : WeakOrder NativeMessageRow.newerThan where
  asymm _ _ newer := NativeMessageRow.newerThan_asymm newer
  trans_not _ _ _ left right := NativeMessageRow.not_newerThan_trans left right

theorem messages_apart (matching : NativeMessageRow → Bool) :
    (db.messages.rows.filter matching).Pairwise fun first second =>
      first.newerThan second ∨ second.newerThan first := by
  refine (db.messages.unique.filter matching).imp fun {first second} apart => ?_
  refine NativeMessageRow.newerThan_or fun same => ?_
  simp [NativeMessageRow.clashes, same] at apart

def sortedRows (db : NativeRepository) (conversationId : Int) : List NativeMessageRow :=
  newestFirst NativeMessageRow.newerThan
    (db.messages.rows.filter fun row => row.conversationId = conversationId)

theorem mem_sortedRows {conversationId : Int} {row : NativeMessageRow} :
    row ∈ db.sortedRows conversationId ↔
      row ∈ db.messages.rows ∧ row.conversationId = conversationId := by
  unfold sortedRows
  rw [(newestFirst_perm _).mem_iff, List.mem_filter, decide_eq_true_eq]

theorem sortedRows_pairwise (conversationId : Int) :
    (db.sortedRows conversationId).Pairwise NativeMessageRow.newerThan :=
  newestFirst_pairwise newerThan_weakOrder (messages_apart _)

theorem history_eq {conversationId limit : Int} (known : 0 < conversationId) (positive : 0 < limit)
    (small : limit ≤ 200) (named : ∀ row ∈ db.messages.rows, row.msgId ≠ []) :
    db.history conversationId limit = db.sortedRows conversationId := by
  suffices reads : ReadsPages NativeMessageRow.newerThan
      (db.messages.rows.filter fun row => row.conversationId = conversationId) limit.toNat
      MessageCursor.After MessageCursor.of fun cursor =>
        (db.listConversation conversationId cursor limit).map fun page =>
          (page.messages, if page.hasMore then some page.next else none) by
    exact scroll_all newerThan_weakOrder (by omega) reads (messages_apart _)
      (Nat.lt_succ_of_le (List.length_filter_le _ _))
  refine ⟨fun last row => Iff.rfl, ?_⟩
  intro cursor placed
  have valid : ¬(conversationId ≤ 0 ∨ limit ≤ 0 ∨ 200 < limit ∨
      (cursor.any fun key => key.msgId = []) = true) := by
    rintro (bad | bad | bad | bad)
    · omega
    · omega
    · omega
    · cases cursor with
      | none => simp at bad
      | some key =>
          obtain ⟨row, member, rfl⟩ := placed key rfl
          simp only [Option.any_some, decide_eq_true_eq] at bad
          exact named row (List.mem_of_mem_filter member) bad
  unfold listConversation
  rw [if_neg valid]
  simp only [List.filter_filter, Bool.and_comm, Option.map_some, Option.some.injEq, Prod.mk.injEq,
    List.take_take, List.length_take]
  refine ⟨by rw [Nat.min_eq_left (Nat.le_succ _)], ?_⟩
  generalize newestFirst NativeMessageRow.newerThan _ = left
  by_cases more : limit.toNat < left.length
  · have cut : limit.toNat < min (limit.toNat + 1) left.length := by omega
    simp only [more, cut, decide_true, if_true, Nat.min_eq_left (Nat.le_succ _)]
    have ended : (left.take limit.toNat).getLast? ≠ none := by
      rw [ne_eq, List.getLast?_eq_none_iff, List.take_eq_nil_iff]
      rintro (zero | rfl)
      · omega
      · simp at more
    obtain ⟨last, found⟩ := Option.ne_none_iff_exists'.mp ended
    rw [found]
    rfl
  · have whole : ¬limit.toNat < min (limit.toNat + 1) left.length := by omega
    simp [more, whole]

theorem precedes_history_iff {limit : Int} {row other : NativeMessageRow}
    (sequenced : db.Sequenced time) (positive : 0 < limit) (small : limit ≤ 200)
    (stored : row ∈ db.messages.rows) (member : other ∈ db.messages.rows)
    (same : other.conversationId = row.conversationId) :
    Precedes row other (db.history row.conversationId limit) ↔ row.newerThan other := by
  rw [history_eq (sequenced.listable row stored).2 positive small
    fun row member => (sequenced.listable row member).1]
  exact pair_sublist_iff newerThan_weakOrder (sortedRows_pairwise _) (mem_sortedRows.mpr ⟨stored, rfl⟩)
    (mem_sortedRows.mpr ⟨member, same⟩)

theorem Sequenced.time_nonneg {row : NativeMessageRow} (sequenced : db.Sequenced time)
    (positive : ∀ conversation seq, 0 ≤ time conversation seq) (stored : row ∈ db.messages.rows) :
    0 ≤ row.serverTime := by
  by_cases draft : row.conversationSeq = 0
  · rw [(sequenced.drafts row stored draft).1]
  · have given := positive row.conversationId row.conversationSeq
    rcases (sequenced.numbers row stored draft).2 with zero | dated <;> omega

theorem newerThan_numbered_iff {row other : NativeMessageRow} (sequenced : db.Sequenced time)
    (monotone : ∀ conversation seq later, 0 < seq → seq ≤ later →
      time conversation seq ≤ time conversation later)
    (positive : ∀ conversation seq, 0 ≤ time conversation seq) (stored : row ∈ db.messages.rows)
    (member : other ∈ db.messages.rows) (same : other.conversationId = row.conversationId)
    (numbered : 0 < other.conversationSeq) (larger : other.conversationSeq < row.conversationSeq) :
    row.newerThan other ↔ (0 < other.serverTime → 0 < row.serverTime) := by
  have order := monotone row.conversationId _ _ numbered (le_of_lt larger)
  have one := (sequenced.numbers row stored (by omega)).2
  have two := (sequenced.numbers other member (by omega)).2
  rw [same] at two
  have left := sequenced.time_nonneg positive stored
  have right := sequenced.time_nonneg positive member
  have tie : tieAfter row.conversationSeq row.localOrder row.msgId other.conversationSeq
      other.localOrder other.msgId = true := by simp [tieAfter, larger]
  simp only [NativeMessageRow.newerThan, tie, and_true]
  omega

theorem newerThan_draft_iff {row draft : NativeMessageRow} (sequenced : db.Sequenced time)
    (positive : ∀ conversation seq, 0 ≤ time conversation seq) (stored : row ∈ db.messages.rows)
    (member : draft ∈ db.messages.rows) (unnumbered : draft.conversationSeq = 0)
    (later : row.conversationSeq = 0 → row.localOrder < draft.localOrder) :
    draft.newerThan row ↔ row.conversationSeq = 0 := by
  have undated := (sequenced.drafts draft member unnumbered).1
  have nonneg := sequenced.time_nonneg positive stored
  simp only [NativeMessageRow.newerThan, tieAfter, undated, unnumbered, Bool.or_eq_true,
    Bool.and_eq_true, decide_eq_true_eq]
  constructor
  · intro newer
    by_contra numbered
    have positive_number := (sequenced.numbers row stored numbered).1
    omega
  · intro zero
    have below := later zero
    have none_dated := (sequenced.drafts row stored zero).1
    omega

theorem firstPage_newest {row : NativeMessageRow} {limit : Int} (sequenced : db.Sequenced time)
    (positive : 0 < limit) (small : limit ≤ 200) (stored : row ∈ db.messages.rows)
    (newest : ∀ other ∈ db.messages.rows, other.conversationId = row.conversationId →
      other ≠ row → row.newerThan other) :
    ∃ page, db.listConversation row.conversationId none limit = some page ∧
      page.messages.head? = some row := by
  have listable := (sequenced.listable row stored).2
  have valid : ¬(row.conversationId ≤ 0 ∨ limit ≤ 0 ∨ 200 < limit ∨
      ((none : Option MessageCursor).any fun key => key.msgId = []) = true) := by
    rintro (bad | bad | bad | bad)
    · omega
    · omega
    · omega
    · simp at bad
  refine ⟨_, if_neg valid, ?_⟩
  have same : (db.messages.rows.filter fun other => other.conversationId = row.conversationId &&
      (none : Option MessageCursor).all fun key => key.After other) =
      db.messages.rows.filter fun other => other.conversationId = row.conversationId := by simp
  rw [same]
  change (((db.sortedRows row.conversationId).take _).take _).head? = some row
  have listed := mem_sortedRows.mpr ⟨stored, rfl⟩
  cases sorted : db.sortedRows row.conversationId with
  | nil => simp [sorted] at listed
  | cons first rest =>
      have first_listed : first ∈ db.sortedRows row.conversationId := by simp [sorted]
      have found := mem_sortedRows.mp first_listed
      have here : first = row := by
        by_contra apart
        rw [sorted] at listed
        have pairs := sorted ▸ @sortedRows_pairwise db row.conversationId
        have after := (List.pairwise_cons.mp pairs).1 row ((List.mem_cons.mp listed).resolve_left
          fun same => apart same.symm)
        exact NativeMessageRow.newerThan_asymm after (newest first found.1 found.2 apart)
      obtain ⟨count, size⟩ : ∃ count, limit.toNat = count + 1 := ⟨limit.toNat - 1, by omega⟩
      simp [size, here]

theorem historyOrdered_iff_placed (sequenced : db.Sequenced time)
    (monotone : ∀ conversation seq later, 0 < seq → seq ≤ later →
      time conversation seq ≤ time conversation later)
    (positive : ∀ conversation seq, 0 ≤ time conversation seq) :
    db.HistoryOrdered ↔ Placed db.messages.rows := by
  have members {holds : NativeMessageRow → NativeMessageRow → Prop}
      (pairs : db.messages.rows.Pairwise holds) : db.messages.rows.Pairwise fun row later =>
        (row ∈ db.messages.rows ∧ later ∈ db.messages.rows) ∧ holds row later :=
    List.pairwise_iff_forall_sublist.mpr fun {row later} found =>
      ⟨⟨found.subset (by simp), found.subset (by simp)⟩,
        List.pairwise_iff_forall_sublist.mp pairs found⟩
  constructor
  · intro ordered
    refine ⟨?_, ?_⟩
    · intro row stored other member same numbered larger
      have listed := ordered.numbered 1 (by omega) (by omega) row stored other member same numbered
        larger
      rw [precedes_history_iff sequenced (by omega) (by omega) stored member same] at listed
      exact (newerThan_numbered_iff sequenced monotone positive stored member same numbered
        larger).mp listed
    · have both := (members (ordered.drafts 1 (by omega) (by omega))).and sequenced.increasing
      refine both.imp fun {row draft} holds same unnumbered => ?_
      obtain ⟨⟨⟨stored, member⟩, drafts⟩, increasing⟩ := holds
      have listed := drafts same (sequenced.drafts draft member unnumbered).2.1 unnumbered
      rw [← same, precedes_history_iff sequenced (by omega) (by omega) member stored same.symm]
        at listed
      exact (newerThan_draft_iff sequenced positive stored member unnumbered
        fun zero => increasing zero unnumbered).mp listed
  · intro placed
    refine ⟨?_, ?_, ?_⟩
    · intro limit one most row stored other member same numbered larger
      rw [precedes_history_iff sequenced one most stored member same]
      exact (newerThan_numbered_iff sequenced monotone positive stored member same numbered
        larger).mpr (placed.dated row stored other member same numbered larger)
    · intro limit one most
      have both := (members placed.unmixed).and sequenced.increasing
      refine both.imp fun {row draft} holds same _ unnumbered => ?_
      obtain ⟨⟨⟨stored, member⟩, unmixed⟩, increasing⟩ := holds
      rw [← same, precedes_history_iff sequenced one most member stored same.symm]
      exact (newerThan_draft_iff sequenced positive stored member unnumbered
        fun zero => increasing zero unnumbered).mpr (unmixed same unnumbered)
    · intro limit one most row stored newest
      refine firstPage_newest sequenced one most stored fun other member same apart => ?_
      rcases newest with ⟨last, _, unnumbered⟩ | ⟨numbered, largest⟩
      · have front : ∃ before, db.messages.rows = before ++ [row] := by
          obtain ⟨before, split⟩ := List.getLast?_eq_some_iff.mp last
          exact ⟨before, split⟩
        obtain ⟨before, split⟩ := front
        have earlier : other ∈ before := by
          rw [split] at member
          rcases List.mem_append.mp member with old | new
          · exact old
          · exact absurd (List.mem_singleton.mp new) apart
        have unmixed := placed.unmixed
        have increasing := sequenced.increasing
        rw [split] at unmixed increasing
        have zero := (List.pairwise_append.mp unmixed).2.2 other earlier row
          (List.mem_singleton_self row) same.symm unnumbered
        have below := (List.pairwise_append.mp increasing).2.2 other earlier row
          (List.mem_singleton_self row)
        exact (newerThan_draft_iff sequenced positive member stored unnumbered
          fun zero => below zero unnumbered).mpr zero
      · by_cases draft : other.conversationSeq = 0
        · have undated := (sequenced.drafts other member draft).1
          have nonneg := sequenced.time_nonneg positive stored
          simp only [NativeMessageRow.newerThan, tieAfter, undated, draft, Bool.or_eq_true,
            Bool.and_eq_true, decide_eq_true_eq]
          omega
        · have counted := (sequenced.numbers other member draft).1
          have larger := largest other member same apart
          exact (newerThan_numbered_iff sequenced monotone positive stored member same counted
            larger).mpr (placed.dated row stored other member same counted larger)

section Rows

variable {rows : List NativeMessageRow} {row added later : NativeMessageRow}

theorem pairwise_either {holds : NativeMessageRow → NativeMessageRow → Prop}
    (pairs : rows.Pairwise holds) (stored : row ∈ rows) (member : later ∈ rows)
    (different : row ≠ later) : holds row later ∨ holds later row := by
  have symmetric : Std.Symm fun first second => holds first second ∨ holds second first :=
    ⟨fun _ _ => Or.symm⟩
  exact (pairs.imp (S := fun first second => holds first second ∨ holds second first)
    Or.inl).forall stored member different

theorem placed_draft_iff (placed : Placed rows) (unnumbered : added.conversationSeq = 0) :
    Placed (rows ++ [added]) ↔
      ∀ row ∈ rows, row.conversationId = added.conversationId → row.conversationSeq = 0 := by
  constructor
  · intro after row member same
    exact (List.pairwise_append.mp after.unmixed).2.2 row member added (List.mem_singleton_self _)
      same.symm unnumbered
  · intro drafts
    refine ⟨?_, List.pairwise_append.mpr ⟨placed.unmixed, List.pairwise_singleton _ _, ?_⟩⟩
    · intro row stored other member same numbered larger
      rw [List.mem_append, List.mem_singleton] at stored member
      rcases member with known | rfl
      · rcases stored with old | rfl
        · exact placed.dated row old other known same numbered larger
        · omega
      · omega
    · intro row member draft new same _
      obtain rfl := List.mem_singleton.mp new
      exact drafts row member same.symm

theorem placed_numbered_iff (placed : Placed rows) (numbered : 0 < added.conversationSeq)
    (below : ∀ row ∈ rows, row.conversationId = added.conversationId → 0 < row.conversationSeq →
      row.conversationSeq < added.conversationSeq → 0 < row.serverTime → 0 < added.serverTime) :
    Placed (rows ++ [added]) ↔ (0 < added.serverTime → ∀ row ∈ rows,
      row.conversationId = added.conversationId → added.conversationSeq < row.conversationSeq →
        0 < row.serverTime) := by
  constructor
  · intro after timed row member same larger
    exact after.dated row (List.mem_append_left _ member) added
      (List.mem_append_right _ (List.mem_singleton_self _)) same.symm numbered larger timed
  · intro above
    refine ⟨?_, List.pairwise_append.mpr ⟨placed.unmixed, List.pairwise_singleton _ _, ?_⟩⟩
    · intro row stored other member same positive larger timed
      rw [List.mem_append, List.mem_singleton] at stored member
      rcases stored with old | rfl
      · rcases member with known | rfl
        · exact placed.dated row old other known same positive larger timed
        · exact above timed row old same.symm larger
      · rcases member with known | rfl
        · exact below other known same positive larger timed
        · omega
    · intro row _ draft new _ unnumbered
      obtain rfl := List.mem_singleton.mp new
      omega

theorem placed_revise_iff (placed : Placed rows) (stored : row ∈ rows)
    (apart : rows.Pairwise fun first second => first.msgId ≠ second.msgId)
    (increasing : rows.Pairwise fun first second =>
      first.conversationSeq = 0 → second.conversationSeq = 0 → first.localOrder < second.localOrder)
    (named : later.conversationId = row.conversationId) (numbered : 0 < later.conversationSeq) :
    Placed (rows.map fun other => if other.msgId = row.msgId then later else other) ↔
      (row.conversationSeq = 0 → ∀ draft ∈ rows, draft.conversationId = row.conversationId →
        draft.conversationSeq = 0 → draft.localOrder ≤ row.localOrder) ∧
      (∀ other ∈ rows, other.msgId ≠ row.msgId → other.conversationId = row.conversationId →
        (0 < other.conversationSeq → other.conversationSeq < later.conversationSeq →
          0 < other.serverTime → 0 < later.serverTime) ∧
        (later.conversationSeq < other.conversationSeq → 0 < later.serverTime →
          0 < other.serverTime)) := by
  have unique : ∀ other ∈ rows, other.msgId = row.msgId → other = row := by
    intro other member same
    by_contra different
    rcases pairwise_either apart member stored different with wrong | wrong
    · exact wrong same
    · exact wrong same.symm
  have kept {other : NativeMessageRow} (member : other ∈ rows) (different : other.msgId ≠ row.msgId) :
      other ∈ rows.map fun other => if other.msgId = row.msgId then later else other :=
    List.mem_map.mpr ⟨other, member, if_neg different⟩
  have revised : later ∈ rows.map fun other => if other.msgId = row.msgId then later else other :=
    List.mem_map.mpr ⟨row, stored, if_pos rfl⟩
  constructor
  · intro after
    refine ⟨?_, ?_⟩
    · intro unnumbered draft member same zero
      by_contra above
      have different : draft ≠ row := by
        rintro rfl
        omega
      have other_id : draft.msgId ≠ row.msgId := fun equal => different (unique draft member equal)
      have unmixed := List.pairwise_map.mp after.unmixed
      rcases pairwise_either (increasing.and unmixed) stored member different.symm with holds | holds
      · have mixed := holds.2
        rw [if_pos rfl, if_neg other_id] at mixed
        have wrong := mixed (same.trans named.symm) zero
        omega
      · have order := holds.1 zero unnumbered
        omega
    · intro other member different same
      refine ⟨?_, ?_⟩
      · intro positive larger timed
        exact after.dated later revised other (kept member different) (same.trans named.symm) positive
          larger timed
      · intro larger timed
        exact after.dated other (kept member different) later revised (named.trans same.symm)
          numbered larger timed
  · rintro ⟨last, agrees⟩
    refine ⟨?_, ?_⟩
    · intro first found second listed same positive larger timed
      obtain ⟨one, known, rfl⟩ := List.mem_map.mp found
      obtain ⟨two, member, rfl⟩ := List.mem_map.mp listed
      by_cases one_named : one.msgId = row.msgId
      · by_cases two_named : two.msgId = row.msgId
        · simp only [if_pos one_named, if_pos two_named] at larger
          omega
        · simp only [if_pos one_named, if_neg two_named] at same positive larger timed ⊢
          exact (agrees two member two_named (same.trans named)).1 positive larger timed
      · by_cases two_named : two.msgId = row.msgId
        · simp only [if_neg one_named, if_pos two_named] at same positive larger timed ⊢
          exact (agrees one known one_named (same.symm.trans named)).2 larger timed
        · simp only [if_neg one_named, if_neg two_named] at same positive larger timed ⊢
          exact placed.dated one known two member same positive larger timed
    · rw [List.pairwise_map]
      have both := ((placed.unmixed.and increasing).and apart)
      refine List.pairwise_iff_forall_sublist.mpr fun {first second} found => ?_
      obtain ⟨⟨unmixed, order⟩, different⟩ := List.pairwise_iff_forall_sublist.mp both found
      have second_member : second ∈ rows := found.subset (by simp)
      have first_member : first ∈ rows := found.subset (by simp)
      intro same unnumbered
      by_cases second_named : second.msgId = row.msgId
      · rw [if_pos second_named] at unnumbered
        omega
      · rw [if_neg second_named] at same unnumbered
        by_cases first_named : first.msgId = row.msgId
        · obtain rfl := unique first first_member first_named
          rw [if_pos rfl] at same
          have zero := unmixed (same.trans named) unnumbered
          have below := last zero second second_member (same.trans named) unnumbered
          have above := order zero unnumbered
          omega
        · rw [if_neg first_named] at same ⊢
          exact unmixed same unnumbered

end Rows

theorem mergeIncoming_lastOrder {new : Bool} (merged : db.mergeIncoming m ctx = some (new, after)) :
    after.lastOrder = db.lastOrder := by
  have advanced_kept {before later : NativeRepository} {msgId : Bytes} {seq time status : Int}
      (advanced : before.advanceMessage msgId seq time status = some later) :
      later.lastOrder = before.lastOrder := by
    obtain ⟨messages, _, rfl⟩ := Option.map_eq_some_iff.mp advanced
    rfl
  unfold mergeIncoming at merged
  split at merged
  · simp at merged
  · unfold insertMessage at merged
    by_cases known : (db.message m.msgId).isSome
    · simp only [known, if_true] at merged
      obtain ⟨advanced, updated, same⟩ := Option.map_eq_some_iff.mp merged
      obtain ⟨rfl, rfl⟩ := Prod.mk.inj same
      have kept := advanced_kept updated
      split
      · exact (finishProjection_lastOrder _ _).trans kept
      · exact (finishProjection_lastOrder _ _).trans kept
    · simp only [known, if_false, Bool.false_eq_true] at merged
      cases inserted : db.messages.insert (.of m) with
      | none => simp [inserted] at merged
      | some messages =>
          simp only [inserted, Option.map_some] at merged
          obtain ⟨counted, updated, same⟩ := Option.map_eq_some_iff.mp merged
          obtain ⟨rfl, rfl⟩ := Prod.mk.inj same
          rw [finishProjection_lastOrder]
          unfold countIncoming at updated
          split at updated
          · obtain rfl := Option.some.inj updated
            rfl
          · obtain ⟨conversations, _, rfl⟩ := Option.map_eq_some_iff.mp updated
            rfl

theorem commitAck_lastOrder {msgId : Bytes} {serverTime seq status : Int}
    (committed : db.commitAck msgId serverTime seq status = some after) :
    after.lastOrder = db.lastOrder := by
  unfold commitAck at committed
  split at committed
  · simp at committed
  · split at committed
    · obtain rfl := Option.some.inj committed
      rfl
    · split at committed
      · simp at committed
      · obtain ⟨advanced, updated, rfl⟩ := Option.map_eq_some_iff.mp committed
        obtain ⟨messages, _, rfl⟩ := Option.map_eq_some_iff.mp updated
        split <;> rfl

theorem revised_rows {msgId : Bytes} {row : NativeMessageRow}
    (change : NativeMessageRow → NativeMessageRow) (known : db.message msgId = some row) :
    db.messages.rows.map (fun other => if other.msgId = msgId then change other else other) =
      db.messages.rows.map fun other => if other.msgId = row.msgId then change row else other := by
  have named := (message_eq_some.mp known).2
  refine List.map_congr_left fun other member => ?_
  by_cases own : other.msgId = msgId
  · rw [if_pos own, if_pos (own.trans named.symm)]
    have same := message_eq_some.mpr ⟨member, own⟩
    rw [known] at same
    rw [Option.some.inj same]
  · rw [if_neg own, if_neg (named.symm ▸ own)]

theorem messages_ids :
    db.messages.rows.Pairwise fun first second => first.msgId ≠ second.msgId :=
  db.messages.unique.imp fun {first second} apart same => by
    simp [NativeMessageRow.clashes, same] at apart

theorem Sequenced.revise {row later : NativeMessageRow} (sequenced : db.Sequenced time)
    (stored : row ∈ db.messages.rows) (counter : after.lastOrder = db.lastOrder)
    (rows : after.messages.rows = db.messages.rows.map fun other =>
      if other.msgId = row.msgId then later else other)
    (named : later.msgId = row.msgId ∧ later.conversationId = row.conversationId)
    (numbered : 0 < later.conversationSeq) (dated : later.serverTime = 0 ∨
      later.serverTime = time later.conversationId later.conversationSeq) : after.Sequenced time := by
  have cases_of {found : NativeMessageRow} (member : found ∈ after.messages.rows) :
      found ∈ db.messages.rows ∨ found = later := by
    rw [rows] at member
    obtain ⟨other, known, rfl⟩ := List.mem_map.mp member
    split
    · exact .inr rfl
    · exact .inl known
  refine ⟨?_, ?_, ?_, ?_⟩
  · intro found member
    rcases cases_of member with known | rfl
    · exact sequenced.listable found known
    · rw [named.1, named.2]
      exact sequenced.listable row stored
  · intro found member unnumbered
    rcases cases_of member with known | rfl
    · rw [counter]
      exact sequenced.drafts found known unnumbered
    · omega
  · intro found member found_number
    rcases cases_of member with known | rfl
    · exact sequenced.numbers found known found_number
    · exact ⟨numbered, dated⟩
  · rw [rows, List.pairwise_map]
    refine sequenced.increasing.imp fun {first second} order one two => ?_
    split at one
    · omega
    · split at two
      · omega
      · rename_i first_other second_other
        simp only [if_neg first_other, if_neg second_other]
        exact order one two

theorem Sequenced.append {added : NativeMessageRow} (sequenced : db.Sequenced time)
    (rows : after.messages.rows = db.messages.rows ++ [added])
    (counter : ∀ last, db.lastOrder = some last → ∃ later, after.lastOrder = some later ∧ last ≤ later)
    (listable : added.msgId ≠ [] ∧ 0 < added.conversationId)
    (draft : added.conversationSeq = 0 → added.serverTime = 0 ∧ added.fromMe = true ∧
      after.lastOrder = some added.localOrder ∧
        ∀ last, db.lastOrder = some last → last < added.localOrder)
    (number : added.conversationSeq ≠ 0 → 0 < added.conversationSeq ∧ (added.serverTime = 0 ∨
      added.serverTime = time added.conversationId added.conversationSeq)) : after.Sequenced time := by
  have cases_of {found : NativeMessageRow} (member : found ∈ after.messages.rows) :
      found ∈ db.messages.rows ∨ found = added := by
    rw [rows] at member
    exact (List.mem_append.mp member).imp id List.mem_singleton.mp
  refine ⟨?_, ?_, ?_, ?_⟩
  · intro found member
    rcases cases_of member with known | rfl
    · exact sequenced.listable found known
    · exact listable
  · intro found member unnumbered
    rcases cases_of member with known | rfl
    · obtain ⟨undated, mine, last, counted, below⟩ := sequenced.drafts found known unnumbered
      obtain ⟨later, now, above⟩ := counter last counted
      exact ⟨undated, mine, later, now, by omega⟩
    · obtain ⟨undated, mine, now, _⟩ := draft unnumbered
      exact ⟨undated, mine, _, now, le_refl _⟩
  · intro found member numbered
    rcases cases_of member with known | rfl
    · exact sequenced.numbers found known numbered
    · exact number numbered
  · rw [rows]
    refine List.pairwise_append.mpr ⟨sequenced.increasing, List.pairwise_singleton _ _, ?_⟩
    intro row member later new unnumbered later_unnumbered
    obtain rfl := List.mem_singleton.mp new
    obtain ⟨_, _, last, counted, below⟩ := sequenced.drafts row member unnumbered
    have above := (draft later_unnumbered).2.2.2 last counted
    omega

def lastDraft (db : NativeRepository) (row : NativeMessageRow) : Bool :=
  db.messages.rows.all fun draft => draft.conversationId ≠ row.conversationId ||
    draft.conversationSeq ≠ 0 || draft.localOrder ≤ row.localOrder

def datedAbove (db : NativeRepository) (conversationId seq : Int) : Bool :=
  db.messages.rows.all fun row => row.conversationId ≠ conversationId ||
    row.conversationSeq ≤ seq || 0 < row.serverTime

def undatedBelow (db : NativeRepository) (conversationId seq : Int) : Bool :=
  db.messages.rows.all fun row => row.conversationId ≠ conversationId ||
    seq ≤ row.conversationSeq || row.serverTime ≤ 0

def inOrder (db : NativeRepository) : MessageCall → Bool
  | .commitOutgoingDraft m now =>
      (db.message m.msgId).isSome || (db.commitOutgoingDraft m now).isNone ||
        db.messages.rows.all fun row =>
          row.conversationId ≠ m.conversationId || row.conversationSeq = 0
  | .commitAck msgId serverTime conversationSeq status =>
      (db.commitAck msgId serverTime conversationSeq status).isNone ||
        match db.message msgId with
        | none => true
        | some row => row.conversationSeq ≠ 0 ||
            db.lastDraft row && db.undatedBelow row.conversationId conversationSeq
  | .mergeIncoming m ctx =>
      (db.mergeIncoming m ctx).isNone ||
        match db.message m.msgId with
        | none => m.ts ≤ 0 || db.datedAbove m.conversationId m.seq
        | some row => (row.conversationSeq ≠ 0 || db.lastDraft row) &&
            (0 < row.serverTime || m.ts ≤ 0 || db.datedAbove m.conversationId m.seq)

theorem lastDraft_eq_true {row : NativeMessageRow} :
    db.lastDraft row = true ↔ ∀ draft ∈ db.messages.rows,
      draft.conversationId = row.conversationId → draft.conversationSeq = 0 →
        draft.localOrder ≤ row.localOrder := by
  simp [lastDraft, or_iff_not_imp_left]

theorem datedAbove_eq_true {conversationId seq : Int} :
    db.datedAbove conversationId seq = true ↔ ∀ row ∈ db.messages.rows,
      row.conversationId = conversationId → seq < row.conversationSeq → 0 < row.serverTime := by
  simp [datedAbove, or_iff_not_imp_left]

theorem undatedBelow_eq_true {conversationId seq : Int} :
    db.undatedBelow conversationId seq = true ↔ ∀ row ∈ db.messages.rows,
      row.conversationId = conversationId → row.conversationSeq < seq → row.serverTime ≤ 0 := by
  simp [undatedBelow, or_iff_not_imp_left]

theorem merged_columns {row : NativeMessageRow} (known : db.message m.msgId = some row)
    (compatible : db.compatibleIdentity m = true) (numbered : 0 < m.seq) :
    (row.merged m).msgId = row.msgId ∧ (row.merged m).conversationId = row.conversationId ∧
      row.conversationId = m.conversationId ∧
      (row.conversationSeq = 0 ∨ row.conversationSeq = m.seq) ∧
      (row.merged m).conversationSeq = m.seq ∧
      (row.merged m).serverTime = if row.serverTime = 0 ∧ 0 < m.ts then m.ts else row.serverTime := by
  unfold compatibleIdentity at compatible
  simp only [known, Bool.and_eq_true, decide_eq_true_eq, Bool.or_eq_true] at compatible
  obtain ⟨⟨⟨⟨conversation, _⟩, _⟩, _⟩, seq⟩ := compatible
  refine ⟨rfl, rfl, conversation, by omega, ?_, rfl⟩
  simp only [NativeMessageRow.merged, NativeMessageRow.advance]
  split <;> omega

section Calls

variable (monotone : ∀ conversation seq later, 0 < seq → seq ≤ later →
    time conversation seq ≤ time conversation later)
  (positive : ∀ conversation seq, 0 ≤ time conversation seq)

include positive in
theorem Sequenced.mergeIncoming (sequenced : db.Sequenced time) (numbered : 0 < m.seq)
    (dated : m.ts = time m.conversationId m.seq) {new : Bool}
    (merged : db.mergeIncoming m ctx = some (new, after)) : after.Sequenced time := by
  have counter := mergeIncoming_lastOrder merged
  have valid : m.msgId ≠ [] ∧ 0 < m.conversationId := by
    unfold NativeRepository.mergeIncoming at merged
    split at merged
    · simp at merged
    · rename_i valid
      simp only [not_or, not_le] at valid
      exact ⟨valid.1, valid.2.2.1⟩
  obtain ⟨compatible, ⟨_, known, rows, _⟩ | ⟨_, _, rows, _⟩⟩ := mergeIncoming_rows merged
  · obtain ⟨row, found⟩ := Option.isSome_iff_exists.mp known
    obtain ⟨id, conversation, own, _, seq, time_eq⟩ := merged_columns found compatible numbered
    have stored := (message_eq_some.mp found).1
    refine sequenced.revise stored counter
      (rows.trans (revised_rows (fun row => row.merged m) found)) ⟨id, conversation⟩ (seq ▸ numbered) ?_
    rw [conversation, own, seq, ← dated, time_eq]
    split
    · exact .inr rfl
    · by_cases draft : row.conversationSeq = 0
      · exact .inl (sequenced.drafts row stored draft).1
      · have kept := (sequenced.numbers row stored draft).2
        have given := positive m.conversationId m.seq
        have same : row.conversationSeq = m.seq := by omega
        rw [own, same, ← dated] at kept
        exact kept
  · refine sequenced.append rows (fun last counted => ⟨last, counter.trans counted, le_refl last⟩)
      valid ?_ ?_
    · intro zero
      exact absurd (show m.seq = 0 from zero) (by omega)
    · intro _
      exact ⟨numbered, .inr dated⟩

theorem Sequenced.commitAck (sequenced : db.Sequenced time) {msgId : Bytes} {seq status : Int}
    (numbered : 0 < seq) (committed : db.commitAck msgId 0 seq status = some after) :
    after.Sequenced time := by
  have counter := commitAck_lastOrder committed
  obtain ⟨_, ⟨_, rfl⟩ | ⟨row, found, agrees, _, rows, _⟩⟩ := commitAck_rows committed
  · exact sequenced
  · have stored := (message_eq_some.mp found).1
    refine sequenced.revise stored counter
      (rows.trans (revised_rows (fun row => row.advance seq 0 status) found)) ⟨rfl, rfl⟩ ?_ ?_
    · simp only [NativeMessageRow.advance]
      split
      · exact numbered
      · rename_i kept
        exact (sequenced.numbers row stored (by omega)).1
    · simp only [NativeMessageRow.advance, lt_irrefl, and_false, if_false]
      by_cases draft : row.conversationSeq = 0
      · exact .inl (sequenced.drafts row stored draft).1
      · rw [if_neg (by omega)]
        exact (sequenced.numbers row stored draft).2

theorem Sequenced.commitOutgoingDraft (sequenced : db.Sequenced time) {now order : Int}
    (listable : 0 < m.conversationId) (unnumbered : m.seq = 0) (undated : m.ts = 0)
    (mine : m.fromMe = true) (committed : db.commitOutgoingDraft m now = some (order, after)) :
    after.Sequenced time := by
  have named : m.msgId ≠ [] := by
    rintro empty
    unfold NativeRepository.commitOutgoingDraft at committed
    simp [empty] at committed
  obtain ⟨_, ⟨rfl, _⟩ | ⟨unknown, _, rows, _⟩⟩ := commitOutgoingDraft_rows committed
  · exact sequenced
  · obtain ⟨allocated, remembered⟩ := commitOutgoingDraft_allocated unknown committed
    have above : ∀ last, db.lastOrder = some last → last < order := fun last counted =>
      allocate_above allocated (.inl ⟨last, counted, le_refl last⟩)
    refine sequenced.append rows ?_ ⟨named, listable⟩ ?_ ?_
    · intro last counted
      have below := above last counted
      exact ⟨order, remembered, by omega⟩
    · intro _
      exact ⟨undated, mine, remembered, above⟩
    · intro numbered
      exact absurd (show m.seq = 0 from unnumbered) numbered

include positive in
theorem Sequenced.call {call : MessageCall} (admissible : call.Sequenced time)
    (sequenced : db.Sequenced time) : (db.call call).Sequenced time := by
  cases call with
  | commitOutgoingDraft m now =>
      obtain ⟨listable, unnumbered, undated, mine⟩ := admissible
      cases committed : db.commitOutgoingDraft m now with
      | none =>
          simpa only [NativeRepository.call, committed, Option.map_none, Option.getD_none] using
            sequenced
      | some result =>
          simp only [NativeRepository.call, committed, Option.map_some, Option.getD_some]
          exact sequenced.commitOutgoingDraft listable unnumbered undated mine
            committed
  | commitAck msgId serverTime seq status =>
      obtain ⟨rfl, numbered⟩ := admissible
      cases committed : db.commitAck msgId 0 seq status with
      | none =>
          simpa only [NativeRepository.call, committed, Option.getD_none] using sequenced
      | some after =>
          simp only [NativeRepository.call, committed, Option.getD_some]
          exact sequenced.commitAck numbered committed
  | mergeIncoming m ctx =>
      cases merged : db.mergeIncoming m ctx with
      | none =>
          simpa only [NativeRepository.call, merged, Option.map_none, Option.getD_none] using
            sequenced
      | some result =>
          simp only [NativeRepository.call, merged, Option.map_some, Option.getD_some]
          exact sequenced.mergeIncoming positive admissible.1 admissible.2 merged

theorem placed_commitOutgoingDraft_iff (placed : Placed db.messages.rows) {now order : Int}
    (unnumbered : m.seq = 0) (committed : db.commitOutgoingDraft m now = some (order, after)) :
    Placed after.messages.rows ↔ db.inOrder (.commitOutgoingDraft m now) = true := by
  unfold inOrder
  obtain ⟨_, ⟨rfl, known⟩ | ⟨unknown, _, rows, _⟩⟩ := commitOutgoingDraft_rows committed
  · simp [known, placed]
  · rw [rows, placed_draft_iff placed unnumbered]
    simp [unknown, committed, NativeMessageRow.stored, NativeMessageRow.of, or_iff_not_imp_left]

theorem placed_commitAck_iff (sequenced : db.Sequenced time) (placed : Placed db.messages.rows)
    {msgId : Bytes} {seq status : Int} (numbered : 0 < seq)
    (committed : db.commitAck msgId 0 seq status = some after) :
    Placed after.messages.rows ↔ db.inOrder (.commitAck msgId 0 seq status) = true := by
  unfold inOrder
  obtain ⟨_, ⟨unknown, rfl⟩ | ⟨row, found, agrees, _, rows, _⟩⟩ := commitAck_rows committed
  · simp [unknown, placed]
  · have stored := (message_eq_some.mp found).1
    rw [rows, revised_rows (fun row => row.advance seq 0 status) found]
    simp only [committed, found, Option.isNone_some, Bool.false_or]
    by_cases draft : row.conversationSeq = 0
    · have undated := (sequenced.drafts row stored draft).1
      have columns : (row.advance seq 0 status).conversationSeq = seq ∧
          (row.advance seq 0 status).serverTime = 0 := by
        simp [NativeMessageRow.advance, draft, numbered, undated]
      have named : (row.advance seq 0 status).conversationId = row.conversationId := rfl
      rw [placed_revise_iff placed stored messages_ids sequenced.increasing named
        (by rw [columns.1]; exact numbered), columns.1, columns.2]
      simp only [draft, ne_eq, not_true_eq_false, decide_false, Bool.false_or, Bool.and_eq_true,
        lastDraft_eq_true, undatedBelow_eq_true, forall_const]
      refine and_congr_right fun _ => ?_
      constructor
      · intro agrees other member same below
        by_cases own : other.msgId = row.msgId
        · have equal := message_eq_some.mpr ⟨member, own⟩
          rw [message_eq_some.mpr ⟨stored, rfl⟩] at equal
          rw [← Option.some.inj equal, undated]
        · by_cases unnumbered : other.conversationSeq = 0
          · rw [(sequenced.drafts other member unnumbered).1]
          · have positive_number := (sequenced.numbers other member unnumbered).1
            have absent := (agrees other member own same).1 positive_number below
            omega
      · intro below other member _ same
        refine ⟨fun _ smaller timed => ?_, fun _ timed => by omega⟩
        have absent := below other member same smaller
        omega
    · have positive_number := (sequenced.numbers row stored draft).1
      have columns : (row.advance seq 0 status).conversationSeq = row.conversationSeq ∧
          (row.advance seq 0 status).serverTime = row.serverTime := by
        simp [NativeMessageRow.advance, draft]
      have named : (row.advance seq 0 status).conversationId = row.conversationId := rfl
      rw [placed_revise_iff placed stored messages_ids sequenced.increasing named
        (by rw [columns.1]; exact positive_number), columns.1, columns.2]
      simp only [draft, ne_eq, not_false_eq_true, decide_true, Bool.true_or, iff_true]
      refine ⟨fun zero => zero.elim, fun other member _ same => ⟨?_, ?_⟩⟩
      · exact placed.dated row stored other member same
      · intro larger timed
        exact placed.dated other member row stored same.symm positive_number larger timed

include monotone positive in
theorem placed_mergeIncoming_iff (sequenced : db.Sequenced time) (placed : Placed db.messages.rows)
    (numbered : 0 < m.seq) (dated : m.ts = time m.conversationId m.seq) {new : Bool}
    (merged : db.mergeIncoming m ctx = some (new, after)) :
    Placed after.messages.rows ↔ db.inOrder (.mergeIncoming m ctx) = true := by
  have given : 0 ≤ m.ts := dated ▸ positive m.conversationId m.seq
  -- the times of smaller numbers are no larger
  have below : ∀ other ∈ db.messages.rows, other.conversationId = m.conversationId →
      0 < other.conversationSeq → other.conversationSeq < m.seq → 0 < other.serverTime →
        0 < m.ts := by
    intro other member same counted smaller timed
    have order := monotone m.conversationId _ _ counted (le_of_lt smaller)
    have kept := (sequenced.numbers other member (by omega)).2
    rw [same] at kept
    omega
  unfold inOrder
  obtain ⟨compatible, ⟨_, known, rows, _⟩ | ⟨_, unknown, rows, _⟩⟩ := mergeIncoming_rows merged
  · obtain ⟨row, found⟩ := Option.isSome_iff_exists.mp known
    obtain ⟨_, named, own, seq_cases, seq, time_eq⟩ := merged_columns found compatible numbered
    have stored := (message_eq_some.mp found).1
    have nonneg := sequenced.time_nonneg positive stored
    rw [rows, revised_rows (fun row => row.merged m) found, placed_revise_iff placed stored
      messages_ids sequenced.increasing named (by rw [seq]; exact numbered), seq, time_eq]
    simp only [merged, found, Option.isNone_some, Bool.false_or, Bool.and_eq_true, Bool.or_eq_true,
      decide_eq_true_eq, ne_eq, lastDraft_eq_true, datedAbove_eq_true, own]
    refine and_congr ?_ ?_
    · constructor
      · intro last
        by_cases draft : row.conversationSeq = 0
        · exact .inr (last draft)
        · exact .inl draft
      · rintro (kept | last) draft
        · exact absurd draft kept
        · exact last
    · by_cases timed : 0 < row.serverTime
      · have kept : ¬(row.serverTime = 0 ∧ 0 < m.ts) := by omega
        have already : row.conversationSeq = m.seq := by
          rcases seq_cases with zero | same
          · have undated := (sequenced.drafts row stored zero).1
            omega
          · exact same
        simp only [timed, true_or, iff_true, if_neg kept]
        intro other member _ same
        refine ⟨fun _ _ _ => trivial, fun larger _ => ?_⟩
        exact placed.dated other member row stored (own.trans same.symm) (by omega) (by omega) timed
      · have undated : row.serverTime = 0 := by omega
        simp only [undated, lt_irrefl, false_or, true_and]
        by_cases later : 0 < m.ts
        · simp only [if_pos later, not_le.mpr later, false_or]
          constructor
          · intro agrees other member same larger
            by_cases named : other.msgId = row.msgId
            · have equal := message_eq_some.mpr ⟨member, named⟩
              rw [message_eq_some.mpr ⟨stored, rfl⟩] at equal
              obtain rfl := Option.some.inj equal
              omega
            · exact (agrees other member named same).2 larger later
          · intro above other member _ same
            exact ⟨fun _ _ _ => later, fun larger _ => above other member same larger⟩
        · simp only [if_neg later, not_lt.mp later, true_or, iff_true]
          intro other member _ same
          refine ⟨fun counted smaller timed => ?_, fun _ wrong => by omega⟩
          exact absurd (below other member same counted smaller timed) later
  · have first : 0 < (NativeMessageRow.stored m).conversationSeq := numbered
    rw [rows, placed_numbered_iff placed first below]
    simp only [merged, unknown, Option.isNone_some, Bool.false_or, Bool.or_eq_true,
      decide_eq_true_eq, datedAbove_eq_true]
    change (0 < m.ts → ∀ row ∈ db.messages.rows, row.conversationId = m.conversationId →
      m.seq < row.conversationSeq → 0 < row.serverTime) ↔ _
    by_cases later : 0 < m.ts
    · simp [later, not_le.mpr later]
    · simp [later, not_lt.mp later]

include monotone positive in
theorem placed_call_iff {call : MessageCall} (admissible : call.Sequenced time)
    (sequenced : db.Sequenced time) (placed : Placed db.messages.rows) :
    Placed (db.call call).messages.rows ↔ db.inOrder call = true := by
  cases call with
  | commitOutgoingDraft m now =>
      cases committed : db.commitOutgoingDraft m now with
      | none => simp [NativeRepository.call, inOrder, committed, placed]
      | some result =>
          simp only [NativeRepository.call, committed, Option.map_some, Option.getD_some]
          exact placed_commitOutgoingDraft_iff placed admissible.2.1 committed
  | commitAck msgId serverTime seq status =>
      obtain ⟨rfl, numbered⟩ := admissible
      cases committed : db.commitAck msgId 0 seq status with
      | none => simp [NativeRepository.call, inOrder, committed, placed]
      | some after =>
          simp only [NativeRepository.call, committed, Option.getD_some]
          exact placed_commitAck_iff sequenced placed numbered committed
  | mergeIncoming m ctx =>
      cases merged : db.mergeIncoming m ctx with
      | none => simp [NativeRepository.call, inOrder, merged, placed]
      | some result =>
          simp only [NativeRepository.call, merged, Option.map_some, Option.getD_some]
          exact placed_mergeIncoming_iff monotone positive sequenced placed admissible.1 admissible.2
            merged

end Calls

theorem empty_sequenced : ({} : NativeRepository).Sequenced time where
  listable row member := by simp at member
  drafts row member := by simp at member
  numbers row member := by simp at member
  increasing := .nil

theorem empty_placed : Placed ({} : NativeRepository).messages.rows where
  dated row member := by simp at member
  unmixed := .nil

end NativeRepository

/-- In every state of a run the history is in the order of the server, exactly when every call is in
order. -/
theorem history_ordered_iff (time : Int → Int → Int)
    (monotone : ∀ conversation seq later, 0 < seq → seq ≤ later →
      time conversation seq ≤ time conversation later)
    (positive : ∀ conversation seq, 0 ≤ time conversation seq) (calls : List MessageCall)
    (admissible : ∀ call ∈ calls, call.Sequenced time) :
    (∀ front back, front ++ back = calls →
      (front.foldl NativeRepository.call {}).HistoryOrdered) ↔
      guarded NativeRepository.call inOrder {} calls = true := by
  refine permitted_prefixes_iff_guarded (NativeRepository.Sequenced time)
    NativeRepository.HistoryOrdered (MessageCall.Sequenced time) ?_ ?_ {} empty_sequenced ?_ calls
    admissible
  · intro db call permitted sequenced
    exact sequenced.call positive permitted
  · intro db call permitted sequenced ordered
    rw [historyOrdered_iff_placed sequenced monotone positive] at ordered
    rw [historyOrdered_iff_placed (sequenced.call positive permitted) monotone positive]
    exact placed_call_iff monotone positive permitted sequenced ordered
  · exact (historyOrdered_iff_placed empty_sequenced monotone positive).mpr empty_placed

def ownDraft (id : String) : MessageDto :=
  { msgId := ascii id, conversationId := 7, peerId := 7, fromMe := true, content := ascii "hi" }

def draftsFirst : List MessageCall :=
  [.commitOutgoingDraft (ownDraft "m-1") 30, .commitOutgoingDraft (ownDraft "m-2") 31,
    .commitAck (ascii "m-2") 0 1 1,
    .mergeIncoming { ownDraft "m-1" with seq := 2, ts := 40, status := 1 } {}]

theorem history_ordered_iff_draftsFirst :
    (draftsFirst.foldl NativeRepository.call {}).HistoryOrdered := by
  refine (history_ordered_iff (fun _ _ => 40) (fun _ _ _ _ _ => le_refl 40)
    (fun _ _ => by decide) draftsFirst ?_).mpr (by decide +kernel) draftsFirst [] (by simp)
  intro call member
  simp only [draftsFirst, List.mem_cons, List.not_mem_nil, or_false] at member
  rcases member with rfl | rfl | rfl | rfl
  · exact ⟨by decide, rfl, rfl, rfl⟩
  · exact ⟨by decide, rfl, rfl, rfl⟩
  · exact ⟨rfl, by decide⟩
  · exact ⟨by decide, rfl⟩

def answered : List MessageCall :=
  [.mergeIncoming { msgId := ascii "m-1", conversationId := 7, peerId := 7, seq := 1, ts := 20
                    status := 2 } {},
    .commitOutgoingDraft (ownDraft "m-2") 30, .commitAck (ascii "m-2") 0 2 1]

/-- The answer comes after the older message, as a draft and with its number. -/
theorem history_unordered :
    ¬((answered.take 2).foldl NativeRepository.call {}).HistoryOrdered ∧
      ¬(answered.foldl NativeRepository.call {}).HistoryOrdered := by
  constructor
  · intro ordered
    exact absurd (ordered.drafts 50 (by decide) (by decide)) (by decide +kernel)
  · intro ordered
    exact absurd (ordered.numbered 50 (by decide) (by decide)) (by decide +kernel)

end Jitong
