import Jitong.HistoryOrder

/-!
A conversation as a reader gets it that goes on from the last row of each page: every message once,
in one total order, on finitely many pages.
-/

namespace Jitong

open NativeRepository Jitong.Lib

/-- The columns of the `ORDER BY`, the first one the heaviest. -/
def NativeRepository.NativeMessageRow.rank (row : NativeMessageRow) : Int ×ₗ Int ×ₗ Int ×ₗ Bytes :=
  toLex (row.serverTime, toLex (row.conversationSeq, toLex (row.localOrder, row.msgId)))

namespace NativeRepository

inductive Pages (db : NativeRepository) (conversationId limit : Int) :
    Option MessageCursor → List MessagePage → Prop
  | last {cursor : Option MessageCursor} {page : MessagePage}
      (read : db.listConversation conversationId cursor limit = some page)
      (ended : page.hasMore = false) : Pages db conversationId limit cursor [page]
  | more {cursor : Option MessageCursor} {page : MessagePage} {row : NativeMessageRow}
      {rest : List MessagePage}
      (read : db.listConversation conversationId cursor limit = some page)
      (goesOn : page.hasMore = true) (bottom : page.messages.getLast? = some row)
      (others : Pages db conversationId limit (some (.of row)) rest) :
      Pages db conversationId limit cursor (page :: rest)

def Named (db : NativeRepository) : Prop :=
  ∀ row ∈ db.messages.rows, row.msgId ≠ []

structure ExactPages (db : NativeRepository) (conversationId limit : Int)
    (pages : List MessagePage) : Prop where
  ends : db.Pages conversationId limit none pages ∧
    ∀ others, db.Pages conversationId limit none others → others = pages
  once : (pages.flatMap MessagePage.messages).Perm
    (db.messages.rows.filter fun row => row.conversationId = conversationId)
  ordered : (pages.flatMap MessagePage.messages).Pairwise fun row later => later.rank < row.rank
  bounded : ∀ page ∈ pages, page.messages.length ≤ limit.toNat
  cursors : ∀ page ∈ pages, ∀ row, page.messages.getLast? = some row → page.next = .of row

variable {db : NativeRepository} {conversationId limit : Int} {front back : List NativeMessageRow}

theorem NativeMessageRow.newerThan_iff_rank {row other : NativeMessageRow} :
    row.newerThan other ↔ other.rank < row.rank := by
  simp only [newerThan, tieAfter, rank, Prod.Lex.toLex_lt_toLex, Bool.or_eq_true, Bool.and_eq_true,
    decide_eq_true_eq]
  grind

theorem listConversation_rest (named : db.Named) (known : 0 < conversationId)
    (positive : 0 < limit) (small : limit ≤ 200)
    (split : db.sortedRows conversationId = front ++ back) :
    db.listConversation conversationId (front.getLast?.map MessageCursor.of) limit =
      some { messages := back.take limit.toNat
             hasMore := limit.toNat < back.length
             next := ((back.take limit.toNat).getLast?.map MessageCursor.of).getD {} } := by
  have sorted := split ▸ @sortedRows_pairwise db conversationId
  have valid : ¬(conversationId ≤ 0 ∨ limit ≤ 0 ∨ 200 < limit ∨
      ((front.getLast?.map MessageCursor.of).any fun key => key.msgId = []) = true) := by
    rintro (bad | bad | bad | bad)
    · omega
    · omega
    · omega
    · cases bottom : front.getLast? with
      | none => simp [bottom] at bad
      | some row =>
          have listed : row ∈ db.sortedRows conversationId :=
            split ▸ List.mem_append_left back (List.mem_of_getLast? bottom)
          exact named row (mem_sortedRows.mp listed).1 (by simpa [bottom, MessageCursor.of] using bad)
  have left : newestFirst NativeMessageRow.newerThan (db.messages.rows.filter fun row =>
      row.conversationId = conversationId && (front.getLast?.map MessageCursor.of).all fun key =>
        key.After row) = back := by
    have kept : (db.sortedRows conversationId).filter (fun row =>
        (front.getLast?.map MessageCursor.of).all fun key => key.After row) = back := by
      rcases List.eq_nil_or_concat' front with rfl | ⟨before, last, rfl⟩
      · simp [split]
      · rw [split]
        simp only [List.getLast?_concat, Option.map_some, Option.all_some]
        exact filter_after newerThan_weakOrder sorted
    refine newestFirst_eq newerThan_weakOrder ?_ (List.pairwise_append.mp sorted).2.1
    rw [← kept]
    refine ((newestFirst_perm _).filter _).trans (List.Perm.of_eq ?_)
    rw [List.filter_filter]
    simp only [Bool.and_comm]
  unfold listConversation
  rw [if_neg valid]
  simp only [left, List.take_take, List.length_take, Nat.min_eq_left (Nat.le_succ _)]
  have same : limit.toNat < min (limit.toNat + 1) back.length ↔ limit.toNat < back.length := by omega
  simp only [same]

theorem pages_rest (named : db.Named) (known : 0 < conversationId) (positive : 0 < limit)
    (small : limit ≤ 200) (count : Nat) :
    ∀ front back, db.sortedRows conversationId = front ++ back → back.length = count →
      ∃ pages, db.Pages conversationId limit (front.getLast?.map MessageCursor.of) pages ∧
        pages.flatMap MessagePage.messages = back ∧
        (∀ page ∈ pages, page.messages.length ≤ limit.toNat) ∧
        ∀ page ∈ pages, ∀ row, page.messages.getLast? = some row → page.next = .of row := by
  induction count using Nat.strongRecOn with
  | ind count ih =>
      intro front back split size
      have read := listConversation_rest named known positive small split
      by_cases more : limit.toNat < back.length
      · have goes := List.length_take_of_le (le_of_lt more)
        obtain ⟨row, bottom⟩ : ∃ row, (back.take limit.toNat).getLast? = some row := by
          refine Option.ne_none_iff_exists'.mp fun empty => ?_
          rw [List.getLast?_eq_none_iff.mp empty, List.length_nil] at goes
          omega
        have cursor : (front ++ back.take limit.toNat).getLast? = some row := by
          rw [List.getLast?_append, bottom, Option.some_or]
        obtain ⟨rest, others, whole, bounded, cursors⟩ :=
          ih (back.drop limit.toNat).length (by rw [List.length_drop]; omega)
            (front ++ back.take limit.toNat) (back.drop limit.toNat)
            (by rw [split, List.append_assoc, List.take_append_drop]) rfl
        rw [cursor, Option.map_some] at others
        refine ⟨_ :: rest, .more read (by simpa using more) bottom others, ?_, ?_, ?_⟩
        · rw [List.flatMap_cons, whole]
          exact List.take_append_drop _ back
        · exact List.forall_mem_cons.mpr ⟨List.length_take_le _ _, bounded⟩
        · refine List.forall_mem_cons.mpr ⟨fun last found => ?_, cursors⟩
          simp only at found ⊢
          rw [found, Option.map_some, Option.getD_some]
      · refine ⟨[_], .last read (by simpa using more), ?_, ?_, ?_⟩
        · simp [List.take_of_length_le (not_lt.mp more)]
        · exact List.forall_mem_singleton.mpr (List.length_take_le _ _)
        · refine List.forall_mem_singleton.mpr fun last found => ?_
          simp only at found ⊢
          rw [found, Option.map_some, Option.getD_some]

theorem Pages.unique {cursor : Option MessageCursor} {pages others : List MessagePage}
    (first : db.Pages conversationId limit cursor pages)
    (second : db.Pages conversationId limit cursor others) : others = pages := by
  induction first generalizing others with
  | last read ended =>
      cases second with
      | last again _ => rw [Option.some.inj (again.symm.trans read)]
      | more again goesOn _ _ =>
          rw [Option.some.inj (again.symm.trans read), ended] at goesOn
          cases goesOn
  | more read goesOn bottom _ ih =>
      cases second with
      | last again ended =>
          rw [Option.some.inj (again.symm.trans read), goesOn] at ended
          cases ended
      | more again _ found others =>
          obtain rfl := Option.some.inj (again.symm.trans read)
          obtain rfl := Option.some.inj (found.symm.trans bottom)
          rw [ih others]

theorem Named.rewrite {after : NativeRepository} {change : NativeMessageRow → NativeMessageRow}
    (named : db.Named) (rows : after.messages.rows = db.messages.rows.map change)
    (kept : ∀ row, (change row).msgId = row.msgId) : after.Named := by
  intro row member
  rw [rows] at member
  obtain ⟨stored, found, rfl⟩ := List.mem_map.mp member
  rw [kept]
  exact named stored found

theorem Named.append {after : NativeRepository} {added : NativeMessageRow} (named : db.Named)
    (rows : after.messages.rows = db.messages.rows ++ [added]) (given : added.msgId ≠ []) :
    after.Named := by
  intro row member
  rw [rows, List.mem_append, List.mem_singleton] at member
  rcases member with stored | rfl
  · exact named row stored
  · exact given

theorem Named.call (named : db.Named) (call : MessageCall) : (db.call call).Named := by
  cases call with
  | commitOutgoingDraft m now =>
      cases committed : db.commitOutgoingDraft m now with
      | none => simpa [NativeRepository.call, committed] using named
      | some result =>
          simp only [NativeRepository.call, committed, Option.map_some, Option.getD_some]
          have given : m.msgId ≠ [] := fun empty => by simp [commitOutgoingDraft, empty] at committed
          rcases (commitOutgoingDraft_rows committed).2 with ⟨same, _⟩ | ⟨_, _, rows, _⟩
          · exact same ▸ named
          · exact named.append rows given
  | commitAck msgId time seq status =>
      cases committed : db.commitAck msgId time seq status with
      | none => simpa [NativeRepository.call, committed] using named
      | some after =>
          simp only [NativeRepository.call, committed, Option.getD_some]
          rcases (commitAck_rows committed).2 with ⟨_, same⟩ | ⟨_, _, _, _, rows, _⟩
          · exact same ▸ named
          · exact named.rewrite rows fun row => by split <;> rfl
  | mergeIncoming m ctx =>
      cases merged : db.mergeIncoming m ctx with
      | none => simpa [NativeRepository.call, merged] using named
      | some result =>
          simp only [NativeRepository.call, merged, Option.map_some, Option.getD_some]
          have given : m.msgId ≠ [] := fun empty => by simp [mergeIncoming, empty] at merged
          rcases (mergeIncoming_rows merged).2 with ⟨_, _, rows, _⟩ | ⟨_, _, rows, _⟩
          · exact named.rewrite rows fun row => by split <;> rfl
          · exact named.append rows given

end NativeRepository

theorem listConversation_exact (imported : NativeRepository) (named : imported.Named)
    (calls : List MessageCall) (conversationId limit : Int) (known : 0 < conversationId)
    (positive : 0 < limit) (small : limit ≤ 200) :
    ∃ pages, (calls.foldl NativeRepository.call imported).ExactPages conversationId limit pages := by
  have stored : (calls.foldl NativeRepository.call imported).Named :=
    List.foldlRecOn calls NativeRepository.call named fun _ kept call _ => kept.call call
  obtain ⟨pages, read, whole, bounded, cursors⟩ :=
    pages_rest stored known positive small _ [] _ rfl rfl
  refine ⟨pages, ⟨read, fun others again => read.unique again⟩, ?_, ?_, bounded, cursors⟩
  · rw [whole]
    exact newestFirst_perm _
  · rw [whole]
    exact (sortedRows_pairwise conversationId).imp NativeMessageRow.newerThan_iff_rank.mp

/-- The conversation of the two drafts, with one message on each page. -/
theorem listConversation_exact_drafts :
    ∃ pages, (draftsFirst.foldl NativeRepository.call {}).ExactPages 7 1 pages :=
  listConversation_exact {} (fun _ member => absurd member List.not_mem_nil) draftsFirst 7 1
    (by decide) (by decide) (by decide)

end Jitong
