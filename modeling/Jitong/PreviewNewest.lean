import Jitong.Lib.Run
import Jitong.MessageMerge

/-!
The preview of a conversation and the newest of its messages, over all runs of merges.
-/

namespace Jitong

open NativeRepository Jitong.Lib

namespace NativeRepository

def NativeMessageRow.newerThan (row other : NativeMessageRow) : Prop :=
  other.serverTime < row.serverTime ∨ row.serverTime = other.serverTime ∧
    tieAfter row.conversationSeq row.localOrder row.msgId other.conversationSeq other.localOrder
      other.msgId

namespace NativeMessageRow

variable {first second third : NativeMessageRow}

theorem newerThan_asymm (left : first.newerThan second) : ¬second.newerThan first := by
  simp only [newerThan, tieAfter, Bool.or_eq_true, Bool.and_eq_true, decide_eq_true_eq] at *
  grind

theorem newerThan_or (apart : first.msgId ≠ second.msgId) :
    first.newerThan second ∨ second.newerThan first := by
  simp only [newerThan, tieAfter, Bool.or_eq_true, Bool.and_eq_true, decide_eq_true_eq]
  grind

theorem merged_not_older (row : NativeMessageRow) (m : MessageDto) : ¬row.newerThan (row.merged m) := by
  simp only [newerThan, tieAfter, merged, advance, Bool.or_eq_true, Bool.and_eq_true,
    decide_eq_true_eq]
  grind

end NativeMessageRow

structure Newest (db : NativeRepository) (conversationId : Int) (row : NativeMessageRow) : Prop where
  stored : row ∈ db.messages.rows
  belongs : row.conversationId = conversationId
  greatest : ∀ other ∈ db.messages.rows, other.conversationId = conversationId →
    ¬other.newerThan row

def ShowsNewest (db : NativeRepository) (shown : ConversationRow) : Prop :=
  ∃ row, db.Newest shown.conversationId row ∧ shown.lastMsgId = row.msgId ∧
    shown.lastMessage = row.content ∧ shown.lastMessageTime = row.serverTime

def merge (db : NativeRepository) (copy : MessageDto × IncomingContext) : NativeRepository :=
  ((db.mergeIncoming copy.1 copy.2).map Prod.snd).getD db

instance (row : NativeMessageRow) (copy : MessageDto) : Decidable (row.Names copy) :=
  inferInstanceAs (Decidable (copy.msgId ≠ [] ∧ 0 < copy.peerId ∧ 0 < copy.conversationId ∧
    row.conversationId = copy.conversationId ∧ row.peerId = copy.peerId ∧
      row.fromMe = copy.fromMe ∧ row.type = copy.type))

instance (row : NativeMessageRow) (others : List NativeMessageRow) : Decidable (row.Free others) :=
  inferInstanceAs (Decidable (∀ other ∈ others, row.clashes other = false))

instance (row : NativeMessageRow) (copy : MessageDto) (others : List NativeMessageRow) :
    Decidable (row.Accepts copy others) :=
  inferInstanceAs (Decidable (row.Names copy ∧
    (copy.seq = 0 ∨ row.conversationSeq = 0 ∨ row.conversationSeq = copy.seq) ∧
      (row.merged copy).Free others))

def faithful (db : NativeRepository) (shown : ConversationRow) (row : NativeMessageRow)
    (m : MessageDto) : Bool :=
  let stored := row.merged m
  let takes := db.takesPreview shown false m.ts m.seq m.localOrder m.msgId
  takes == db.takesPreview shown false stored.serverTime stored.conversationSeq stored.localOrder
      stored.msgId &&
    (!takes || m.content = row.content && max shown.lastMessageTime m.ts = stored.serverTime)

def copiesFaithfully (conversationId : Int) (db : NativeRepository)
    (copy : MessageDto × IncomingContext) : Bool :=
  match db.conversation conversationId, db.message copy.1.msgId with
  | some shown, some row =>
      row.conversationId ≠ conversationId ||
        !(row.Accepts copy.1 (db.messages.rows.filter fun row => row.msgId ≠ copy.1.msgId)) ||
        db.faithful shown row copy.1
  | _, _ => true

structure Linked (db : NativeRepository) : Prop where
  known : ∀ row ∈ db.messages.rows, (db.conversation row.conversationId).isSome
  nonempty : ∀ row ∈ db.messages.rows, row.msgId ≠ []

variable {db after : NativeRepository} {m : MessageDto} {ctx : IncomingContext}
  {shown : ConversationRow} {row newest : NativeMessageRow} {conversationId : Int}

theorem NativeMessageRow.newerThan_irrefl (row : NativeMessageRow) : ¬row.newerThan row :=
  fun newer => newerThan_asymm newer newer

theorem NativeMessageRow.not_newerThan_trans {first second third : NativeMessageRow}
    (left : ¬first.newerThan second) (right : ¬second.newerThan third) :
    ¬first.newerThan third := by
  simp only [newerThan, tieAfter, Bool.or_eq_true, Bool.and_eq_true, decide_eq_true_eq] at *
  grind

theorem showsNewest_iff (found : db.message shown.lastMsgId = some row) :
    db.ShowsNewest shown ↔ db.Newest shown.conversationId row ∧
      shown.lastMessage = row.content ∧ shown.lastMessageTime = row.serverTime := by
  constructor
  · rintro ⟨other, newest, same, content, time⟩
    rw [same, message_eq_some.mpr ⟨newest.stored, rfl⟩] at found
    obtain rfl := Option.some.inj found
    exact ⟨newest, content, time⟩
  · rintro ⟨newest, content, time⟩
    exact ⟨row, newest, (message_eq_some.mp found).2.symm, content, time⟩

theorem takesPreview_own (seq order time : Int) :
    db.takesPreview shown false time seq order shown.lastMsgId = true := by
  simp [takesPreview]

theorem takesPreview_iff (found : db.message shown.lastMsgId = some newest)
    (time : shown.lastMessageTime = newest.serverTime) (nonempty : shown.lastMsgId ≠ [])
    (apart : shown.lastMsgId ≠ row.msgId) :
    db.takesPreview shown false row.serverTime row.conversationSeq row.localOrder row.msgId = true ↔
      row.newerThan newest := by
  have named := (message_eq_some.mp found).2
  simp only [takesPreview, found, time, nonempty, apart, Option.map_some, Option.getD_some,
    Bool.false_or, Bool.or_eq_true, Bool.and_eq_true, decide_eq_true_eq, false_and, false_or,
    NativeMessageRow.newerThan, named]

theorem takesPreview_congr {other : ConversationRow} {time seq order : Int} {id : Bytes}
    (found : after.message other.lastMsgId = db.message shown.lastMsgId)
    (sameId : other.lastMsgId = shown.lastMsgId)
    (sameTime : other.lastMessageTime = shown.lastMessageTime) :
    after.takesPreview other false time seq order id =
      db.takesPreview shown false time seq order id := by
  unfold takesPreview
  rw [found, sameId, sameTime]

theorem newest_merged_iff (stored : db.message m.msgId = some row)
    (rows : after.messages.rows = db.messages.rows.map fun row =>
      if row.msgId = m.msgId then row.merged m else row)
    (belongs : row.conversationId = conversationId) (present : newest ∈ after.messages.rows)
    (own : newest.conversationId = conversationId) :
    after.Newest conversationId newest ↔ ¬(row.merged m).newerThan newest ∧
      ∀ other ∈ db.messages.rows, other.msgId ≠ m.msgId → other.conversationId = conversationId →
        ¬other.newerThan newest := by
  obtain ⟨member, named⟩ := message_eq_some.mp stored
  have inAfter {other : NativeMessageRow} (inRows : other ∈ db.messages.rows) :
      (if other.msgId = m.msgId then other.merged m else other) ∈ after.messages.rows := by
    rw [rows]
    exact List.mem_map_of_mem inRows
  constructor
  · intro newest
    refine ⟨?_, fun other inRows apart same => ?_⟩
    · have merged := inAfter member
      rw [if_pos named] at merged
      exact newest.greatest _ merged belongs
    · have kept := inAfter inRows
      rw [if_neg apart] at kept
      exact newest.greatest other kept same
  · rintro ⟨merged, others⟩
    refine ⟨present, own, fun other inRows same => ?_⟩
    rw [rows] at inRows
    obtain ⟨before, inBefore, rfl⟩ := List.mem_map.mp inRows
    by_cases named' : before.msgId = m.msgId
    · have found := message_eq_some.mpr ⟨inBefore, named'⟩
      obtain rfl := Option.some.inj (found.symm.trans stored)
      rw [if_pos named']
      exact merged
    · rw [if_neg named'] at same ⊢
      exact others before inBefore named' same

theorem projected_shown (own : shown.conversationId = m.conversationId)
    {projected : ConversationRow} (same : shown.projected db m false ctx 0 = projected) :
    projected.conversationId = shown.conversationId ∧
      if db.takesPreview shown false m.ts m.seq m.localOrder m.msgId then
        projected.lastMsgId = m.msgId ∧ projected.lastMessage = m.content ∧
          projected.lastMessageTime = max shown.lastMessageTime m.ts
      else projected.lastMsgId = shown.lastMsgId ∧ projected.lastMessage = shown.lastMessage ∧
        projected.lastMessageTime = shown.lastMessageTime := by
  subst same
  unfold ConversationRow.projected
  rw [if_pos own]
  by_cases takes : db.takesPreview shown false m.ts m.seq m.localOrder m.msgId <;>
    by_cases reads : readsAtOnce m ctx <;> simp [takes, reads]

theorem showsNewest_other (belongs : ∀ other, other.conversationId = shown.conversationId →
      (other ∈ after.messages.rows ↔ other ∈ db.messages.rows)) :
    after.ShowsNewest shown ↔ db.ShowsNewest shown := by
  have one {first second : NativeRepository}
      (same : ∀ other, other.conversationId = shown.conversationId →
        (other ∈ first.messages.rows ↔ other ∈ second.messages.rows))
      (shows : first.ShowsNewest shown) : second.ShowsNewest shown := by
    obtain ⟨row, newest, shows⟩ := shows
    refine ⟨row, ⟨(same row newest.belongs).mp newest.stored, newest.belongs, ?_⟩, shows⟩
    intro other member own
    exact newest.greatest other ((same other own).mpr member) own
  exact ⟨one belongs, one fun other own => (belongs other own).symm⟩

theorem copy_showsNewest_iff {projected : ConversationRow} (stored : db.message m.msgId = some row)
    (rows : after.messages.rows = db.messages.rows.map fun row =>
      if row.msgId = m.msgId then row.merged m else row)
    (same : shown.projected after m false ctx 0 = projected)
    (own : shown.conversationId = m.conversationId) (belongs : row.conversationId = m.conversationId)
    (nonempty : shown.lastMsgId ≠ []) (shows : db.ShowsNewest shown) :
    after.ShowsNewest projected ↔ db.faithful shown row m = true := by
  obtain ⟨sameConversation, fields⟩ := projected_shown own same
  obtain ⟨member, named⟩ := message_eq_some.mp stored
  obtain ⟨newest, greatest, shownId, content, time⟩ := shows
  have found : db.message shown.lastMsgId = some newest :=
    message_eq_some.mpr ⟨greatest.stored, shownId.symm⟩
  have storedAfter : after.message m.msgId = some (row.merged m) := by
    rw [message_map rows (fun row => by split <;> rfl), stored, Option.map_some, if_pos named]
  have mergedIn := (message_eq_some.mp storedAfter).1
  have newestIff {candidate : NativeMessageRow} (present : candidate ∈ after.messages.rows)
      (ownCandidate : candidate.conversationId = m.conversationId) :=
    newest_merged_iff stored rows belongs present ownCandidate
  have mergedOwn : (row.merged m).conversationId = m.conversationId := belongs
  unfold faithful
  dsimp only
  by_cases shownOwn : shown.lastMsgId = m.msgId
  · -- The copy is one of the message that is shown.
    obtain rfl : newest = row := by
      rw [shownOwn, stored] at found
      exact (Option.some.inj found).symm
    have takes (anyDb : NativeRepository) (time seq order : Int) :
        anyDb.takesPreview shown false time seq order m.msgId = true := by
      rw [← shownOwn]
      exact takesPreview_own seq order time
    have storedNamed : (newest.merged m).msgId = m.msgId := named
    rw [if_pos (takes after m.ts m.seq m.localOrder)] at fields
    rw [storedNamed, takes, takes, showsNewest_iff (by rw [fields.1]; exact storedAfter),
      sameConversation, own, newestIff mergedIn mergedOwn]
    have front : ∀ other ∈ db.messages.rows, other.msgId ≠ m.msgId →
        other.conversationId = m.conversationId → ¬other.newerThan (newest.merged m) := by
      intro other inRows _ sameOther
      exact NativeMessageRow.not_newerThan_trans
        (greatest.greatest other inRows (sameOther.trans own.symm)) (newest.merged_not_older m)
    rw [fields.2.1, fields.2.2]
    simp only [beq_self_eq_true, Bool.not_true, Bool.false_or, Bool.true_and, Bool.and_eq_true,
      decide_eq_true_eq]
    exact ⟨fun holds => holds.2, fun holds =>
      ⟨⟨NativeMessageRow.newerThan_irrefl _, front⟩, holds⟩⟩
  · have apart : newest.msgId ≠ m.msgId := fun same => shownOwn (shownId.trans same)
    have foundAfter : after.message shown.lastMsgId = some newest := by
      rw [message_map rows (fun row => by split <;> rfl), found, Option.map_some, if_neg apart]
    have newestIn := (message_eq_some.mp foundAfter).1
    have newestOwn := greatest.belongs.trans own
    have sameTakes : after.takesPreview shown false m.ts m.seq m.localOrder m.msgId =
        db.takesPreview shown false m.ts m.seq m.localOrder m.msgId :=
      takesPreview_congr (foundAfter.trans found.symm) rfl rfl
    have storedTakes : db.takesPreview shown false (row.merged m).serverTime
        (row.merged m).conversationSeq (row.merged m).localOrder (row.merged m).msgId = true ↔
          (row.merged m).newerThan newest :=
      takesPreview_iff found time nonempty (fun same => shownOwn (same.trans named))
    have others {candidate : NativeMessageRow} (front : ¬newest.newerThan candidate) :
        ∀ other ∈ db.messages.rows, other.msgId ≠ m.msgId →
          other.conversationId = m.conversationId → ¬other.newerThan candidate := by
      intro other inRows _ sameOther
      exact NativeMessageRow.not_newerThan_trans
        (greatest.greatest other inRows (sameOther.trans own.symm)) front
    rw [sameTakes] at fields
    by_cases takes : db.takesPreview shown false m.ts m.seq m.localOrder m.msgId
    · rw [if_pos takes] at fields
      rw [showsNewest_iff (by rw [fields.1]; exact storedAfter), sameConversation, own,
        newestIff mergedIn mergedOwn, fields.2.1, fields.2.2, takes]
      simp only [Bool.and_eq_true, beq_iff_eq, eq_comm (a := true), storedTakes, Bool.not_true,
        Bool.false_or, decide_eq_true_eq]
      constructor
      · rintro ⟨⟨_, front⟩, shownRight⟩
        refine ⟨?_, shownRight⟩
        refine (NativeMessageRow.newerThan_or ?_).resolve_right
          (front newest greatest.stored apart newestOwn)
        exact fun same => apart (same.symm.trans named)
      · rintro ⟨newer, shownRight⟩
        exact ⟨⟨NativeMessageRow.newerThan_irrefl _, others (NativeMessageRow.newerThan_asymm newer)⟩,
          shownRight⟩
    · rw [if_neg takes] at fields
      rw [showsNewest_iff (by rw [fields.1]; exact foundAfter), sameConversation, own,
        newestIff newestIn newestOwn, fields.2.1, fields.2.2]
      rw [Bool.not_eq_true] at takes
      rw [takes]
      simp only [Bool.and_eq_true, beq_iff_eq, Bool.not_false, Bool.true_or, and_true,
        eq_comm (a := false), Bool.eq_false_iff, ne_eq, storedTakes]
      constructor
      · exact fun holds => holds.1.1
      · exact fun older => ⟨⟨older, others (NativeMessageRow.newerThan_irrefl newest)⟩, content, time⟩

theorem fresh_showsNewest {counted : NativeRepository} {projected : ConversationRow}
    (linked : db.Linked) (rows : after.messages.rows = db.messages.rows ++ [NativeMessageRow.stored m])
    (messages : counted.messages = after.messages) (unknown : db.message m.msgId = none)
    (shows : ∀ shown, db.conversation m.conversationId = some shown → db.ShowsNewest shown)
    (same : (ConversationRow.counting m ctx (db.conversation m.conversationId)).projected counted m
      false ctx 0 = projected) : after.ShowsNewest projected := by
  have newIn : NativeMessageRow.stored m ∈ after.messages.rows := by
    rw [rows]
    exact List.mem_append_right _ (List.mem_singleton_self _)
  have storedAfter : after.message m.msgId = some (.stored m) := message_eq_some.mpr ⟨newIn, rfl⟩
  cases known : db.conversation m.conversationId with
  | none =>
      rw [known] at same
      obtain ⟨sameConversation, fields⟩ := projected_shown rfl same
      rw [if_pos (by simp [takesPreview, ConversationRow.counting])] at fields
      rw [showsNewest_iff (by rw [fields.1]; exact storedAfter), sameConversation]
      refine ⟨⟨newIn, rfl, fun other inRows own => ?_⟩, fields.2.1, ?_⟩
      · rw [rows] at inRows
        rcases List.mem_append.mp inRows with old | new
        · have first := linked.known other old
          rw [own] at first
          simp [ConversationRow.counting, known] at first
        · rw [List.mem_singleton.mp new]
          exact NativeMessageRow.newerThan_irrefl _
      · rw [fields.2.2]
        exact max_self _
  | some shown =>
      rw [known] at same
      have ownShown := (conversation_eq_some.mp known).2
      obtain ⟨newest, greatest, shownId, content, time⟩ := shows shown known
      have own : (ConversationRow.counting m ctx (some shown)).conversationId =
          m.conversationId := ownShown
      obtain ⟨sameConversation, fields⟩ := projected_shown own same
      have nonempty : shown.lastMsgId ≠ [] := by
        rw [shownId]
        exact linked.nonempty newest greatest.stored
      have newestIn : newest ∈ after.messages.rows := by
        rw [rows]
        exact List.mem_append_left _ greatest.stored
      have found : after.message shown.lastMsgId = some newest :=
        message_eq_some.mpr ⟨newestIn, shownId.symm⟩
      have apart : shown.lastMsgId ≠ m.msgId := by
        intro sameId
        exact message_eq_none.mp unknown newest greatest.stored (shownId.symm.trans sameId)
      have foundCounted : counted.message shown.lastMsgId = some newest := by
        unfold message at found ⊢
        rw [messages, found]
      have takes : counted.takesPreview (.counting m ctx (some shown)) false m.ts m.seq
          m.localOrder m.msgId = true ↔ (NativeMessageRow.stored m).newerThan newest :=
        @takesPreview_iff counted (.counting m ctx (some shown)) (.stored m) newest foundCounted
          time nonempty apart
      have newestOf {candidate : NativeMessageRow} (present : candidate ∈ after.messages.rows)
          (own : candidate.conversationId = m.conversationId)
          (front : ¬newest.newerThan candidate) (new : ¬(NativeMessageRow.stored m).newerThan candidate) :
          after.Newest m.conversationId candidate := by
        refine ⟨present, own, fun other inRows ownOther => ?_⟩
        rw [rows] at inRows
        rcases List.mem_append.mp inRows with old | added
        · exact NativeMessageRow.not_newerThan_trans
            (greatest.greatest other old (ownOther.trans ownShown.symm)) front
        · rw [List.mem_singleton.mp added]
          exact new
      by_cases newer : (NativeMessageRow.stored m).newerThan newest
      · rw [if_pos (takes.mpr newer)] at fields
        rw [showsNewest_iff (by rw [fields.1]; exact storedAfter), sameConversation]
        refine ⟨?_, fields.2.1, ?_⟩
        · rw [own]
          exact newestOf newIn rfl (NativeMessageRow.newerThan_asymm newer)
            (NativeMessageRow.newerThan_irrefl _)
        · rw [fields.2.2]
          have later : newest.serverTime ≤ m.ts := by
            rcases newer with time | ⟨time, _⟩
            · exact le_of_lt time
            · exact le_of_eq time.symm
          exact max_eq_right (le_of_eq_of_le time later)
      · rw [if_neg fun taken => newer (takes.mp taken)] at fields
        rw [showsNewest_iff (by rw [fields.1]; exact found), sameConversation]
        refine ⟨?_, fields.2.1.trans content, fields.2.2.trans time⟩
        rw [own]
        exact newestOf newestIn (greatest.belongs.trans ownShown)
          (NativeMessageRow.newerThan_irrefl newest) newer

theorem Linked.merge (linked : db.Linked) (copy : MessageDto × IncomingContext) :
    (db.merge copy).Linked := by
  obtain ⟨m, ctx⟩ := copy
  cases merged : db.mergeIncoming m ctx with
  | none => simpa only [NativeRepository.merge, merged, Option.map_none, Option.getD_none] using linked
  | some result =>
      obtain ⟨new, after⟩ := result
      simp only [NativeRepository.merge, merged, Option.map_some, Option.getD_some]
      obtain ⟨compatible, ⟨rfl, known, rows, _⟩ | ⟨rfl, unknown, rows, _⟩⟩ :=
        mergeIncoming_rows merged
      · obtain ⟨_, _, advanced, _, conversations, same⟩ | ⟨impossible, _⟩ :=
          mergeIncoming_conversations merged
        · have kept (id : Int) (before : (db.conversation id).isSome) :
              (after.conversation id).isSome := by
            rw [conversation_congr same, finishProjection_conversation, Option.isSome_map,
              conversation_congr conversations]
            exact before
          constructor
          · intro row member
            rw [rows] at member
            obtain ⟨before, inBefore, rfl⟩ := List.mem_map.mp member
            have found := kept _ (linked.known before inBefore)
            split
            · exact found
            · exact found
          · intro row member
            rw [rows] at member
            obtain ⟨before, inBefore, rfl⟩ := List.mem_map.mp member
            have named := linked.nonempty before inBefore
            split
            · exact named
            · exact named
        · simp at impossible
      · obtain ⟨impossible, _⟩ | ⟨_, _, inserted, counted, _, conversations, counting, same⟩ :=
          mergeIncoming_conversations merged
        · simp at impossible
        · have kept (id : Int) (before : id = m.conversationId ∨ (db.conversation id).isSome) :
              (after.conversation id).isSome := by
            rw [conversation_congr same, finishProjection_conversation, Option.isSome_map,
              countIncoming_conversation counting, conversation_congr conversations]
            split
            · rfl
            · rename_i other
              exact before.resolve_left other
          have named : m.msgId ≠ [] := by
            intro empty
            simp [mergeIncoming, empty] at merged
          constructor
          · intro row member
            rw [rows] at member
            rcases List.mem_append.mp member with old | added
            · exact kept _ (.inr (linked.known row old))
            · rw [List.mem_singleton.mp added]
              exact kept _ (.inl rfl)
          · intro row member
            rw [rows] at member
            rcases List.mem_append.mp member with old | added
            · exact linked.nonempty row old
            · rw [List.mem_singleton.mp added]
              exact named

theorem merge_showsNewest_iff (linked : db.Linked)
    (shows : ∀ shown, db.conversation conversationId = some shown → db.ShowsNewest shown)
    (copy : MessageDto × IncomingContext) :
    (∀ shown, (db.merge copy).conversation conversationId = some shown →
      (db.merge copy).ShowsNewest shown) ↔ db.copiesFaithfully conversationId copy = true := by
  obtain ⟨m, ctx⟩ := copy
  have accepted {row : NativeMessageRow} (stored : db.message m.msgId = some row) :=
    @mergeIncoming_isSome db row _ m ctx ⟨stored, rfl⟩
  cases merged : db.mergeIncoming m ctx with
  | none =>
      simp only [NativeRepository.merge, merged, Option.map_none, Option.getD_none]
      refine iff_of_true shows ?_
      unfold copiesFaithfully
      split
      · rename_i shown row _ stored
        have refused := accepted stored
        rw [merged] at refused
        simp only [Option.isSome_none, Bool.false_eq_true, false_iff] at refused
        rw [decide_eq_false refused]
        simp
      · rfl
  | some result =>
      obtain ⟨new, after⟩ := result
      simp only [NativeRepository.merge, merged, Option.map_some, Option.getD_some]
      obtain ⟨compatible, ⟨rfl, known, rows, _⟩ | ⟨rfl, unknown, rows, _⟩⟩ :=
        mergeIncoming_rows merged
      · obtain ⟨_, _, advanced, messages, conversations, same⟩ | ⟨impossible, _⟩ :=
          mergeIncoming_conversations merged
        · obtain ⟨row, stored⟩ := Option.isSome_iff_exists.mp known
          have accepts := accepted stored
          rw [merged] at accepts
          have taken := accepts.mp rfl
          have ownRow : row.conversationId = m.conversationId := taken.1.2.2.2.1
          rw [conversation_congr same, finishProjection_conversation,
            conversation_congr conversations]
          unfold copiesFaithfully
          cases found : db.conversation conversationId with
          | none => simp
          | some shown =>
              have ownShown := (conversation_eq_some.mp found).2
              have before := shows shown found
              have sameProjected : shown.projected advanced m false ctx 0 =
                  shown.projected after m false ctx 0 := by
                unfold ConversationRow.projected countUnread takesPreview NativeRepository.message
                rw [messages]
              simp only [stored, taken, Option.map_some, Option.some.injEq, forall_eq', decide_true,
                Bool.not_true, Bool.or_false, sameProjected]
              by_cases own : conversationId = m.conversationId
              · have nonempty : shown.lastMsgId ≠ [] := by
                  obtain ⟨newest, greatest, shownId, _⟩ := before
                  rw [shownId]
                  exact linked.nonempty newest greatest.stored
                rw [copy_showsNewest_iff stored rows rfl (ownShown.trans own) ownRow nonempty before]
                simp [ownRow, own]
              · have apart : shown.conversationId ≠ m.conversationId := ownShown ▸ own
                have kept : shown.projected after m false ctx 0 = shown := if_neg apart
                rw [kept]
                refine iff_of_true ((showsNewest_other fun other sameOther => ?_).mpr before) ?_
                · rw [rows, List.mem_map]
                  constructor
                  · rintro ⟨original, inRows, rfl⟩
                    split at sameOther <;> rename_i named
                    · have again := message_eq_some.mpr ⟨inRows, named⟩
                      obtain rfl := Option.some.inj (again.symm.trans stored)
                      exact absurd (sameOther.symm.trans ownRow) apart
                    · rwa [if_neg named]
                  · intro inRows
                    refine ⟨other, inRows, if_neg fun named => apart ?_⟩
                    have again := message_eq_some.mpr ⟨inRows, named⟩
                    obtain rfl := Option.some.inj (again.symm.trans stored)
                    exact sameOther.symm.trans ownRow
                · simp [ownRow, Ne.symm own]
        · simp at impossible
      · obtain ⟨impossible, _⟩ | ⟨_, _, inserted, counted, messages, conversations, counting, same⟩ :=
          mergeIncoming_conversations merged
        · simp at impossible
        · have countedMessages := (countIncoming_kept counting).1.trans messages
          rw [conversation_congr same, finishProjection_conversation,
            countIncoming_conversation counting, conversation_congr conversations]
          refine iff_of_true ?_ (by simp [copiesFaithfully, unknown])
          intro projected isProjected
          by_cases own : conversationId = m.conversationId
          · rw [if_pos own, Option.map_some] at isProjected
            subst own
            exact fresh_showsNewest linked rows countedMessages unknown shows
              (Option.some.inj isProjected)
          · rw [if_neg own] at isProjected
            obtain ⟨shown, found, rfl⟩ := Option.map_eq_some_iff.mp isProjected
            have apart : shown.conversationId ≠ m.conversationId :=
              (conversation_eq_some.mp found).2 ▸ own
            have kept : shown.projected counted m false ctx 0 = shown := if_neg apart
            rw [kept]
            refine (showsNewest_other fun other sameOther => ?_).mpr (shows shown found)
            rw [rows, List.mem_append, List.mem_singleton]
            constructor
            · rintro (old | rfl)
              · exact old
              · exact absurd sameOther.symm apart
            · exact .inl

end NativeRepository

/-- In every state of a run of merges a conversation shows its newest message, exactly when every
copy of a message of it is faithful. -/
theorem preview_newest (conversationId : Int) (merges : List (MessageDto × IncomingContext)) :
    (∀ front back, front ++ back = merges → ∀ shown,
      (front.foldl NativeRepository.merge {}).conversation conversationId = some shown →
        (front.foldl NativeRepository.merge {}).ShowsNewest shown) ↔
      guarded NativeRepository.merge (copiesFaithfully conversationId) {} merges = true :=
  prefixes_iff_guarded NativeRepository.Linked
    (fun db => ∀ shown, db.conversation conversationId = some shown → db.ShowsNewest shown)
    (fun db copy linked => linked.merge copy)
    (fun db copy linked shows => merge_showsNewest_iff linked shows copy) {}
    ⟨fun row member => by simp at member, fun row member => by simp at member⟩
    (fun shown found => by simp [conversation] at found) merges

def datedAgain : List (MessageDto × IncomingContext) :=
  [({ msgId := ascii "a", conversationId := 2, peerId := 2, seq := 1, ts := 5, status := 2 }, {}),
    ({ msgId := ascii "b", conversationId := 2, peerId := 2, seq := 2, ts := 7, status := 2 }, {}),
    ({ msgId := ascii "a", conversationId := 2, peerId := 2, seq := 1, ts := 9, status := 2 }, {})]

/-- The conversation goes back to the older message. -/
theorem preview_redated :
    ∃ shown row newer, (datedAgain.foldl NativeRepository.merge {}).conversation 2 = some shown ∧
      (datedAgain.foldl NativeRepository.merge {}).message shown.lastMsgId = some row ∧
      (datedAgain.foldl NativeRepository.merge {}).message (ascii "b") = some newer ∧
      newer.conversationId = 2 ∧ newer.newerThan row ∧ shown.lastMessageTime ≠ row.serverTime :=
  ⟨{ conversationId := 2, peerId := 2, lastMessage := [], lastMessageTime := 9, unread := 2,
      lastMsgId := ascii "a" },
    { msgId := ascii "a", conversationId := 2, peerId := 2, conversationSeq := 1, serverTime := 5,
      localOrder := 0, fromMe := false, type := 0, content := [], status := 2 },
    { msgId := ascii "b", conversationId := 2, peerId := 2, conversationSeq := 2, serverTime := 7,
      localOrder := 0, fromMe := false, type := 0, content := [], status := 2 },
    by decide, by decide, by decide, rfl, .inl (by decide), by decide⟩

end Jitong
