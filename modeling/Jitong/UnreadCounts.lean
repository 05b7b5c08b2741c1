import Jitong.PreviewNewest

/-!
Unread counts: one writer adds to them message by message, two others count them again. What a
roamed copy stored is not added, and it is counted from the next count on.
-/

namespace Jitong

open NativeRepository Jitong.Lib

namespace NativeRepository

inductive UnreadCall
  | mergeIncoming (m : MessageDto) (ctx : IncomingContext)
  | markConversationRead (conversationId readSeq : Int)

/-- Copies from other users carry a number, as `storeProtocolMessage` sees to. -/
def UnreadCall.Numbered : UnreadCall → Prop
  | .mergeIncoming m _ => m.fromMe = false → 0 < m.seq
  | .markConversationRead _ _ => True

def NativeMessageRow.countedIn (row : NativeMessageRow) (conversationId readSeq : Int) : Bool :=
  row.conversationId = conversationId && !row.fromMe && readSeq < row.conversationSeq

end NativeRepository

/-- `roamed` are the messages of other users, with their conversations, that a roamed copy stored
since the unread messages of the conversation were last counted. -/
structure UnreadRun where
  db : NativeRepository := {}
  roamed : List (Int × Bytes) := []

namespace UnreadRun

def step (run : UnreadRun) : UnreadCall → UnreadRun
  | .mergeIncoming m ctx =>
      match run.db.mergeIncoming m ctx with
      | none => run
      | some (new, db) =>
          { db := db
            roamed :=
              if readsAtOnce m ctx then run.roamed.filter fun stored => stored.1 ≠ m.conversationId
              else if new && ctx.isRoaming && !m.fromMe then
                (m.conversationId, m.msgId) :: run.roamed
              else run.roamed }
  | .markConversationRead conversationId readSeq =>
      { db := run.db.markConversationRead conversationId readSeq
        roamed := run.roamed.filter fun stored => stored.1 ≠ conversationId }

def roamedIn (run : UnreadRun) (conversationId readSeq : Int) : Nat :=
  run.db.messages.rows.countP fun row =>
    row.countedIn conversationId readSeq && (conversationId, row.msgId) ∈ run.roamed

def talliedIn (run : UnreadRun) (conversationId readSeq : Int) : Nat :=
  run.db.messages.rows.countP fun row =>
    row.countedIn conversationId readSeq && (conversationId, row.msgId) ∉ run.roamed

variable {run : UnreadRun} {id readSeq : Int}

theorem tallied_add_roamed (run : UnreadRun) (id readSeq : Int) :
    run.talliedIn id readSeq + run.roamedIn id readSeq = run.db.countUnread id readSeq := by
  unfold talliedIn roamedIn countUnread
  induction run.db.messages.rows with
  | nil => rfl
  | cons row rest ih =>
      simp only [List.countP_cons]
      have one : (if (row.countedIn id readSeq && decide ((id, row.msgId) ∉ run.roamed)) = true
            then 1 else 0) +
          (if (row.countedIn id readSeq && decide ((id, row.msgId) ∈ run.roamed)) = true
            then 1 else 0) =
          if (decide (row.conversationId = id) && !row.fromMe &&
            decide (readSeq < row.conversationSeq)) = true then 1 else 0 := by
        unfold NativeMessageRow.countedIn
        by_cases roamed : (id, row.msgId) ∈ run.roamed <;> simp [roamed]
      omega

theorem tallied_of_none (none : ∀ msgId, (id, msgId) ∉ run.roamed) (readSeq : Int) :
    run.talliedIn id readSeq = run.db.countUnread id readSeq := by
  have zero : run.roamedIn id readSeq = 0 := by
    unfold roamedIn
    rw [List.countP_eq_zero]
    intro row _
    simp [none]
  have := run.tallied_add_roamed id readSeq
  omega

structure Sound (run : UnreadRun) : Prop where
  linked : run.db.Linked
  numbered : ∀ row ∈ run.db.messages.rows, row.fromMe = false → 0 < row.conversationSeq
  stored : ∀ conversationId msgId, (conversationId, msgId) ∈ run.roamed →
    (run.db.message msgId).isSome
  tallied : ∀ id row, run.db.conversation id = some row →
    row.unread = run.talliedIn id row.readSeq

theorem markConversationRead_conversation (db : NativeRepository) (conversationId readSeq id : Int) :
    (db.markConversationRead conversationId readSeq).conversation id =
      (db.conversation id).map fun row =>
        if row.conversationId = conversationId then
          { row with
            readSeq := max row.readSeq readSeq
            unread := db.countUnread conversationId (max row.readSeq readSeq) }
        else row := by
  unfold markConversationRead
  dsimp only
  rw [conversation_map rfl (fun row => by split <;> rfl)]
  cases found : db.conversation id with
  | none => rfl
  | some row =>
      have named := (conversation_eq_some.mp found).2
      by_cases own : row.conversationId = conversationId
      · have same : db.conversation conversationId = some row := by
          rw [← own, named]
          exact found
        have effective : (if row.readSeq < readSeq then readSeq else row.readSeq) =
            max row.readSeq readSeq := by
          rcases lt_or_ge row.readSeq readSeq with below | above
          · rw [if_pos below, max_eq_right (le_of_lt below)]
          · rw [if_neg (not_lt.mpr above), max_eq_left above]
        simp only [Option.map_some, own, if_true, same, Option.getD_some, effective]
      · simp only [Option.map_some, own, if_false]

theorem talliedIn_map {later : UnreadRun} {revise : NativeMessageRow → NativeMessageRow}
    (rows : later.db.messages.rows = run.db.messages.rows.map revise)
    (counted : ∀ row ∈ run.db.messages.rows,
      (revise row).countedIn id readSeq = row.countedIn id readSeq ∧ (revise row).msgId = row.msgId)
    (same : ∀ msgId, (id, msgId) ∈ later.roamed ↔ (id, msgId) ∈ run.roamed) :
    later.talliedIn id readSeq = run.talliedIn id readSeq := by
  unfold talliedIn
  rw [rows, List.countP_map]
  refine List.countP_congr fun row member => ?_
  obtain ⟨sameCounted, sameId⟩ := counted row member
  simp [sameCounted, sameId, same]

theorem talliedIn_append (run later : UnreadRun) {added : NativeMessageRow}
    (rows : later.db.messages.rows = run.db.messages.rows ++ [added])
    (same : ∀ row ∈ run.db.messages.rows,
      (id, row.msgId) ∈ later.roamed ↔ (id, row.msgId) ∈ run.roamed) :
    later.talliedIn id readSeq = run.talliedIn id readSeq +
      if added.countedIn id readSeq && (id, added.msgId) ∉ later.roamed then 1 else 0 := by
  unfold talliedIn
  rw [rows, List.countP_append, List.countP_singleton]
  refine congrArg (fun count => count + _) (List.countP_congr fun row member => ?_)
  simp [same row member]

theorem projected_unread (row : ConversationRow) (db : NativeRepository) (m : MessageDto)
    (ctx : IncomingContext) :
    if row.conversationId = m.conversationId ∧ readsAtOnce m ctx then
      (row.projected db m false ctx 0).readSeq = max row.readSeq m.seq ∧
        (row.projected db m false ctx 0).unread =
          db.countUnread m.conversationId (max row.readSeq m.seq)
    else (row.projected db m false ctx 0).readSeq = row.readSeq ∧
      (row.projected db m false ctx 0).unread = row.unread := by
  unfold ConversationRow.projected
  by_cases own : row.conversationId = m.conversationId <;>
    by_cases reads : readsAtOnce m ctx <;>
    by_cases takes : db.takesPreview row false m.ts m.seq m.localOrder m.msgId <;>
    simp [own, reads, takes]

theorem countedIn_merged {row : NativeMessageRow} (m : MessageDto)
    (numbered : row.fromMe = false → 0 < row.conversationSeq) (id readSeq : Int) :
    (row.merged m).countedIn id readSeq = row.countedIn id readSeq := by
  unfold NativeMessageRow.countedIn NativeMessageRow.merged NativeMessageRow.advance
  cases side : row.fromMe with
  | true => simp
  | false =>
      have positive := numbered side
      have apart : row.conversationSeq ≠ 0 := by omega
      simp [apart]

theorem countUnread_congr {first second : NativeRepository}
    (same : first.messages = second.messages) (id readSeq : Int) :
    first.countUnread id readSeq = second.countUnread id readSeq := by
  unfold countUnread
  rw [same]

theorem filtered_none (roamed : List (Int × Bytes)) (id : Int) (msgId : Bytes) :
    (id, msgId) ∉ roamed.filter fun stored => stored.1 ≠ id := by
  simp

theorem filtered_other {roamed : List (Int × Bytes)} {id other : Int} (apart : id ≠ other)
    (msgId : Bytes) :
    (id, msgId) ∈ (roamed.filter fun stored => stored.1 ≠ other) ↔ (id, msgId) ∈ roamed := by
  simp [apart]

variable {db : NativeRepository} {m : MessageDto} {ctx : IncomingContext}

theorem Sound.copied (sound : run.Sound) (merged : run.db.mergeIncoming m ctx = some (false, db)) :
    (run.step (.mergeIncoming m ctx)).Sound := by
  have linked := sound.linked.merge (m, ctx)
  simp only [NativeRepository.merge, merged, Option.map_some, Option.getD_some] at linked
  obtain ⟨_, ⟨_, known, rows, _⟩ | ⟨impossible, _⟩⟩ := mergeIncoming_rows merged
  · obtain ⟨_, _, advanced, messages, conversations, same⟩ | ⟨impossible, _⟩ :=
      mergeIncoming_conversations merged
    · simp only [step, merged, Bool.false_and, Bool.false_eq_true, if_false]
      have counted (id readSeq : Int) : ∀ row ∈ run.db.messages.rows,
          (if row.msgId = m.msgId then row.merged m else row).countedIn id readSeq =
            row.countedIn id readSeq ∧
          (if row.msgId = m.msgId then row.merged m else row).msgId = row.msgId := by
        intro row member
        split
        · exact ⟨countedIn_merged m (sound.numbered row member) id readSeq, rfl⟩
        · exact ⟨rfl, rfl⟩
      refine ⟨linked, ?_, ?_, ?_⟩
      · intro row member
        rw [rows] at member
        obtain ⟨before, inBefore, rfl⟩ := List.mem_map.mp member
        have positive := sound.numbered before inBefore
        split
        · intro side
          have := positive side
          simp only [NativeMessageRow.merged, NativeMessageRow.advance]
          split <;> omega
        · exact positive
      · intro conversationId msgId member
        have before : (conversationId, msgId) ∈ run.roamed := by
          split at member
          · exact List.mem_of_mem_filter member
          · exact member
        obtain ⟨row, found⟩ := Option.isSome_iff_exists.mp (sound.stored _ _ before)
        rw [message_map rows (fun row => by split <;> rfl), found]
        rfl
      · intro id later found
        rw [conversation_congr same, finishProjection_conversation,
          conversation_congr conversations] at found
        obtain ⟨row, foundRow, rfl⟩ := Option.map_eq_some_iff.mp found
        have named := (conversation_eq_some.mp foundRow).2
        have before := sound.tallied id row foundRow
        have projected := projected_unread row advanced m ctx
        by_cases recounts : row.conversationId = m.conversationId ∧ readsAtOnce m ctx
        · rw [if_pos recounts] at projected
          rw [projected.1, projected.2, tallied_of_none, countUnread_congr messages, ← named,
            recounts.1]
          intro msgId
          rw [if_pos recounts.2, ← named, recounts.1]
          exact filtered_none _ _ msgId
        · rw [if_neg recounts] at projected
          rw [projected.1, projected.2, before]
          refine congrArg Nat.cast (talliedIn_map rows (counted id row.readSeq) fun msgId => ?_).symm
          split <;> rename_i reads
          · refine filtered_other (fun own => recounts ⟨named.trans own, reads⟩) msgId
          · exact Iff.rfl
    · simp at impossible
  · simp at impossible

theorem counting_unread (unroamed : (m.conversationId, m.msgId) ∉ run.roamed)
    (numbered : m.fromMe = false → 0 < m.seq) (reads : readsAtOnce m ctx = false) (readSeq : Int) :
    (if ((NativeMessageRow.stored m).countedIn m.conversationId readSeq &&
        decide ((m.conversationId, m.msgId) ∉
          if ctx.isRoaming && !m.fromMe then (m.conversationId, m.msgId) :: run.roamed
          else run.roamed)) = true then 1 else 0) =
      if shouldCountUnread m ctx ∧ readSeq < m.seq then 1 else 0 := by
  have counted : (NativeMessageRow.stored m).countedIn m.conversationId readSeq =
      (!m.fromMe && decide (readSeq < m.seq)) := by
    unfold NativeMessageRow.countedIn
    rw [show (NativeMessageRow.stored m).conversationId = m.conversationId from rfl, decide_eq_true rfl]
    rfl
  rw [counted]
  unfold shouldCountUnread
  unfold readsAtOnce at reads
  cases side : m.fromMe with
  | true => simp
  | false =>
      have positive := numbered side
      cases roaming : ctx.isRoaming with
      | true => simp
      | false =>
          have inactive : ctx.activeConversationId ≠ m.conversationId := by
            simpa [side, roaming, positive] using reads
          simp [unroamed, inactive]

theorem Sound.added (sound : run.Sound) (numbered : m.fromMe = false → 0 < m.seq)
    (merged : run.db.mergeIncoming m ctx = some (true, db)) :
    (run.step (.mergeIncoming m ctx)).Sound := by
  have linked := sound.linked.merge (m, ctx)
  simp only [NativeRepository.merge, merged, Option.map_some, Option.getD_some] at linked
  obtain ⟨_, ⟨impossible, _⟩ | ⟨_, unknown, rows, _⟩⟩ := mergeIncoming_rows merged
  · simp at impossible
  · obtain ⟨impossible, _⟩ | ⟨_, _, inserted, counted, messages, conversations, counting, same⟩ :=
      mergeIncoming_conversations merged
    · simp at impossible
    · have countedMessages := (countIncoming_kept counting).1.trans messages
      simp only [step, merged, Bool.true_and]
      refine ⟨linked, ?_, ?_, ?_⟩
      · intro row member
        rw [rows] at member
        rcases List.mem_append.mp member with old | added
        · exact sound.numbered row old
        · rw [List.mem_singleton.mp added]
          exact numbered
      · intro conversationId msgId member
        have before : (conversationId, msgId) ∈ run.roamed ∨ msgId = m.msgId := by
          split at member
          · exact .inl (List.mem_of_mem_filter member)
          · split at member
            · rcases List.mem_cons.mp member with own | old
              · exact .inr (Prod.mk.inj own).2
              · exact .inl old
            · exact .inl member
        rcases before with old | rfl
        · obtain ⟨row, found⟩ := Option.isSome_iff_exists.mp (sound.stored _ _ old)
          rw [message_append rows found]
          rfl
        · have stored : db.message m.msgId = some (.stored m) := by
            refine message_eq_some.mpr ⟨?_, rfl⟩
            rw [rows]
            exact List.mem_append_right _ (List.mem_singleton_self _)
          rw [stored]
          rfl
      · intro id later found
        rw [conversation_congr same, finishProjection_conversation,
          countIncoming_conversation counting, conversation_congr conversations] at found
        have unroamed : (id, m.msgId) ∉ run.roamed := by
          intro member
          have stored := sound.stored _ _ member
          rw [unknown] at stored
          simp at stored
        have apartOld {row : NativeMessageRow} (member : row ∈ run.db.messages.rows) :
            row.msgId ≠ m.msgId := message_eq_none.mp unknown row member
        by_cases own : id = m.conversationId
        · subst own
          rw [if_pos rfl, Option.map_some] at found
          obtain rfl := Option.some.inj found
          generalize startSame : ConversationRow.counting m ctx
            (run.db.conversation m.conversationId) = start
          have ownStart : start.conversationId = m.conversationId := by
            subst startSame
            cases foundRow : run.db.conversation m.conversationId with
            | none => rfl
            | some row => exact (conversation_eq_some.mp foundRow).2
          have projected := projected_unread start counted m ctx
          by_cases reads : readsAtOnce m ctx
          · rw [if_pos ⟨ownStart, reads⟩] at projected
            rw [projected.1, projected.2, tallied_of_none, countUnread_congr countedMessages]
            intro msgId
            rw [if_pos reads]
            exact filtered_none _ _ msgId
          · rw [if_neg fun both => reads both.2] at projected
            rw [projected.1, projected.2, talliedIn_append run _ rows ?_]
            · rw [if_neg reads]
              subst startSame
              have added := counting_unread unroamed numbered (Bool.eq_false_iff.mpr reads)
                (ConversationRow.counting m ctx (run.db.conversation m.conversationId)).readSeq
              refine Eq.trans ?_ (congrArg
                (fun added : Nat => ((run.talliedIn m.conversationId _ + added : Nat) : Int))
                added.symm)
              cases foundRow : run.db.conversation m.conversationId with
              | none =>
                  have zero : run.talliedIn m.conversationId 0 = 0 := by
                    unfold talliedIn
                    rw [List.countP_eq_zero]
                    intro row member counted
                    simp only [NativeMessageRow.countedIn, Bool.and_eq_true, decide_eq_true_eq] at counted
                    have isKnown := sound.linked.known row member
                    rw [counted.1.1.1, foundRow] at isKnown
                    simp at isKnown
                  have positive (counts : shouldCountUnread m ctx) : 0 < m.seq := by
                    refine numbered ?_
                    simp only [shouldCountUnread, Bool.and_eq_true, Bool.not_eq_true'] at counts
                    exact counts.1.1
                  simp only [ConversationRow.counting, zero, Nat.zero_add]
                  by_cases counts : shouldCountUnread m ctx
                  · simp [counts, positive counts]
                  · simp [counts]
              | some row =>
                  simp only [ConversationRow.counting, sound.tallied _ row foundRow]
                  split <;> simp
            · intro row member
              rw [if_neg reads]
              split
              · simp [apartOld member]
              · exact Iff.rfl
        · rw [if_neg own] at found
          obtain ⟨row, foundRow, rfl⟩ := Option.map_eq_some_iff.mp found
          have named := (conversation_eq_some.mp foundRow).2
          have projected := projected_unread row counted m ctx
          rw [if_neg fun both => own (named.symm.trans both.1)] at projected
          rw [projected.1, projected.2, sound.tallied id row foundRow]
          refine congrArg Nat.cast ((talliedIn_append run _ rows ?_).trans ?_).symm
          · intro row member
            split
            · exact filtered_other own _
            · split
              · simp [own]
              · exact Iff.rfl
          · simp [NativeMessageRow.countedIn, NativeMessageRow.stored, NativeMessageRow.of, Ne.symm own]

theorem Sound.marked (sound : run.Sound) (conversationId readSeq : Int) :
    (run.step (.markConversationRead conversationId readSeq)).Sound := by
  have kept (id : Int) (known : (run.db.conversation id).isSome) :
      ((run.db.markConversationRead conversationId readSeq).conversation id).isSome := by
    rw [markConversationRead_conversation, Option.isSome_map]
    exact known
  refine ⟨⟨fun row member => kept _ (sound.linked.known row member), sound.linked.nonempty⟩,
    sound.numbered, ?_, ?_⟩
  · intro id msgId member
    exact sound.stored id msgId (List.mem_of_mem_filter member)
  · intro id later found
    simp only [step] at found
    rw [markConversationRead_conversation] at found
    obtain ⟨row, foundRow, rfl⟩ := Option.map_eq_some_iff.mp found
    have named := (conversation_eq_some.mp foundRow).2
    by_cases own : row.conversationId = conversationId
    · rw [if_pos own]
      obtain rfl : id = conversationId := named.symm.trans own
      have none : ∀ msgId,
          (id, msgId) ∉ (run.step (.markConversationRead id readSeq)).roamed :=
        filtered_none run.roamed id
      rw [tallied_of_none none]
      rfl
    · rw [if_neg own, sound.tallied id row foundRow]
      unfold talliedIn
      refine congrArg Nat.cast (List.countP_congr fun other _ => ?_)
      have apart : id ≠ conversationId := fun same => own (named.trans same)
      simp [step, apart]

theorem Sound.step {call : UnreadCall} (sound : run.Sound) (numbered : call.Numbered) :
    (run.step call).Sound := by
  cases call with
  | mergeIncoming m ctx =>
      cases merged : run.db.mergeIncoming m ctx with
      | none => simpa only [UnreadRun.step, merged] using sound
      | some result =>
          obtain ⟨new, db⟩ := result
          cases new with
          | false => exact sound.copied merged
          | true => exact sound.added numbered merged
  | markConversationRead conversationId readSeq => exact sound.marked conversationId readSeq

theorem sound_run {calls : List UnreadCall} (sound : run.Sound)
    (numbered : ∀ call ∈ calls, call.Numbered) : (calls.foldl UnreadRun.step run).Sound := by
  induction calls generalizing run with
  | nil => exact sound
  | cons call rest ih =>
      exact ih (sound.step (numbered call List.mem_cons_self)) fun later member =>
        numbered later (List.mem_cons_of_mem _ member)

theorem sound_empty : ({} : UnreadRun).Sound where
  linked := ⟨fun row member => by simp at member, fun row member => by simp at member⟩
  numbered := fun row member => by simp at member
  stored := fun conversationId msgId member => by simp at member
  tallied := fun id row found => by simp [conversation] at found

end UnreadRun

end Jitong
