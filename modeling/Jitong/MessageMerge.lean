import Jitong.NativeRepository

/-!
The three writers of a message row: what one of them has set stays, and the order in which copies
and the acknowledgement of a draft arrive does not matter.
-/

namespace Jitong

open NativeRepository Jitong.Lib

namespace NativeRepository

inductive MessageCall
  | commitOutgoingDraft (m : MessageDto) (now : Int)
  | commitAck (msgId : Bytes) (serverTime conversationSeq status : Int)
  | mergeIncoming (m : MessageDto) (ctx : IncomingContext)

def call (db : NativeRepository) : MessageCall → NativeRepository
  | .commitOutgoingDraft m now => ((db.commitOutgoingDraft m now).map Prod.snd).getD db
  | .commitAck msgId serverTime conversationSeq status =>
      (db.commitAck msgId serverTime conversationSeq status).getD db
  | .mergeIncoming m ctx => ((db.mergeIncoming m ctx).map Prod.snd).getD db

namespace NativeMessageRow

structure Evolves (before after : NativeMessageRow) : Prop where
  identity : after.msgId = before.msgId ∧ after.conversationId = before.conversationId ∧
    after.peerId = before.peerId ∧ after.fromMe = before.fromMe ∧ after.type = before.type
  conversationSeq : after.conversationSeq = before.conversationSeq ∨
    before.conversationSeq = 0 ∧ 0 < after.conversationSeq
  serverTime : after.serverTime = before.serverTime ∨ before.serverTime = 0 ∧ 0 < after.serverTime
  status : after.status = before.status ∨ before.status = 0 ∧ 0 < after.status
  text : ∀ column, before.media.text column ≠ [] →
    after.media.text column = before.media.text column
  number : ∀ column, before.media.number column ≠ 0 →
    after.media.number column = before.media.number column

variable {first second third row : NativeMessageRow}

theorem Evolves.refl (row : NativeMessageRow) : row.Evolves row :=
  ⟨⟨rfl, rfl, rfl, rfl, rfl⟩, .inl rfl, .inl rfl, .inl rfl, fun _ _ => rfl, fun _ _ => rfl⟩

theorem Evolves.trans (left : first.Evolves second) (right : second.Evolves third) :
    first.Evolves third := by
  obtain ⟨⟨id, conversation, peer, mine, type⟩, seq, time, status, text, number⟩ := left
  obtain ⟨⟨id', conversation', peer', mine', type'⟩, seq', time', status', text', number'⟩ := right
  refine ⟨⟨id'.trans id, conversation'.trans conversation, peer'.trans peer, mine'.trans mine,
    type'.trans type⟩, by omega, by omega, by omega, ?_, ?_⟩
  · intro column known
    have kept := text column known
    rw [text' column (kept ▸ known), kept]
  · intro column known
    have kept := number column known
    rw [number' column (kept ▸ known), kept]

theorem advance_evolves (row : NativeMessageRow) (seq time status : Int) :
    row.Evolves (row.advance seq time status) := by
  refine ⟨⟨rfl, rfl, rfl, rfl, rfl⟩, ?_, ?_, ?_, fun _ _ => rfl, fun _ _ => rfl⟩ <;>
    simp only [advance] <;> split <;> omega

theorem merged_evolves (row : NativeMessageRow) (m : MessageDto) : row.Evolves (row.merged m) := by
  have filled : row.Evolves { row with media := row.media.fill m.media } :=
    ⟨⟨rfl, rfl, rfl, rfl, rfl⟩, .inl rfl, .inl rfl, .inl rfl, fun _ known => if_neg known,
      fun _ known => if_neg known⟩
  exact filled.trans (advance_evolves _ _ _ _)

end NativeMessageRow

theorem message_map {db after : NativeRepository} {revise : NativeMessageRow → NativeMessageRow}
    (rows : after.messages.rows = db.messages.rows.map revise)
    (keeps : ∀ row, (revise row).msgId = row.msgId) (msgId : Bytes) :
    after.message msgId = (db.message msgId).map revise := by
  unfold message
  rw [rows, List.find?_map]
  congr 1
  refine congrArg (fun matching => List.find? matching db.messages.rows) ?_
  funext row
  simp [keeps]

theorem message_append {db after : NativeRepository} {added row : NativeMessageRow} {msgId : Bytes}
    (rows : after.messages.rows = db.messages.rows ++ [added])
    (stored : db.message msgId = some row) : after.message msgId = some row := by
  unfold message at stored ⊢
  rw [rows, List.find?_append, stored]
  rfl

theorem call_evolves {db : NativeRepository} {msgId : Bytes} {row : NativeMessageRow}
    (call : MessageCall) (stored : db.message msgId = some row) :
    ∃ later, (db.call call).message msgId = some later ∧ row.Evolves later := by
  have kept : ∃ later, db.message msgId = some later ∧ row.Evolves later :=
    ⟨row, stored, .refl row⟩
  cases call with
  | commitOutgoingDraft m now =>
      cases committed : db.commitOutgoingDraft m now with
      | none =>
          simpa only [NativeRepository.call, committed, Option.map_none, Option.getD_none] using kept
      | some result =>
          obtain ⟨order, after⟩ := result
          simp only [NativeRepository.call, committed, Option.map_some, Option.getD_some]
          obtain ⟨_, ⟨rfl, _⟩ | ⟨_, _, rows, _⟩⟩ := commitOutgoingDraft_rows committed
          · exact kept
          · exact ⟨row, message_append rows stored, .refl row⟩
  | commitAck id time seq status =>
      cases committed : db.commitAck id time seq status with
      | none => simpa only [NativeRepository.call, committed, Option.getD_none] using kept
      | some after =>
          simp only [NativeRepository.call, committed, Option.getD_some]
          obtain ⟨_, ⟨_, rfl⟩ | ⟨_, _, _, _, rows, _⟩⟩ := commitAck_rows committed
          · exact kept
          · have found := message_map rows (fun row => by split <;> rfl) msgId
            rw [stored, Option.map_some] at found
            refine ⟨_, found, ?_⟩
            split
            · exact NativeMessageRow.advance_evolves row seq time status
            · exact .refl row
  | mergeIncoming m ctx =>
      cases merged : db.mergeIncoming m ctx with
      | none =>
          simpa only [NativeRepository.call, merged, Option.map_none, Option.getD_none] using kept
      | some result =>
          obtain ⟨new, after⟩ := result
          simp only [NativeRepository.call, merged, Option.map_some, Option.getD_some]
          obtain ⟨_, ⟨_, _, rows, _⟩ | ⟨_, _, rows, _⟩⟩ := mergeIncoming_rows merged
          · have found := message_map rows (fun row => by split <;> rfl) msgId
            rw [stored, Option.map_some] at found
            refine ⟨_, found, ?_⟩
            split
            · exact NativeMessageRow.merged_evolves row m
            · exact .refl row
          · exact ⟨row, message_append rows stored, .refl row⟩

theorem calls_evolve {db : NativeRepository} {msgId : Bytes} {row : NativeMessageRow}
    (calls : List MessageCall) (stored : db.message msgId = some row) :
    ∃ later, (calls.foldl call db).message msgId = some later ∧ row.Evolves later := by
  induction calls generalizing db row with
  | nil => exact ⟨row, stored, .refl row⟩
  | cons first rest ih =>
      obtain ⟨next, storedNext, evolves⟩ := call_evolves first stored
      obtain ⟨later, storedLater, evolvesLater⟩ := ih storedNext
      exact ⟨later, storedLater, evolves.trans evolvesLater⟩

/-! Copies and the acknowledgement of one message. -/

@[simp] theorem Media.fill_fill (known copy : Media) :
    (known.fill copy).fill copy = known.fill copy := by
  have text (column : MediaText) :
      ((known.fill copy).fill copy).text column = (known.fill copy).text column := by
    by_cases missing : known.text column = [] <;> simp [Media.fill, missing]
  have number (column : MediaNumber) :
      ((known.fill copy).fill copy).number column = (known.fill copy).number column := by
    by_cases missing : known.number column = 0 <;> simp [Media.fill, missing]
  exact congrArg₂ Media.mk (funext text) (funext number)

namespace NativeMessageRow

variable {row : NativeMessageRow} {copy : MessageDto}

@[simp] theorem merged_merged (row : NativeMessageRow) (copy : MessageDto) :
    (row.merged copy).merged copy = row.merged copy := by
  unfold merged advance
  simp only [NativeMessageRow.mk.injEq, true_and]
  have settled (old new : Int) :
      (if (if old = 0 ∧ 0 < new then new else old) = 0 ∧ 0 < new then new
        else if old = 0 ∧ 0 < new then new else old) = if old = 0 ∧ 0 < new then new else old := by
    by_cases lacking : old = 0 ∧ 0 < new
    · simp [lacking]
    · simp only [if_neg lacking]
  exact ⟨settled _ _, settled _ _, settled _ _, Media.fill_fill _ _⟩

def Names (row : NativeMessageRow) (copy : MessageDto) : Prop :=
  copy.msgId ≠ [] ∧ 0 < copy.peerId ∧ 0 < copy.conversationId ∧
    row.conversationId = copy.conversationId ∧ row.peerId = copy.peerId ∧
      row.fromMe = copy.fromMe ∧ row.type = copy.type

def Free (row : NativeMessageRow) (others : List NativeMessageRow) : Prop :=
  ∀ other ∈ others, row.clashes other = false

def Accepts (row : NativeMessageRow) (copy : MessageDto) (others : List NativeMessageRow) : Prop :=
  row.Names copy ∧
    (copy.seq = 0 ∨ row.conversationSeq = 0 ∨ row.conversationSeq = copy.seq) ∧
    (row.merged copy).Free others

theorem Accepts.merged {others : List NativeMessageRow} (accepts : row.Accepts copy others) :
    (row.merged copy).Accepts copy others := by
  obtain ⟨names, seq, free⟩ := accepts
  refine ⟨names, ?_, by rwa [merged_merged]⟩
  simp only [NativeMessageRow.merged, advance]
  split <;> omega

end NativeMessageRow

open Classical in
noncomputable def NativeMessageRow.receive (row : NativeMessageRow) (copy : MessageDto)
    (others : List NativeMessageRow) : NativeMessageRow :=
  if row.Accepts copy others then row.merged copy else row

structure Holds (db : NativeRepository) (msgId : Bytes) (row : NativeMessageRow)
    (others : List NativeMessageRow) : Prop where
  own : db.message msgId = some row
  apart : (db.messages.rows.filter fun row => row.msgId ≠ msgId) = others

variable {db after : NativeRepository} {msgId : Bytes} {row : NativeMessageRow}
  {others : List NativeMessageRow} {copy : MessageDto} {ctx : IncomingContext}

theorem Holds.revised (holds : db.Holds msgId row others) {revise : NativeMessageRow → NativeMessageRow}
    (rows : after.messages.rows = db.messages.rows.map fun row =>
      if row.msgId = msgId then revise row else row)
    (keeps : ∀ row, (revise row).msgId = row.msgId) : after.Holds msgId (revise row) others := by
  have named := (message_eq_some.mp holds.own).2
  refine ⟨?_, ?_⟩
  · rw [message_map rows (fun row => by split <;> simp [keeps]) msgId, holds.own, Option.map_some,
      if_pos named]
  · rw [rows, List.filter_map, ← holds.apart]
    have same : ((fun row : NativeMessageRow => decide (row.msgId ≠ msgId)) ∘ fun row =>
        if row.msgId = msgId then revise row else row) =
          fun row => decide (row.msgId ≠ msgId) := by
      funext row
      simp only [Function.comp_apply]
      split <;> simp [keeps]
    rw [same, List.map_congr_left (g := id), List.map_id]
    intro other member
    exact if_neg (by simpa using (List.mem_filter.mp member).2)

theorem advanceMessage_isSome (holds : db.Holds msgId row others) (seq time status : Int) :
    (db.advanceMessage msgId seq time status).isSome ↔ (row.advance seq time status).Free others := by
  obtain ⟨stored, named⟩ := message_eq_some.mp holds.own
  have member {other : NativeMessageRow} : other ∈ others ↔
      other ∈ db.messages.rows ∧ other.msgId ≠ msgId := by
    rw [← holds.apart]
    simp
  unfold advanceMessage Table.update
  rw [Option.isSome_map]
  split <;> rename_i unique
  · simp only [Option.isSome_some, true_iff]
    intro other inOthers
    obtain ⟨inRows, apart⟩ := member.mp inOthers
    rw [List.pairwise_map] at unique
    have symmetric : Std.Symm fun first second : NativeMessageRow =>
        (if first.msgId = msgId then first.advance seq time status else first).clashes
          (if second.msgId = msgId then second.advance seq time status else second) = false :=
      ⟨fun first second free => by rw [NativeMessageRow.clashes_comm]; exact free⟩
    have free := unique.forall stored inRows (fun same => apart (same ▸ named))
    rw [if_pos named, if_neg apart] at free
    exact free
  · simp only [Option.isSome_none, Bool.false_eq_true, false_iff]
    intro free
    apply unique
    rw [List.pairwise_map]
    refine db.messages.unique.imp_of_mem fun {first second} inFirst inSecond apart => ?_
    have single {other : NativeMessageRow} (inRows : other ∈ db.messages.rows)
        (same : other.msgId = msgId) : other = row := by
      have found := message_eq_some.mpr ⟨inRows, same⟩
      exact Option.some.inj (found.symm.trans holds.own)
    by_cases left : first.msgId = msgId
    · by_cases right : second.msgId = msgId
      · simp [NativeMessageRow.clashes, left, right] at apart
      · rw [if_pos left, if_neg right, single inFirst left]
        exact free second (member.mpr ⟨inSecond, right⟩)
    · by_cases right : second.msgId = msgId
      · rw [if_neg left, if_pos right, single inSecond right, NativeMessageRow.clashes_comm]
        exact free first (member.mpr ⟨inFirst, left⟩)
      · rw [if_neg left, if_neg right]
        exact apart

theorem mergeIncoming_isSome (holds : db.Holds copy.msgId row others) :
    (db.mergeIncoming copy ctx).isSome ↔ row.Accepts copy others := by
  have filled : (db.fillMissingMedia copy).Holds copy.msgId
      { row with media := row.media.fill copy.media } others :=
    @Holds.revised db (db.fillMissingMedia copy) copy.msgId row others holds
      (fun row => { row with media := row.media.fill copy.media }) rfl fun _ => rfl
  have advance := advanceMessage_isSome filled copy.seq copy.ts copy.status
  unfold mergeIncoming NativeMessageRow.Accepts NativeMessageRow.Names
  simp only [compatibleIdentity, holds.own, insertMessage, Option.isSome_some, if_true]
  split <;> rename_i invalid
  · simp only [Option.isSome_none, Bool.false_eq_true, false_iff]
    rintro ⟨⟨named, peer, conversation, sameConversation, samePeer, sameSide, sameType⟩, seq, _⟩
    rcases invalid with empty | low | low | different
    · exact named empty
    · omega
    · omega
    · simp [sameConversation, samePeer, sameSide, sameType] at different
      omega
  · simp only [not_or, not_le, Bool.not_eq_true', Bool.not_eq_false, Bool.and_eq_true,
      Bool.or_eq_true, decide_eq_true_eq, or_assoc] at invalid
    obtain ⟨named, peer, conversation, ⟨⟨⟨sameConversation, samePeer⟩, sameSide⟩, sameType⟩, seq⟩ :=
      invalid
    rw [Option.isSome_map, advance]
    constructor
    · exact fun free => ⟨⟨named, peer, conversation, sameConversation, samePeer, sameSide, sameType⟩,
        seq, free⟩
    · exact fun accepts => accepts.2.2

theorem Holds.receive (holds : db.Holds copy.msgId row others) (ctx : IncomingContext) :
    (db.call (.mergeIncoming copy ctx)).Holds copy.msgId (row.receive copy others) others := by
  have accepted := @mergeIncoming_isSome db row others copy ctx holds
  unfold NativeMessageRow.receive
  cases merged : db.mergeIncoming copy ctx with
  | none =>
      rw [merged] at accepted
      rw [if_neg (fun accepts => by simpa using accepted.mpr accepts)]
      simpa only [NativeRepository.call, merged, Option.map_none, Option.getD_none] using holds
  | some result =>
      obtain ⟨new, after⟩ := result
      rw [merged] at accepted
      rw [if_pos (accepted.mp rfl)]
      simp only [NativeRepository.call, merged, Option.map_some, Option.getD_some]
      obtain ⟨_, ⟨_, _, rows, _⟩ | ⟨_, unknown, _⟩⟩ := mergeIncoming_rows merged
      · exact holds.revised rows fun _ => rfl
      · simp [holds.own] at unknown

theorem NativeMessageRow.receive_receive (row : NativeMessageRow) (copy : MessageDto)
    (others : List NativeMessageRow) :
    (row.receive copy others).receive copy others = row.receive copy others := by
  by_cases accepts : row.Accepts copy others
  · have received : row.receive copy others = row.merged copy := if_pos accepts
    rw [received]
    exact (if_pos accepts.merged).trans (row.merged_merged copy)
  · have received : row.receive copy others = row := if_neg accepts
    rw [received, received]

def copies (db : NativeRepository) (copy : MessageDto) (contexts : List IncomingContext) :
    NativeRepository :=
  contexts.foldl (fun db ctx => db.call (.mergeIncoming copy ctx)) db

theorem Holds.copies (holds : db.Holds copy.msgId row others) (contexts : List IncomingContext) :
    (db.copies copy contexts).Holds copy.msgId
      (if contexts = [] then row else row.receive copy others) others := by
  unfold NativeRepository.copies
  induction contexts generalizing db row with
  | nil => exact holds
  | cons ctx rest ih =>
      have later := ih (holds.receive ctx)
      rw [NativeMessageRow.receive_receive, ite_self] at later
      simpa using later

theorem copies_queued (unqueued : db.queued msgId = none) (copy : MessageDto)
    (contexts : List IncomingContext) (known : (db.message copy.msgId).isSome) :
    (db.copies copy contexts).queued msgId = none := by
  unfold NativeRepository.copies
  induction contexts generalizing db with
  | nil => exact unqueued
  | cons ctx rest ih =>
      rw [List.foldl_cons]
      obtain ⟨row, stored⟩ := Option.isSome_iff_exists.mp known
      obtain ⟨later, storedLater, _⟩ := call_evolves (.mergeIncoming copy ctx) stored
      refine ih ?_ (Option.isSome_iff_exists.mpr ⟨later, storedLater⟩)
      cases merged : db.mergeIncoming copy ctx with
      | none =>
          simpa only [NativeRepository.call, merged, Option.map_none, Option.getD_none]
            using unqueued
      | some result =>
          obtain ⟨new, after⟩ := result
          simp only [NativeRepository.call, merged, Option.map_some, Option.getD_some]
          have shrinks : ∀ row ∈ after.outbox.rows, row ∈ db.outbox.rows := by
            obtain ⟨_, ⟨_, _, _, outbox⟩ | ⟨_, _, _, outbox⟩⟩ := mergeIncoming_rows merged
            · rw [outbox]
              split
              · exact fun row member => List.mem_of_mem_filter member
              · exact fun row member => member
            · rw [outbox]
              exact fun row member => member
          exact queued_eq_none.mpr fun row member => queued_eq_none.mp unqueued row (shrinks row member)

theorem Holds.acked {time seq status : Int} (holds : db.Holds msgId row others)
    (ended : 0 < status) (committed : db.commitAck msgId time seq status = some after) :
    after.Holds msgId (row.advance seq time status) others ∧
      (row.advance seq time status).Free others ∧
      (row.conversationSeq ≤ 0 ∨ seq = 0 ∨ row.conversationSeq = seq) ∧
      after.queued msgId = none := by
  obtain ⟨_, ⟨unknown, _⟩ | ⟨known, stored, agrees, advanced, rows, outbox⟩⟩ :=
    commitAck_rows committed
  · simp [holds.own] at unknown
  · obtain rfl := Option.some.inj (holds.own.symm.trans stored)
    rw [if_pos ended] at outbox
    refine ⟨holds.revised rows fun _ => rfl, (advanceMessage_isSome holds _ _ _).mp advanced,
      agrees, ?_⟩
    unfold queued
    rw [outbox]
    exact dequeue_queued

def settled (db : NativeRepository) (copy : MessageDto) (time seq status : Int)
    (before after : List IncomingContext) : Option NativeRepository :=
  ((db.copies copy before).commitAck copy.msgId time seq status).map fun acked =>
    acked.copies copy after

namespace NativeMessageRow

variable {later : NativeMessageRow} {seq time status : Int}

theorem Evolves.names_iff (evolves : row.Evolves later) (copy : MessageDto) :
    later.Names copy ↔ row.Names copy := by
  obtain ⟨_, conversation, peer, mine, type⟩ := evolves.identity
  simp only [Names, conversation, peer, mine, type]

theorem receive_evolves (row : NativeMessageRow) (copy : MessageDto) (others : List NativeMessageRow) :
    row.Evolves (row.receive copy others) := by
  by_cases accepts : row.Accepts copy others
  · have same : row.receive copy others = row.merged copy := if_pos accepts
    rw [same]
    exact merged_evolves row copy
  · have same : row.receive copy others = row := if_neg accepts
    rw [same]
    exact .refl row

theorem Free.congr {first second : NativeMessageRow} (free : first.Free others)
    (msgId : second.msgId = first.msgId) (peerId : second.peerId = first.peerId)
    (seq : second.conversationSeq = 0 ∨ second.conversationSeq = first.conversationSeq) :
    second.Free others := by
  intro other member
  have apart := free other member
  simp only [clashes, msgId, peerId, Bool.or_eq_false_iff, Bool.and_eq_false_iff,
    decide_eq_false_iff_not] at apart ⊢
  refine ⟨apart.1, ?_⟩
  rcases seq with none | same
  · exact .inr (by omega)
  · rw [same]
    exact apart.2

/-- The copies that an unnumbered row takes once an acknowledgement with this number is accepted: in
its name, with the same number or with none. -/
def Takes (row : NativeMessageRow) (copy : MessageDto) (seq : Int)
    (others : List NativeMessageRow) : Prop :=
  if 0 < seq then row.Names copy ∧ (copy.seq = 0 ∨ copy.seq = seq) else row.Accepts copy others

theorem acked_accepts (unnumbered : row.conversationSeq = 0)
    (free : (row.advance seq time status).Free others) :
    (row.advance seq time status).Accepts copy others ↔ row.Takes copy seq others := by
  unfold Takes
  by_cases positive : 0 < seq
  · rw [if_pos positive]
    have numbered : (row.advance seq time status).conversationSeq = seq := by
      simp [advance, unnumbered, positive]
    unfold Accepts
    rw [(advance_evolves row seq time status).names_iff, numbered]
    constructor
    · rintro ⟨names, agrees, _⟩
      exact ⟨names, by omega⟩
    · rintro ⟨names, agrees⟩
      refine ⟨names, by omega, free.congr rfl rfl (.inr ?_)⟩
      exact if_neg fun lacking => by
        have := numbered.symm.trans lacking.1
        omega
  · rw [if_neg positive]
    have unchanged : (row.advance seq time status).conversationSeq = 0 := by
      simp [advance, unnumbered, positive]
    unfold Accepts
    rw [(advance_evolves row seq time status).names_iff]
    have sameNumber : ((row.advance seq time status).merged copy).conversationSeq =
        (row.merged copy).conversationSeq := by
      simp [merged, advance, unnumbered, positive]
    have sameFree : ((row.advance seq time status).merged copy).Free others ↔
        (row.merged copy).Free others :=
      ⟨fun free => free.congr rfl rfl (.inr sameNumber.symm),
        fun free => free.congr rfl rfl (.inr sameNumber)⟩
    rw [unchanged, unnumbered, sameFree]

theorem unacked_accepts (unnumbered : row.conversationSeq = 0) (natural : 0 ≤ copy.seq)
    (free : ((row.receive copy others).advance seq time status).Free others)
    (agrees : (row.receive copy others).conversationSeq ≤ 0 ∨ seq = 0 ∨
      (row.receive copy others).conversationSeq = seq) :
    row.Accepts copy others ↔ row.Takes copy seq others := by
  unfold Takes
  by_cases positive : 0 < seq
  · rw [if_pos positive]
    by_cases accepts : row.Accepts copy others
    · have same : row.receive copy others = row.merged copy := if_pos accepts
      rw [same] at agrees
      have given : (row.merged copy).conversationSeq = if 0 < copy.seq then copy.seq else 0 := by
        simp [merged, advance, unnumbered]
      have agreed : copy.seq = 0 ∨ copy.seq = seq := by
        split at given <;> omega
      exact ⟨fun _ => ⟨accepts.1, agreed⟩, fun _ => accepts⟩
    · have same : row.receive copy others = row := if_neg accepts
      rw [same] at free
      have numbered : (row.advance seq time status).conversationSeq = seq := by
        simp [advance, unnumbered, positive]
      refine ⟨fun taken => absurd taken accepts, fun taken => ?_⟩
      refine ⟨taken.1, .inr (.inl unnumbered), free.congr rfl rfl ?_⟩
      rw [numbered]
      simp only [merged, advance, unnumbered, true_and]
      split <;> omega
  · rw [if_neg positive]

end NativeMessageRow

open Classical in
theorem settled_row {time seq status : Int} {before later : List IncomingContext}
    (holds : db.Holds copy.msgId row others) (unnumbered : row.conversationSeq = 0)
    (natural : 0 ≤ copy.seq) (ended : 0 < status)
    (accepted : db.settled copy time seq status before later = some after) :
    after.queued copy.msgId = none ∧ ∃ last, after.message copy.msgId = some last ∧
      row.Evolves last ∧
      last.conversationSeq = (if 0 < seq then seq
        else if (before ≠ [] ∨ later ≠ []) ∧ row.Takes copy seq others then copy.seq else 0) ∧
      last.media = if (before ≠ [] ∨ later ≠ []) ∧ row.Takes copy seq others then
        row.media.fill copy.media else row.media := by
  obtain ⟨acked, committed, rfl⟩ := Option.map_eq_some_iff.mp accepted
  have naturalAck := (commitAck_rows committed).1.2.2
  obtain ⟨holdsAcked, free, agrees, unqueued⟩ := (holds.copies before).acked ended committed
  have holdsLast := holdsAcked.copies later
  have known : (acked.message copy.msgId).isSome := by rw [holdsAcked.own]; rfl
  refine ⟨copies_queued unqueued copy later known, _, holdsLast.own, ?_, ?_⟩
  · have started : row.Evolves (if before = [] then row else row.receive copy others) := by
      split
      · exact .refl row
      · exact row.receive_evolves copy others
    refine (started.trans (NativeMessageRow.advance_evolves _ seq time status)).trans ?_
    generalize NativeMessageRow.advance _ seq time status = acked
    split
    · exact .refl acked
    · exact acked.receive_evolves copy others
  · by_cases first : before = []
    · simp only [first, if_true, ne_eq, not_true_eq_false, false_or] at free ⊢
      have accepts : (row.advance seq time status).Accepts copy others ↔ row.Takes copy seq others :=
        NativeMessageRow.acked_accepts unnumbered free
      by_cases noLater : later = []
      · simp only [noLater, if_true, not_true_eq_false, false_and, if_false]
        exact ⟨by simp [NativeMessageRow.advance, unnumbered], rfl⟩
      · simp only [noLater, if_false, not_false_eq_true, true_and]
        unfold NativeMessageRow.receive
        by_cases taken : row.Takes copy seq others
        · rw [if_pos (accepts.mpr taken), if_pos taken, if_pos taken]
          refine ⟨?_, rfl⟩
          simp only [NativeMessageRow.merged, NativeMessageRow.advance, unnumbered, true_and]
          split <;> split <;> omega
        · rw [if_neg fun accepted => taken (accepts.mp accepted), if_neg taken, if_neg taken]
          exact ⟨by simp [NativeMessageRow.advance, unnumbered], rfl⟩
    · simp only [first, if_false, ne_eq, not_false_eq_true, true_or, true_and] at free agrees ⊢
      have accepts : row.Accepts copy others ↔ row.Takes copy seq others :=
        NativeMessageRow.unacked_accepts unnumbered natural free agrees
      by_cases taken : row.Takes copy seq others
      · have same : row.receive copy others = row.merged copy := if_pos (accepts.mpr taken)
        rw [same] at free agrees ⊢
        rw [if_pos taken, if_pos taken]
        have given : (row.merged copy).conversationSeq = if 0 < copy.seq then copy.seq else 0 := by
          simp [NativeMessageRow.merged, NativeMessageRow.advance, unnumbered]
        have numbered : ((row.merged copy).advance seq time status).conversationSeq =
            if 0 < seq then seq else copy.seq := by
          simp only [NativeMessageRow.advance]
          split at given <;> split <;> split <;> omega
        by_cases noLater : later = []
        · rw [if_pos noLater]
          exact ⟨numbered, rfl⟩
        · rw [if_neg noLater]
          unfold NativeMessageRow.receive
          by_cases again : ((row.merged copy).advance seq time status).Accepts copy others
          · rw [if_pos again]
            refine ⟨?_, Media.fill_fill _ _⟩
            refine Eq.trans ?_ numbered
            refine if_neg fun lacking => ?_
            have zero := numbered.symm.trans lacking.1
            split at zero <;> omega
          · rw [if_neg again]
            exact ⟨numbered, rfl⟩
      · have same : row.receive copy others = row :=
          if_neg fun accepted => taken (accepts.mp accepted)
        rw [same] at free ⊢
        rw [if_neg taken, if_neg taken]
        have refused : ¬(row.advance seq time status).Accepts copy others := fun accepted =>
          taken ((NativeMessageRow.acked_accepts unnumbered free).mp accepted)
        have unchanged : (if later = [] then row.advance seq time status
            else (row.advance seq time status).receive copy others) =
              row.advance seq time status := by
          split
          · rfl
          · exact if_neg refused
        rw [unchanged]
        exact ⟨by simp [NativeMessageRow.advance, unnumbered], rfl⟩

theorem commitAck_isSome {time seq status : Int} (holds : db.Holds msgId row others) :
    (db.commitAck msgId time seq status).isSome ↔
      (0 ≤ status ∧ status ≤ 3 ∧ 0 ≤ seq) ∧
        (row.conversationSeq ≤ 0 ∨ seq = 0 ∨ row.conversationSeq = seq) ∧
        (row.advance seq time status).Free others := by
  have advanced := advanceMessage_isSome holds seq time status
  unfold commitAck
  split <;> rename_i range
  · simp only [Option.isSome_none, Bool.false_eq_true, false_iff]
    omega
  · simp only [holds.own]
    split <;> rename_i differs
    · simp only [Option.isSome_none, Bool.false_eq_true, false_iff]
      omega
    · rw [Option.isSome_map, advanced]
      constructor
      · exact fun free => ⟨by omega, by omega, free⟩
      · exact fun accepted => accepted.2.2

theorem settled_isSome {time seq status : Int} {before later : List IncomingContext}
    (holds : db.Holds copy.msgId row others) (unnumbered : row.conversationSeq = 0)
    (agreed : copy.seq = 0 ∨ copy.seq = seq) :
    (db.settled copy time seq status before later).isSome ↔
      (db.commitAck copy.msgId time seq status).isSome := by
  unfold settled
  rw [Option.isSome_map, commitAck_isSome (holds.copies before), commitAck_isSome holds]
  generalize startSame : (if before = [] then row else row.receive copy others) = start
  have started : start = row ∨ start = row.merged copy := by
    subst startSame
    unfold NativeMessageRow.receive
    split
    · exact .inl rfl
    · split
      · exact .inr rfl
      · exact .inl rfl
  obtain ⟨id, peer, seqs⟩ : start.msgId = row.msgId ∧ start.peerId = row.peerId ∧
      (start.conversationSeq = 0 ∨ start.conversationSeq = seq ∧ 0 < seq) := by
    rcases started with rfl | rfl
    · exact ⟨rfl, rfl, .inl unnumbered⟩
    · refine ⟨rfl, rfl, ?_⟩
      simp only [NativeMessageRow.merged, NativeMessageRow.advance, unnumbered, true_and]
      split <;> omega
  have sameNumber : (start.advance seq time status).conversationSeq =
      (row.advance seq time status).conversationSeq := by
    simp only [NativeMessageRow.advance, unnumbered, true_and]
    split <;> split <;> omega
  constructor
  · rintro ⟨range, _, free⟩
    exact ⟨range, by omega, free.congr id.symm peer.symm (.inr sameNumber.symm)⟩
  · rintro ⟨range, _, free⟩
    exact ⟨range, by omega, free.congr id peer (.inr sameNumber)⟩

def isDraft (db : NativeRepository) (m : MessageDto) : Prop :=
  m.fromMe = true ∧ m.seq = 0 ∧ m.status = 0 ∧ db.message m.msgId = none

theorem drafted_holds {m : MessageDto} {now order : Int} (fresh : db.isDraft m)
    (committed : db.commitOutgoingDraft m now = some (order, after)) :
    after.Holds m.msgId (.stored { m with localOrder := order })
      (after.messages.rows.filter fun row => row.msgId ≠ m.msgId) := by
  obtain ⟨_, ⟨_, known⟩ | ⟨_, _, rows, _⟩⟩ := commitOutgoingDraft_rows committed
  · simp [fresh.2.2.2] at known
  · refine ⟨message_eq_some.mpr ⟨?_, rfl⟩, rfl⟩
    rw [rows]
    exact List.mem_append_right _ (List.mem_singleton_self _)

end NativeRepository

/-- What the three writers make of one message. The acknowledgement may come at any point among the
copies: wherever it is accepted the message ends the same, and it is accepted everywhere or nowhere
when the copies do not carry another number. -/
theorem messageRow_merge (db : NativeRepository) :
    (∀ (calls : List MessageCall) (msgId : Bytes) (row : NativeMessageRow),
      db.message msgId = some row →
        ∃ later, (calls.foldl call db).message msgId = some later ∧ row.Evolves later) ∧
    ∀ (draft copy : MessageDto) (now order time seq status : Int) (drafted : NativeRepository)
      (before₁ after₁ before₂ after₂ : List IncomingContext),
      db.isDraft draft → db.commitOutgoingDraft draft now = some (order, drafted) →
      copy.msgId = draft.msgId → 0 ≤ copy.seq → 0 < status →
      before₁.length + after₁.length = before₂.length + after₂.length →
        (∀ first second, drafted.settled copy time seq status before₁ after₁ = some first →
          drafted.settled copy time seq status before₂ after₂ = some second →
            first.queued draft.msgId = none ∧ second.queued draft.msgId = none ∧
            ∃ row row', first.message draft.msgId = some row ∧
              second.message draft.msgId = some row' ∧
              row.conversationSeq = row'.conversationSeq ∧ row.media = row'.media ∧
              (row.conversationId = draft.conversationId ∧ row.peerId = draft.peerId ∧
                row.fromMe = draft.fromMe ∧ row.type = draft.type) ∧
              row'.conversationId = draft.conversationId ∧ row'.peerId = draft.peerId ∧
                row'.fromMe = draft.fromMe ∧ row'.type = draft.type) ∧
        (copy.seq = 0 ∨ copy.seq = seq →
          ((drafted.settled copy time seq status before₁ after₁).isSome ↔
            (drafted.settled copy time seq status before₂ after₂).isSome)) := by
  classical
  refine ⟨fun calls msgId row stored => calls_evolve calls stored, ?_⟩
  intro draft copy now order time seq status drafted before₁ after₁ before₂ after₂ fresh committed
    same natural ended lengths
  have holds := drafted_holds fresh committed
  rw [← same] at holds
  have unnumbered : (NativeMessageRow.stored { draft with localOrder := order }).conversationSeq = 0 :=
    fresh.2.1
  refine ⟨fun first second left right => ?_, fun agreed => ?_⟩
  · obtain ⟨unqueued, row, stored, evolves, number, media⟩ :=
      settled_row holds unnumbered natural ended left
    obtain ⟨unqueued', row', stored', evolves', number', media'⟩ :=
      settled_row holds unnumbered natural ended right
    have alike : (before₁ ≠ [] ∨ after₁ ≠ []) ↔ (before₂ ≠ [] ∨ after₂ ≠ []) := by
      simp only [ne_eq, ← List.length_eq_zero_iff]
      omega
    obtain ⟨_, conversation, peer, mine, type⟩ := evolves.identity
    obtain ⟨_, conversation', peer', mine', type'⟩ := evolves'.identity
    rw [← same]
    refine ⟨unqueued, unqueued', row, row', stored, stored', ?_, ?_,
      ⟨conversation, peer, mine, type⟩, conversation', peer', mine', type'⟩
    · rw [number, number']
      exact if_congr Iff.rfl rfl (if_congr (and_congr_left' alike) rfl rfl)
    · rw [media, media']
      exact if_congr (and_congr_left' alike) rfl rfl
  · rw [settled_isSome holds unnumbered agreed, settled_isSome holds unnumbered agreed]

def hello : MessageDto :=
  { msgId := ascii "m", conversationId := 2, peerId := 2, fromMe := true, content := ascii "hi" }

def helloEcho : MessageDto := { hello with seq := 7, ts := 5, status := 1 }

def helloDrafted : NativeRepository := ({} : NativeRepository).call (.commitOutgoingDraft hello 9)

/-- The echo comes before or after the acknowledgement. -/
theorem messageRow_merge_echo :
    ∃ first second, helloDrafted.settled helloEcho 0 7 1 [{}] [] = some first ∧
      helloDrafted.settled helloEcho 0 7 1 [] [{}] = some second ∧
      first.queued hello.msgId = none ∧ second.queued hello.msgId = none := by
  obtain ⟨first, before⟩ := Option.isSome_iff_exists.mp
    (by decide : (helloDrafted.settled helloEcho 0 7 1 [{}] []).isSome)
  obtain ⟨second, after⟩ := Option.isSome_iff_exists.mp
    (by decide : (helloDrafted.settled helloEcho 0 7 1 [] [{}]).isSome)
  have same := (messageRow_merge {}).2 hello helloEcho 9 1 0 7 1 helloDrafted [{}] [] [] [{}]
    ⟨rfl, rfl, rfl, rfl⟩ rfl rfl (by decide) (by decide) rfl
  obtain ⟨unqueued, unqueued', _⟩ := same.1 first second before after
  exact ⟨first, second, before, after, unqueued, unqueued'⟩

end Jitong
