import Jitong.GapRepair
import Jitong.ImportedIdentity
import Jitong.MessageMerge

/-!
The live path after a copy: what the server delivers is stored under the id of the peer, and not
under the id that the Room database and the screens give its conversation.
-/

namespace Jitong

open Jitong.Lib NativeRepository MigrationImporter

structure DeliveredMessage extends ChatProtocolMessage where
  serverTime : Int
  type : Int
  content : Bytes
  media : Media := {}
  deriving DecidableEq

/-- The row that `ClientRuntime::storeProtocolMessage` makes of a message. -/
def DeliveredMessage.toDto (ownerId : Int32) (p : DeliveredMessage) : MessageDto where
  msgId := p.msgId
  conversationId := p.peer ownerId.toInt
  peerId := p.peer ownerId.toInt
  fromMe := p.fromId = ownerId.toInt
  seq := p.conversationSeq
  ts := p.serverTime
  type := p.type
  content := p.content
  status := if p.fromId = ownerId.toInt then 1 else 2
  media := p.media

def DeliveredMessage.CopyOf (ownerId : Int32) (row : NativeMessageRow) (p : DeliveredMessage) :
    Prop :=
  p.msgId = row.msgId ∧
    (if row.fromMe then p.fromId = ownerId.toInt ∧ p.toId = row.peerId
      else p.fromId = row.peerId ∧ p.toId = ownerId.toInt) ∧
    p.type = row.type ∧ p.content = row.content ∧
    (row.conversationSeq = 0 ∨ p.conversationSeq = row.conversationSeq)

instance (ownerId : Int32) (row : NativeMessageRow) (p : DeliveredMessage) :
    Decidable (p.CopyOf ownerId row) :=
  inferInstanceAs (Decidable (p.msgId = row.msgId ∧
    (if row.fromMe then p.fromId = ownerId.toInt ∧ p.toId = row.peerId
      else p.fromId = row.peerId ∧ p.toId = ownerId.toInt) ∧
    p.type = row.type ∧ p.content = row.content ∧
    (row.conversationSeq = 0 ∨ p.conversationSeq = row.conversationSeq)))

namespace NativeRepository

def storeProtocolMessage (db : NativeRepository) (ownerId : Int32) (p : DeliveredMessage)
    (roaming : Bool) : Option (Bool × NativeRepository) :=
  if p.accepted ownerId.toInt then db.mergeIncoming (p.toDto ownerId) { isRoaming := roaming }
  else none

/-- What writes messages after a copy: the server, the screens and the acknowledgements. A chat is
opened from a contact, from the list of conversations or from a message that was found. -/
inductive LaterCall
  | deliver (p : DeliveredMessage) (roaming : Bool)
  | sendToContact (peerId : Int32) (m : MessageDto) (now : Int)
  | sendInConversation (conversationId : Int) (m : MessageDto) (now : Int)
  | sendAfterSearch (found : Bytes) (m : MessageDto) (now : Int)
  | commitAck (msgId : Bytes) (serverTime conversationSeq status : Int)
  | markConversationRead (conversationId readSeq : Int)

def send (db : NativeRepository) (m : MessageDto) (now conversationId peerId : Int) :
    NativeRepository :=
  db.call (.commitOutgoingDraft { m with conversationId := conversationId, peerId := peerId } now)

def later (ownerId : Int32) (db : NativeRepository) : LaterCall → NativeRepository
  | .deliver p roaming => ((db.storeProtocolMessage ownerId p roaming).map Prod.snd).getD db
  | .sendToContact peerId m now =>
      match ChatStore.conversationId ownerId peerId with
      | none => db
      | some id => db.send m now id peerId.toInt
  | .sendInConversation conversationId m now =>
      match db.conversation conversationId with
      | none => db
      | some row => db.send m now row.conversationId row.peerId
  | .sendAfterSearch found m now =>
      match db.message found with
      | none => db
      | some row => db.send m now row.conversationId row.peerId
  | .commitAck msgId serverTime conversationSeq status =>
      db.call (.commitAck msgId serverTime conversationSeq status)
  | .markConversationRead conversationId readSeq => db.markConversationRead conversationId readSeq

def laterAll (ownerId : Int32) (db : NativeRepository) (calls : List LaterCall) : NativeRepository :=
  calls.foldl (later ownerId) db

/-- Imported and live copies agree: after any traffic the copy of an imported message is taken for
its row, and a new message of its peer is stored in its conversation, which is shown. -/
structure AgreesOnIdentity (ownerId : Int32) (copied : NativeRepository) : Prop where
  copies : ∀ row ∈ copied.messages.rows, ∀ (calls : List LaterCall) (current : NativeMessageRow),
    (laterAll ownerId copied calls).message row.msgId = some current →
    ∀ (p : DeliveredMessage) (roaming : Bool), p.CopyOf ownerId current →
      p.accepted ownerId.toInt = true →
      ∃ after stored, (laterAll ownerId copied calls).storeProtocolMessage ownerId p roaming =
          some (false, after) ∧
        after.message row.msgId = some stored ∧ stored.conversationId = row.conversationId
  fresh : ∀ row ∈ copied.messages.rows, ∀ (calls : List LaterCall) (p : DeliveredMessage)
    (roaming : Bool), p.accepted ownerId.toInt = true → p.peer ownerId.toInt = row.peerId →
    (∀ other ∈ (laterAll ownerId copied calls).messages.rows, other.msgId ≠ p.msgId ∧
      (other.peerId = row.peerId → other.conversationSeq ≠ p.conversationSeq)) →
      ∃ after stored, (laterAll ownerId copied calls).storeProtocolMessage ownerId p roaming =
          some (true, after) ∧
        after.message p.msgId = some stored ∧ stored.conversationId = row.conversationId ∧
        (after.conversation row.conversationId).isSome = true

/-! The peers of the conversations. -/

variable {ownerId : Int32} {db after : NativeRepository} {m : MessageDto} {ctx : IncomingContext}

def AddsPeer (db after : NativeRepository) (conversationId peerId : Int) : Prop :=
  ∀ id, after.peerOf id = db.peerOf id ∨
    db.peerOf id = none ∧ id = conversationId ∧ after.peerOf id = some peerId

theorem peerOf_map {revise : ConversationRow → ConversationRow} {id : Int}
    (revised : after.conversation id = (db.conversation id).map revise)
    (keeps : ∀ row, (revise row).peerId = row.peerId) : after.peerOf id = db.peerOf id := by
  unfold peerOf
  rw [revised, Option.map_map]
  refine congrArg (fun view => Option.map view (db.conversation id)) ?_
  funext row
  exact keeps row

theorem finishProjection_peerOf (draft : Bool) (now id : Int) :
    (db.finishProjection m draft ctx now).peerOf id = db.peerOf id := by
  refine peerOf_map (finishProjection_conversation draft now id) fun row => ?_
  unfold ConversationRow.projected
  simp only [apply_ite ConversationRow.peerId, ite_self]

theorem peerOf_congr {id : Int} (same : after.conversations = db.conversations) :
    after.peerOf id = db.peerOf id := by
  unfold peerOf
  rw [conversation_congr same]

theorem mergeIncoming_peerOf {new : Bool} (merged : db.mergeIncoming m ctx = some (new, after)) :
    AddsPeer db after m.conversationId m.peerId := by
  intro id
  obtain ⟨_, _, advanced, _, same, projected⟩ | ⟨_, _, inserted, counted, _, same, counts,
    projected⟩ := mergeIncoming_conversations merged
  · refine .inl ?_
    rw [peerOf_congr projected, finishProjection_peerOf, peerOf_congr same]
  · rw [peerOf_congr projected, finishProjection_peerOf]
    have row := countIncoming_conversation counts id
    rw [← peerOf_congr same]
    unfold peerOf
    rw [row]
    split
    · rename_i own
      cases known : inserted.conversation id with
      | none => exact .inr ⟨rfl, own, rfl⟩
      | some known => exact .inl rfl
    · exact .inl rfl

theorem showDraft_peerOf (shown : db.showDraft m = some after) :
    AddsPeer db after m.conversationId m.peerId := by
  intro id
  unfold showDraft at shown
  split at shown
  · obtain rfl := Option.some.inj shown
    refine .inl (peerOf_map (conversation_map rfl (fun row => ?_) id) fun row => ?_)
    · split <;> rfl
    · split <;> rfl
  · obtain ⟨conversations, inserted, rfl⟩ := Option.map_eq_some_iff.mp shown
    have rows := (Table.insert_eq_some inserted).1
    unfold peerOf conversation
    dsimp only
    rw [rows, List.find?_append]
    cases known : db.conversations.rows.find? (fun row => row.conversationId = id) with
    | some row => exact .inl rfl
    | none =>
        by_cases own : m.conversationId = id
        · refine .inr ⟨rfl, own.symm, ?_⟩
          simp [own]
        · refine .inl ?_
          simp [own]

theorem commitOutgoingDraft_peerOf {now order : Int}
    (committed : db.commitOutgoingDraft m now = some (order, after)) :
    AddsPeer db after m.conversationId m.peerId := by
  unfold commitOutgoingDraft at committed
  split at committed
  · exact nomatch committed
  · split at committed
    · obtain ⟨_, rfl⟩ := Prod.mk.inj (Option.some.inj committed)
      exact fun _ => .inl rfl
    · simp only [Option.bind_eq_bind, Option.bind_eq_some_iff] at committed
      obtain ⟨number, _, committed⟩ := committed
      split at committed
      · exact nomatch committed
      · simp only [Option.bind_eq_some_iff] at committed
        obtain ⟨messages, _, outbox, _, shown, shows, same⟩ := committed
        obtain ⟨_, rfl⟩ := Prod.mk.inj (Option.some.inj same)
        intro id
        rw [finishProjection_peerOf]
        exact showDraft_peerOf shows id

theorem commitAck_peerOf {msgId : Bytes} {time seq status : Int}
    (committed : db.commitAck msgId time seq status = some after) (id : Int) :
    after.peerOf id = db.peerOf id := by
  unfold commitAck at committed
  split at committed
  · cases committed
  · split at committed
    · obtain rfl := Option.some.inj committed
      rfl
    · split at committed
      · cases committed
      · obtain ⟨advanced, advances, same⟩ := Option.map_eq_some_iff.mp committed
        have kept := (advanceMessage_rows advances).2.2
        subst same
        rw [← peerOf_congr kept]
        split
        · refine peerOf_map (conversation_map rfl (fun row => ?_) id) fun row => ?_
          · split <;> rfl
          · split <;> rfl
        · rfl

theorem markConversationRead_peerOf (conversationId readSeq id : Int) :
    (db.markConversationRead conversationId readSeq).peerOf id = db.peerOf id := by
  refine peerOf_map (conversation_map rfl (fun row => ?_) id) fun row => ?_
  · split <;> rfl
  · split <;> rfl

/-! The traffic after a copy. -/

def NamedBy (ownerId : Int32) (conversationId peer : Int) : Prop :=
  Packed ownerId conversationId peer ∨ conversationId = peer

structure LiveNamed (ownerId : Int32) (db : NativeRepository) : Prop where
  messages : ∀ row ∈ db.messages.rows, NamedBy ownerId row.conversationId row.peerId
  conversations : ∀ id peer, db.peerOf id = some peer → NamedBy ownerId id peer

theorem Imported.liveNamed (imported : db.Imported ownerId) : db.LiveNamed ownerId :=
  ⟨fun row stored => .inl (imported.messages row.msgId row (message_eq_some.mpr ⟨stored, rfl⟩)).1,
    fun id peer found => .inl (imported.conversations id peer found)⟩

theorem AddsPeer.kept {conversationId peerId id peer : Int}
    (adds : AddsPeer db after conversationId peerId) (found : db.peerOf id = some peer) :
    after.peerOf id = some peer := by
  obtain same | ⟨unknown, _, _⟩ := adds id
  · exact same.trans found
  · exact nomatch unknown.symm.trans found

theorem AddsPeer.named {conversationId peerId : Int} (adds : AddsPeer db after conversationId peerId)
    (own : NamedBy ownerId conversationId peerId) (live : db.LiveNamed ownerId) (id peer : Int)
    (found : after.peerOf id = some peer) : NamedBy ownerId id peer := by
  obtain same | ⟨_, rfl, added⟩ := adds id
  · exact live.conversations id peer (same ▸ found)
  · obtain rfl := Option.some.inj (added.symm.trans found)
    exact own

def callNamed (ownerId : Int32) : MessageCall → Prop
  | .commitOutgoingDraft m _ => NamedBy ownerId m.conversationId m.peerId
  | .mergeIncoming m _ => NamedBy ownerId m.conversationId m.peerId
  | .commitAck _ _ _ _ => True

theorem mapped_named (live : db.LiveNamed ownerId) {revise : NativeMessageRow → NativeMessageRow}
    (rows : after.messages.rows = db.messages.rows.map revise)
    (evolves : ∀ row : NativeMessageRow, row.Evolves (revise row)) :
    ∀ row ∈ after.messages.rows, NamedBy ownerId row.conversationId row.peerId := by
  intro row stored
  rw [rows] at stored
  obtain ⟨old, member, rfl⟩ := List.mem_map.mp stored
  obtain ⟨_, conversation, peer, _⟩ := (evolves old).identity
  rw [conversation, peer]
  exact live.messages old member

theorem appended_named (live : db.LiveNamed ownerId) {added : NativeMessageRow}
    (rows : after.messages.rows = db.messages.rows ++ [added])
    (own : NamedBy ownerId added.conversationId added.peerId) :
    ∀ row ∈ after.messages.rows, NamedBy ownerId row.conversationId row.peerId := by
  intro row stored
  rw [rows] at stored
  rcases List.mem_append.mp stored with old | new
  · exact live.messages row old
  · obtain rfl := List.mem_singleton.mp new
    exact own

theorem call_named (live : db.LiveNamed ownerId) {call : MessageCall} (own : callNamed ownerId call) :
    (db.call call).LiveNamed ownerId ∧
      ∀ id peer, db.peerOf id = some peer → (db.call call).peerOf id = some peer := by
  have same : db.LiveNamed ownerId ∧ ∀ id peer, db.peerOf id = some peer → db.peerOf id = some peer :=
    ⟨live, fun _ _ found => found⟩
  cases call with
  | commitOutgoingDraft m now =>
      cases committed : db.commitOutgoingDraft m now with
      | none =>
          simpa only [NativeRepository.call, committed, Option.map_none, Option.getD_none] using same
      | some result =>
          obtain ⟨order, after⟩ := result
          simp only [NativeRepository.call, committed, Option.map_some, Option.getD_some]
          have adds := commitOutgoingDraft_peerOf committed
          obtain ⟨_, ⟨rfl, _⟩ | ⟨_, _, rows, _⟩⟩ := commitOutgoingDraft_rows committed
          · exact same
          · exact ⟨⟨appended_named live rows own, adds.named own live⟩, fun _ _ => adds.kept⟩
  | commitAck id time seq status =>
      cases committed : db.commitAck id time seq status with
      | none => simpa only [NativeRepository.call, committed, Option.getD_none] using same
      | some after =>
          simp only [NativeRepository.call, committed, Option.getD_some]
          have peers := commitAck_peerOf committed
          obtain ⟨_, ⟨_, rfl⟩ | ⟨_, _, _, _, rows, _⟩⟩ := commitAck_rows committed
          · exact same
          · refine ⟨⟨mapped_named live rows fun row => ?_, fun id peer found => ?_⟩,
              fun id peer found => (peers id).trans found⟩
            · split
              · exact NativeMessageRow.advance_evolves row seq time status
              · exact .refl row
            · exact live.conversations id peer ((peers id) ▸ found)
  | mergeIncoming m ctx =>
      cases merged : db.mergeIncoming m ctx with
      | none =>
          simpa only [NativeRepository.call, merged, Option.map_none, Option.getD_none] using same
      | some result =>
          obtain ⟨new, after⟩ := result
          simp only [NativeRepository.call, merged, Option.map_some, Option.getD_some]
          have adds := mergeIncoming_peerOf merged
          refine ⟨⟨?_, adds.named own live⟩, fun _ _ => adds.kept⟩
          obtain ⟨_, ⟨_, _, rows, _⟩ | ⟨_, _, rows, _⟩⟩ := mergeIncoming_rows merged
          · refine mapped_named live rows fun row => ?_
            split
            · exact NativeMessageRow.merged_evolves row m
            · exact .refl row
          · exact appended_named live rows own

theorem later_cases (live : db.LiveNamed ownerId) (made : LaterCall) :
    later ownerId db made = db ∨
      (∃ call, callNamed ownerId call ∧ later ownerId db made = db.call call) ∨
      ∃ conversationId readSeq,
        later ownerId db made = db.markConversationRead conversationId readSeq := by
  cases made with
  | deliver p roaming =>
      simp only [later, storeProtocolMessage]
      split
      · refine .inr (.inl ⟨.mergeIncoming (p.toDto ownerId) { isRoaming := roaming }, ?_, rfl⟩)
        exact Or.inr rfl
      · exact .inl rfl
  | sendToContact peerId m now =>
      simp only [later]
      split
      · exact .inl rfl
      · rename_i id packed
        refine .inr (.inl ⟨.commitOutgoingDraft
          { m with conversationId := id, peerId := peerId.toInt } now, ?_, rfl⟩)
        exact Or.inl ⟨peerId, rfl, packed⟩
  | sendInConversation conversationId m now =>
      simp only [later]
      split
      · exact .inl rfl
      · rename_i row found
        refine .inr (.inl ⟨.commitOutgoingDraft
          { m with conversationId := row.conversationId, peerId := row.peerId } now, ?_, rfl⟩)
        refine live.conversations row.conversationId row.peerId ?_
        unfold peerOf
        rw [(conversation_eq_some.mp found).2, found]
        rfl
  | sendAfterSearch found m now =>
      simp only [later]
      split
      · exact .inl rfl
      · rename_i row stored
        refine .inr (.inl ⟨.commitOutgoingDraft
          { m with conversationId := row.conversationId, peerId := row.peerId } now, ?_, rfl⟩)
        exact live.messages row (message_eq_some.mp stored).1
  | commitAck msgId time seq status =>
      exact .inr (.inl ⟨.commitAck msgId time seq status, trivial, rfl⟩)
  | markConversationRead conversationId readSeq => exact .inr (.inr ⟨_, _, rfl⟩)

theorem later_kept (live : db.LiveNamed ownerId) (made : LaterCall) :
    (later ownerId db made).LiveNamed ownerId ∧
      (∀ id peer, db.peerOf id = some peer → (later ownerId db made).peerOf id = some peer) ∧
      ∀ msgId row, db.message msgId = some row →
        ∃ now, (later ownerId db made).message msgId = some now ∧ row.Evolves now := by
  obtain same | ⟨call, own, same⟩ | ⟨conversationId, readSeq, same⟩ := later_cases live made
  · rw [same]
    exact ⟨live, fun _ _ found => found, fun _ row stored => ⟨row, stored, .refl row⟩⟩
  · rw [same]
    obtain ⟨named, peers⟩ := call_named live own
    exact ⟨named, peers, fun _ _ stored => call_evolves call stored⟩
  · rw [same]
    have peers := @markConversationRead_peerOf db conversationId readSeq
    exact ⟨⟨live.messages, fun id peer found => live.conversations id peer ((peers id) ▸ found)⟩,
      fun id peer found => (peers id).trans found, fun _ row stored => ⟨row, stored, .refl row⟩⟩

theorem laterAll_kept (live : db.LiveNamed ownerId) (calls : List LaterCall) :
    (laterAll ownerId db calls).LiveNamed ownerId ∧
      (∀ id peer, db.peerOf id = some peer → (laterAll ownerId db calls).peerOf id = some peer) ∧
      ∀ msgId row, db.message msgId = some row →
        ∃ now, (laterAll ownerId db calls).message msgId = some now ∧ row.Evolves now := by
  induction calls generalizing db with
  | nil => exact ⟨live, fun _ _ found => found, fun _ row stored => ⟨row, stored, .refl row⟩⟩
  | cons call rest ih =>
      obtain ⟨named, peers, messages⟩ := later_kept live call
      obtain ⟨onward, peersOnward, messagesOnward⟩ := ih named
      refine ⟨onward, fun id peer found => peersOnward id peer (peers id peer found), ?_⟩
      intro msgId row stored
      obtain ⟨next, storedNext, evolves⟩ := messages msgId row stored
      obtain ⟨last, storedLast, evolvesLast⟩ := messagesOnward msgId next storedNext
      exact ⟨last, storedLast, evolves.trans evolvesLast⟩

/-! The refusals. -/

theorem copy_refused {row : NativeMessageRow} {msgId : Bytes} {p : DeliveredMessage} {roaming : Bool}
    (stored : db.message msgId = some row) (packed : Packed ownerId row.conversationId row.peerId)
    (copy : p.CopyOf ownerId row) : db.storeProtocolMessage ownerId p roaming = none := by
  obtain ⟨sameId, parties, _⟩ := copy
  have named := (message_eq_some.mp stored).2
  have peer : p.peer ownerId.toInt = row.peerId := by
    unfold ChatProtocolMessage.peer
    split at parties <;> split <;> omega
  have apart := packed_bounds packed
  have other : db.compatibleIdentity (p.toDto ownerId) = false := by
    have found : db.message (p.toDto ownerId).msgId = some row := by
      rw [show (p.toDto ownerId).msgId = msgId from sameId.trans named]
      exact stored
    have differs : row.conversationId ≠ (p.toDto ownerId).conversationId := by
      change row.conversationId ≠ p.peer ownerId.toInt
      omega
    simp [compatibleIdentity, found, differs]
  unfold storeProtocolMessage mergeIncoming
  simp [other]

theorem fresh_refused {id peer : Int} {p : DeliveredMessage} {roaming : Bool}
    (live : db.LiveNamed ownerId) (packed : Packed ownerId id peer) (shown : db.peerOf id = some peer)
    (own : p.peer ownerId.toInt = peer) (fresh : db.message p.msgId = none) :
    db.storeProtocolMessage ownerId p roaming = none := by
  obtain ⟨row, found, rfl⟩ := Option.map_eq_some_iff.mp shown
  obtain ⟨member, rfl⟩ := conversation_eq_some.mp found
  have bounds := packed_above packed
  have unknown : db.conversation (p.peer ownerId.toInt) = none := by
    refine Option.eq_none_iff_forall_ne_some.mpr fun other stored => ?_
    obtain ⟨listed, named⟩ := conversation_eq_some.mp stored
    have peers : db.peerOf (p.peer ownerId.toInt) = some other.peerId := by
      unfold peerOf
      rw [stored]
      rfl
    obtain wide | same := live.conversations _ _ peers
    · have above := packed_above wide
      omega
    · have clash : other.clashes row = true := by
        simp [ConversationRow.clashes, ← same, own]
      have equal := db.conversations.eq_of_clash ConversationRow.clashes_comm listed member clash
      rw [equal] at named
      omega
  unfold storeProtocolMessage
  split
  · refine Option.eq_none_iff_forall_ne_some.mpr fun result merged => ?_
    obtain ⟨new, after⟩ := result
    obtain ⟨_, known, _⟩ | ⟨_, _, inserted, counted, _, same, counts, _⟩ :=
      mergeIncoming_conversations merged
    · rw [show db.message (p.toDto ownerId).msgId = none from fresh] at known
      exact nomatch known
    · unfold countIncoming at counts
      have missing : inserted.conversation (p.toDto ownerId).conversationId = none :=
        (conversation_congr same).trans unknown
      rw [missing, Option.isSome_none, if_neg Bool.false_ne_true] at counts
      obtain ⟨conversations, added, _⟩ := Option.map_eq_some_iff.mp counts
      have apart := (Table.insert_eq_some added).2 row (same ▸ member)
      have samePeer : row.peerId = (p.toDto ownerId).peerId := own.symm
      simp [ConversationRow.clashes, samePeer] at apart
  · rfl

theorem Imported.refused (imported : db.Imported ownerId) {row : NativeMessageRow}
    (member : row ∈ db.messages.rows) (calls : List LaterCall) (p : DeliveredMessage) (roaming : Bool)
    (delivered : (∃ current, (laterAll ownerId db calls).message row.msgId = some current ∧
        p.CopyOf ownerId current) ∨
      p.peer ownerId.toInt = row.peerId ∧ (laterAll ownerId db calls).message p.msgId = none) :
    (laterAll ownerId db calls).storeProtocolMessage ownerId p roaming = none := by
  have stored := message_eq_some.mpr ⟨member, rfl⟩
  obtain ⟨packed, shown⟩ := imported.messages row.msgId row stored
  obtain ⟨live, peers, messages⟩ := laterAll_kept imported.liveNamed calls
  obtain ⟨current, now, copy⟩ | ⟨own, fresh⟩ := delivered
  · obtain ⟨same, found, evolves⟩ := messages row.msgId row stored
    obtain rfl := Option.some.inj (now.symm.trans found)
    obtain ⟨_, conversation, peer, _⟩ := evolves.identity
    refine copy_refused now ?_ copy
    rw [conversation, peer]
    exact packed
  · exact fresh_refused live packed (peers _ _ shown) own fresh

theorem exists_fresh (imported : db.Imported ownerId) {row : NativeMessageRow}
    (member : row ∈ db.messages.rows) : ∃ p : DeliveredMessage, p.accepted ownerId.toInt = true ∧
      p.peer ownerId.toInt = row.peerId ∧ ∀ other ∈ db.messages.rows, other.msgId ≠ p.msgId ∧
        (other.peerId = row.peerId → other.conversationSeq ≠ p.conversationSeq) := by
  have packed := (imported.messages row.msgId row (message_eq_some.mpr ⟨member, rfl⟩)).1
  have positive := (packed_bounds packed).1
  obtain ⟨msgId, free⟩ := Infinite.exists_notMem_finset
    ([] :: db.messages.rows.map (·.msgId)).toFinset
  obtain ⟨seq, unused⟩ := Infinite.exists_notMem_finset
    (0 :: db.messages.rows.map (·.conversationSeq.toNat)).toFinset
  simp only [List.mem_toFinset, List.mem_cons, List.mem_map, not_or, not_exists, not_and] at free unused
  have peer : ChatProtocolMessage.peer ownerId.toInt
      ⟨row.peerId, ownerId.toInt, msgId, (seq : Int)⟩ = row.peerId := by
    unfold ChatProtocolMessage.peer
    split
    · rename_i own
      exact own.symm
    · rfl
  refine ⟨{ fromId := row.peerId
            toId := ownerId.toInt
            msgId := msgId
            conversationSeq := seq
            serverTime := 0
            type := 0
            content := [] }, ?_, peer, fun other stored => ⟨?_, fun _ same => ?_⟩⟩
  · have receiver : (if row.peerId = ownerId.toInt then row.peerId else ownerId.toInt) =
        ownerId.toInt := by
      split
      · rename_i own
        exact own
      · rfl
    have number : 0 < seq := Nat.pos_of_ne_zero unused.1
    unfold ChatProtocolMessage.accepted
    rw [peer]
    simp [receiver, positive, free.1, number]
  · exact free.2 other stored
  · have apart := unused.2 other stored
    dsimp only at same
    omega

end NativeRepository

/-- After a complete copy imported and live messages agree exactly where there was no message to
copy: the live path refuses every copy of an imported message and every new one of its peer. -/
theorem identities_agree_iff {pinyin : ChatStore.PinyinIndex} {ownerId : Int32} {room : ChatStore}
    (formed : room.WellFormed pinyin ownerId) {events : List CutoverEvent} {final : Cutover}
    (reached : events.foldlM (Cutover.step pinyin ownerId) (Cutover.start room) = some final)
    (complete : final.caughtUp = true) :
    (AgreesOnIdentity ownerId final.native.db ↔ final.room.messages.rows = []) ∧
      ∀ row ∈ final.native.db.messages.rows, ∀ (calls : List LaterCall) (p : DeliveredMessage)
        (roaming : Bool),
        (∃ current, (laterAll ownerId final.native.db calls).message row.msgId = some current ∧
            p.CopyOf ownerId current) ∨
          p.peer ownerId.toInt = row.peerId ∧
            (laterAll ownerId final.native.db calls).message p.msgId = none →
        (laterAll ownerId final.native.db calls).storeProtocolMessage ownerId p roaming = none := by
  obtain ⟨_, imported, represented⟩ := Cutover.copied formed reached
  refine ⟨?_, fun row member calls p roaming => imported.refused member calls p roaming⟩
  rw [← represented.complete complete]
  constructor
  · intro agrees
    refine List.eq_nil_iff_forall_not_mem.mpr fun row member => ?_
    obtain ⟨p, accepted, own, free⟩ := exists_fresh imported member
    obtain ⟨_, _, taken, _⟩ := agrees.fresh row member [] p false accepted own free
    have unknown : (laterAll ownerId final.native.db []).message p.msgId = none :=
      message_eq_none.mpr fun other stored => (free other stored).1
    rw [imported.refused member [] p false (.inr ⟨own, unknown⟩)] at taken
    exact nomatch taken
  · intro bare
    exact ⟨fun row member => absurd (bare ▸ member) List.not_mem_nil,
      fun row member => absurd (bare ▸ member) List.not_mem_nil⟩

def oldText : ChatStoreCall :=
  .insertWithFts { msgId := [97], peerId := 2, fromMe := false, text := [104, 105], ts := 5, seq := 3 } []

def oldTextAgain : DeliveredMessage where
  fromId := 2
  toId := 1
  msgId := [97]
  conversationSeq := 3
  serverTime := 5
  type := 0
  content := [104, 105]

def copyEvents : List CutoverEvent := [.page, .page, .changes]

/-- The copy of `oldText`, from the database that it was saved in. -/
def oldTextCopied : Option Cutover :=
  copyEvents.foldlM (Cutover.step (fun text => (text, text)) 1)
    (Cutover.start (({} : ChatStore).call (fun text => (text, text)) 1 oldText))

theorem oldTextCopied_run : oldTextCopied.map (fun final => (final.caughtUp,
    (final.native.db.message oldTextAgain.msgId).any fun row => oldTextAgain.CopyOf 1 row,
    (final.native.db.storeProtocolMessage 1 oldTextAgain false).isNone)) = some (true, true, true) := by
  decide +kernel

/-- The text is refused when the server delivers it again. -/
theorem oldText_disagrees : ∃ final, oldTextCopied = some final ∧ final.caughtUp = true ∧
    ¬AgreesOnIdentity 1 final.native.db := by
  obtain ⟨final, reached, views⟩ := Option.map_eq_some_iff.mp oldTextCopied_run
  simp only [Prod.mk.injEq] at views
  obtain ⟨complete, known, refused⟩ := views
  refine ⟨final, reached, complete, fun agrees => ?_⟩
  obtain ⟨row, stored, copy⟩ := (Option.any_eq_true _ _).mp known
  have copy := of_decide_eq_true copy
  obtain ⟨member, named⟩ := message_eq_some.mp stored
  rw [← named] at stored
  obtain ⟨after, _, taken, _⟩ := agrees.copies row member [] row stored oldTextAgain false copy
    (by decide)
  have taken : final.native.db.storeProtocolMessage 1 oldTextAgain false = some (false, after) :=
    taken
  rw [taken] at refused
  exact nomatch refused

theorem identities_agree_iff_oldText : ∃ final, oldTextCopied = some final ∧
    (AgreesOnIdentity 1 final.native.db ↔ final.room.messages.rows = []) := by
  obtain ⟨final, reached, views⟩ := Option.map_eq_some_iff.mp oldTextCopied_run
  simp only [Prod.mk.injEq] at views
  exact ⟨final, reached, (identities_agree_iff ((ChatStore.empty_wellFormed _ 1).call oldText) reached
    views.1).1⟩

end Jitong
