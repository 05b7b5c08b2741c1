import Jitong.MessageHandler

/-!
What an acknowledgement says about the table: when the row with the
acknowledged message id is the message that was sent.
-/

namespace Jitong

def MsgType.named : MsgType → Bool
  | .unrecognized _ => false
  | _ => true

namespace Server

/-- The number in the `type` column stands for the type of a request. -/
def storesType (type : MsgType) (column : Int32) : Prop :=
  column = chatType type ∧ type.named = true

instance (type : MsgType) (column : Int32) : Decidable (storesType type column) :=
  inferInstanceAs (Decidable (_ ∧ _))

def StoredAsSent (after : Server) (userId : Int32) (rq : ChatInfoRq) (rs : ChatInfoRs) : Prop :=
  ∃ row ∈ after.messages.rows, row.columns.msgId.bytes = rs.msgId ∧
    row.columns.senderId = userId ∧ row.columns.receiverId = rq.friid ∧
    storesType rq.type row.columns.type ∧ row.columns.content.bytes = chatContent rq ∧
    row.columns.seq = rs.seq

def Storable (crypto : Crypto) (now : Int) (before : Server) (userId : Int32)
    (rq : ChatInfoRq) : Prop :=
  let msgId := before.chosenMsgId crypto now userId rq
  (0 : UInt8) ∉ msgId ∧
  match before.messages.findByMsgId msgId with
  | none => (0 : UInt8) ∉ chatContent rq ∧ rq.type.named = true
  | some row =>
      row.columns.senderId = userId ∧ row.columns.receiverId = rq.friid ∧
      storesType rq.type row.columns.type ∧ row.columns.content.bytes = chatContent rq

/-- An acknowledged message is the stored one exactly when its texts have no NUL
byte and its id was not taken by another message. -/
theorem onChat_stored_iff {crypto : Crypto} {env : Env} {server : Server} {conn : ConnId}
    {session : Session} {rq : ChatInfoRq} {rs : ChatInfoRs}
    (live : server.sessions conn = some session)
    (answered : .chatInfoRs rs ∈ server.deliveredSince (server.onChat crypto env conn rq) conn)
    (success : rs.result = chatResultSucc ∨ rs.result = chatResultFail) :
    StoredAsSent (server.onChat crypto env conn rq) session.userId rq rs ↔
      Storable crypto env.now server session.userId rq := by
  obtain ⟨draft, chatCounter, message, accepted, saved, ackId, ackSeq⟩ :=
    onChat_acknowledged live answered success
  obtain ⟨msgId, sender, receiver, _, type, content, _⟩ := prepareChat_message accepted
  generalize server.onChat crypto env conn rq = after at saved
  rcases server.messages.saveMessage_cases env.writes draft.message
    (server.presenceGet draft.rq.friid).isSome with
    ⟨failed, _⟩ | ⟨row, found, readBack⟩ | ⟨next, missing, fresh, rows, _⟩
  · rw [saved] at failed
    simp at failed
  · rw [readBack, Prod.mk.injEq, Prod.mk.injEq] at saved
    obtain ⟨_, rfl, table⟩ := saved
    have kept : after.messages = server.messages := table.symm
    obtain ⟨stored, named⟩ := MessageTable.findByMsgId_eq_some found
    rw [msgId] at found named
    rw [StoredMessage.setSeq_msgId, msgId] at ackId
    rw [StoredMessage.setSeq_seq] at ackSeq
    unfold StoredAsSent Storable
    rw [kept, ackId, ackSeq]
    dsimp only
    rw [found]
    constructor
    · rintro ⟨other, otherStored, otherId, facts⟩
      have plain : (0 : UInt8) ∉ server.chosenMsgId crypto env.now session.userId rq := by
        rw [← otherId]
        exact other.columns.msgId.noNul
      have same := MessageTable.findByMsgId_of_stored otherStored
        (by rw [← cstr_text other.columns.msgId, otherId])
      rw [found, Option.some.injEq] at same
      subst other
      exact ⟨plain, facts.1, facts.2.1, facts.2.2.1, facts.2.2.2.1⟩
    · rintro ⟨plain, facts⟩
      exact ⟨row, stored, by rw [named, cstr_bytes plain], facts.1, facts.2.1, facts.2.2.1,
        facts.2.2.2, rfl⟩
  · rw [fresh, Prod.mk.injEq, Prod.mk.injEq] at saved
    obtain ⟨_, rfl, rfl⟩ := saved
    rw [msgId] at missing
    rw [StoredMessage.setSeq_msgId, msgId] at ackId
    rw [StoredMessage.setSeq_seq] at ackSeq
    unfold StoredAsSent Storable
    rw [rows, ackId, ackSeq]
    dsimp only
    rw [missing]
    simp only [List.mem_append, List.mem_singleton]
    constructor
    · rintro ⟨row, stored | rfl, rowId, facts⟩
      · have found := MessageTable.findByMsgId_of_stored stored
          (by rw [← cstr_text row.columns.msgId, rowId])
        simp [missing] at found
      · simp only [StoredMessage.map, StoredMessage.setSeq, msgId, content, cstr_bytes_iff] at rowId facts
        exact ⟨rowId, facts.2.2.2.1, facts.2.2.1.2⟩
    · rintro ⟨plain, contentPlain, named⟩
      refine ⟨_, .inr rfl, ?_⟩
      simpa [StoredMessage.map, StoredMessage.setSeq, msgId, sender, receiver, type, content,
        cstr_bytes plain, cstr_bytes contentPlain, storesType] using named

def twoPairs : Server :=
  { empty with
    friends := [(1, 2), (2, 1), (3, 4), (4, 3)]
    sessions := fun conn =>
      if conn = 10 then some (session 1) else if conn = 30 then some (session 3) else none }
where
  session (userId : Int32) : Session :=
    { userId, authSessionId := ascii "s", deviceId := ascii "d", accessExpiresAt := 1700000300
      appSessionId := ascii "a", peerAddress := ascii "192.0.2.1" }

def chatEnv : Env := ⟨1700000000, 0, fun _ => none, fun _ => true, 0, none⟩

def firstChat : ChatInfoRq := { friid := 2, msg := ascii "see you at six", msgId := ascii "m-1" }

def secondChat : ChatInfoRq := { friid := 4, msg := ascii "call me back", msgId := ascii "m-1" }

def afterFirstChat : Server := twoPairs.onChat (.recorded [] []) chatEnv 10 firstChat

def afterSecondChat : Server := afterFirstChat.onChat (.recorded [] []) chatEnv 30 secondChat

/-- The second sender's message is acknowledged with the number of the first
sender's row and is stored nowhere. -/
theorem secondChat_lost :
    .chatInfoRs ⟨4, 3, chatResultFail, ascii "m-1", 1⟩ ∈
        afterFirstChat.deliveredSince afterSecondChat 30 ∧
      ¬ StoredAsSent afterSecondChat 3 secondChat ⟨4, 3, chatResultFail, ascii "m-1", 1⟩ := by
  unfold StoredAsSent
  decide +kernel

theorem onChat_stored_iff_firstChat :
    StoredAsSent afterFirstChat 1 firstChat ⟨2, 1, chatResultFail, ascii "m-1", 1⟩ ↔
      Storable (.recorded [] []) 1700000000 twoPairs 1 firstChat :=
  have live : twoPairs.sessions 10 = some (twoPairs.session 1) := rfl
  onChat_stored_iff live (by decide +kernel) (.inr rfl)

end Server

end Jitong
