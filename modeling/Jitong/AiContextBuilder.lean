import Jitong.MessageTable
import Jitong.SafeCut

/-!
`ai/AiContextBuilder.cpp`: the turns of a conversation that go to the model, whatever the redaction
of a text is.
-/

namespace Jitong

open Lib ClientCore

inductive AiConversationTurn.Role
  | me
  | peer
  deriving DecidableEq

structure AiConversationTurn where
  role : AiConversationTurn.Role := .peer
  text : Bytes
  deriving DecidableEq

structure AiReplyRequest where
  requestId : Bytes
  turns : List AiConversationTurn
  tone : Bytes
  maxSuggestions : Int32
  deriving DecidableEq

structure AiContextPolicy where
  maxMessages : Int32 := 20
  maxMessageBytes : Int32 := 2000
  maxContextBytes : Int32 := 12000

namespace AiContextPolicy

def messageCount (policy : AiContextPolicy) : Nat := (max policy.maxMessages.toInt 1).toNat

def messageLimit (policy : AiContextPolicy) : Nat := (max policy.maxMessageBytes.toInt 1).toNat

def totalLimit (policy : AiContextPolicy) : Nat := (max policy.maxContextBytes.toInt 1).toNat

end AiContextPolicy

namespace AiContextBuilder

def textType : Int32 := 0

section

variable (redactSensitiveText : Bytes → Bytes) (userId peerId : Int32) (policy : AiContextPolicy)

def belongs (row : StoredMessage Bytes) : Bool :=
  (row.senderId = userId ∧ row.receiverId = peerId) ∨
    (row.senderId = peerId ∧ row.receiverId = userId)

def sanitized (row : StoredMessage Bytes) : Bytes :=
  utf8Truncate (redactSensitiveText row.content) policy.messageLimit

def roleOf (row : StoredMessage Bytes) : AiConversationTurn.Role :=
  if row.senderId = userId then .me else .peer

/-- The loop over the rows, with `newestFirst` and `usedBytes`. -/
def collectTurns (newestFirst : List AiConversationTurn) (usedBytes : Nat) :
    List (StoredMessage Bytes) → List AiConversationTurn
  | [] => newestFirst
  | row :: rest =>
      if policy.messageCount ≤ newestFirst.length then newestFirst
      else if row.type ≠ textType ∨ row.content = [] then collectTurns newestFirst usedBytes rest
      else if !belongs userId peerId row then collectTurns newestFirst usedBytes rest
      else
        let text := sanitized redactSensitiveText policy row
        if text = [] then collectTurns newestFirst usedBytes rest
        else
          let remaining := policy.totalLimit - min usedBytes policy.totalLimit
          if remaining = 0 then newestFirst
          else
            let text := utf8Truncate text remaining
            if text = [] then newestFirst
            else
              collectTurns (newestFirst ++ [{ role := roleOf userId row, text }])
                (usedBytes + text.length) rest

def buildReplyContext (rows : List (StoredMessage Bytes)) (requestId tone : Bytes)
    (maxSuggestions : Int32) : AiReplyRequest where
  requestId
  tone
  maxSuggestions := if maxSuggestions < 1 then 1 else if 3 < maxSuggestions then 3 else maxSuggestions
  turns := (collectTurns redactSensitiveText userId peerId policy [] 0 rows).reverse

def shows (row : StoredMessage Bytes) : Bool :=
  row.type = textType ∧ row.content ≠ [] ∧ belongs userId peerId row ∧
    sanitized redactSensitiveText policy row ≠ []

end

structure CutFrom (whole text : Bytes) : Prop where
  leads : text <+: whole
  between : ∀ byte, whole[text.length]? = some byte → Utf8.isContinuation byte = false

theorem CutFrom.trans {whole middle text : Bytes} (first : CutFrom whole middle)
    (second : CutFrom middle text) : CutFrom whole text where
  leads := second.leads.trans first.leads
  between := by
    intro byte found
    obtain ⟨rest, rfl⟩ := first.leads
    rcases Nat.lt_or_ge text.length middle.length with inside | ends
    · rw [List.getElem?_append_left inside] at found
      exact second.between byte found
    · have same : text.length = middle.length := Nat.le_antisymm second.leads.length_le ends
      exact first.between byte (same ▸ found)

theorem utf8Truncate_cutFrom {text : Bytes} {maxBytes : Nat}
    (left : utf8Truncate text maxBytes ≠ []) : CutFrom text (utf8Truncate text maxBytes) where
  leads := utf8Truncate_prefix
  between := by
    intro byte found
    rw [utf8Truncate] at left found
    split at found
    · simp at found
    · rename_i long
      rw [if_neg long] at left
      have inside : maxBytes < text.length := by omega
      have within : characterStart text maxBytes < text.length :=
        Nat.lt_of_le_of_lt characterStart_le inside
      rw [List.length_take, Nat.min_eq_left (Nat.le_of_lt within),
        List.getElem?_eq_getElem within] at found
      rcases characterStart_stops inside with zero | ⟨_, start⟩
      · rw [zero] at left
        simp at left
      · rw [← Option.some.inj found]
        exact start

variable {redactSensitiveText : Bytes → Bytes} {userId peerId : Int32} {policy : AiContextPolicy}

structure TurnOf (redactSensitiveText : Bytes → Bytes) (userId : Int32) (policy : AiContextPolicy)
    (row : StoredMessage Bytes) (turn : AiConversationTurn) : Prop where
  role : turn.role = roleOf userId row
  cut : CutFrom (redactSensitiveText row.content) turn.text
  short : turn.text.length ≤ policy.messageLimit

def bytesOf (turns : List AiConversationTurn) : Nat := (turns.map (·.text.length)).sum

structure Added (redactSensitiveText : Bytes → Bytes) (userId peerId : Int32)
    (policy : AiContextPolicy) (newestFirst : List AiConversationTurn)
    (rows : List (StoredMessage Bytes)) (turns : List AiConversationTurn) : Prop where
  split : ∃ read unread more, rows = read ++ unread ∧ turns = newestFirst ++ more ∧
    List.Forall₂ (TurnOf redactSensitiveText userId policy)
      (read.filter (shows redactSensitiveText userId peerId policy)) more
  few : turns.length ≤ policy.messageCount
  small : bytesOf turns ≤ policy.totalLimit

theorem Added.stop {newestFirst : List AiConversationTurn} (rows : List (StoredMessage Bytes))
    (few : newestFirst.length ≤ policy.messageCount)
    (small : bytesOf newestFirst ≤ policy.totalLimit) :
    Added redactSensitiveText userId peerId policy newestFirst rows newestFirst :=
  ⟨⟨[], rows, [], rfl, (List.append_nil _).symm, .nil⟩, few, small⟩

theorem Added.skip {newestFirst turns : List AiConversationTurn} {row : StoredMessage Bytes}
    {rows : List (StoredMessage Bytes)}
    (hidden : shows redactSensitiveText userId peerId policy row = false)
    (added : Added redactSensitiveText userId peerId policy newestFirst rows turns) :
    Added redactSensitiveText userId peerId policy newestFirst (row :: rows) turns := by
  obtain ⟨⟨read, unread, more, split, turns, each⟩, few, small⟩ := added
  refine ⟨⟨row :: read, unread, more, by rw [split, List.cons_append], turns, ?_⟩, few, small⟩
  rwa [List.filter_cons_of_neg (by simp [hidden])]

theorem Added.take {newestFirst turns : List AiConversationTurn} {row : StoredMessage Bytes}
    {rows : List (StoredMessage Bytes)} {turn : AiConversationTurn}
    (shown : shows redactSensitiveText userId peerId policy row = true)
    (made : TurnOf redactSensitiveText userId policy row turn)
    (added : Added redactSensitiveText userId peerId policy (newestFirst ++ [turn]) rows turns) :
    Added redactSensitiveText userId peerId policy newestFirst (row :: rows) turns := by
  obtain ⟨⟨read, unread, more, split, turns, each⟩, few, small⟩ := added
  refine ⟨⟨row :: read, unread, turn :: more, by rw [split, List.cons_append],
    by rw [turns, List.append_assoc, List.singleton_append], ?_⟩, few, small⟩
  rw [List.filter_cons_of_pos shown]
  exact .cons made each

theorem collectTurns_added (newestFirst : List AiConversationTurn)
    (rows : List (StoredMessage Bytes)) (few : newestFirst.length ≤ policy.messageCount)
    (small : bytesOf newestFirst ≤ policy.totalLimit) :
    Added redactSensitiveText userId peerId policy newestFirst rows
      (collectTurns redactSensitiveText userId peerId policy newestFirst (bytesOf newestFirst)
        rows) := by
  induction rows generalizing newestFirst with
  | nil => exact .stop [] few small
  | cons row rest ih =>
      rw [collectTurns]
      split
      · exact .stop _ few small
      · rename_i room
        split
        · rename_i other
          refine .skip ?_ (ih newestFirst few small)
          rcases other with type | empty
          · simp [shows, type]
          · simp [shows, empty]
        · rename_i text
          obtain ⟨isText, content⟩ := not_or.mp text
          split
          · rename_i elsewhere
            refine .skip ?_ (ih newestFirst few small)
            rw [Bool.not_eq_true'] at elsewhere
            simp [shows, elsewhere]
          · rename_i here
            dsimp only
            split
            · rename_i empty
              refine .skip ?_ (ih newestFirst few small)
              simp [shows, empty]
            · rename_i left
              split
              · exact .stop _ few small
              · rename_i space
                split
                · exact .stop _ few small
                · rename_i cut
                  have shown : shows redactSensitiveText userId peerId policy row = true := by
                    simp only [Bool.not_eq_true', Bool.not_eq_false] at here
                    simp only [shows, decide_eq_true_eq]
                    exact ⟨not_not.mp isText, content, here, left⟩
                  have length : (utf8Truncate (sanitized redactSensitiveText policy row)
                      (policy.totalLimit - min (bytesOf newestFirst) policy.totalLimit)).length ≤
                        policy.totalLimit - min (bytesOf newestFirst) policy.totalLimit :=
                    utf8Truncate_length
                  have shorter : (utf8Truncate (sanitized redactSensitiveText policy row)
                      (policy.totalLimit - min (bytesOf newestFirst) policy.totalLimit)).length ≤
                        policy.messageLimit :=
                    le_trans utf8Truncate_prefix.length_le utf8Truncate_length
                  have total (turn : AiConversationTurn) : bytesOf (newestFirst ++ [turn]) =
                      bytesOf newestFirst + turn.text.length := by
                    simp [bytesOf]
                  have made : TurnOf redactSensitiveText userId policy row
                      ⟨roleOf userId row, utf8Truncate (sanitized redactSensitiveText policy row)
                        (policy.totalLimit - min (bytesOf newestFirst) policy.totalLimit)⟩ :=
                    ⟨rfl, (utf8Truncate_cutFrom left).trans (utf8Truncate_cutFrom cut), shorter⟩
                  refine .take shown made ?_
                  rw [← total ⟨roleOf userId row, _⟩]
                  refine ih _ ?_ ?_
                  · rw [List.length_append, List.length_singleton]
                    omega
                  · rw [total]
                    dsimp only
                    omega

theorem turns_short {rows : List (StoredMessage Bytes)} {turns : List AiConversationTurn}
    (each : List.Forall₂ (TurnOf redactSensitiveText userId policy) rows turns) :
    ∀ turn ∈ turns, turn.text.length ≤ policy.messageLimit := by
  induction each with
  | nil => simp
  | cons made _ ih =>
      rintro turn (_ | ⟨_, member⟩)
      · exact made.short
      · exact ih turn member

/-- The turns are those of the newest rows that show something, oldest first, within the bounds of
the policy. -/
theorem buildReplyContext_bounds (redactSensitiveText : Bytes → Bytes) (userId peerId : Int32)
    (policy : AiContextPolicy) (rows : List (StoredMessage Bytes)) (requestId tone : Bytes)
    (maxSuggestions : Int32) :
    let turns := (buildReplyContext redactSensitiveText userId peerId policy rows requestId tone
      maxSuggestions).turns
    (∃ read unread, rows = read ++ unread ∧
      List.Forall₂ (TurnOf redactSensitiveText userId policy)
        (read.filter (shows redactSensitiveText userId peerId policy)).reverse turns) ∧
    (turns.length : Int) ≤ max 1 policy.maxMessages.toInt ∧
    (∀ turn ∈ turns, (turn.text.length : Int) ≤ max 1 policy.maxMessageBytes.toInt) ∧
    (bytesOf turns : Int) ≤ max 1 policy.maxContextBytes.toInt := by
  intro turns
  have added : Added redactSensitiveText userId peerId policy [] rows
      (collectTurns redactSensitiveText userId peerId policy [] 0 rows) :=
    collectTurns_added [] rows (Nat.zero_le _) (Nat.zero_le _)
  obtain ⟨⟨read, unread, more, split, same, each⟩, few, small⟩ := added
  rw [List.nil_append] at same
  have ordered : turns = more.reverse := congrArg List.reverse same
  have reversed := List.rel_reverse each
  rw [same] at few small
  refine ⟨⟨read, unread, split, ordered ▸ reversed⟩, ?_, ?_, ?_⟩
  · rw [ordered, List.length_reverse]
    unfold AiContextPolicy.messageCount at few
    omega
  · intro turn member
    rw [ordered] at member
    have short := turns_short each turn (List.mem_reverse.mp member)
    unfold AiContextPolicy.messageLimit at short
    omega
  · rw [ordered, bytesOf, List.map_reverse, List.sum_reverse, ← bytesOf]
    unfold AiContextPolicy.totalLimit at small
    omega

end AiContextBuilder

end Jitong
