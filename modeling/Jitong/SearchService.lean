import Jitong.Lib.Utf8
import Jitong.PinyinIndex
import Jitong.Text

/-!
`SearchService.cpp`: the messages that have a keyword in their text, pinyin or initials, and the
ranges to highlight, in UTF-16 units.
-/

namespace Jitong

open Lib

structure SearchQuery where
  ownerId : Int := 0
  conversationId : Int := 0
  keyword : Bytes
  limit : Int := 100

/-- A text message of the account with its row of `message_fts_identity`. -/
structure SearchRow where
  msgId : Bytes
  conversationId : Int
  peerId : Int
  serverTime : Int
  content : Bytes
  pinyin : Bytes
  initials : Bytes

structure HighlightRange where
  start : Nat
  stop : Nat
  deriving DecidableEq

structure SearchHit where
  msgId : Bytes
  conversationId : Int
  peerId : Int
  ts : Int
  snippet : Bytes
  highlightRanges : List HighlightRange
  deriving DecidableEq

namespace SearchService

def isspace (c : UInt8) : Bool := c = 0x20 || 0x09 ≤ c && c ≤ 0x0D

def lowerByte (c : UInt8) : UInt8 := if 0x41 ≤ c && c ≤ 0x5A then c + 0x20 else c

def lower (s : Bytes) : Bytes := s.map lowerByte

def trimLower (s : Bytes) : Bytes := lower ((s.dropWhile isspace).rdropWhile isspace)

def sequenceLength (c : UInt8) : Nat :=
  if c < 0x80 then 1 else if c < 0xE0 then 2 else if c < 0xF0 then 3 else 4

/-- `utf16Units`, of the bytes in front; each turn takes a byte at least. -/
def utf16Units : Nat → Bytes → Nat
  | _, [] => 0
  | 0, _ :: _ => 0
  | fuel + 1, c :: rest =>
      let n := sequenceLength c
      if (c :: rest).length < n then 0
      else (if n = 4 then 2 else 1) + utf16Units fuel (rest.drop (n - 1))

def unitsBefore (s : Bytes) (bytes : Nat) : Nat := utf16Units bytes (s.take bytes)

def contentRanges (text keyword : Bytes) : List HighlightRange :=
  (findAll (lower text) keyword).map fun position =>
    ⟨unitsBefore text position, unitsBefore text (position + keyword.length)⟩

def nextCodePoint : Bytes → Option (Nat × Nat × Bytes)
  | [] => none
  | c :: rest =>
      let (more, lead) :=
        if c &&& 0xE0 = 0xC0 then (1, c &&& 0x1F)
        else if c &&& 0xF0 = 0xE0 then (2, c &&& 0x0F)
        else if c &&& 0xF8 = 0xF0 then (3, c &&& 0x07)
        else (0, c)
      let tail := rest.take more
      if tail.length < more || tail.any (fun x => x &&& 0xC0 ≠ 0x80) then none
      else
        let cp := tail.foldl (fun cp x => cp <<< 6 ||| (x &&& 0x3F).toNat) lead.toNat
        some (cp, if 0xFFFF < cp then 2 else 1, rest.drop more)

def isalnum (cp : Nat) : Bool :=
  0x30 ≤ cp && cp ≤ 0x39 || 0x41 ≤ cp && cp ≤ 0x5A || 0x61 ≤ cp && cp ≤ 0x7A

def indexable (cp : Nat) : Bool :=
  if cp < 128 then isalnum cp
  else 0x3400 ≤ cp && cp ≤ 0x4DBF || 0x4E00 ≤ cp && cp ≤ 0x9FFF || 0xF900 ≤ cp && cp ≤ 0xFAFF

/-- The ranges of the indexable characters; `none` where the text is no UTF-8. Each turn takes a
byte at least. -/
def sourceRanges : Nat → Bytes → Nat → Option (List HighlightRange)
  | _, [], _ => some []
  | 0, _ :: _, _ => none
  | fuel + 1, text, units =>
      match nextCodePoint text with
      | none => none
      | some (cp, width, rest) =>
          (sourceRanges fuel rest (units + width)).map fun later =>
            if indexable cp then ⟨units, units + width⟩ :: later else later

def initialRanges (text initials keyword : Bytes) : List HighlightRange :=
  match sourceRanges text.length text 0 with
  | none => []
  | some source =>
      if (lower initials).length ≠ source.length then []
      else
        (findAll (lower initials) keyword).filterMap fun position => do
          let first ← source[position]?
          let last ← source[position + keyword.length - 1]?
          return ⟨first.start, last.stop⟩

def notAfter (left right : HighlightRange) : Bool :=
  left.start < right.start || left.start = right.start && left.stop ≤ right.stop

/-- `normalizeRanges`: sorted, and the equal ones among neighbours erased. -/
def normalizeRanges (ranges : List HighlightRange) : List HighlightRange :=
  (ranges.mergeSort notAfter).destutter (· ≠ ·)

def highlightRanges (text initials keyword : Bytes) : List HighlightRange :=
  normalizeRanges (contentRanges text keyword ++ initialRanges text initials keyword)

/-- The `WHERE` of the query: a single letter is looked for in the initials only. -/
def matchesRow (conversationId : Int) (keyword : Bytes) (row : SearchRow) : Bool :=
  let oneInitial := keyword.length = 1 && keyword.all fun c => 0x61 ≤ c && c ≤ 0x7A
  let within := fun text : Bytes => (find (lower text) keyword 0).isSome
  (conversationId = 0 || row.conversationId = conversationId) &&
    if oneInitial then within row.initials
    else within row.content || within row.pinyin || within row.initials

/-- `rows` are the rows of the account in the order of the query; `none` when it fails. -/
def search (input : SearchQuery) (rows : Option (List SearchRow)) : Option (List SearchHit) :=
  let keyword := trimLower input.keyword
  if input.ownerId ≤ 0 ∨ keyword = [] ∨ input.limit ≤ 0 ∨ 100 < input.limit then none
  else
    rows.map fun rows =>
      ((rows.filter (matchesRow input.conversationId keyword)).take input.limit.toNat).map fun row =>
        { msgId := row.msgId
          conversationId := row.conversationId
          peerId := row.peerId
          ts := row.serverTime
          snippet := row.content
          highlightRanges := highlightRanges row.content row.initials keyword }

end SearchService

end Jitong
