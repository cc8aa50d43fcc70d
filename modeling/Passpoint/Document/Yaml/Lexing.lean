import Passpoint.Document.Yaml.Token

/-!
Reading the tokens of a YAML text one after the other. Indentation becomes tokens of its own: a
block collection opens where its first entry stands and is closed by the first line that starts
further left.

A mapping key needs no mark in front of it, so a place that could start a key is remembered, and
the `:` after it puts the key token there. Such a place is good on its own line for 1024
characters. So a token is not settled while it could still become a key, and tokens are read ahead
only as far as that takes.
-/

namespace Passpoint.Document.Yaml

open Text (codesOf)

/-- A place that could start a key. -/
structure KeyPlace where
  /-- How many tokens stand before it. -/
  token : Nat
  /-- A key must start here: the place stands exactly at the indentation of the block around it. -/
  required : Bool
  index : Nat
  line : Nat
  column : Nat

structure Lexing where
  cursor : Cursor
  /-- The tokens that have been read and not taken. -/
  queue : List Token := []
  /-- How many tokens have been taken. -/
  taken : Nat := 0
  /-- The end of the text has been read. -/
  ended : Bool := false
  /-- The column of the innermost block collection. -/
  indent : Int := -1
  outerIndents : List Int := []
  keyAllowed : Bool := true
  /-- The key place inside the innermost brackets. -/
  keyPlace : Option KeyPlace := none
  /-- Those outside the brackets that are open, innermost first. -/
  outerKeyPlaces : List (Option KeyPlace) := []

namespace Lexing

/-- Brackets are open. -/
def inFlow (s : Lexing) : Bool := !s.outerKeyPlaces.isEmpty

/-- How many tokens have been read. -/
def count (s : Lexing) : Nat := s.taken + s.queue.length

/-- Adds a token that ends at `c`. -/
def pushTo (s : Lexing) (t : Token) (c : Cursor) : Lexing :=
  { s with queue := s.queue ++ [t], cursor := c }

/-- Puts a token behind the first `place` of all that have been read. -/
def insert (s : Lexing) (place : Nat) (t : Token) : Lexing :=
  { s with queue := s.queue.insertIdx (place - s.taken) t }

/-- Moves over blanks, comments and line breaks. Outside brackets a new line may start a key. -/
def skipBlanks : (fuel : Nat) → Lexing → Lexing
  | 0, s => s
  | fuel + 1, s =>
    let c := s.cursor.skipSpaces.skipComment
    match c.takeBreak with
    | (none, _) => { s with cursor := c }
    | (some _, after) =>
      skipBlanks fuel { s with cursor := after, keyAllowed := s.keyAllowed || !s.inFlow }

/-- Whether the line or the length allowed for a key is over. -/
def isStale (c : Cursor) (k : KeyPlace) : Bool := k.line != c.line || 1024 < c.index - k.index

def freshOnly (c : Cursor) : Option KeyPlace → Outcome (Option KeyPlace)
  | none => .ok none
  | some k =>
    if !isStale c k then .ok (some k) else if k.required then .error .form else .ok none

/-- Forgets the key places that are over; a required one must have become a key. -/
def dropStale (s : Lexing) : Outcome Lexing := do
  let keyPlace ← freshOnly s.cursor s.keyPlace
  let outerKeyPlaces ← s.outerKeyPlaces.mapM (freshOnly s.cursor)
  return { s with keyPlace, outerKeyPlaces }

def forgetKey (s : Lexing) : Outcome Lexing :=
  if s.keyPlace.any (·.required) then .error .form else .ok { s with keyPlace := none }

/-- Remembers that a key could start here. -/
def markKey (s : Lexing) : Outcome Lexing :=
  if !s.keyAllowed then .ok s
  else do
    let s ← s.forgetKey
    let c := s.cursor
    let required := !s.inFlow && s.indent = (c.column : Int)
    return { s with keyPlace := some ⟨s.count, required, c.index, c.line, c.column⟩ }

/-- Closes the block collections that start to the right of a column. -/
def closeBlocks (column : Int) (s : Lexing) : Lexing :=
  if s.inFlow then s
  else
    let closed := (s.indent :: s.outerIndents).takeWhile (column < ·)
    match (s.indent :: s.outerIndents).drop closed.length with
    | [] => s
    | indent :: outerIndents =>
      { s with indent, outerIndents, queue := s.queue ++ closed.map fun _ => Token.blockEnd }

/-- Opens a block collection at a column, if none stands there yet; its token goes to `place`. -/
def openBlock (t : Token) (column place : Nat) (s : Lexing) : Lexing :=
  if s.indent < (column : Int) then
    { s.insert place t with indent := column, outerIndents := s.indent :: s.outerIndents }
  else s

/-- Opens a block collection here. Only the start of a line or what follows a mark may do so. -/
def openBlockHere (t : Token) (s : Lexing) : Outcome Lexing :=
  if s.inFlow then .ok s
  else if s.keyAllowed then .ok (s.openBlock t s.cursor.column s.count)
  else .error .form

def documentMark (t : Token) (s : Lexing) : Outcome Lexing := do
  let s ← (s.closeBlocks (-1)).forgetKey
  return { s.pushTo t (s.cursor.skip 3) with keyAllowed := false }

def openFlow (t : Token) (s : Lexing) : Outcome Lexing := do
  let s ← s.markKey
  return { s.pushTo t s.cursor.advance with
    keyAllowed := true
    keyPlace := none
    outerKeyPlaces := s.keyPlace :: s.outerKeyPlaces }

def closeFlow (t : Token) (s : Lexing) : Outcome Lexing := do
  let s ← s.forgetKey
  match s.outerKeyPlaces with
  | [] => throw .form
  | keyPlace :: outerKeyPlaces =>
    return { s.pushTo t s.cursor.advance with keyAllowed := false, keyPlace, outerKeyPlaces }

/-- A comma, or the mark of a block entry or of a key. -/
def mark (t : Token) (keyAllowed : Bool) (s : Lexing) : Outcome Lexing := do
  let s ← s.forgetKey
  return { s.pushTo t s.cursor.advance with keyAllowed }

/-- The mark of a value. It makes a key of the place remembered, if there is one. -/
def valueMark (s : Lexing) : Outcome Lexing := do
  match s.keyPlace with
  | some k =>
    let s := { s.insert k.token .key with keyPlace := none, keyAllowed := false }
    let s := if s.inFlow then s else s.openBlock .blockMapping k.column k.token
    return s.pushTo .value s.cursor.advance
  | none =>
    let s ← s.openBlockHere .blockMapping
    return { s.pushTo .value s.cursor.advance with keyAllowed := !s.inFlow }

/-- An alias, an anchor, a tag or a quoted scalar: a place where a key could start. -/
def keyStart (read : Cursor → Outcome (Token × Cursor)) (s : Lexing) : Outcome Lexing := do
  let s ← s.markKey
  let (t, after) ← read s.cursor
  return { s.pushTo t after with keyAllowed := false }

def blockText (s : Lexing) : Outcome Lexing := do
  let s ← s.forgetKey
  let (cs, after) ← require (blockScalar s.indent s.cursor)
  return { s.pushTo (.scalar (codesOf cs) false) after with keyAllowed := true }

def plainText (s : Lexing) : Outcome Lexing := do
  let s ← s.markKey
  let c := s.cursor
  let (cs, after, broke) := plainScalar s.inFlow (s.indent + 1) c.turns [] c false
  return { s.pushTo (.scalar (codesOf cs) true) after with keyAllowed := broke }

def quotedText (double : Bool) (c : Cursor) : Outcome (Token × Cursor) :=
  (quotedBody double c.turns c.advance).map fun p => (.scalar p.1 false, p.2)

/-- Characters that start no plain scalar unless what follows allows it. -/
def indicators : List Char := "-?:,[]\x7b\x7d#&*!|>\x27\x22%@\x60".toList

def startsPlain (inFlow : Bool) (ch : Char) (next : Option Char) : Bool :=
  !(isSeparator ch || indicators.contains ch) ||
    (!endsWord next && (ch = '-' || (!inFlow && (ch = '?' || ch = ':'))))

/-- Reads the token that starts with `ch`. -/
def token (ch : Char) (s : Lexing) : Outcome Lexing :=
  let c := s.cursor
  let spaced := endsWord c.next
  if ch = '%' && c.column = 0 then do
    let s ← (s.closeBlocks (-1)).forgetKey
    let (d, after) ← directive s.cursor
    return { s.pushTo (.directive d) after with keyAllowed := false }
  else if c.column = 0 && c.atMark '-' then s.documentMark .documentStart
  else if c.column = 0 && c.atMark '.' then s.documentMark .documentEnd
  else if ch = '[' then s.openFlow .openBracket
  else if ch = '\x7b' then s.openFlow .openBrace
  else if ch = ']' then s.closeFlow .closeBracket
  else if ch = '\x7d' then s.closeFlow .closeBrace
  else if ch = ',' then s.mark .comma true
  else if ch = '-' && spaced then do (← s.openBlockHere .blockSequence).mark .blockEntry true
  else if ch = '?' && (s.inFlow || spaced) then do
    (← s.openBlockHere .blockMapping).mark .key (!s.inFlow)
  else if ch = ':' && (s.inFlow || spaced) then s.valueMark
  else if ch = '*' then
    s.keyStart fun c => require ((anchorName? c.advance).map fun p => (.alias p.1, p.2))
  else if ch = '&' then
    s.keyStart fun c => require ((anchorName? c.advance).map fun p => (.anchor p.1, p.2))
  else if ch = '!' then s.keyStart fun c => require (tag? c)
  else if (ch = '|' || ch = '>') && !s.inFlow then s.blockText
  else if ch = singleQuote then s.keyStart (quotedText false)
  else if ch = doubleQuote then s.keyStart (quotedText true)
  else if startsPlain s.inFlow ch c.next then s.plainText
  else .error .form

/-- Reads on by one token, which may close blocks before it. -/
def fetch (s : Lexing) : Outcome Lexing := do
  let s ← (s.skipBlanks s.cursor.turns).dropStale
  let s := s.closeBlocks s.cursor.column
  match s.cursor.here with
  | some ch => s.token ch
  | none => return { ← (s.closeBlocks (-1)).forgetKey with ended := true, outerKeyPlaces := [] }

/-- Whether the next token to be taken could still become a key. -/
def isUnsettled (s : Lexing) : Bool :=
  (s.keyPlace :: s.outerKeyPlaces).any (·.any (·.token = s.taken))

/-- Reads on until the next token is settled, or the text ends. -/
def settle : (fuel : Nat) → Lexing → Outcome Lexing
  | 0, s => .ok s
  | fuel + 1, s =>
    if s.ended then .ok s
    else if s.queue.isEmpty then do settle fuel (← s.fetch)
    else do
      let s ← s.dropStale
      if s.isUnsettled then settle fuel (← s.fetch) else return s

/-- The next token, which is left in its place; nothing at the end of the text. -/
def peek (s : Lexing) : Outcome (Option Token × Lexing) := do
  let s ← s.settle s.cursor.turns
  return (s.queue.head?, s)

/-- Takes the token that has been looked at. -/
def advance (s : Lexing) : Lexing := { s with queue := s.queue.tail, taken := s.taken + 1 }

/-- The start of a text. A byte order mark may stand there. -/
def ofText (cs : List Char) : Outcome Lexing :=
  let start := Cursor.ofText cs
  if !cs.all isAllowed then .error .form
  else .ok { cursor := if start.isAt '\ufeff' then start.advance else start }

end Lexing

end Passpoint.Document.Yaml
