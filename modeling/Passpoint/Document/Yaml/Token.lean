import Passpoint.Decimal.Reading
import Passpoint.Document.Yaml.Scalar
import Passpoint.Text.Utf8

/-!
The tokens of a YAML text, and the readers of those that are made of words: anchors, tags and
directives.
-/

namespace Passpoint.Document.Yaml

open Text (Codes)

inductive Directive where
  /-- The version of the language; only its major number counts. -/
  | version (major : Nat)
  /-- What a tag handle stands for. -/
  | handle (name : String) (meaning : String)
  | other
  deriving DecidableEq, Repr

inductive Token where
  | directive (d : Directive)
  | documentStart
  | documentEnd
  | blockSequence
  | blockMapping
  | blockEnd
  | openBracket
  | closeBracket
  | openBrace
  | closeBrace
  | blockEntry
  | comma
  | key
  | value
  | alias (name : String)
  | anchor (name : String)
  /-- A tag without a handle is written out in full. -/
  | tag (handle : Option String) (suffix : String)
  | scalar (codes : Codes) (plain : Bool)
  deriving DecidableEq, Repr

/-! ### Names, tags and directives -/

def isWordChar (c : Char) : Bool := c.isAlphanum || c = '-' || c = '_'

/-- A non-empty word of letters, digits, hyphens and underscores. -/
def word? (c : Cursor) : Option (String × Cursor) :=
  match c.span isWordChar with
  | ([], _) => none
  | (cs, after) => some (String.ofList cs, after)

/-- The name of an anchor, behind its mark. -/
def anchorName? (c : Cursor) : Option (String × Cursor) := do
  let (name, after) ← word? c
  let marks := ['?', ':', ',', ']', '\x7d', '%', '@', '\x60']
  if endsWord after.here || after.here.any marks.contains then return (name, after) else none

def isUriChar (c : Char) : Bool :=
  c.isAlphanum || "-;/?:@&=+$,_.!~*\x27()[]%".toList.contains c

/-- The octets of a run of percent escapes. -/
def percentOctets : (fuel : Nat) → Cursor → Option (List UInt8 × Cursor)
  | 0, c => some ([], c)
  | fuel + 1, c =>
    if !c.isAt '%' then some ([], c)
    else do
      let digits := c.rest.tail.take 2
      if digits.length < 2 then none
      let n ← hexNumber? digits
      let (more, after) ← percentOctets fuel (c.skip 3)
      return (UInt8.ofNat n :: more, after)

def uriChars : (fuel : Nat) → Cursor → Option (List Char × Cursor)
  | 0, c => some ([], c)
  | fuel + 1, c =>
    if c.isAt '%' then do
      let (octets, after) ← percentOctets c.rest.length c
      let cs ← (Text.Utf8.decode octets).toOption
      let (more, after) ← uriChars fuel after
      return (cs ++ more, after)
    else match c.here with
      | some ch =>
        if isUriChar ch then (uriChars fuel c.advance).map fun p => (ch :: p.1, p.2)
        else some ([], c)
      | none => some ([], c)

/-- A non-empty address; percent escapes in it spell UTF-8. -/
def uri? (c : Cursor) : Option (String × Cursor) := do
  if !c.here.any isUriChar then none
  let (cs, after) ← uriChars c.rest.length c
  return (String.ofList cs, after)

/-- A tag handle: one exclamation mark before a space, or a word between two. -/
def handle? (c : Cursor) : Option (String × Cursor) :=
  if !c.isAt '!' then none
  else if c.next = some ' ' then some ("!", c.advance)
  else
    let (name, after) := c.advance.span isWordChar
    if after.isAt '!' then some ("!" ++ String.ofList name ++ "!", after.advance) else none

/-- The tag at `c`, as its handle and the rest. -/
def tag? (c : Cursor) : Option (Token × Cursor) := do
  let (tag, after) ←
    if c.next = some '<' then do
      let (suffix, after) ← uri? (c.skip 2)
      if after.isAt '>' then pure (Token.tag none suffix, after.advance) else none
    else if endsWord c.next then pure (Token.tag none "!", c.advance)
    else do
      let word := c.advance.rest.takeWhile fun ch => !endsAtSpace (some ch)
      let (handle, inside) ← if word.contains '!' then handle? c else pure ("!", c.advance)
      let (suffix, after) ← uri? inside
      pure (Token.tag (some handle) suffix, after)
  if endsAtSpace after.here then return (tag, after) else none

/-- A number of a directive. -/
def decimal (c : Cursor) : Outcome (Nat × Cursor) :=
  match c.span Char.isDigit with
  | ([], _) => .error .form
  | (ds, after) =>
    if Decimal.digitLimit < ds.length then .error (.value (.version ds.length))
    else .ok (Decimal.natOfDigits ds, after)

def version (c : Cursor) : Outcome (Directive × Cursor) := do
  let (major, c) ← decimal c.skipSpaces
  if !c.isAt '.' then throw .form
  let (_, c) ← decimal c.advance
  if endsAtSpace c.here then return (.version major, c) else throw .form

def handleMeaning? (c : Cursor) : Option (Directive × Cursor) := do
  let (name, c) ← handle? c.skipSpaces
  if !c.isAt ' ' then none
  let (meaning, c) ← uri? c.skipSpaces
  if endsAtSpace c.here then return (.handle name meaning, c) else none

/-- The directive at `c`, which stands on its percent sign, with the rest of its line. -/
def directive (c : Cursor) : Outcome (Directive × Cursor) := do
  let (name, c) ← require (word? c.advance)
  if !endsAtSpace c.here then throw .form
  let (d, c) ←
    if name = "YAML" then version c
    else if name = "TAG" then require (handleMeaning? c)
    else pure (.other, c.skipWhile (!isBreak ·))
  return (d, ← require c.endLine?)

end Passpoint.Document.Yaml
