import Passpoint.Document.Yaml.Cursor
import Passpoint.Document.Yaml.Fault
import Passpoint.Text.Hex

/-!
The texts of YAML scalars: plain, quoted, and in blocks. Each reader starts at a cursor and gives
the text as code points, since escapes can name lone surrogates, with the place after it.
-/

namespace Passpoint.Document.Yaml

open Text (Codes codesOf)

/-- The text of line breaks that are folded: one break alone is a space, and of several the first
is left out. A break that is not LF is kept. -/
def folded (first : Option Char) (more : List Char) : List Char :=
  if first ≠ some '\n' then first.toList ++ more
  else if more.isEmpty then [' '] else more

/-! ### Plain scalars -/

/-- How many characters of a plain scalar come next. Inside brackets, commas, question marks and
brackets end it too. -/
def plainRun (inFlow : Bool) : List Char → Nat
  | [] => 0
  | c :: cs =>
    let next := cs.head?
    let endsKey := endsWord next || (inFlow && (next.any [',', '[', ']', '\x7b', '\x7d'].contains))
    if isSeparator c || (c = ':' && endsKey)
        || (inFlow && [',', '?', '[', ']', '\x7b', '\x7d'].contains c) then 0
    else plainRun inFlow cs + 1

/-- The space between two parts of a plain scalar. -/
structure PlainGap where
  text : List Char
  after : Cursor
  /-- A line break is part of the gap. -/
  broke : Bool

/-- Spaces and further line breaks; nothing if a document mark comes up. -/
def gapBreaks : (fuel : Nat) → Cursor → List Char × Cursor × Bool
  | 0, c => ([], c, false)
  | fuel + 1, c =>
    if c.isAt ' ' then gapBreaks fuel c.advance
    else match c.takeBreak with
      | (none, _) => ([], c, false)
      | (some b, after) =>
        if after.atDocumentMark then ([], after, true)
        else
          let (more, c, marked) := gapBreaks fuel after
          (b :: more, c, marked)

/-- The gap after a part of a plain scalar. It is empty if the scalar ends here. -/
def plainGap (c : Cursor) : PlainGap :=
  let (spaces, c) := c.span (· = ' ')
  match c.takeBreak with
  | (none, _) => ⟨spaces, c, false⟩
  | (some b, after) =>
    if after.atDocumentMark then ⟨[], after, true⟩
    else
      let (more, c, marked) := gapBreaks after.turns after
      ⟨if marked then [] else folded (some b) more, c, true⟩

/-- A plain scalar from `c` on; lines after the first must be indented by `indent` unless brackets
are open. The flag says whether the place after it follows a line break. -/
def plainScalar (inFlow : Bool) (indent : Int) :
    (fuel : Nat) → (gap : List Char) → Cursor → (broke : Bool) → List Char × Cursor × Bool
  | 0, _, c, broke => ([], c, broke)
  | fuel + 1, gap, c, broke =>
    let n := if c.isAt '#' then 0 else plainRun inFlow c.rest
    if n = 0 then ([], c, broke)
    else
      let part := gap ++ c.rest.take n
      let g := plainGap (c.skip n)
      if g.text.isEmpty || g.after.isAt '#' || (!inFlow && g.after.column < indent) then
        (part, g.after, g.broke)
      else
        let (more, c, broke) := plainScalar inFlow indent fuel g.text g.after g.broke
        (part ++ more, c, broke)

/-! ### Quoted scalars -/

/-- Line breaks inside a quoted scalar; a document mark there is a fault. -/
def quotedBreaks : (fuel : Nat) → Cursor → Option (List Char × Cursor)
  | 0, _ => none
  | fuel + 1, c =>
    if c.atDocumentMark then none
    else
      let c := c.skipWhile fun ch => ch = ' ' || ch = '\t'
      match c.takeBreak with
      | (none, _) => some ([], c)
      | (some b, after) => do
        let (more, c) ← quotedBreaks fuel after
        return (b :: more, c)

/-- White space inside a quoted scalar. -/
def quotedGap (c : Cursor) : Option (List Char × Cursor) :=
  let (spaces, c) := c.span fun ch => ch = ' ' || ch = '\t'
  match c.here, c.takeBreak with
  | none, _ => none
  | some _, (none, _) => some (spaces, c)
  | some _, (some b, after) => do
    let (more, c) ← quotedBreaks after.turns after
    return (folded (some b) more, c)

/-- The code point that a letter after a backslash stands for. -/
def escapeCode? : Char → Option Nat
  | '0' => some 0x00
  | 'a' => some 0x07
  | 'b' => some 0x08
  | 't' => some 0x09
  | '\t' => some 0x09
  | 'n' => some 0x0A
  | 'v' => some 0x0B
  | 'f' => some 0x0C
  | 'r' => some 0x0D
  | 'e' => some 0x1B
  | ' ' => some 0x20
  | '\x22' => some 0x22
  | '\\' => some 0x5C
  | '/' => some 0x2F
  | 'N' => some 0x85
  | '_' => some 0xA0
  | 'L' => some 0x2028
  | 'P' => some 0x2029
  | _ => none

/-- How many digits follow the letter of an escape by number. -/
def escapeWidth? : Char → Option Nat
  | 'x' => some 2
  | 'u' => some 4
  | 'U' => some 8
  | _ => none

def hexNumber? (cs : List Char) : Option Nat :=
  cs.foldl (fun n? c => do return 16 * (← n?) + (← Text.hexValue? c)) (some 0)

/-- The code point that an escape names by number. -/
def character (code : Nat) : Outcome Nat :=
  if code < 0x110000 then .ok code
  else if code < 0x80000000 then .error (.value .character)
  else .error (.unforeseen .escape)

/-- The escape at `c`, which stands after the backslash. -/
def quotedEscape (c : Cursor) : Outcome (Codes × Cursor) := do
  let letter ← require c.here
  match escapeCode? letter, escapeWidth? letter with
  | some code, _ => return ([code], c.advance)
  | none, some width =>
    let digits := c.rest.tail.take width
    if digits.length < width then throw .form
    return ([← character (← require (hexNumber? digits))], c.skip (width + 1))
  | none, none =>
    match c.takeBreak with
    | (none, _) => throw .form
    | (some _, after) =>
      let (breaks, c) ← require (quotedBreaks after.turns after)
      return (codesOf breaks, c)

def singleQuote : Char := '\x27'
def doubleQuote : Char := '\x22'

/-- The text of a quoted scalar from `c`, which stands inside the quotes, to the closing quote. -/
def quotedBody (double : Bool) : (fuel : Nat) → Cursor → Outcome (Codes × Cursor)
  | 0, _ => .error .form
  | fuel + 1, c => do
    let mark := if double then doubleQuote else singleQuote
    let ch ← require c.here
    if ch = mark then
      if !double && c.next = some singleQuote then
        let (more, c) ← quotedBody double fuel (c.skip 2)
        return (0x27 :: more, c)
      else return ([], c.advance)
    else
      let (part, c) ←
        if isSeparator ch then (require (quotedGap c)).map fun p => (codesOf p.1, p.2)
        else if double && ch = '\\' then quotedEscape c.advance
        else pure ([ch.toNat], c.advance)
      let (more, c) ← quotedBody double fuel c
      return (part ++ more, c)

/-! ### Block scalars -/

/-- What happens to the line breaks at the end of a block scalar. -/
inductive Chomping where
  | clip
  | strip
  | keep
  deriving DecidableEq

def chomping? : Char → Option Chomping
  | '+' => some .keep
  | '-' => some .strip
  | _ => none

/-- An explicit indentation is one digit from one to nine. -/
def increment? (c : Char) : Option Nat :=
  if '1' ≤ c ∧ c ≤ '9' then some (c.toNat - 48) else none

/-- The marks after the indicator of a block scalar, in either order. -/
def blockHeader (c : Cursor) : Chomping × Option Nat × Cursor :=
  match c.here.bind chomping?, c.here.bind increment? with
  | some chomp, _ =>
    match c.next.bind increment? with
    | some n => (chomp, some n, c.skip 2)
    | none => (chomp, none, c.advance)
  | none, some n =>
    match c.next.bind chomping? with
    | some chomp => (chomp, some n, c.skip 2)
    | none => (.clip, some n, c.advance)
  | none, none => (.clip, none, c)

/-- Leading blank lines, and the greatest column that their spaces reach. -/
def blockLead : (fuel : Nat) → (widest : Nat) → Cursor → List Char × Nat × Cursor
  | 0, widest, c => ([], widest, c)
  | fuel + 1, widest, c =>
    if c.isAt ' ' then
      let c := c.advance
      blockLead fuel (max widest c.column) c
    else match c.takeBreak with
      | (none, _) => ([], widest, c)
      | (some b, after) =>
        let (more, widest, c) := blockLead fuel widest after
        (b :: more, widest, c)

/-- Moves over spaces up to a column. -/
def toColumn (indent : Int) : (fuel : Nat) → Cursor → Cursor
  | 0, c => c
  | fuel + 1, c => if c.column < indent ∧ c.isAt ' ' then toColumn indent fuel c.advance else c

/-- Blank lines before the next line of a block scalar. -/
def blockBreaks (indent : Int) : (fuel : Nat) → Cursor → List Char × Cursor
  | 0, c => ([], c)
  | fuel + 1, c =>
    let c := toColumn indent c.turns c
    match c.takeBreak with
    | (none, _) => ([], c)
    | (some b, after) =>
      let (more, c) := blockBreaks indent fuel after
      (b :: more, c)

/-- The lines of a block scalar. `breaks` are the blank lines in front of the line at `c`, and
`last` the break in front of those. The result holds the text up to the last line, that line's
break and the blank lines after it. -/
def blockLines (fold : Bool) (indent : Int) :
    (fuel : Nat) → (last : Option Char) → (breaks : List Char) → Cursor →
      List Char × Option Char × List Char × Cursor
  | 0, last, breaks, c => ([], last, breaks, c)
  | fuel + 1, last, breaks, c =>
    if (c.column : Int) ≠ indent ∨ c.here.isNone then ([], last, breaks, c)
    else
      let indented := c.here = some ' ' || c.here = some '\t'
      let (line, c) := c.span (!isBreak ·)
      let (lineBreak, c) := c.takeBreak
      let (nextBreaks, c) := blockBreaks indent c.turns c
      let more := (c.column : Int) = indent && c.here.isSome
      let nextIndented := c.here = some ' ' || c.here = some '\t'
      let joint :=
        if !more then []
        else if fold && lineBreak = some '\n' && !indented && !nextIndented then
          if nextBreaks.isEmpty then [' '] else []
        else lineBreak.toList
      let (text, last, tail, c) := blockLines fold indent fuel lineBreak nextBreaks c
      (breaks ++ line ++ joint ++ text, last, tail, c)

/-- A block scalar at its indicator; `indent` is the indentation of the block around it. -/
def blockScalar (indent : Int) (c : Cursor) : Option (List Char × Cursor) := do
  let fold := c.isAt '>'
  let (chomp, increment, c) := blockHeader c.advance
  if !endsAtSpace c.here then none
  let c ← c.endLine?
  let least := max (indent + 1) 1
  let (indent, breaks, c) := match increment with
    | some n =>
      let indent := least + n - 1
      let (breaks, c) := blockBreaks indent c.turns c
      (indent, breaks, c)
    | none =>
      let (breaks, widest, c) := blockLead c.turns 0 c
      (max least widest, breaks, c)
  let (text, last, tail, c) := blockLines fold indent c.turns none breaks c
  let ending := match chomp with
    | .strip => []
    | .clip => last.toList
    | .keep => last.toList ++ tail
  return (text ++ ending, c)

end Passpoint.Document.Yaml
