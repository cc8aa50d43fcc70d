/-!
A place in a YAML text: the characters from there on, with the index, line and column of the first,
and the number of characters of the whole text. Every turn of a loop over the text moves the
cursor, so that number is always enough turns.
-/

namespace Passpoint.Document.Yaml

/-- Characters that a YAML text may hold: tab, line breaks and what prints, surrogates and the last
two code points of the first plane left out. -/
def isAllowed (c : Char) : Bool :=
  let n := c.toNat
  n = 0x09 || n = 0x0A || n = 0x0D || (0x20 ≤ n && n ≤ 0x7E) || n = 0x85 ||
    (0xA0 ≤ n && n ≤ 0xFFFD) || 0x10000 ≤ n

def isBreak (c : Char) : Bool :=
  c = '\n' || c = '\r' || c = '\u0085' || c = '\u2028' || c = '\u2029'

/-- Space, tab or line break. -/
def isSeparator (c : Char) : Bool := c = ' ' || c = '\t' || isBreak c

/-- Whether a line ends here. -/
def endsLine : Option Char → Bool
  | none => true
  | some c => isBreak c

/-- Whether a word that tabs do not end is over here. -/
def endsAtSpace : Option Char → Bool
  | none => true
  | some c => c = ' ' || isBreak c

/-- Whether a word is over here. -/
def endsWord : Option Char → Bool
  | none => true
  | some c => isSeparator c

structure Cursor where
  rest : List Char
  /-- The length of the whole text. -/
  size : Nat
  index : Nat := 0
  line : Nat := 0
  column : Nat := 0

namespace Cursor

/-- The start of a text. -/
def ofText (cs : List Char) : Cursor := { rest := cs, size := cs.length }

/-- Turns enough for any loop over the text. -/
def turns (c : Cursor) : Nat := c.size + 1

/-- The character at the cursor. -/
def here (c : Cursor) : Option Char := c.rest.head?

/-- The character after the one at the cursor. -/
def next (c : Cursor) : Option Char := c.rest.tail.head?

def isAt (c : Cursor) (ch : Char) : Bool := c.here == some ch

/-- Moves over one character. A byte order mark takes no column. -/
def advance (c : Cursor) : Cursor :=
  match c.rest with
  | [] => c
  | ch :: rest =>
    if isBreak ch && !(ch = '\r' && rest.head? = some '\n') then
      { c with rest, index := c.index + 1, line := c.line + 1, column := 0 }
    else
      { c with
        rest
        index := c.index + 1
        column := if ch = '\ufeff' then c.column else c.column + 1 }

def skip (c : Cursor) : Nat → Cursor
  | 0 => c
  | n + 1 => c.advance.skip n

/-- The characters from here on that satisfy `p`, and the place after them. -/
def span (c : Cursor) (p : Char → Bool) : List Char × Cursor :=
  let run := c.rest.takeWhile p
  (run, c.skip run.length)

def skipWhile (c : Cursor) (p : Char → Bool) : Cursor := (c.span p).2

def skipSpaces (c : Cursor) : Cursor := c.skipWhile (· = ' ')

/-- The rest of the line is left out if a comment starts here. -/
def skipComment (c : Cursor) : Cursor :=
  if c.isAt '#' then c.skipWhile (!isBreak ·) else c

/-- Takes one line break, if there is one. CR LF, CR, LF and NEL all count as LF. -/
def takeBreak (c : Cursor) : Option Char × Cursor :=
  match c.rest with
  | '\r' :: '\n' :: _ => (some '\n', c.skip 2)
  | ch :: _ =>
    if ch = '\u2028' ∨ ch = '\u2029' then (some ch, c.advance)
    else if isBreak ch then (some '\n', c.advance)
    else (none, c)
  | [] => (none, c)

/-- Three equal marks that stand for themselves: the start or the end of a document. -/
def atMark (c : Cursor) (mark : Char) : Bool :=
  match c.rest with
  | a :: b :: d :: rest => a = mark && b = mark && d = mark && endsWord rest.head?
  | _ => false

def atDocumentMark (c : Cursor) : Bool := c.atMark '-' || c.atMark '.'

end Cursor

/-- What is left of a line must be blank or a comment. -/
def Cursor.endLine? (c : Cursor) : Option Cursor :=
  let c := c.skipSpaces.skipComment
  if endsLine c.here then some c.takeBreak.2 else none

end Passpoint.Document.Yaml
