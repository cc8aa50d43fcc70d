import Passpoint.Text.Hex

/-!
JSON as reports write it. Text is pure ASCII: other characters are escaped by number, as surrogate
pairs above U+FFFF. With an indentation every member and item has a line of its own; without, all
stands on one line. Empty collections take no line in either case.
-/

namespace Passpoint.Report

inductive Json where
  | null
  | bool (b : Bool)
  | int (n : Int)
  | text (s : String)
  | list (items : List Json)
  /-- Members in the order in which they are written. -/
  | object (members : List (String × Json))

namespace Json

def unit (n : Nat) : List Char :=
  ['\\', 'u', Text.hexDigit (n / 4096 % 16), Text.hexDigit (n / 256 % 16),
   Text.hexDigit (n / 16 % 16), Text.hexDigit (n % 16)]

/-- One character between quotes. -/
def charText (c : Char) : List Char :=
  let n := c.toNat
  if n = 0x22 then ['\\', '\x22']
  else if n = 0x5C then ['\\', '\\']
  else if n = 0x0A then ['\\', 'n']
  else if n = 0x0D then ['\\', 'r']
  else if n = 0x09 then ['\\', 't']
  else if n = 0x0C then ['\\', 'f']
  else if n = 0x08 then ['\\', 'b']
  else if 0x20 ≤ n ∧ n ≤ 0x7E then [c]
  else if n < 0x10000 then unit n
  else unit (0xD800 + (n - 0x10000) / 0x400) ++ unit (0xDC00 + (n - 0x10000) % 0x400)

def quote (s : String) : List Char := '\x22' :: s.toList.flatMap charText ++ ['\x22']

/-- What stands in front of a line for each level. -/
inductive Indent where
  /-- So many spaces; none if the number is negative. -/
  | spaces (n : Int)
  | text (s : String)
  deriving DecidableEq, Repr

def Indent.level : Indent → List Char
  | .spaces n => List.replicate n.toNat ' '
  | .text s => s.toList

/-- What stands between two items at a depth, or around all of them. -/
structure Layout where
  /-- Nothing for a text of one line. -/
  indent : Option Indent

/-- The start of a line at a depth. -/
def Layout.newLine (l : Layout) (depth : Nat) : List Char :=
  match l.indent with
  | none => []
  | some i => '\n' :: (List.replicate depth i.level).flatten

def Layout.separator (l : Layout) (depth : Nat) : List Char :=
  match l.indent with
  | none => [',', ' ']
  | some _ => ',' :: l.newLine depth

/-- Puts written items into brackets. -/
def Layout.enclose (l : Layout) (opening closing : Char) (depth : Nat) (items : List (List Char)) :
    List Char :=
  if items.isEmpty then [opening, closing]
  else
    [opening] ++ l.newLine (depth + 1) ++ (l.separator (depth + 1)).intercalate items ++
      l.newLine depth ++ [closing]

mutual

/-- A value whose brackets stand at a depth. -/
def write (l : Layout) (depth : Nat) : Json → List Char
  | .null => "null".toList
  | .bool b => (if b then "true" else "false").toList
  | .int n => (toString n).toList
  | .text s => quote s
  | .list items => l.enclose '[' ']' depth (writeItems l (depth + 1) items)
  | .object members => l.enclose '\x7b' '\x7d' depth (writeMembers l (depth + 1) members)

def writeItems (l : Layout) (depth : Nat) : List Json → List (List Char)
  | [] => []
  | v :: vs => write l depth v :: writeItems l depth vs

def writeMembers (l : Layout) (depth : Nat) : List (String × Json) → List (List Char)
  | [] => []
  | (name, v) :: rest =>
    (quote name ++ [':', ' '] ++ write l depth v) :: writeMembers l depth rest

end

/-- The text of a value. -/
def render (indent : Option Indent) (v : Json) : String := String.ofList (write ⟨indent⟩ 0 v)

def ofOption {α : Type} (f : α → Json) : Option α → Json
  | none => .null
  | some a => f a

end Json

end Passpoint.Report
