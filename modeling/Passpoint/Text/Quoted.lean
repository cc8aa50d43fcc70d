import Passpoint.Text.Codes
import Passpoint.Text.Hex
import Passpoint.Text.Printable

/-!
Quoted text, as messages show a value. A text stands between single quotes, or between double
quotes if it holds a single quote and no double one. Backslash, the quote in use, tab, line feed
and carriage return have short escapes; other characters that do not print are written by number.

The functions work on code points, so that a text with a lone surrogate has a quoted form too.
-/

namespace Passpoint.Text

/-- The last `width` hexadecimal digits of a number, zeros included. -/
def fixedHex (width n : Nat) : List Char :=
  (List.range width).reverse.map fun i => hexDigit (n >>> (4 * i) % 16)

def quoteMark (codes : Codes) : Nat :=
  if codes.contains 0x27 && !codes.contains 0x22 then 0x22 else 0x27

/-- The escape by number: two, four or eight digits, as few as hold the code point. -/
def numberEscape (code : Nat) : List Char :=
  if code < 0x100 then '\\' :: 'x' :: fixedHex 2 code
  else if code < 0x10000 then '\\' :: 'u' :: fixedHex 4 code
  else '\\' :: 'U' :: fixedHex 8 code

/-- One code point inside a text quoted by `mark`; `shows` says which characters stand as they
are. -/
def quoteCode (shows : Nat → Bool) (mark code : Nat) : List Char :=
  if code = mark ∨ code = 0x5C then ['\\', Char.ofNat code]
  else if code = 0x09 then ['\\', 't']
  else if code = 0x0A then ['\\', 'n']
  else if code = 0x0D then ['\\', 'r']
  else if shows code then [Char.ofNat code]
  else numberEscape code

/-- A surrogate is no character, and none of them prints. -/
def showsInText (code : Nat) : Bool := !isSurrogate code && isPrintable (Char.ofNat code)

def quoteCodes (codes : Codes) : List Char :=
  let mark := quoteMark codes
  Char.ofNat mark :: codes.flatMap (quoteCode showsInText mark) ++ [Char.ofNat mark]

def quotedCodes (codes : Codes) : String := String.ofList (quoteCodes codes)

/-- A text between quotes. -/
def quoted (s : String) : String := quotedCodes (codesOf s.toList)

/-- A text for an output of characters, in which a surrogate is written as its escape. -/
def escapeSurrogates (codes : Codes) : String :=
  String.ofList (codes.flatMap fun code =>
    if isSurrogate code then numberEscape code else [Char.ofNat code])

/-- Octets between quotes after a `b`; only printable ASCII stands as it is. -/
def quotedOctets (bs : List UInt8) : String :=
  let codes := bs.map UInt8.toNat
  let mark := quoteMark codes
  let shows := fun code => decide (0x20 ≤ code ∧ code < 0x7F)
  String.ofList
    ('b' :: Char.ofNat mark :: codes.flatMap (quoteCode shows mark) ++ [Char.ofNat mark])

end Passpoint.Text
