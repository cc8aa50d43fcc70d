/-!
Lines of text. A text file may end its lines with LF, CR LF or CR; `uniformBreaks` makes them all
LF. `splitLines` then cuts at every line boundary of Unicode, not only at LF.
-/

namespace Passpoint.Text

/-- Turns CR LF and lone CR into LF. -/
def uniformBreaks : List Char → List Char
  | '\r' :: '\n' :: cs => '\n' :: uniformBreaks cs
  | '\r' :: cs => '\n' :: uniformBreaks cs
  | c :: cs => c :: uniformBreaks cs
  | [] => []

/-- A character that ends a line: LF, VT, FF, CR, U+001C to U+001E, NEL, LS, PS. -/
def isLineBreak (c : Char) : Bool :=
  let n := c.toNat
  (0x0A ≤ n && n ≤ 0x0D) || (0x1C ≤ n && n ≤ 0x1E) || n = 0x85 || n = 0x2028 || n = 0x2029

/-- The lines of a text, without their ends. CR LF is one end; text after the last end is a line of
its own unless it is empty. -/
def splitLines (cs : List Char) : List (List Char) := go [] cs
where
  /-- `line` holds the current line backwards. -/
  go (line : List Char) : List Char → List (List Char)
    | [] => if line.isEmpty then [] else [line.reverse]
    | '\r' :: '\n' :: cs => line.reverse :: go [] cs
    | c :: cs => if isLineBreak c then line.reverse :: go [] cs else go (c :: line) cs

end Passpoint.Text
