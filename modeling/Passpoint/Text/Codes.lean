import Passpoint.Text.Blank

/-!
Text as code points. An escape can name a lone surrogate, which is a code point and no character,
so a text that holds one has no other form.
-/

namespace Passpoint.Text

abbrev Codes := List Nat

def isSurrogate (code : Nat) : Bool := 0xD800 ≤ code && code ≤ 0xDFFF

def codesOf (cs : List Char) : Codes := cs.map Char.toNat

/-- The characters of a text, for rules in which a surrogate has no part; NUL stands for one. -/
def charsOf (codes : Codes) : List Char := codes.map Char.ofNat

/-- The text as characters, if it holds no surrogate. -/
def string? (codes : Codes) : Option String :=
  if codes.any isSurrogate then none else some (String.ofList (charsOf codes))

/-- Whether a text stands at or before another in the order of code points. -/
def inOrder : Codes → Codes → Bool
  | [], _ => true
  | _ :: _, [] => false
  | a :: s, b :: t => a < b || a == b && inOrder s t

end Passpoint.Text
