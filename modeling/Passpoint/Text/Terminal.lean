/-!
Terminal control sequences: ESC and an opening bracket, then characters from `0` to `?`, characters
from the space to the slash, and one character from `@` to the tilde. Output that goes to a file or
a pipe leaves them out.
-/

namespace Passpoint.Text.Terminal

def isParameter (c : Char) : Bool := '0' ≤ c && c ≤ '?'

def isIntermediate (c : Char) : Bool := ' ' ≤ c && c ≤ '/'

def isFinal (c : Char) : Bool := '@' ≤ c && c ≤ '~'

/-- What follows a control sequence whose parameters start here, if this is one. -/
def afterSequence? (cs : List Char) : Option (List Char) :=
  match (cs.dropWhile isParameter).dropWhile isIntermediate with
  | [] => none
  | c :: rest => if isFinal c then some rest else none

theorem length_afterSequence?_lt {cs rest : List Char} (h : afterSequence? cs = some rest) :
    rest.length < cs.length := by
  have hp := (List.dropWhile_sublist isParameter (l := cs)).length_le
  have hi := (List.dropWhile_sublist isIntermediate (l := cs.dropWhile isParameter)).length_le
  simp only [afterSequence?] at h
  split at h
  · cases h
  · rename_i c tail e
    rw [e, List.length_cons] at hi
    split at h
    · cases h; omega
    · cases h

/-- The text without its control sequences. -/
def strip : List Char → List Char
  | '\x1b' :: '[' :: cs =>
    match _h : afterSequence? cs with
    | some rest => strip rest
    | none => '\x1b' :: strip ('[' :: cs)
  | c :: cs => c :: strip cs
  | [] => []
termination_by cs => cs.length
decreasing_by
  · have := length_afterSequence?_lt _h; simp only [List.length_cons]; omega
  · simp
  · simp

end Passpoint.Text.Terminal
