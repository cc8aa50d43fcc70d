/-!
White space. `isBlank` holds the 29 code points that separate words in any script, and `strip`
takes them off both ends of a text. Between hexadecimal octets only the six ASCII blanks count.
-/

namespace Passpoint.Text

/-- Closed ranges of code points, ascending and apart. -/
def inRanges (ranges : List (Nat × Nat)) (code : Nat) : Bool :=
  ranges.any fun r => r.1 ≤ code && code ≤ r.2

/-- White space of any script, the four ASCII separators U+001C to U+001F included. -/
def blankRanges : List (Nat × Nat) :=
  [(0x09, 0x0D), (0x1C, 0x20), (0x85, 0x85), (0xA0, 0xA0), (0x1680, 0x1680), (0x2000, 0x200A),
   (0x2028, 0x2029), (0x202F, 0x202F), (0x205F, 0x205F), (0x3000, 0x3000)]

def isBlank (c : Char) : Bool := inRanges blankRanges c.toNat

/-- Space, tab, line feed, vertical tab, form feed and carriage return. -/
def isAsciiBlank (c : Char) : Bool :=
  c.toNat = 0x20 || (0x09 ≤ c.toNat && c.toNat ≤ 0x0D)

theorem isBlank_of_isAsciiBlank {c : Char} (h : isAsciiBlank c = true) : isBlank c = true := by
  simp only [isAsciiBlank, Bool.or_eq_true, decide_eq_true_eq, Bool.and_eq_true] at h
  simp only [isBlank, inRanges, blankRanges, List.any_cons, Bool.or_eq_true, Bool.and_eq_true,
    decide_eq_true_eq]
  omega

/-- The text without the characters of one kind at its two ends. -/
def stripBy (p : Char → Bool) (cs : List Char) : List Char :=
  ((cs.dropWhile p).reverse.dropWhile p).reverse

/-- The text without the white space at its two ends. -/
def strip (cs : List Char) : List Char := stripBy isBlank cs

/-- The part before the first `sep` and the part after it, or nothing if `sep` does not occur. -/
def splitFirst (sep : Char) : List Char → Option (List Char × List Char)
  | [] => none
  | c :: cs =>
    if c = sep then some ([], cs) else (splitFirst sep cs).map fun p => (c :: p.1, p.2)

/-- The parts between the places where `sep` stands; one part more than there are such places. -/
def splitAll {α : Type} [DecidableEq α] (sep : α) : List α → List (List α)
  | [] => [[]]
  | c :: cs =>
    match splitAll sep cs with
    | [] => [[]]
    | part :: parts => if c = sep then [] :: part :: parts else (c :: part) :: parts

end Passpoint.Text
