import Passpoint.Document.Yaml.Time
import Passpoint.Text.Hex

/-!
What a node stands for. A node may be tagged; a plain scalar without a tag has its kind from the
way it is spelt, by the rules of YAML 1.1.
-/

namespace Passpoint.Document.Yaml

inductive Tag where
  | null
  | bool
  | int
  | float
  | octets
  | timestamp
  | orderedMap
  | pairs
  | set
  | str
  | seq
  | map
  /-- The key `<<`, whose value is merged into the mapping around it. -/
  | merge
  /-- The key `=`, whose value stands for the mapping around it where a scalar is asked for. -/
  | value
  | unknown
  deriving DecidableEq, Repr

/-- What the names of the standard tags start with. -/
def standardTags : String := "tag:yaml.org,2002:"

def Tag.ofName (name : String) : Tag :=
  let known : List (String × Tag) :=
    [("null", .null), ("bool", .bool), ("int", .int), ("float", .float), ("binary", .octets),
     ("timestamp", .timestamp), ("omap", .orderedMap), ("pairs", .pairs), ("set", .set),
     ("str", .str), ("seq", .seq), ("map", .map), ("merge", .merge), ("value", .value)]
  ((known.find? fun p => standardTags ++ p.1 = name).map (·.2)).getD .unknown

/-! ### Spellings -/

/-- Lower case, capitalised, and upper case. -/
def spellings (word : String) : List (List Char) :=
  [word.toList, word.capitalize.toList, word.toUpper.toList]

def isSpelling (words : List String) (cs : List Char) : Bool :=
  (words.flatMap spellings).contains cs

def isDigitOrLine (c : Char) : Bool := c.isDigit || c = '_'

/-- Digits and underscores, a digit first. -/
def isNumeral : List Char → Bool
  | [] => false
  | c :: cs => c.isDigit && cs.all isDigitOrLine

/-- One or two digits below sixty. -/
def isSixtieth : List Char → Bool
  | [a] => a.isDigit
  | [a, b] => '0' ≤ a && a ≤ '5' && b.isDigit
  | _ => false

def isMarked (p : Char → Bool) (cs : List Char) : Bool := !cs.isEmpty && cs.all p

/-- An integer: in base two, eight or sixteen, in base ten, or in hours, minutes and seconds. -/
def isIntSpelling (cs : List Char) : Bool :=
  match (Text.splitSign cs).2 with
  | '0' :: 'b' :: ds => isMarked (fun c => c = '0' || c = '1' || c = '_') ds
  | '0' :: 'x' :: ds => isMarked (fun c => (Text.hexValue? c).isSome || c = '_') ds
  | '0' :: ds => ds.all fun c => ('0' ≤ c && c ≤ '7') || c = '_'
  | body =>
    match Text.splitAll ':' body with
    | [] => false
    | head :: parts => isNumeral head && parts.all isSixtieth

/-- Nothing, or `e`, a sign and digits. -/
def isExponent : List Char → Bool
  | [] => true
  | e :: sign :: ds =>
    (e = 'e' || e = 'E') && (sign = '+' || sign = '-') && isMarked Char.isDigit ds
  | _ => false

/-- A number with a point. Only a number that starts with a digit, and infinity, take a sign. -/
def isFloatSpelling (cs : List Char) : Bool :=
  let body := (Text.splitSign cs).2
  let special := body.head? = some '.' && isSpelling ["inf"] body.tail ||
    cs.head? = some '.' && ([".nan", ".NaN", ".NAN"].map String.toList).contains cs
  match Text.splitFirst '.' body with
  | none => false
  | some (whole, rest) =>
    let fraction := rest.takeWhile isDigitOrLine
    let ending := rest.dropWhile isDigitOrLine
    let number :=
      if whole.isEmpty then cs.head? = some '.' && isNumeral fraction && isExponent ending
      else if isNumeral whole then isExponent ending
      else match Text.splitAll ':' whole with
        | head :: part :: parts =>
          isNumeral head && (part :: parts).all isSixtieth && ending.isEmpty
        | _ => false
    special || number

/-- A day without a time has two digits for month and day. -/
def isStampSpelling (cs : List Char) : Bool :=
  (Stamp.ofText? cs).any fun s => s.clock.isSome || s.padded

/-- The tag of a plain scalar by its spelling. One line break may follow a word or a number. -/
def Tag.ofPlain (cs : List Char) : Tag :=
  let word := withoutBreak cs
  if isSpelling ["yes", "no", "true", "false", "on", "off"] word then .bool
  else if isFloatSpelling word then .float
  else if isIntSpelling word then .int
  else if word = ['<', '<'] then .merge
  else if word = [] ∨ word = ['~'] ∨ isSpelling ["null"] word then .null
  else if isStampSpelling cs then .timestamp
  else if word = ['='] then .value
  else if word = ['!'] ∨ word = ['&'] ∨ word = ['*'] then .unknown
  else .str

end Passpoint.Document.Yaml
