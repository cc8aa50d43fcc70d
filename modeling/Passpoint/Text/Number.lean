import Passpoint.Decimal.Reading
import Passpoint.Text.Blank
import Passpoint.Text.DecimalDigit
import Passpoint.Text.Hex

/-!
Numbers as people write them: white space around, a sign, digits of any script, and single
underscores between digits.
-/

namespace Passpoint.Text

/-- White space that may stand around a number: of the ASCII characters only the six blanks. -/
def isNumberBlank (c : Char) : Bool := isAsciiBlank c || (0x7F < c.toNat && isBlank c)

/-- The value of a digit in any base up to sixteen; decimal digits may come from any script. -/
def digitValue? (c : Char) : Option Nat := (decimalValue? c).orElse fun _ => hexValue? c

/-- Splits off a leading sign; `true` is minus. -/
def splitSign : List Char → Bool × List Char
  | '-' :: cs => (true, cs)
  | '+' :: cs => (false, cs)
  | cs => (false, cs)

/-- The values of a run of digits below `base`. One underscore may stand between two digits, and
with `after` also in front of the first. -/
def digitRun? (base : Nat) (after : Bool) : List Char → Option (List Nat)
  | [] => if after then none else some []
  | '_' :: cs => if after then none else digitRun? base true cs
  | c :: cs => do
    let d ← digitValue? c
    if d < base then return d :: (← digitRun? base false cs) else none

/-- A non-empty run of digits that starts with a digit. -/
def digits? (base : Nat) (cs : List Char) : Option (List Nat) :=
  match cs with
  | [] => none
  | '_' :: _ => none
  | _ => digitRun? base false cs

def ofDigits (base : Nat) (ds : List Nat) : Nat := ds.foldl (fun n d => base * n + d) 0

/-- The marks that may stand before the digits of a number in base two, eight or sixteen. -/
def baseMark? : Nat → Option Char
  | 2 => some 'b'
  | 8 => some 'o'
  | 16 => some 'x'
  | _ => none

/-- The digits after an optional mark such as `0x`; an underscore may follow the mark. -/
def afterBaseMark (base : Nat) (cs : List Char) : List Char :=
  match cs, baseMark? base with
  | '0' :: m :: rest, some mark =>
    if m.toLower = mark then
      match rest with
      | '_' :: rest => rest
      | rest => rest
    else cs
  | _, _ => cs

/-- Why a text is no integer. -/
inductive IntegerFault where
  | spelling
  | tooManyDigits (count : Nat)
  deriving DecidableEq, Repr

/-- An integer in a base. In base ten more than `Decimal.digitLimit` digits are refused. -/
def readInteger (base : Nat) (cs : List Char) : Except IntegerFault Int :=
  let (negative, body) := splitSign (stripBy isNumberBlank cs)
  match digits? base (afterBaseMark base body) with
  | none => .error .spelling
  | some ds =>
    if base = 10 ∧ Decimal.digitLimit < ds.length then .error (.tooManyDigits ds.length)
    else
      let n : Int := ofDigits base ds
      .ok (if negative then -n else n)

def integer? (base : Nat) (cs : List Char) : Option Int := (readInteger base cs).toOption

/-- The words for infinity and for no number, in lower case. -/
def infinityWords : List String := ["inf", "infinity"]

/-- Digits with an optional fraction and exponent, or a word; no underscores. -/
def unsignedFloat? (cs : List Char) : Option Float := do
  let word := String.ofList (cs.map Char.toLower)
  if infinityWords.contains word then return 1.0 / 0.0
  if word = "nan" then return 0.0 / 0.0
  let isDigit := fun c => (decimalValue? c).isSome
  let whole := cs.takeWhile isDigit
  let rest := cs.dropWhile isDigit
  let (decimals, rest) := match rest with
    | '.' :: r => (r.takeWhile isDigit, r.dropWhile isDigit)
    | r => ([], r)
  if whole.isEmpty ∧ decimals.isEmpty then none
  let power ← match rest with
    | [] => some 0
    | mark :: r =>
      if mark.toLower ≠ 'e' then none
      else
        let (negative, body) := splitSign r
        let n : Int := ofDigits 10 (← digits? 10 (body.filter (· ≠ '_')))
        if body.contains '_' then none else some (if negative then -n else n)
  let ds := (whole ++ decimals).filterMap decimalValue?
  return Decimal.toFloat (ofDigits 10 ds) (power - decimals.length)

/-- A binary64 value. -/
def float? (cs : List Char) : Option Float := do
  let (negative, body) := splitSign (stripBy isNumberBlank cs)
  let x ← unsignedFloat? body
  return if negative then -x else x

end Passpoint.Text
