import Passpoint.Document.Atom
import Passpoint.Document.Yaml.Tag
import Passpoint.Text.Base64
import Passpoint.Text.Lower
import Passpoint.Document.Yaml.Fault

/-!
The values of scalars. Underscores in numbers do not count, and a number may be given in base
sixty, its places separated by colons.
-/

namespace Passpoint.Document.Yaml

open Text (Codes charsOf codesOf)

def truth (codes : Codes) : Outcome Atom :=
  let word := Text.lower codes
  let isAny := fun (words : List String) => (words.map String.toList).contains (charsOf word)
  if isAny ["yes", "true", "on"] then .ok (.bool true)
  else if isAny ["no", "false", "off"] then .ok (.bool false)
  else .error (.unforeseen (.truth word))

/-- The sign of a number, which is true for a minus, and its digits without underscores. There must
be something to read. -/
def signed (codes : Codes) : Outcome (Bool × Codes) :=
  match codes.filter (Char.ofNat · ≠ '_') with
  | [] => .error (.unforeseen .number)
  | code :: rest =>
    if Char.ofNat code = '-' then .ok (true, rest)
    else if Char.ofNat code = '+' then .ok (false, rest)
    else .ok (false, code :: rest)

/-- The places of a number in base sixty, greatest first. -/
def places (codes : Codes) : List Codes := Text.splitAll (':').toNat codes

def integer (base : Nat) (codes : Codes) : Outcome Int :=
  (Text.readInteger base (charsOf codes)).mapError fun f => .value (.integer base codes f)

def unsignedInteger (codes : Codes) : Outcome Int :=
  match charsOf codes with
  | [] => .error (.unforeseen .number)
  | ['0'] => .ok 0
  | '0' :: 'b' :: _ => integer 2 (codes.drop 2)
  | '0' :: 'x' :: _ => integer 16 (codes.drop 2)
  | '0' :: _ => integer 8 codes
  | cs =>
    if cs.contains ':' then do
      return (← (places codes).mapM (integer 10)).foldl (fun n place => 60 * n + place) 0
    else integer 10 codes

def integerValue (codes : Codes) : Outcome Atom := do
  let (negative, digits) ← signed codes
  let n ← unsignedInteger digits
  return .int (if negative then -n else n)

def float (codes : Codes) : Outcome Float :=
  match Text.float? (charsOf codes) with
  | some x => .ok x
  | none => .error (.value (.float codes))

/-- The sum of places, least first, each with its weight; `weight` is that of the first. Weights
are exact and must be in the range of a float. -/
def weigh (sum : Float) (weight : Nat) : List Float → Outcome Float
  | [] => .ok sum
  | place :: more =>
    let w := Decimal.toFloat weight 0
    if w = 1.0 / 0.0 then .error (.unforeseen .places)
    else weigh (sum + place * w) (60 * weight) more

def unsignedFloat (codes : Codes) : Outcome Float := do
  if (charsOf codes).contains ':' then
    weigh 0.0 1 (← (places codes).mapM float).reverse
  else float codes

/-- A float at a place of the text. -/
def floatValue (place : Nat) (codes : Codes) : Outcome Atom := do
  let (negative, digits) ← signed codes
  let digits := Text.lower digits
  let signedAtom := fun (x : Float) => Atom.ofFloat (some place) (if negative then -x else x)
  if charsOf digits = ".inf".toList then return signedAtom (1.0 / 0.0)
  else if charsOf digits = ".nan".toList then return .notNumber none
  else return signedAtom (← unsignedFloat digits)

def octetsValue (codes : Codes) : Outcome Atom := do
  if codes.all (· < 128) then return .octets (← require (Text.Base64.decode? (charsOf codes)))
  else throw .form

def timeValue (codes : Codes) : Outcome Atom :=
  match Stamp.ofText? (charsOf codes) with
  | none => .error (.unforeseen .time)
  | some s =>
    match s.value with
    | .ok (.inl d) => .ok (.day d)
    | .ok (.inr m) => .ok (.moment m)
    | .error f => .error (.value (.calendar f))

/-- The value of a scalar at a place. Only the standard tags of scalars have values. -/
def scalarValue (tag : Tag) (place : Nat) (codes : Codes) : Outcome Atom :=
  match tag with
  | .null => .ok .null
  | .bool => truth codes
  | .int => integerValue codes
  | .float => floatValue place codes
  | .octets => octetsValue codes
  | .timestamp => timeValue codes
  | .str => .ok (.ofCodes codes)
  | _ => .error .form

end Passpoint.Document.Yaml
