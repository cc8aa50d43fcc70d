import Passpoint.Decimal.Reading
import Passpoint.Document.Nesting
import Passpoint.Document.Value
import Passpoint.Text.Hex

/-!
Reading JSON. The numbers `NaN`, `Infinity` and `-Infinity` are accepted beside the standard ones,
a number with a fraction or an exponent is a float and any other an integer of any size, and of
two members with one name the later value counts. A fault names the place where reading stopped.

A reader takes the characters from its place on and gives back those after what it read. A place
is kept as the number of characters left, so that no reader has to count.
-/

namespace Passpoint.Document.Json

inductive Cause where
  | expectedValue
  | expectedName
  | expectedColon
  | expectedComma
  | extraData
  | unterminatedText
  | controlCharacter
  | badEscape
  | badCodeEscape
  | byteOrderMark
  | tooManyDigits (count : Nat)
  /-- A list or an object inside too many others. -/
  | tooDeep (kind : String)
  deriving DecidableEq, Repr

/-- A fault and how many characters were left at its place. -/
structure Stop where
  cause : Cause
  left : Nat
  deriving DecidableEq, Repr

abbrev Reader (α : Type) := List Char → Except Stop (α × List Char)

def isBlank (c : Char) : Bool := c = ' ' || c = '\t' || c = '\n' || c = '\r'

def skipBlanks (cs : List Char) : List Char := cs.dropWhile isBlank

/-- The number that four hexadecimal digits spell. -/
def fourDigits? (cs : List Char) : Option Nat :=
  if cs.length < 4 then none
  else (cs.take 4).foldl (fun n? c => do return 16 * (← n?) + (← Text.hexValue? c)) (some 0)

def letterEscape? : Char → Option Nat
  | '\x22' => some 0x22
  | '\\' => some 0x5C
  | '/' => some 0x2F
  | 'b' => some 0x08
  | 'f' => some 0x0C
  | 'n' => some 0x0A
  | 'r' => some 0x0D
  | 't' => some 0x09
  | _ => none

/-- The low half of a surrogate pair whose escape starts here, if there is one. The escape has to
be followed by another character, and four bad digits are a fault. -/
def lowHalf? (cs : List Char) : Except Stop (Option Nat) :=
  match cs with
  | '\\' :: 'u' :: ds =>
    if ds.length ≤ 4 then .ok none
    else match fourDigits? ds with
      | none => .error ⟨.badCodeEscape, ds.length + 1⟩
      | some low => .ok (if 0xDC00 ≤ low ∧ low ≤ 0xDFFF then some low else none)
  | _ => .ok none

/-- The code point of the escape after a backslash, and how many characters the escape takes.
`start` is the place of the opening quote. -/
def escape (start : Nat) : List Char → Except Stop (Nat × Nat)
  | [] => .error ⟨.unterminatedText, start⟩
  | 'u' :: ds =>
    if ds.length ≤ 4 then .error ⟨.badCodeEscape, ds.length + 1⟩
    else match fourDigits? ds with
      | none => .error ⟨.badCodeEscape, ds.length + 1⟩
      | some code =>
        if 0xD800 ≤ code ∧ code ≤ 0xDBFF then do
          match ← lowHalf? (ds.drop 4) with
          | some low => return (0x10000 + (code - 0xD800) * 0x400 + (low - 0xDC00), 11)
          | none => return (code, 5)
        else .ok (code, 5)
  | c :: cs => match letterEscape? c with
    | some code => .ok (code, 1)
    | none => .error ⟨.badEscape, cs.length + 2⟩

/-- The code points up to the closing quote. -/
def textBody (start : Nat) : Reader (List Nat)
  | [] => .error ⟨.unterminatedText, start⟩
  | c :: cs =>
    if c = '\x22' then .ok ([], cs)
    else if c = '\\' then do
      let (code, used) ← escape start cs
      let (codes, rest) ← textBody start (cs.drop used)
      return (code :: codes, rest)
    else if c.toNat < 0x20 then .error ⟨.controlCharacter, cs.length + 1⟩
    else do
      let (codes, rest) ← textBody start cs
      return (c.toNat :: codes, rest)
termination_by cs => cs.length
decreasing_by all_goals simp only [List.length_cons, List.length_drop]; omega

/-- The exponent after a mantissa: a letter, an optional sign and at least one digit. -/
def exponent? (cs : List Char) : Option (Int × List Char) :=
  match cs with
  | [] => none
  | mark :: rest =>
    if mark ≠ 'e' ∧ mark ≠ 'E' then none
    else
      let (negative, body) := match rest with
        | '-' :: r => (true, r)
        | '+' :: r => (false, r)
        | r => (false, r)
      let ds := body.takeWhile Char.isDigit
      if ds.isEmpty then none
      else
        let n : Int := Decimal.natOfDigits ds
        some (if negative then -n else n, body.drop ds.length)

/-- The digits after a point, if a point and a digit come next. -/
def fraction? (cs : List Char) : Option (List Char × List Char) :=
  match cs with
  | '.' :: r =>
    let ds := r.takeWhile Char.isDigit
    if ds.isEmpty then none else some (ds, r.drop ds.length)
  | _ => none

def number (cs : List Char) : Except Stop (Value × List Char) :=
  let (negative, body) := match cs with
    | '-' :: r => (true, r)
    | r => (false, r)
  -- A leading zero stands alone.
  let whole := match body with
    | '0' :: _ => ['0']
    | _ => body.takeWhile Char.isDigit
  if whole.isEmpty then .error ⟨.expectedValue, cs.length⟩
  else
    let afterWhole := body.drop whole.length
    let fraction := fraction? afterWhole
    let (decimals, afterFraction) := fraction.getD ([], afterWhole)
    let power := exponent? afterFraction
    if fraction.isNone ∧ power.isNone then
      if Decimal.digitLimit < whole.length then .error ⟨.tooManyDigits whole.length, cs.length⟩
      else
        let n : Int := Decimal.natOfDigits whole
        .ok (.atom (.int (if negative then -n else n)), afterWhole)
    else
      let (e, rest) := power.getD (0, afterFraction)
      let x := Decimal.toFloat (Decimal.natOfDigits (whole ++ decimals)) (e - decimals.length)
      .ok (.atom (.float (if negative then -x else x)), rest)

/-- The words that stand for a value. -/
def words : List (String × Atom) :=
  [("null", .null), ("true", .bool true), ("false", .bool false), ("NaN", .notNumber none),
   ("Infinity", .float (1.0 / 0.0)), ("-Infinity", .float (-1.0 / 0.0))]

def word? (cs : List Char) : Option (Value × List Char) :=
  (words.find? fun w => w.1.toList.isPrefixOf cs).map fun w => (.atom w.2, cs.drop w.1.length)

/-- The number of levels inside one more list or object. -/
def deeper (kind : String) (depth left : Nat) : Except Stop Nat :=
  if depth < Nesting.json then .ok (depth + 1) else .error ⟨.tooDeep kind, left⟩

mutual

/-- Reads one value with `depth` levels around it. Each nested value and each further item takes at
least one character, so fuel above the number of characters never runs out. -/
def value : (fuel depth : Nat) → Reader Value
  | 0, _, cs => .error ⟨.expectedValue, cs.length⟩
  | fuel + 1, depth, cs =>
    match cs with
    | [] => .error ⟨.expectedValue, 0⟩
    | c :: rest =>
      if c = '\x22' then do
        let (codes, after) ← textBody cs.length rest
        return (.atom (.ofCodes codes), after)
      else if c = '[' then do
        let depth ← deeper "array" depth cs.length
        match skipBlanks rest with
        | ']' :: after => return (.list [], after)
        | inside =>
          let (items, after) ← itemsAfter fuel depth inside
          return (.list items, after)
      else if c = '\x7b' then do
        let depth ← deeper "object" depth cs.length
        match skipBlanks rest with
        | '\x7d' :: after => return (.map [], after)
        | inside =>
          let (entries, after) ← membersAfter fuel depth [] inside
          return (.map entries, after)
      else match word? cs with
        | some found => .ok found
        | none => number cs

/-- The items of an array from here to its closing bracket. -/
def itemsAfter : (fuel depth : Nat) → Reader (List Value)
  | 0, _, cs => .error ⟨.expectedValue, cs.length⟩
  | fuel + 1, depth, cs => do
    let (item, rest) ← value fuel depth cs
    match skipBlanks rest with
    | ']' :: after => return ([item], after)
    | ',' :: after =>
      let (items, after) ← itemsAfter fuel depth (skipBlanks after)
      return (item :: items, after)
    | other => throw ⟨.expectedComma, other.length⟩

/-- The members of an object from here to its closing brace, added to those before. -/
def membersAfter : (fuel depth : Nat) → List (Atom × Value) → Reader (List (Atom × Value))
  | 0, _, _, cs => .error ⟨.expectedName, cs.length⟩
  | fuel + 1, depth, before, cs => do
    match cs with
    | '\x22' :: inside =>
      let (name, rest) ← textBody cs.length inside
      match skipBlanks rest with
      | ':' :: rest =>
        let (v, rest) ← value fuel depth (skipBlanks rest)
        let entries := putEntry (.ofCodes name) v before
        match skipBlanks rest with
        | '\x7d' :: after => return (entries, after)
        | ',' :: after => membersAfter fuel depth entries (skipBlanks after)
        | other => throw ⟨.expectedComma, other.length⟩
      | other => throw ⟨.expectedColon, other.length⟩
    | other => throw ⟨.expectedName, other.length⟩

end

/-- Reads a text that holds one value and nothing else but white space. -/
def document (cs : List Char) : Except Stop Value :=
  match cs with
  | '\ufeff' :: _ => .error ⟨.byteOrderMark, cs.length⟩
  | _ => do
    let (v, rest) ← value (cs.length + 1) 0 (skipBlanks cs)
    match skipBlanks rest with
    | [] => return v
    | other => throw ⟨.extraData, other.length⟩

/-! ### Faults in messages -/

/-- The line and the column, both from one, of the character with this index. -/
def lineColumn (cs : List Char) (index : Nat) : Nat × Nat :=
  let before := cs.take index
  (before.count '\n' + 1, (before.reverse.takeWhile (· ≠ '\n')).length + 1)

def Cause.message : Cause → String
  | .expectedValue => "Expecting value"
  | .expectedName => "Expecting property name enclosed in double quotes"
  | .expectedColon => "Expecting ':' delimiter"
  | .expectedComma => "Expecting ',' delimiter"
  | .extraData => "Extra data"
  | .unterminatedText => "Unterminated string starting at"
  | .controlCharacter => "Invalid control character at"
  | .badEscape => "Invalid \\escape"
  | .badCodeEscape => "Invalid \\uXXXX escape"
  | .byteOrderMark => "Unexpected UTF-8 BOM (decode using utf-8-sig)"
  | .tooManyDigits count => Decimal.limitMessage count
  | .tooDeep kind => tooDeepMessage s!"while decoding a JSON {kind} from a unicode string"

def Stop.isTooDeep (stop : Stop) : Bool :=
  match stop.cause with
  | .tooDeep _ => true
  | _ => false

/-- The message of a fault in the text `cs`. What goes over a limit has no place. -/
def Stop.message (cs : List Char) (stop : Stop) : String :=
  match stop.cause with
  | .tooManyDigits count => Cause.message (.tooManyDigits count)
  | .tooDeep kind => Cause.message (.tooDeep kind)
  | cause =>
    let index := cs.length - stop.left
    let (line, column) := lineColumn cs index
    s!"{cause.message}: line {line} column {column} (char {index})"

end Passpoint.Document.Json
