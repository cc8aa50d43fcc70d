import Passpoint.Document.Nesting
import Passpoint.Document.Yaml.Time
import Passpoint.Text.Quoted

/-!
Why a YAML text has no value. Of two faults in a text the one that reading meets first counts, and
a text is read no further than the part in hand asks for.
-/

namespace Passpoint.Document.Yaml

open Text (Codes)

/-- A part that is no value of its kind. -/
inductive ValueFault where
  /-- The text is no integer in the base that its digits call for. -/
  | integer (base : Nat) (text : Codes) (f : Text.IntegerFault)
  | float (text : Codes)
  | calendar (f : CalendarFault)
  /-- An escape names a number above the last code point. -/
  | character
  /-- A number of a directive has this many digits. -/
  | version (digits : Nat)
  deriving DecidableEq, Repr

/-- A text as a message shows it, cut off if it is long. -/
def shortened (codes : Codes) : String := String.ofList ((Text.quoteCodes codes).take 200)

def ValueFault.message : ValueFault → String
  | .integer base text .spelling =>
    s!"invalid literal for int() with base {base}: {shortened text}"
  | .integer _ _ (.tooManyDigits count) => Decimal.limitMessage count
  | .float text => "could not convert string to float: " ++ Text.quotedCodes text
  | .calendar f => f.message
  | .character => "chr() arg not in range(0x110000)"
  | .version digits => Decimal.limitMessage digits

/-- A part that no rule speaks of. -/
inductive Unforeseen where
  /-- A truth value that is none of the words for one. -/
  | truth (word : Codes)
  /-- A number without a digit. -/
  | number
  /-- Not the form of a time. -/
  | time
  /-- A mapping as a time. -/
  | timeOfMapping
  /-- An escape names a number of more than 31 bits. -/
  | escape
  /-- A number in base sixty has more places than a float can weigh. -/
  | places
  | tooDeep
  deriving DecidableEq, Repr

def Unforeseen.message : Unforeseen → String
  | .truth word => Text.quotedCodes word
  | .number => "string index out of range"
  | .time => "'NoneType' object has no attribute 'groupdict'"
  | .timeOfMapping => "expected string or bytes-like object, got 'list'"
  | .escape => "Python int too large to convert to C int"
  | .places => "int too large to convert to float"
  | .tooDeep => tooDeepMessage ""

inductive Fault where
  /-- It is no YAML, or holds something that no standard value is made of. -/
  | form
  | value (f : ValueFault)
  | unforeseen (f : Unforeseen)
  deriving DecidableEq, Repr

abbrev Outcome := Except Fault

def require {α : Type} : Option α → Outcome α
  | some a => .ok a
  | none => .error .form

end Passpoint.Document.Yaml
