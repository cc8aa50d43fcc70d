import Passpoint.Decimal.Notation
import Passpoint.Decimal.Reading
import Passpoint.Document.Nesting
import Passpoint.Document.Places
import Passpoint.Document.Value
import Passpoint.Text.Quoted

/-!
Values as messages show them. A collection inside itself is shown by dots. Neither an integer of
too many digits nor a value nested too deeply can be shown.
-/

namespace Passpoint.Document

/-- Why a value cannot be shown. -/
inductive ShowFault where
  | tooManyDigits
  | tooDeep
  deriving DecidableEq, Repr

def ShowFault.message : ShowFault → String
  | .tooManyDigits =>
    s!"Exceeds the limit ({Decimal.digitLimit} digits) for integer string conversion; " ++
      "use sys.set_int_max_str_digits() to increase the limit"
  | .tooDeep => tooDeepMessage "while getting the repr of an object"

abbrev Shown := Except ShowFault String

def showInt (n : Int) : Shown :=
  if n.natAbs < Nat.pow 10 Decimal.digitLimit then .ok (toString n) else .error .tooManyDigits

namespace Atom

def shown : Atom → Shown
  | .null => .ok "None"
  | .bool b => .ok (if b then "True" else "False")
  | .int n => showInt n
  | .float x => .ok (Decimal.render x)
  | .notNumber _ => .ok "nan"
  | .text s => .ok (Text.quoted s)
  | .brokenText codes => .ok (Text.quotedCodes codes)
  | .octets bs => .ok (Text.quotedOctets bs)
  | .day d => .ok d.shown
  | .moment m => .ok m.shown

end Atom

namespace Value

/-- A collection that stands inside itself. -/
def dots : Value → String
  | .map _ => "\x7b...\x7d"
  | .set _ => "set(...)"
  | _ => "[...]"

/-- A value whose parts are shown by `part`. -/
def shownBy (part : Value → Shown) : Value → Shown
  | .atom a => a.shown
  | .list items => do return "[" ++ commaList (← items.mapM part) ++ "]"
  | .pair a b => do return "(" ++ (← part a) ++ ", " ++ (← part b) ++ ")"
  | .set [] => .ok "set()"
  | .set items => do return "\x7b" ++ commaList (← (memberOrder items).mapM Atom.shown) ++ "\x7d"
  | .map entries => do
    let entry := fun (e : Atom × Value) => do return (← e.1.shown) ++ ": " ++ (← part e.2)
    return "\x7b" ++ commaList (← entries.mapM entry) ++ "\x7d"
  | .link _ => .ok ""

/-- A value with at most `depth` levels; the collections in `around` are those that it stands
in. -/
def shownAt (cells : Cells) : (depth : Nat) → (around : List Nat) → Value → Shown
  | 0, _, _ => .error .tooDeep
  | depth + 1, around, v =>
    match v with
    | .link cell =>
      let collection := v.follow cells
      if around.contains cell then .ok collection.dots
      else shownBy (shownAt cells depth (cell :: around)) collection
    | v => shownBy (shownAt cells depth around) v

/-- A value of a document. -/
def shown (cells : Cells) (v : Value) : Shown := v.shownAt cells Nesting.shown []

end Value

end Passpoint.Document
