import Passpoint.Octets
import Passpoint.Text.Blank
import Passpoint.Text.Hex

/-!
Element buffers in scan results: hexadecimal digits behind an equals sign. White space may stand
around the digits and not between them.
-/

namespace Passpoint.Element.ScanText

inductive Fault where
  | missing
  | noSeparator
  | inside
  /-- The place behind the white space where a digit should be. -/
  | notHex (position : Nat)
  deriving DecidableEq, Repr

def Fault.message : Fault → String
  | .missing => "Null information element string"
  | .noSeparator => "No element separator"
  | .inside => "Information elements must not contain separators"
  | .notHex position =>
    "Information elements are not valid hex: " ++
      s!"non-hexadecimal number found in fromhex() arg at position {position}"

/-- The buffer that a text spells. -/
def parse (text : String) : Except Fault Octets :=
  match Text.splitFirst '=' text.toList with
  | none => .error .noSeparator
  | some (_, value) =>
    let digits := Text.strip value
    if digits.any Text.isBlank then .error .inside
    else (Text.readOctets digits).mapError .notHex

def parse? : Option String → Except Fault Octets
  | none => .error .missing
  | some text => parse text

end Passpoint.Element.ScanText
