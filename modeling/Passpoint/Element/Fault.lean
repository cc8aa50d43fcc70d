import Passpoint.Element.Tag

/-!
Elements that break the layout of their kind.
-/

namespace Passpoint.Element

/-- How the body of an element breaks its layout. -/
inductive Flaw where
  /-- The load of a network takes five octets. -/
  | loadLength (length : Nat)
  /-- The identifiers of a consortium need two octets in front. -/
  | consortiumShort (length : Nat)
  /-- The first two identifiers of a consortium do not fit. -/
  | consortiumOverrun (first second length : Nat)
  deriving DecidableEq, Repr

namespace Flaw

/-- The tag of the elements that can have the flaw. -/
def tag : Flaw → UInt8
  | .loadLength _ => Tag.bssLoad
  | .consortiumShort _ | .consortiumOverrun _ _ _ => Tag.roamingConsortium

def message : Flaw → String
  | .loadLength n => s!"BSS Load element length is not 5: {n}"
  | .consortiumShort n => s!"Roaming Consortium element too short: {n}"
  | .consortiumOverrun a b n => s!"Roaming Consortium OI lengths {a}+{b} exceed element length {n}"

end Flaw

end Passpoint.Element
