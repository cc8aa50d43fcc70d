import Passpoint.Element.Fault
import Passpoint.Octets

/-!
The Roaming Consortium element: how many identifiers a query would give, the lengths of the first
two packed into one octet, and up to three identifiers. The third takes what is left; one of
length zero is absent.
-/

namespace Passpoint.Element

structure RoamingConsortium where
  queryable : UInt8
  /-- The identifiers as numbers, most significant octet first. -/
  identifiers : List Nat
  deriving DecidableEq, Repr

namespace RoamingConsortium

/-- The octets of the three identifiers, absent ones left out. -/
def parts (first second : Nat) (bs : Octets) : List Octets :=
  [bs.take first, (bs.drop first).take second, bs.drop (first + second)].filter (!·.isEmpty)

def decode (body : Octets) : Except Flaw RoamingConsortium :=
  match body with
  | queryable :: lengths :: bs =>
    let first := lowNibble lengths
    let second := highNibble lengths
    if bs.length < first + second then .error (.consortiumOverrun first second body.length)
    else .ok ⟨queryable, (parts first second bs).map bigEndian⟩
  | _ => .error (.consortiumShort body.length)

end RoamingConsortium

end Passpoint.Element
