import Passpoint.AccessNetwork
import Passpoint.Octets
import Passpoint.Venue

/-!
The Interworking element. Its first octet holds the kind of access and whether the network leads
to the internet; a venue and the identifier of a homogeneous set of networks may follow. Only the
length tells which of them do: the venue for three and nine octets, the identifier for seven and
nine.
-/

namespace Passpoint.Element

structure Interworking where
  access : AccessNetwork
  internet : Bool
  venue : Option Venue
  /-- The identifier of the homogeneous set; zero if there is none. -/
  hessid : Nat
  deriving DecidableEq, Repr

namespace Interworking

def hasVenue (length : Nat) : Bool := length = 3 || length = 9

def hasHessid (length : Nat) : Bool := length = 7 || length = 9

/-- An empty body holds nothing. -/
def decode? : Octets → Option Interworking
  | [] => none
  | options :: fields =>
    let length := fields.length + 1
    some {
      access := .ofCode options.toNat
      internet := options.toNat / 16 % 2 = 1
      venue := if hasVenue length then Venue.ofField? fields else none
      hessid :=
        if hasHessid length then
          bigEndian ((if hasVenue length then fields.drop 2 else fields).take 6)
        else 0 }

end Interworking

end Passpoint.Element
