import Passpoint.Octets

/-!
The Extended Capabilities element: a field of bits, least significant octet first, of which the
first 64 count.
-/

namespace Passpoint.Element.Capabilities

/-- The most octets that count. -/
def limit : Nat := 8

def decode (body : Octets) : Nat := littleEndian (body.take limit)

/-- The bit that says that the name of the network is UTF-8. -/
def utf8NameBit : Nat := 48

/-- Whether a bit is set. A negative number has infinitely many sign bits in front. -/
def hasBit (bits : Int) (i : Nat) : Bool := bits >>> i % 2 = 1

/-- Whether the name of the network is announced as UTF-8. -/
def announcesUtf8 (bits : Option Int) : Bool := bits.any fun b => hasBit b utf8NameBit

end Passpoint.Element.Capabilities
