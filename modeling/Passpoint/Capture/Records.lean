import Passpoint.Capture.Content
import Passpoint.Capture.Frame

/-!
Captures of one link: a header that tells the order of octets and the kind of the link, then
packets with a header of their own. The last packet may be cut off; a header alone is no packet.
-/

namespace Passpoint.Capture.Records

/-- The header of a capture as far as it counts. -/
structure Header where
  /-- The most significant octet comes first. -/
  bigEnded : Bool
  link : Nat
  deriving DecidableEq, Repr

/-- Whether the most significant octet comes first, by the mark that starts a capture. -/
def byteOrder? (mark : Octets) : Option Bool :=
  if mark = [0xA1, 0xB2, 0xC3, 0xD4] ∨ mark = [0xA1, 0xB2, 0x3C, 0x4D] then some true
  else if mark = magic ∨ mark = [0x4D, 0x3C, 0xB2, 0xA1] then some false
  else none

/-- The header behind the mark. -/
def readHeader (bigEnded : Bool) : Reader Header := do
  let bs ← readOctets 20
  return ⟨bigEnded, numberOf bigEnded (bs.drop 16)⟩

def readPacket (h : Header) : Reader (Option Packet × Header) := do
  let head ← readOctets 16
  let bs ← readUpTo (numberOf h.bigEnded ((head.drop 8).take 4))
  return (some (.ofOctets h.link bs), h)

end Passpoint.Capture.Records
