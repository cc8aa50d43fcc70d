/-!
ISO-8859-1: each octet is the character with its value, so every run of octets is a text.
-/

namespace Passpoint.Text.Latin1

def decode (bs : List UInt8) : List Char := bs.map fun b => Char.ofNat b.toNat

/-- The octets of a text whose characters all lie below U+0100. -/
def encode? (cs : List Char) : Option (List UInt8) :=
  cs.mapM fun c => if c.toNat < 256 then some (UInt8.ofNat c.toNat) else none

end Passpoint.Text.Latin1
