/-!
Numbers from octets, in either order.
-/

namespace Passpoint

abbrev Octets := List UInt8

/-- The number whose least significant octet comes first. -/
def littleEndian : Octets → Nat
  | [] => 0
  | b :: bs => b.toNat + 256 * littleEndian bs

/-- The number whose most significant octet comes first. -/
def bigEndian (bs : Octets) : Nat := bs.foldl (fun n b => 256 * n + b.toNat) 0

/-- The low four bits. -/
def lowNibble (b : UInt8) : Nat := b.toNat % 16

/-- The high four bits. -/
def highNibble (b : UInt8) : Nat := b.toNat / 16

end Passpoint
