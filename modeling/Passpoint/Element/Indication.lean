import Passpoint.Octets
import Passpoint.Release

/-!
The Hotspot 2.0 Indication: a vendor element that starts with the Wi-Fi Alliance identifier and
its type octet. The octet behind them holds the release, and a flag for the ANQP domain that may
follow.
-/

namespace Passpoint.Element

structure Indication where
  release : Release
  /-- The domain whose networks share their query answers. -/
  domain : Option UInt16
  deriving DecidableEq, Repr

namespace Indication

/-- What every indication starts with. -/
def signature : Octets := [0x50, 0x6F, 0x9A, 0x10]

/-- The settings octet of an indication and the octets behind it. -/
def settings? : Octets → Option (UInt8 × Octets)
  | a :: b :: c :: d :: settings :: rest =>
    if [a, b, c, d] = signature then some (settings, rest) else none
  | _ => none

def flagsDomain (settings : UInt8) : Bool := settings.toNat / 4 % 2 = 1

def domain? : Octets → Option UInt16
  | a :: b :: _ => some (UInt16.ofNat (littleEndian [a, b]))
  | _ => none

/-- Reads the body of a vendor element; nothing if it is some other vendor's. -/
def decode? (body : Octets) : Option Indication :=
  (settings? body).map fun (settings, rest) =>
    ⟨.ofCode (highNibble settings), if flagsDomain settings then domain? rest else none⟩

/-- A domain is announced and too few octets follow. -/
def lacksDomain (body : Octets) : Bool :=
  (settings? body).any fun (settings, rest) => flagsDomain settings && (domain? rest).isNone

end Indication

end Passpoint.Element
