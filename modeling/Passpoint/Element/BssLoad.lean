import Passpoint.Element.Fault
import Passpoint.Octets

/-!
The BSS Load element: five octets that hold the number of stations, the use of the channel, and the
capacity left for new stations.
-/

namespace Passpoint.Element

structure BssLoad where
  stations : UInt16
  utilization : UInt8
  capacity : UInt16
  deriving DecidableEq, Repr

def BssLoad.decode : Octets → Except Flaw BssLoad
  | [s₀, s₁, u, c₀, c₁] =>
    .ok ⟨UInt16.ofNat (littleEndian [s₀, s₁]), u, UInt16.ofNat (littleEndian [c₀, c₁])⟩
  | body => .error (.loadLength body.length)

end Passpoint.Element
