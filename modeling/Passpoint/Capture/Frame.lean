import Passpoint.Octets

/-!
Frames of a capture, as far as they matter here: their kind, the address of the sender, and the
elements behind the fixed fields.
-/

namespace Passpoint.Capture

inductive FrameKind where
  | beacon
  | probeResponse
  /-- Any other frame. -/
  | other
  deriving DecidableEq, Repr

structure Frame where
  kind : FrameKind
  /-- The third address of the frame. -/
  bssid : Option String
  elements : Octets
  deriving DecidableEq, Repr

/-- How a capture begins if its least significant octets come first. No UTF-8 text begins so. -/
def magic : Octets := [0xD4, 0xC3, 0xB2, 0xA1]

end Passpoint.Capture
