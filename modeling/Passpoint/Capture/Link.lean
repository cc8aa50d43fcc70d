import Passpoint.Capture.Content
import Passpoint.Capture.Frame
import Passpoint.Capture.Radio
import Passpoint.Text.Hex

/-!
The frames in packets. A packet of a wireless link holds a frame, as it is or behind a header that
the link tells of. Only beacons and probe responses are of interest; every other packet is a frame
of another kind.
-/

namespace Passpoint.Capture

/-- What stands in front of the frames of a link. -/
inductive Link where
  | nothing
  /-- A header of a fixed length. -/
  | monitor
  | radio
  /-- A header that tells the link of what follows. -/
  | perPacket
  deriving DecidableEq, Repr

namespace Link

/-- The wireless links. -/
def ofNumber? : Nat → Option Link
  | 105 | 801 => some .nothing
  | 119 | 802 => some .monitor
  | 127 | 803 => some .radio
  | 192 => some .perPacket
  | _ => none

def monitorLength : Nat := 144

/-- The length of a header that tells the link, without what else it tells. -/
def perPacketLength : Nat := 8

/-- The wireless frame in a packet of a link. -/
def frame? (number : Nat) (bs : Octets) : Option Octets :=
  match ofNumber? number with
  | none => none
  | some .nothing => some bs
  | some .monitor => if bs.length < monitorLength then none else some (bs.drop monitorLength)
  | some .radio => Radio.frame? bs
  | some .perPacket =>
    let length := littleEndian ((bs.drop 2).take 2)
    if bs.length < perPacketLength ∨ length < perPacketLength then none
    else frame? (littleEndian ((bs.drop 4).take 4)) (bs.drop length)
termination_by bs.length
decreasing_by simp only [List.length_drop, perPacketLength] at *; omega

end Link

/-! ### Wireless frames -/

def addressText (bs : Octets) : String :=
  ":".intercalate (bs.map fun b => String.ofList (Text.octetDigits b))

/-- The kind of a frame by its first two octets. The low bits of the first are a version, which
does not matter. What a protected frame holds cannot be read. -/
def kindOf (control flags : UInt8) : FrameKind :=
  if flags.toNat.testBit 6 then .other
  else if control.toNat / 4 = 0x80 / 4 then .beacon
  else if control.toNat / 4 = 0x50 / 4 then .probeResponse
  else .other

/-- The fields in front of the elements: the header of a management frame, and the time stamp, the
interval and the capabilities of a beacon. -/
def fixedLength : Nat := 24 + 12

namespace Frame

/-- A frame that holds nothing of interest. -/
def other : Frame := ⟨.other, none, []⟩

/-- Reads a wireless frame. -/
def ofOctets (bs : Octets) : Frame :=
  match bs with
  | control :: flags :: _ =>
    if bs.length < fixedLength then other
    else ⟨kindOf control flags, some (addressText ((bs.drop 16).take 6)), bs.drop fixedLength⟩
  | _ => other

def ofPacket (p : Packet) : Frame := (Link.frame? p.link p.octets).elim other ofOctets

end Frame
end Passpoint.Capture
