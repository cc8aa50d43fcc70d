import Passpoint.Capture.Blocks
import Passpoint.Capture.Link
import Passpoint.Capture.Records

/-!
Capture files. A mark at the start tells which of two layouts the packets have. A packet that is
cut off or is no management frame is still a frame of the capture.
-/

namespace Passpoint.Capture

/-- Reads the start of a capture. Whatever ends it too early makes it no capture. -/
def readStart {α : Type} (start : Reader α) (c : Content) : Except FileFault (α × Content) :=
  (start.run c).mapError fun _ => .unsupported

/-- The packets of a capture. -/
def packetsOf (c : Content) : Except FileFault (Reading Packet) := do
  let mark := c.octets.take Content.markLength
  let turns := c.octets.length + 1
  let c := { c with octets := c.octets.drop Content.markLength }
  if mark = Blocks.sectionMark then
    let (context, c) ← readStart (Blocks.readSection #[]) c
    return readAll Blocks.readBlock turns context c
  match Records.byteOrder? mark with
  | none => throw .unsupported
  | some bigEnded =>
    let (h, c) ← readStart (Records.readHeader bigEnded) c
    return readAll Records.readPacket turns h c

/-- The frames of a capture file. -/
def framesOf (bs : Octets) : Except FileFault (Reading Frame) := do
  let r ← packetsOf (← Content.ofFile bs)
  return ⟨r.packets.map Frame.ofPacket, r.fault⟩

end Passpoint.Capture
