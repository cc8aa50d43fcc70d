import Passpoint.Deflate.Gzip

/-!
Files of captures as they are read. A file may be packed; it is unpacked as far as it goes, and
what is wrong with the rest only counts if it is read.
-/

namespace Passpoint.Capture

/-- Why a file is no capture, or is none to its end. -/
inductive FileFault where
  | empty
  | unsupported
  /-- Not even the start of a packed file can be unpacked. -/
  | badlyPacked
  /-- A section that is cut off. -/
  | shortSection
  deriving DecidableEq, Repr

def FileFault.message : FileFault → String
  | .empty => "No data could be read!"
  | .unsupported => "Not a supported capture file"
  | .badlyPacked => "Not a supported capture file (invalid gzip file)"
  | .shortSection => "PcapNg: Invalid Section Header Block  options (too short)"

/-- Why no more is read. -/
inductive Stop where
  | ended
  | faulty (f : FileFault)
  deriving DecidableEq, Repr

/-- What is still to be read. -/
structure Content where
  octets : Octets
  /-- The file ends behind the octets, as it should. -/
  isWhole : Bool
  deriving DecidableEq, Repr

/-- Reads off the front of a file. -/
abbrev Reader (α : Type) := StateT Content (Except Stop) α

namespace Content

/-- The length of the mark that every capture begins with. -/
def markLength : Nat := 4

/-- What comes out of a packed file. -/
def ofPacked (bs : Octets) : Except FileFault Content :=
  let (octets, isWhole) := Deflate.Gzip.unpack bs
  if !isWhole && octets.length < markLength then .error .badlyPacked else .ok ⟨octets, isWhole⟩

/-- What can be read of a file. -/
def ofFile (bs : Octets) : Except FileFault Content := do
  let c ← if bs.take 2 = Deflate.Gzip.magic then ofPacked bs else .ok ⟨bs, true⟩
  if c.octets.isEmpty then throw .empty
  return c

end Content

/-- So many octets, or all that are left of a file that ends before. -/
def readUpTo (count : Nat) : Reader Octets := do
  let c ← get
  let front := c.octets.take count
  if front.length < count && !c.isWhole then throw .ended
  set { c with octets := c.octets.drop count }
  return front

/-- So many octets. -/
def readOctets (count : Nat) : Reader Octets := do
  let bs ← readUpTo count
  if bs.length < count then throw .ended
  return bs

/-- A number told by octets. -/
def numberOf (bigEnded : Bool) (bs : Octets) : Nat :=
  if bigEnded then bigEndian bs else littleEndian bs

/-- A number of so many octets. -/
def readNumber (bigEnded : Bool) (width : Nat) : Reader Nat :=
  return numberOf bigEnded (← readOctets width)

/-! ### Packets -/

structure Packet where
  /-- The number of the link that it was taken from. -/
  link : Nat
  octets : Octets
  deriving DecidableEq, Repr

/-- No more octets of a packet are kept. -/
def packetLength : Nat := 0xFFFF

def Packet.ofOctets (link : Nat) (bs : Octets) : Packet := ⟨link, bs.take packetLength⟩

/-- The packets of a capture up to its end, or up to what is wrong with it. -/
structure Reading (α : Type) where
  packets : List α
  fault : Option FileFault
  deriving DecidableEq, Repr

/-- Repeats a step until no more is read. Each step takes an octet at least. -/
def readAll {σ : Type} (step : σ → Reader (Option Packet × σ)) :
    Nat → σ → Content → Reading Packet
  | 0, _, _ => ⟨[], none⟩
  | turns + 1, s, c =>
    match (step s).run c with
    | .error .ended => ⟨[], none⟩
    | .error (.faulty f) => ⟨[], some f⟩
    | .ok ((packet, s), c) =>
      let r := readAll step turns s c
      { r with packets := packet.toList ++ r.packets }

end Passpoint.Capture
