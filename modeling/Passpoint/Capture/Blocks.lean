import Passpoint.Capture.Content

/-!
Captures of many links: blocks, each with its length in front and again at its end. Sections tell
the order of octets, interfaces are links, and packets name the interface that they came from.
Secrets and processes are read to see that they are whole, and all other blocks are passed over.
-/

namespace Passpoint.Capture.Blocks

/-- What starts a section, and with it a capture. -/
def sectionMark : Octets := [0x0A, 0x0D, 0x0D, 0x0A]

/-- The kinds of blocks that matter within a section. -/
inductive Kind where
  | interface
  /-- A packet of an interface, without options. -/
  | plainPacket
  /-- A packet of the first interface. -/
  | simplePacket
  | packet
  | secrets
  | process
  deriving DecidableEq, Repr

def Kind.ofNumber? : Nat → Option Kind
  | 1 => some .interface
  | 2 => some .plainPacket
  | 3 => some .simplePacket
  | 6 => some .packet
  | 10 => some .secrets
  | 0x80000001 => some .process
  | _ => none

structure Interface where
  link : Nat
  /-- How many octets of a packet are kept. -/
  reach : Nat
  deriving DecidableEq, Repr

/-- What has been told so far. -/
structure Context where
  /-- The most significant octet comes first. -/
  bigEnded : Bool
  interfaces : Array Interface
  deriving DecidableEq, Repr

/-- The length of octets that are filled up to a multiple of four. -/
def padded (length : Nat) : Nat := (length + 3) / 4 * 4

/-- The length at the end of a block, which is filled up to a multiple of four octets. -/
def readTail (bigEnded : Bool) (length : Nat) : Reader Unit := do
  let _ ← readUpTo (padded length - length)
  if (← readNumber bigEnded 4) ≠ length then throw .ended

/-- The order of octets that a section tells. -/
def byteOrder? (bs : Octets) : Option Bool :=
  if bs = [0x1A, 0x2B, 0x3C, 0x4D] then some true
  else if bs = [0x4D, 0x3C, 0x2B, 0x1A] then some false
  else none

/-- The rest of the block that starts a section, behind its mark. -/
def readSection (interfaces : Array Interface) : Reader Context := do
  let lengthOctets ← readUpTo 4
  match byteOrder? (← readUpTo 4) with
  | none => throw .ended
  | some bigEnded =>
    let length := numberOf bigEnded lengthOctets
    if length < 28 then throw .ended
    if (← readNumber bigEnded 2) ≠ 1 then throw .ended
    let _ ← readOctets 10
    let options ← readUpTo (length - 28)
    if options.length < length - 28 then throw (.faulty .shortSection)
    readTail bigEnded length
    return ⟨bigEnded, interfaces⟩

/-- The options in octets: what each kind says, the latest first. An option with a zero for its
kind is the last, and one that goes beyond the end says nothing. -/
def options (bigEnded : Bool) (bs : Octets) : List (Nat × Octets) := go [] bs
where
  go (found : List (Nat × Octets)) (bs : Octets) : List (Nat × Octets) :=
    if bs.length < 4 then found
    else
      let kind := numberOf bigEnded (bs.take 2)
      let length := numberOf bigEnded ((bs.drop 2).take 2)
      if kind = 0 then found
      else
        let said := if 4 + length ≤ bs.length then [(kind, (bs.drop 4).take length)] else []
        go (said ++ found) (bs.drop (4 + padded length))
  termination_by bs.length
  decreasing_by simp only [List.length_drop]; omega

/-- Whether options of a packet hold what they should: directions, if told, and numbers of
processes are words. -/
def areReadable (options : List (Nat × Octets)) : Bool :=
  let isWord := fun (kind : Nat) => (options.lookup kind).all (·.length = 4)
  (options.lookup 2).all (fun bs => bs.isEmpty || bs.length = 4) && isWord 0x8001 && isWord 0x8003

/-- What the body of a block adds: a packet, or something for the packets to come. A packet of an
interface that no one told of is passed over. -/
def Context.readBody (c : Context) (kind : Kind) (body : Octets) :
    Except Stop (Option Packet × Context) := do
  let number := fun (start width : Nat) => numberOf c.bigEnded ((body.drop start).take width)
  let atLeast := fun (length : Nat) => if body.length < length then throw .ended else pure ()
  let packet := fun (i start length : Nat) =>
    (c.interfaces[i]?).map fun a => Packet.ofOctets a.link ((body.drop start).take length)
  match kind with
  | .interface =>
    atLeast 8
    let a : Interface := ⟨number 0 2, number 4 4⟩
    return (none, { c with interfaces := c.interfaces.push a })
  | .plainPacket =>
    atLeast 20
    return (packet (number 0 2) 20 (number 12 4), c)
  | .simplePacket => match c.interfaces[0]? with
    | none => return (none, c)
    | some a =>
      atLeast 4
      return (packet 0 4 (min (number 0 4) a.reach), c)
  | .packet =>
    atLeast 20
    let length := number 12 4
    if !areReadable (options c.bigEnded (body.drop (20 + padded length))) then throw .ended
    return (packet (number 0 4) 20 length, c)
  | .secrets =>
    atLeast 8
    atLeast (8 + padded (number 4 4))
    return (none, c)
  | .process =>
    atLeast 4
    return (none, c)

/-- Reads a block. -/
def readBlock (c : Context) : Reader (Option Packet × Context) := do
  let mark ← readOctets 4
  if mark = sectionMark then return (none, ← readSection c.interfaces)
  let length ← readNumber c.bigEnded 4
  if length < 12 then throw .ended
  let body ← readOctets (length - 12)
  readTail c.bigEnded length
  match Kind.ofNumber? (numberOf c.bigEnded mark) with
  | none => return (none, c)
  | some kind => c.readBody kind body

end Passpoint.Capture.Blocks
