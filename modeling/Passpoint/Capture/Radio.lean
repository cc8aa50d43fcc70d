import Passpoint.Octets

/-!
Radio headers, which stand in front of wireless frames and tell how these were received. Words of
presence bits come first, then a field for each bit of the first word, in the order of the bits. A
header says how long it is, and is longer if its fields are.
-/

namespace Passpoint.Capture.Radio

/-- A field of a radio header. -/
structure Field where
  /-- The bit that says that the field is there. -/
  bit : Nat
  /-- The field starts at a multiple of this. -/
  alignment : Nat
  width : Nat
  deriving DecidableEq, Repr

/-- The field that tells whether the frame ends with a check sequence. -/
def flags : Field := ⟨1, 1, 1⟩

/-- The fields, in order: time, flags, rate, channel, signal, noise, quality, antenna, flags of
reception and of sending, wide channels, rates of several kinds, time stamps, and users. -/
def fields : List Field :=
  [⟨0, 8, 8⟩, flags, ⟨2, 1, 1⟩, ⟨3, 2, 4⟩, ⟨5, 1, 1⟩, ⟨6, 1, 1⟩, ⟨7, 2, 2⟩, ⟨11, 1, 1⟩, ⟨14, 2, 2⟩,
    ⟨15, 2, 2⟩, ⟨18, 4, 7⟩, ⟨19, 1, 3⟩, ⟨20, 4, 8⟩, ⟨21, 2, 12⟩, ⟨22, 8, 12⟩, ⟨23, 2, 12⟩,
    ⟨24, 2, 12⟩, ⟨25, 2, 7⟩, ⟨27, 2, 4⟩]

/-- The bit of a list of further fields, which takes all that follows. -/
def furtherFields : Nat := 28

/-- Where a field starts that stands next behind a position. -/
def Field.start (f : Field) (position : Nat) : Nat :=
  (position + f.alignment - 1) / f.alignment * f.alignment

def Field.isPresent (f : Field) (present : Nat) : Bool := present.testBit f.bit

/-- The position behind fields that stand from a position on. -/
def endOf (present : Nat) (fs : List Field) (position : Nat) : Nat :=
  (fs.filter (·.isPresent present)).foldl (fun p f => f.start p + f.width) position

/-- How many words of presence bits there are. Each but the last says that another follows. -/
def wordCount? : Octets → Option Nat
  | _ :: _ :: _ :: d :: rest => if d < 0x80 then some 1 else (wordCount? rest).map (· + 1)
  | _ => none

/-- Whether the flags, if there are any, tell of a check sequence. -/
def isChecked (present position : Nat) (bs : Octets) : Bool :=
  let before := fields.takeWhile (· ≠ flags)
  let flagsAt := flags.start (endOf present before position)
  flags.isPresent present && (bs.getD flagsAt 0).toNat.testBit 4

/-- The frame behind a radio header. A check sequence at its end is left out. -/
def frame? (bs : Octets) : Option Octets := do
  let words ← wordCount? (bs.drop 4)
  let position := 4 + 4 * words
  let present := littleEndian ((bs.drop 4).take 4)
  let length := max (littleEndian ((bs.drop 2).take 2)) (endOf present fields position)
  if present.testBit furtherFields || bs.length < length then none
  let frame := bs.drop length
  return if isChecked present position bs then frame.take (frame.length - 4) else frame

end Passpoint.Capture.Radio
