import Passpoint.Deflate.Code

/-!
Unpacking. Packed data are blocks, each either octets as they are or words of two codes: one for
octets and for lengths of copies, one for how far back a copy lies. A block says whether it is the
last, and which codes it uses: fixed ones, or its own, whose lengths stand in front.
-/

namespace Passpoint.Deflate

/-- The two codes of a block. -/
structure Codes where
  /-- Octets, the end of the block at 256, and lengths of copies after it. -/
  content : Code
  distance : Code

/-- What a word stands for. -/
inductive Symbol where
  | octet (b : UInt8)
  /-- So many octets again, from so far back. -/
  | copy (length distance : Nat)
  | blockEnd
  deriving DecidableEq, Repr

/-! ### Codes -/

/-- The least lengths of copies and the widths of the numbers that are added to them. -/
def copyLengths : List (Nat × Nat) :=
  [(3, 0), (4, 0), (5, 0), (6, 0), (7, 0), (8, 0), (9, 0), (10, 0), (11, 1), (13, 1), (15, 1),
    (17, 1), (19, 2), (23, 2), (27, 2), (31, 2), (35, 3), (43, 3), (51, 3), (59, 3), (67, 4),
    (83, 4), (99, 4), (115, 4), (131, 5), (163, 5), (195, 5), (227, 5), (258, 0)]

/-- The least distances and the widths of the numbers that are added to them. -/
def copyDistances : List (Nat × Nat) :=
  [(1, 0), (2, 0), (3, 0), (4, 0), (5, 1), (7, 1), (9, 2), (13, 2), (17, 3), (25, 3), (33, 4),
    (49, 4), (65, 5), (97, 5), (129, 6), (193, 6), (257, 7), (385, 7), (513, 8), (769, 8),
    (1025, 9), (1537, 9), (2049, 10), (3073, 10), (4097, 11), (6145, 11), (8193, 12),
    (12289, 12), (16385, 13), (24577, 13)]

/-- A word of a list of least values. -/
def readRange (ranges : List (Nat × Nat)) (n : Nat) : Reader Nat :=
  match ranges[n]? with
  | none => throw .damaged
  | some (least, width) => return least + (← readNumber width)

def readSymbol (c : Codes) : Reader Symbol := do
  let n ← c.content.reader
  if n < 256 then return .octet n.toUInt8
  if n = 256 then return .blockEnd
  let length ← readRange copyLengths (n - 257)
  let distance ← readRange copyDistances (← c.distance.reader)
  return .copy length distance

def codes (strict : Bool) (content distance : List Nat) : Reader Codes :=
  match Code.ofLengths? strict content, Code.ofLengths? strict distance with
  | some content, some distance => return ⟨content, distance⟩
  | _, _ => throw .damaged

/-- The codes that no block has to tell. -/
def fixedCodes : Reader Codes :=
  codes true
    (List.replicate 144 8 ++ List.replicate 112 9 ++ List.replicate 24 7 ++ List.replicate 8 8)
    (List.replicate 32 5)

/-- The order in which the lengths of the code for lengths stand. -/
def lengthOrder : List Nat :=
  [16, 17, 18, 0, 8, 7, 9, 6, 10, 5, 11, 4, 12, 3, 13, 2, 14, 1, 15]

/-- How often a length is repeated by a word, and which: the one before, or zero. -/
def readRun (n : Nat) (before : Option Nat) : Reader (List Nat) := do
  match n with
  | 16 => match before with
    | none => throw .damaged
    | some length => return List.replicate (3 + (← readNumber 2)) length
  | 17 => return List.replicate (3 + (← readNumber 3)) 0
  | 18 => return List.replicate (11 + (← readNumber 7)) 0
  | length => return [length]

/-- Goes on after lengths, latest first, until there are `total`. Each turn adds one at least. -/
def readLengths (c : Code) (total : Nat) : Nat → List Nat → Reader (List Nat)
  | 0, found => return found.reverse
  | turns + 1, found => do
    if found.length = total then return found.reverse
    let run ← readRun (← c.reader) found.head?
    if total < found.length + run.length then throw .damaged
    readLengths c total turns (run ++ found)

/-- Numbers of a width, so many. -/
def readNumbers (width : Nat) : Nat → Reader (List Nat)
  | 0 => return []
  | count + 1 => return (← readNumber width) :: (← readNumbers width count)

/-- The codes that stand in front of a block. -/
def readCodes : Reader Codes := do
  let contents := 257 + (← readNumber 5)
  let distances := 1 + (← readNumber 5)
  let count := 4 + (← readNumber 4)
  if 286 < contents ∨ 30 < distances then throw .damaged
  let told := lengthOrder.zip (← readNumbers 3 count)
  let lengthAt := fun (n : Nat) => ((told.find? (·.1 = n)).map Prod.snd).getD 0
  match Code.ofLengths? true ((List.range 19).map lengthAt) with
  | none => throw .damaged
  | some c =>
    let total := contents + distances
    let lengths ← readLengths c total (total + 1) []
    if lengths[256]? = some 0 then throw .damaged
    codes false (lengths.take contents) (lengths.drop contents)

/-! ### Blocks -/

/-- What has been unpacked, the bits that follow, and why it ends if it ends too early. -/
structure Inflated where
  octets : Array UInt8
  rest : Bits
  stop : Option Stop

/-- Appends octets that lie so far back. A copy may reach into itself. -/
def copyBack (distance : Nat) : Nat → Array UInt8 → Array UInt8
  | 0, out => out
  | length + 1, out => copyBack distance length (out.push (out.getD (out.size - distance) 0))

/-- Unpacks the words of a block. Each takes a bit at least. -/
def readWords (c : Codes) : Nat → Array UInt8 → Bits → Inflated
  | 0, out, bits => ⟨out, bits, some .damaged⟩
  | turns + 1, out, bits =>
    match (readSymbol c).run bits with
    | .error stop => ⟨out, bits, some stop⟩
    | .ok (.blockEnd, rest) => ⟨out, rest, none⟩
    | .ok (.octet b, rest) => readWords c turns (out.push b) rest
    | .ok (.copy length distance, rest) =>
      if out.size < distance then ⟨out, bits, some .damaged⟩
      else readWords c turns (copyBack distance length out) rest

/-- Takes as many octets as there are, up to a count. -/
def readStored : Nat → Array UInt8 → Bits → Inflated
  | 0, out, bits => ⟨out, bits, none⟩
  | count + 1, out, bits =>
    match (readNumber 8).run bits with
    | .error stop => ⟨out, bits, some stop⟩
    | .ok (n, rest) => readStored count (out.push n.toUInt8) rest

/-- The bits from the next whole octet on. -/
def aligned (bits : Bits) : Bits := bits.drop (bits.length % 8)

/-- The count of a block of octets as they are. Its complement follows it. -/
def readCount : Reader Nat := do
  modify aligned
  let count ← readNumber 16
  if count + (← readNumber 16) ≠ 0xFFFF then throw .damaged
  return count

/-- Unpacks a block of a kind. -/
def readBlock (kind : Nat) (out : Array UInt8) (bits : Bits) : Inflated :=
  let inWords := fun (codes : Reader Codes) =>
    match codes.run bits with
    | .error stop => ⟨out, bits, some stop⟩
    | .ok (c, rest) => readWords c (rest.length + 1) out rest
  match kind with
  | 0 => match readCount.run bits with
    | .error stop => ⟨out, bits, some stop⟩
    | .ok (count, rest) => readStored count out rest
  | 1 => inWords fixedCodes
  | 2 => inWords readCodes
  | _ => ⟨out, bits, some .damaged⟩

/-- Unpacks blocks. Each takes three bits at least. -/
def readBlocks : Nat → Array UInt8 → Bits → Inflated
  | 0, out, bits => ⟨out, bits, some .damaged⟩
  | turns + 1, out, bits =>
    match (do return (← readNumber 1, ← readNumber 2) : Reader (Nat × Nat)).run bits with
    | .error stop => ⟨out, bits, some stop⟩
    | .ok ((last, kind), rest) =>
      let block := readBlock kind out rest
      if block.stop.isSome || last = 1 then block
      else readBlocks turns block.octets block.rest

/-- Unpacks the data that octets begin with. -/
def inflate (bs : Octets) : Inflated :=
  let bits := bitsOf bs
  readBlocks (bits.length + 1) #[] bits

end Passpoint.Deflate
