import Passpoint.Octets

/-!
Prefix codes over bits. A code is told by the lengths of its words alone: shorter words come first
in the order of bits, and words of one length follow the order of the numbers that they stand for.
-/

namespace Passpoint.Deflate

abbrev Bits := List Bool

/-- The bits of octets; the least significant bit of an octet comes first. -/
def bitsOf (bs : Octets) : Bits :=
  bs.flatMap fun b => (List.range 8).map b.toNat.testBit

/-- The number whose least significant bit comes first. -/
def numberOf : Bits → Nat
  | [] => 0
  | b :: bs => b.toNat + 2 * numberOf bs

/-- Why bits cannot be read. -/
inductive Stop where
  /-- There are none left. -/
  | cut
  /-- They stand for nothing. -/
  | damaged
  deriving DecidableEq, Repr

/-- Reads off the front of bits. -/
abbrev Reader (α : Type) := StateT Bits (Except Stop) α

/-- A number of so many bits. -/
def readNumber (width : Nat) : Reader Nat := do
  let bits ← get
  let front := bits.take width
  if front.length < width then throw .cut
  set (bits.drop width)
  return numberOf front

/-- The words of a code, laid out by their bits. -/
inductive Code where
  /-- No word begins so. -/
  | void
  | word (n : Nat)
  | fork (zero one : Code)
  deriving Repr

namespace Code

/-- The length that no word exceeds. -/
def maxLength : Nat := 15

/-- Lays out words, told by length and number, below a point at a depth. Words that find no place
are left over. -/
def layOut (depth : Nat) : Nat → List (Nat × Nat) → Code × List (Nat × Nat)
  | _, [] => (.void, [])
  | levels, (length, n) :: rest =>
    if length = depth then (.word n, rest)
    else match levels with
      | 0 => (.void, (length, n) :: rest)
      | levels + 1 =>
        let (zero, rest) := layOut (depth + 1) levels ((length, n) :: rest)
        let (one, rest) := layOut (depth + 1) levels rest
        (.fork zero one, rest)

/-- Whether every run of bits leads to a word. -/
def isFull : Code → Bool
  | .void => false
  | .word _ => true
  | .fork zero one => zero.isFull && one.isFull

/-- The code in which the word of `n` has the `n`-th length; a length of zero tells of no word.
There has to be room for all words. Unless `strict`, words may leave room if none is longer than
one bit. -/
def ofLengths? (strict : Bool) (lengths : List Nat) : Option Code :=
  let words := lengths.zipIdx.filter (·.1 ≠ 0)
  let sorted := words.mergeSort fun a b => a.1 ≤ b.1
  let (code, rest) := layOut 0 maxLength sorted
  if !rest.isEmpty then none
  else if code.isFull || !strict && words.all (·.1 = 1) then some code
  else none

/-- Reads a word. -/
def read : Code → Bits → Except Stop (Nat × Bits)
  | .word n, bits => .ok (n, bits)
  | .void, _ => .error .damaged
  | .fork _ _, [] => .error .cut
  | .fork zero one, b :: bits => if b then one.read bits else zero.read bits

def reader (c : Code) : Reader Nat := c.read

end Code
end Passpoint.Deflate
