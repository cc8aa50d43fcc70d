import Passpoint.Deflate.Inflate

/-!
Packed files: members, one after the other, each a header, packed data, and a check of what comes
out. Zeros may follow a member.
-/

namespace Passpoint.Deflate

/-- The check of octets: the remainder of a division of polynomials, least power last. -/
def checksum (bs : List UInt8) : UInt32 :=
  let shift := fun (c : UInt32) => if c &&& 1 = 1 then (c >>> 1) ^^^ 0xEDB88320 else c >>> 1
  let step := fun (c : UInt32) (b : UInt8) =>
    (List.range 8).foldl (fun c _ => shift c) (c ^^^ b.toUInt32)
  bs.foldl step 0xFFFFFFFF ^^^ 0xFFFFFFFF

namespace Gzip

/-- How a packed file begins. -/
def magic : Octets := [0x1F, 0x8B]

/-- The octets behind a text that a zero ends. -/
def afterText (bs : Octets) : Octets := (bs.dropWhile (· ≠ 0)).drop 1

/-- The packed data behind the header of a member. -/
def body? (bs : Octets) : Option Octets := do
  let method :: flags :: rest := bs.drop 2 | none
  if bs.take 2 ≠ magic ∨ rest.length < 6 ∨ method ≠ 8 then none
  let has := fun (i : Nat) => flags.toNat.testBit i
  let mut rest := rest.drop 6
  if has 2 then
    let length := littleEndian (rest.take 2)
    if rest.length < 2 + length then none
    rest := rest.drop (2 + length)
  if has 3 then rest := afterText rest
  if has 4 then rest := afterText rest
  if has 1 then
    if rest.length < 2 then none
    rest := rest.drop 2
  return rest

/-- Holds what came out of a member against the check behind it. What follows is left. -/
def checked? (found bs : Octets) : Option Octets :=
  let told := (littleEndian (bs.take 4), littleEndian ((bs.drop 4).take 4))
  if bs.length < 8 ∨ told ≠ ((checksum found).toNat, found.length % 0x100000000) then none
  else some ((bs.drop 8).dropWhile (· = 0))

/-- Octets come out in pieces of this length. -/
def pieceLength : Nat := 8192

/-- How many of `count` octets come out in front of damage. The piece that ends with damage, or in
front of it, does not. -/
def lengthBeforeDamage (count : Nat) : Nat := (count - 1) / pieceLength * pieceLength

/-- What comes out of a member, and the octets behind it if nothing is wrong with it. -/
def member (bs : Octets) : Octets × Option Octets :=
  match body? bs with
  | none => ([], none)
  | some packed =>
    let data := inflate packed
    let found := data.octets.toList
    match data.stop with
    | some .damaged => (found.take (lengthBeforeDamage found.length), none)
    | some .cut => (found, none)
    | none => (found, checked? found (packed.drop (packed.length - data.rest.length / 8)))

/-- What comes out of members, and whether nothing is wrong with them. Each takes an octet at
least. -/
def members : Nat → Octets → Octets × Bool
  | 0, _ => ([], true)
  | turns + 1, bs =>
    if bs.isEmpty then ([], true)
    else match member bs with
      | (found, none) => (found, false)
      | (found, some rest) =>
        let (more, isWhole) := members turns rest
        (found ++ more, isWhole)

/-- What comes out of a packed file, and whether nothing is wrong with it. -/
def unpack (bs : Octets) : Octets × Bool := members (bs.length + 1) bs

end Gzip
end Passpoint.Deflate
