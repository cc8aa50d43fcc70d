import Passpoint.Document.Atom

/-!
The order in which the members of a set are shown. A set has more than twice as many places as
members. A number takes the place of its residue; if that is taken, it looks at places near by, and
then goes on elsewhere. Members of other kinds have no residue and stand as they came.
-/

namespace Passpoint.Document

/-- Residues are taken modulo this prime. -/
def residuePrime : Nat := 0x1FFFFFFFFFFFFFFF

/-- The residue of a number, a negative one as a complement in 64 bits. Equal numbers have equal
residues. Two to the power of 61 is one modulo the prime, so halving is doubling sixty times. -/
def Exact.residue (x : Exact) : Nat :=
  let signed := fun (negative : Bool) (r : Nat) =>
    if !negative || r = 0 then r else 0x10000000000000000 - (if r = 1 then 2 else r)
  match x with
  | .finite n scale => signed (n < 0) ((n.natAbs <<< (60 * scale % 61)) % residuePrime)
  | .infinite negative => signed negative 314159

namespace Places

/-- Which places are taken, and by what. -/
abbrev Table := Array (Option Atom)

/-- A power of two above twice the number of members; four members are content with eight. -/
def size (count : Nat) : Nat :=
  if count < 5 then 8 else 1 <<< ((2 * count).log2 + 1)

/-- How many places next to one are looked at. -/
def nearby : Nat := 9

/-- The places to look at from place `i` on; near the end of the table there is only that one. -/
def candidates (t : Table) (i : Nat) : List Nat :=
  if i + nearby < t.size then (List.range (nearby + 1)).map (i + ·) else [i]

/-- The first free place from place `i` on. What is left of the residue decides where to go on;
once nothing is left, every place comes up. -/
def free? (t : Table) : (turns i residue : Nat) → Option Nat
  | 0, _, _ => none
  | turns + 1, i, residue =>
    match (candidates t i).find? fun j => (t.getD j none).isNone with
    | some j => some j
    | none =>
      let residue := residue / 32
      free? t turns ((5 * i + 1 + residue) % t.size) residue

def insert (t : Table) (a : Atom) (residue : Nat) : Table :=
  match free? t (t.size + 14) (residue % t.size) residue with
  | some j => t.setIfInBounds j (some a)
  | none => t

end Places

/-- The members of a set as they are shown. -/
def memberOrder (members : List Atom) : List Atom :=
  match members.mapM fun a => a.number?.map fun x => (a, x.residue) with
  | none => members
  | some residues =>
    let empty : Places.Table := Array.replicate (Places.size members.length) none
    (residues.foldl (fun t (a, r) => Places.insert t a r) empty).toList.filterMap id

end Passpoint.Document
