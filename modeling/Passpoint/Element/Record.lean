import Passpoint.Octets

/-!
The records of an element buffer: a tag octet, a length octet, and as many octets as that says.
`Record.split` cuts a buffer into records and what is left over; a buffer is whole if nothing is.
-/

namespace Passpoint

/-- A tagged run of at most 255 octets. -/
structure Record where
  tag : UInt8
  body : Octets
  length_le : body.length ≤ 255
  deriving DecidableEq

namespace Record

/-- A record on the air. -/
def encode (r : Record) : Octets := r.tag :: UInt8.ofNat r.body.length :: r.body

def encodeAll (rs : List Record) : Octets := rs.flatMap encode

/-- How many octets a record takes on the air. -/
def size (r : Record) : Nat := r.body.length + 2

/-- Why the octets at the end of a buffer form no record. -/
inductive Cut where
  /-- One octet is left, too few for a tag and a length. -/
  | header
  /-- The length goes beyond the end. -/
  | body (length : Nat)
  deriving DecidableEq, Repr

/-- What is left over behind the last record. -/
structure Rest where
  tag : UInt8
  cut : Cut
  deriving DecidableEq, Repr

theorem length_take_le (n : UInt8) (bs : Octets) : (bs.take n.toNat).length ≤ 255 := by
  have := n.toNat_lt
  simp only [List.length_take]
  omega

/-- The records of a buffer, and what is left over. -/
def split : Octets → List Record × Option Rest
  | [] => ([], none)
  | [tag] => ([], some ⟨tag, .header⟩)
  | tag :: n :: bs =>
    if n.toNat ≤ bs.length then
      let (rs, rest) := split (bs.drop n.toNat)
      (⟨tag, bs.take n.toNat, length_take_le n bs⟩ :: rs, rest)
    else ([], some ⟨tag, .body n.toNat⟩)
termination_by bs => bs.length
decreasing_by simp only [List.length_drop, List.length_cons]; omega

end Record

end Passpoint
