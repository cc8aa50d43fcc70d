/-!
Base 64: four characters spell three octets. Characters outside the alphabet are passed over, and
reading ends with the padding that fills up a group of four.
-/

namespace Passpoint.Text.Base64

/-- The six bits of a character. -/
def sixBits? (c : Char) : Option Nat :=
  if 'A' ≤ c ∧ c ≤ 'Z' then some (c.toNat - 65)
  else if 'a' ≤ c ∧ c ≤ 'z' then some (c.toNat - 71)
  else if '0' ≤ c ∧ c ≤ '9' then some (c.toNat + 4)
  else if c = '+' then some 62
  else if c = '/' then some 63
  else none

/-- Reads on with `held` characters of a group seen, their bits that are left over, and `pads`
padding characters since the last of them. A text may not end inside a group. -/
def decodeFrom (held bits pads : Nat) : List Char → Option (List UInt8)
  | [] => if held = 0 then some [] else none
  | c :: cs =>
    if c = '=' then
      if held < 2 then decodeFrom held bits pads cs
      else if 4 ≤ held + pads + 1 then some []
      else decodeFrom held bits (pads + 1) cs
    else match sixBits? c with
      | none => decodeFrom held bits pads cs
      | some six =>
        let all := 64 * bits + six
        match held with
        | 0 => decodeFrom 1 six 0 cs
        | 1 => (decodeFrom 2 (all % 16) 0 cs).map (UInt8.ofNat (all / 16) :: ·)
        | 2 => (decodeFrom 3 (all % 4) 0 cs).map (UInt8.ofNat (all / 4) :: ·)
        | _ => (decodeFrom 0 0 0 cs).map (UInt8.ofNat all :: ·)

def decode? (cs : List Char) : Option (List UInt8) := decodeFrom 0 0 0 cs

end Passpoint.Text.Base64
