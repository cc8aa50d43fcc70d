import Passpoint.Decimal.Shortest

/-!
How numbers with a fraction are written in messages: with the fewest digits that identify them,
positionally from 0.0001 up to below 10^16 and otherwise with a signed exponent of at least two
digits. A whole number keeps `.0`, and zero keeps its sign.
-/

namespace Passpoint.Decimal

/-- An exponent with its sign and at least two digits. -/
def exponentText (e : Int) : String :=
  let digits := toString e.natAbs
  (if e < 0 then "e-" else "e+") ++ (if digits.length < 2 then "0" ++ digits else digits)

def zeros (n : Nat) : String := String.ofList (List.replicate n '0')

/-- Lays out a positive decimal. -/
def Digits.layout (d : Digits) : String :=
  let ds := (toString d.digits).toList
  -- The exponent of the leading digit.
  let e := d.exponent + (ds.length : Int) - 1
  if -4 ≤ e ∧ e < 16 then
    if e < 0 then "0." ++ zeros (-e - 1).toNat ++ String.ofList ds
    else
      let whole := e.toNat + 1
      if ds.length ≤ whole then String.ofList ds ++ zeros (whole - ds.length) ++ ".0"
      else String.ofList (ds.take whole) ++ "." ++ String.ofList (ds.drop whole)
  else
    let fraction := if ds.length ≤ 1 then "" else "." ++ String.ofList (ds.drop 1)
    String.ofList (ds.take 1) ++ fraction ++ exponentText e

/-- The text of a binary64 value. -/
def render (x : Float) : String :=
  let bits := x.toBits
  let magnitude := bits &&& 0x7FFFFFFFFFFFFFFF
  if 0x7FF0000000000000 < magnitude then "nan"
  else
    let sign := if bits = magnitude then "" else "-"
    if magnitude = 0x7FF0000000000000 then sign ++ "inf"
    else if magnitude = 0 then sign ++ "0.0"
    else sign ++ (Binary.ofBits magnitude).shortest.layout

end Passpoint.Decimal
