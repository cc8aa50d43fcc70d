/-!
Reading decimals. `toFloat` is the binary64 value nearest to `m * 10 ^ e`. Magnitudes that are
infinite or zero whatever their digits are decided from the number of digits, so that a huge
exponent costs nothing.
-/

namespace Passpoint.Decimal

def toFloat (m : Nat) (e : Int) : Float :=
  let magnitude := ((Nat.toDigits 10 m).length : Int) + e
  if m = 0 ∨ magnitude < -400 then 0.0
  else if 400 < magnitude then 1.0 / 0.0
  else Float.ofScientific m (e < 0) e.natAbs

/-- The number that ASCII digits spell. -/
def natOfDigits (ds : List Char) : Nat := ds.foldl (fun n c => 10 * n + (c.toNat - 48)) 0

/-- Integers with more digits than this are not converted. -/
def digitLimit : Nat := 4300

def limitMessage (count : Nat) : String :=
  s!"Exceeds the limit ({digitLimit} digits) for integer string conversion: " ++
    s!"value has {count} digits; use sys.set_int_max_str_digits() to increase the limit"

end Passpoint.Decimal
