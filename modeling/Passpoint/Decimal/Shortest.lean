/-!
The fewest digits that identify a binary64 value. A finite value is `m * 2 ^ q`; the reals that
round to it form an interval, whose ends count exactly if `m` is even. `shortest` takes the
coarsest decimal grid with a point in that interval, and on that grid the point nearest to the
value.

Everything is compared in exact integers.
-/

namespace Passpoint.Decimal

/-- A positive binary64 value, `m * 2 ^ q`. -/
structure Binary where
  m : Nat
  q : Int
  /-- The gap to the value below is half the gap to the value above. -/
  narrowBelow : Bool
  deriving DecidableEq, Repr

/-- The value of finite, non-zero bits. -/
def Binary.ofBits (bits : UInt64) : Binary :=
  let exponent := (bits >>> 52 &&& 0x7FF).toNat
  let fraction := (bits &&& 0xFFFFFFFFFFFFF).toNat
  if exponent = 0 then ⟨fraction, -1074, false⟩
  else ⟨0x10000000000000 + fraction, (exponent : Int) - 1075, fraction = 0 && 1 < exponent⟩

/-- The decimal `digits * 10 ^ exponent`. -/
structure Digits where
  digits : Nat
  exponent : Int
  deriving DecidableEq, Repr

/-- Orders `a * 10 ^ i` against `n * 2 ^ j`. -/
def compareScaled (a : Nat) (i : Int) (n : Nat) (j : Int) : Ordering :=
  compare ((a * Nat.pow 10 i.toNat) <<< (-j).toNat) ((n <<< j.toNat) * Nat.pow 10 (-i).toNat)

/-- Whether `d` lies among the reals that round to `x`. The ends of that interval lie halfway to
the neighbours, so they are whole multiples of a quarter of the last binary place. -/
def Binary.admits (x : Binary) (d : Digits) : Bool :=
  let below := compareScaled d.digits d.exponent
    (if x.narrowBelow then 4 * x.m - 1 else 4 * x.m - 2) (x.q - 2)
  let above := compareScaled d.digits d.exponent (4 * x.m + 2) (x.q - 2)
  let ends := x.m % 2 = 0
  (below = .gt || (ends && below = .eq)) && (above = .lt || (ends && above = .eq))

/-- The least `k` with `x < 10 ^ k`. The binary length of `x` gives it up to two steps. -/
def Binary.magnitude (x : Binary) : Int :=
  let guess := ((x.m.log2 : Int) + 1 + x.q) * 30103 / 100000 - 1
  let candidates := [guess, guess + 1, guess + 2, guess + 3]
  (candidates.find? fun k => compareScaled 1 k x.m x.q == .gt).getD (guess + 4)

/-- The grid point below `x` with spacing `10 ^ exponent`. -/
def Binary.gridFloor (x : Binary) (exponent : Int) : Nat :=
  (x.m <<< x.q.toNat) * Nat.pow 10 (-exponent).toNat /
    (Nat.pow 10 exponent.toNat <<< (-x.q).toNat)

/-- The nearer of the two neighbours of `x` on a grid that round to `x`; a tie goes to even. -/
def Binary.onGrid (x : Binary) (exponent : Int) : Option Digits :=
  let floor := x.gridFloor exponent
  let low : Digits := ⟨floor, exponent⟩
  let high : Digits := ⟨floor + 1, exponent⟩
  match x.admits low, x.admits high with
  | false, false => none
  | true, false => some low
  | false, true => some high
  | true, true =>
    -- Twice the value against the sum of the neighbours.
    match compareScaled (2 * floor + 1) exponent (2 * x.m) x.q with
    | .gt => some low
    | .lt => some high
    | .eq => some (if floor % 2 = 0 then low else high)

/-- Moves trailing zeros of at most `fuel` digits into the exponent. -/
def Digits.trim : (fuel : Nat) → Digits → Digits
  | fuel + 1, d =>
    if d.digits ≠ 0 ∧ d.digits % 10 = 0 then trim fuel ⟨d.digits / 10, d.exponent + 1⟩ else d
  | 0, d => d

/-- The whole expansion of `x`, for a value that no grid of seventeen digits identifies. -/
def Binary.exact (x : Binary) : Digits :=
  if x.q < 0 then ⟨x.m * Nat.pow 5 (-x.q).toNat, x.q⟩ else ⟨x.m <<< x.q.toNat, 0⟩

/-- The decimal with the fewest digits that rounds to `x`, without trailing zeros. -/
def Binary.shortest (x : Binary) : Digits :=
  let k := x.magnitude
  match (List.range 17).findSome? fun (n : Nat) => x.onGrid (k - 1 - n) with
  | some d => d.trim 20
  | none => x.exact

end Passpoint.Decimal
