import BuildTelemetry.Decimal.Digits

/-!
# The fewest digits that read back

The shortest decimal that rounds to a given double, and of those the closest to it. The grids of
one digit, two digits and so on up to seventeen are tried in turn; on each only the two neighbours
of the value can be inside its rounding interval.

* `shortest`: the digits of a positive double.
-/

namespace BuildTelemetry.Decimal

/-- The numbers that round to a double, all in the same unit: those between `low` and `high`, the
ends included if `closed`. `value` is the double itself. -/
structure RoundingInterval where
  low : Nat
  value : Nat
  high : Nat
  closed : Bool

/-- The rounding interval of a positive double in units of `2 ^ (exponent - 2)`. An even mantissa
wins a tie against both its neighbours. -/
def RoundingInterval.of (p : Double.Parts) : RoundingInterval :=
  { low := 4 * p.mantissa - (if p.onEdge then 1 else 2)
    value := 4 * p.mantissa
    high := 4 * p.mantissa + 2
    closed := p.mantissa % 2 == 0 }

/-- Whether `n` of the given units, against bounds that count `scale` to the unit, lies inside. -/
def RoundingInterval.contains (i : RoundingInterval) (n unit scale : Nat) : Bool :=
  if i.closed then i.low * scale ≤ n * unit && n * unit ≤ i.high * scale
  else i.low * scale < n * unit && n * unit < i.high * scale

/-- The closer of the two neighbours of the value on the grid of steps `unit / scale`, if one of
them lies inside the interval. A tie goes to the greater neighbour. -/
def RoundingInterval.neighbour? (i : RoundingInterval) (unit scale : Nat) : Option Nat :=
  let target := i.value * scale
  let below := target / unit
  let above := below + 1
  let (first, second) :=
    if 2 * (target % unit) < unit then (below, above) else (above, below)
  if i.contains first unit scale then some first
  else if i.contains second unit scale then some second
  else none

/-- The least exponent such that `num / den` is below ten to its power. -/
def decimalMagnitude (num den : Nat) : Int :=
  if den ≤ num then digitCount (num / den)
  else
    let gap := digitCount (den / num) - 1
    if num * Nat.pow 10 gap < den then -(gap : Int) else 1 - (gap : Int)

/-- Drops zeros at the end, which are given with the last digit first. -/
def dropZeros : Reversed → Int → Reversed × Int
  | 0 :: ds, k => dropZeros ds (k + 1)
  | ds, k => (ds, k)

/-- Tries the grids of `count`, `count + 1`, … digits below ten to the power `magnitude`. -/
def searchGrids (i : RoundingInterval) (num den : Nat) (magnitude : Int) :
    Nat → Nat → Digits
  | 0, _ => ⟨[], 0⟩
  | fuel + 1, count =>
    let k := magnitude - count
    match i.neighbour? (den * Nat.pow 10 k.toNat) (num * Nat.pow 10 (-k).toNat) with
    | some n =>
      let (ds, e) := dropZeros ((Nat.toDigits 10 n).reverse.map (fun c => c.toNat - 48)) k
      ⟨ds.reverse, e⟩
    | none => searchGrids i num den magnitude fuel (count + 1)

/-- The fewest digits that read back as the positive double `p`. Seventeen always suffice. -/
def shortest (p : Double.Parts) : Digits :=
  let e := p.exponent - 2
  let num := 1 <<< e.toNat
  let den := 1 <<< (-e).toNat
  let magnitude := decimalMagnitude (4 * p.mantissa * num) den
  searchGrids (.of p) num den magnitude 20 1

end BuildTelemetry.Decimal
