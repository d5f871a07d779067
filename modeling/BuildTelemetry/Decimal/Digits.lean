import BuildTelemetry.Decimal.Binary

/-!
# Decimal digits by 64-bit scaling

Short decimal digits of a double, found with one cached power of ten of 64 bits. The digits always
read back as the same double. They are usually, but not always, the fewest that do, and of those
not always the closest: the bounds of the rounding interval are only known to one unit of the
64-bit product, so the interval that is searched is a little narrower than the real one.

* `Scaled.mul`: the product of two 64-bit significands, rounded to its upper half.
* `powerOfTen`: a power of ten with a 64-bit significand, rounded to nearest.
* `digits`: the digits of a positive double and the power of ten of the last one.
-/

namespace BuildTelemetry.Decimal

/-- `significand * 2 ^ exponent`. -/
structure Scaled where
  significand : Nat
  exponent : Int
deriving DecidableEq, Repr

namespace Scaled

/-- Shifts the significand up until it has 64 bits. -/
def normalize (x : Scaled) : Scaled :=
  let shift := 63 - x.significand.log2
  ⟨x.significand <<< shift, x.exponent - shift⟩

/-- The upper 64 bits of the product, rounded. -/
def mul (a b : Scaled) : Scaled :=
  ⟨(a.significand * b.significand + 1 <<< 63) >>> 64, a.exponent + b.exponent + 64⟩

end Scaled

/-- `num / den` with a 64-bit significand, rounded to nearest. -/
def scaledQuotient (num den : Nat) : Scaled :=
  let guess : Int := (num.log2 : Int) - den.log2 - 63
  let rounded (e : Int) : Nat :=
    let n := num <<< (-e).toNat
    let d := den <<< e.toNat
    (2 * n + d) / (2 * d)
  let low := rounded guess
  if low < 1 <<< 63 then ⟨rounded (guess - 1), guess - 1⟩
  else if low < 1 <<< 64 then ⟨low, guess⟩
  else ⟨rounded (guess + 1), guess + 1⟩

/-- `10 ^ n` with a 64-bit significand, rounded to nearest. -/
def powerOfTen (n : Int) : Scaled :=
  scaledQuotient (Nat.pow 10 n.toNat) (Nat.pow 10 (-n).toNat)

/-- The decimal exponent whose power of ten brings a number with binary exponent `e` into the range
where its integer part has at most ten digits. Powers are cached for every eighth exponent from
-348 on. `30102999566398114 / 10 ^ 17` is the logarithm of two. -/
def cachedExponent (e : Int) : Int :=
  let unit : Int := Nat.pow 10 17
  let scaled := (-61 - e) * 30102999566398114 + 347 * unit
  let k := -(-scaled / unit)
  8 * (k / 8 + 1) - 348

/-- Lowers the last digit while that brings the digits closer to the value `w` and keeps them
inside the interval of width `delta`. `rest` is how far the digits are below the upper end, `ten`
the weight of the last digit. -/
def approach (delta rest ten w : Nat) (last : Nat) : Nat :=
  if 0 < ten ∧ rest < w ∧ ten ≤ delta - rest ∧
      (rest + ten < w ∨ rest + ten - w < w - rest) then
    approach delta (rest + ten) ten w (last - 1)
  else last
termination_by delta - rest

/-- Digits found so far, the last one first. -/
abbrev Reversed := List Nat

/-- Appends a digit, unless it would be a leading zero. -/
def push (ds : Reversed) (d : Nat) : Reversed :=
  if d = 0 ∧ ds.isEmpty then ds else d :: ds

def settle (delta rest ten w : Nat) : Reversed → Reversed
  | [] => []
  | d :: ds => approach delta rest ten w d :: ds

/-- Digits after the point of the scaled upper bound. `p2` is the fraction in units of
`2 ^ (-s)`, `count` how many digits were already taken after the point. Twenty digits always
suffice, because the fraction is below `2 ^ 64` and the width grows tenfold with each. -/
def fractionDigits (s w : Nat) : Nat → Nat → Nat → Nat → Reversed → Reversed × Int
  | 0, _, _, count, ds => (ds, -(count : Int))
  | fuel + 1, p2, delta, count, ds =>
    let p2 := p2 * 10
    let delta := delta * 10
    let ds := push ds (p2 >>> s)
    let p2 := p2 % 1 <<< s
    let count := count + 1
    if p2 < delta then
      let scale := if count < 9 then Nat.pow 10 count else 0
      (settle delta p2 (1 <<< s) (w * scale % 1 <<< 64) ds, -(count : Int))
    else
      fractionDigits s w fuel p2 delta count ds

/-- Digits before the point of the scaled upper bound, `kappa` of them left. -/
def integerDigits (s delta w p2 : Nat) : Nat → Nat → Reversed → Reversed × Int
  | 0, _, ds => fractionDigits s w 20 p2 delta 0 ds
  | kappa + 1, p1, ds =>
    let ds := push ds (p1 / Nat.pow 10 kappa)
    let p1 := p1 % Nat.pow 10 kappa
    let rest := p1 <<< s + p2
    if rest ≤ delta then (settle delta rest (Nat.pow 10 kappa <<< s) w ds, kappa)
    else integerDigits s delta w p2 kappa p1 ds

/-- How many decimal digits `n` has. Zero has one. -/
def digitCount (n : Nat) : Nat := (Nat.toDigits 10 n).length

/-- Decimal digits, the first one first, and the power of ten of the last one. -/
structure Digits where
  digits : List Nat
  exponent : Int
deriving DecidableEq, Repr

def digits (p : Double.Parts) : Digits :=
  let f := p.mantissa
  let e := p.exponent
  let upper := Scaled.normalize ⟨2 * f + 1, e - 1⟩
  let below : Scaled := if p.onEdge then ⟨4 * f - 1, e - 2⟩ else ⟨2 * f - 1, e - 1⟩
  let lower : Scaled :=
    ⟨below.significand <<< (below.exponent - upper.exponent).toNat, upper.exponent⟩
  let exponent := cachedExponent upper.exponent
  let power := powerOfTen exponent
  let w := (Scaled.normalize ⟨f, e⟩).mul power
  let high := upper.mul power
  let top := high.significand - 1
  let bottom := (lower.mul power).significand + 1
  let s := (-high.exponent).toNat
  let p1 := top >>> s
  let (ds, k) :=
    integerDigits s (top - bottom) (top - w.significand) (top % 1 <<< s) (digitCount p1) p1 []
  ⟨ds.reverse, k - exponent⟩

end BuildTelemetry.Decimal
