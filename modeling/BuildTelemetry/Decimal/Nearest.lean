import BuildTelemetry.Decimal.Binary

/-!
# Reading decimals

The double nearest to a decimal number, computed exactly. A tie goes to the even mantissa.

* `roundHalfEven`: the integer nearest to a quotient.
* `nearest`: the double nearest to `mantissa * 10 ^ exponent`.
-/

namespace BuildTelemetry.Decimal

/-- The integer nearest to `num / den`, of two equally near ones the even one. -/
def roundHalfEven (num den : Nat) : Nat :=
  let q := num / den
  let twice := 2 * (num % den)
  if twice < den then q
  else if den < twice then q + 1
  else q + q % 2

/-- The bits of the double nearest to the positive quotient `num / den`. -/
def nearestBits (num den : Nat) : Nat :=
  let guess : Int := (num.log2 : Int) - den.log2 - 52
  let scaled (e : Int) : Nat × Nat := (num <<< (-e).toNat, den <<< e.toNat)
  let (n, d) := scaled guess
  let e : Int := max (-1074) (if n / d < 1 <<< 52 then guess - 1 else guess)
  let (n, d) := scaled e
  let m := roundHalfEven n d
  let bits := if m < 1 <<< 52 then m else (e + 1074).toNat <<< 52 + m
  min bits (2047 <<< 52)

/-- The double nearest to `mantissa * 10 ^ exponent`. A number that is too large becomes infinite,
one that is too small zero. -/
def nearest (negative : Bool) (mantissa : Nat) (exponent : Int) : Float :=
  let digits : Int := mantissa.log2 / 3 + 1
  let bits :=
    if mantissa = 0 ∨ exponent + digits < -400 then 0
    else if 400 < exponent then 2047 <<< 52
    else nearestBits (mantissa * Nat.pow 10 exponent.toNat) (Nat.pow 10 (-exponent).toNat)
  Float.ofBits (UInt64.ofNat (bits + if negative then 1 <<< 63 else 0))

end BuildTelemetry.Decimal
