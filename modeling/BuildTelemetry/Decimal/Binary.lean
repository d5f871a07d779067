/-!
# Doubles as exact binary fractions

A finite double is an integer times a power of two. Everything that is written about a number in
decimal is computed from this pair in exact integer arithmetic.

* `Double.parts`: the sign, the integer and the power of two of a double.
* `Double.integer?`: the integer a double is equal to, if there is one.
-/

namespace BuildTelemetry.Double

/-- A finite double: `mantissa * 2 ^ exponent`, negated if `negative`. The mantissa is below
`2 ^ 53`. -/
structure Parts where
  negative : Bool
  mantissa : Nat
  exponent : Int
deriving DecidableEq, Repr

/-- The value is a power of two, so the neighbour below is only half as far away as the one
above. -/
def Parts.onEdge (p : Parts) : Bool :=
  p.mantissa == 1 <<< 52

/-- Reads the three bit fields of a double. A zero exponent field means no hidden bit. -/
def partsOfBits (bits : UInt64) : Parts :=
  let n := bits.toNat
  let field : Nat := n >>> 52 % 1 <<< 11
  let fraction := n % 1 <<< 52
  { negative := n >>> 63 == 1
    mantissa := if field = 0 then fraction else 1 <<< 52 + fraction
    exponent := if field = 0 then (-1074 : Int) else (field : Int) - (1075 : Int) }

/-- The parts of a double. Only meaningful for a finite one. -/
def parts (x : Float) : Parts := partsOfBits x.toBits

/-- The integer equal to `p`, if `p` has no fractional part. -/
def Parts.integer? (p : Parts) : Option Int :=
  let signed (n : Nat) : Int := if p.negative then -(n : Int) else n
  if 0 ≤ p.exponent then
    some (signed (p.mantissa <<< p.exponent.toNat))
  else
    let unit := 1 <<< (-p.exponent).toNat
    if p.mantissa % unit = 0 then some (signed (p.mantissa / unit)) else none

/-- The integer equal to a finite double, if it has no fractional part. -/
def integer? (x : Float) : Option Int := (parts x).integer?

end BuildTelemetry.Double
