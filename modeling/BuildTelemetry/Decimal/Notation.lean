import BuildTelemetry.Decimal.Shortest

/-!
# Written numbers

How digits and a power of ten are laid out as text.

* `floating`: up to 21 digits before the point and up to six zeros after it, otherwise one digit
  and an exponent. There is always a digit after the point or an exponent.
* `plain`: always positional, and without a point if the number is an integer.
-/

namespace BuildTelemetry.Decimal

def digitText (ds : List Nat) : String :=
  String.ofList (ds.map Nat.digitChar)

def zeros (n : Nat) : String := String.ofList (List.replicate n '0')

/-- Lays out digits: positional if `point`, the number of digits before the point, is at most 21
and more than -6, else with an exponent. -/
def Digits.floating (x : Digits) : String :=
  let count : Int := x.digits.length
  let point := count + x.exponent
  if 0 ≤ x.exponent ∧ point ≤ 21 then
    digitText x.digits ++ zeros x.exponent.toNat ++ ".0"
  else if 0 < point ∧ point ≤ 21 then
    digitText (x.digits.take point.toNat) ++ "." ++ digitText (x.digits.drop point.toNat)
  else if -6 < point ∧ point ≤ 0 then
    "0." ++ zeros (-point).toNat ++ digitText x.digits
  else
    let tail := x.digits.drop 1
    digitText (x.digits.take 1) ++ (if tail.isEmpty then "" else "." ++ digitText tail) ++
      "e" ++ toString (point - 1)

/-- Lays out digits without an exponent, however many zeros that takes. -/
def Digits.plain (x : Digits) : String :=
  let count : Int := x.digits.length
  let point := count + x.exponent
  if 0 ≤ x.exponent then digitText x.digits ++ zeros x.exponent.toNat
  else if 0 < point then
    digitText (x.digits.take point.toNat) ++ "." ++ digitText (x.digits.drop point.toNat)
  else
    "0." ++ zeros (-point).toNat ++ digitText x.digits

/-- Puts the sign of a number before its text. -/
def signed (negative : Bool) (text : String) : String :=
  if negative then "-" ++ text else text

/-- A finite double as `Digits.floating`, its digits found by 64-bit scaling. -/
def floating (x : Float) : String :=
  let p := Double.parts x
  signed p.negative (if p.mantissa = 0 then "0.0" else (digits p).floating)

/-- A double as `Digits.plain` with the fewest digits that read back. -/
def plain (x : Float) : String :=
  let p := Double.parts x
  if x.isNaN then "NaN"
  else signed p.negative <|
    if x.isInf then "inf"
    else if p.mantissa = 0 then "0"
    else (shortest p).plain

end BuildTelemetry.Decimal
