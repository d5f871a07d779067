import BuildTelemetry.Toml.Reader
import BuildTelemetry.Toml.Value
import BuildTelemetry.Decimal.Nearest

/-!
# TOML numbers and times

Integers of 64 bits in four bases, floats, dates and times.

* `number`: reads any of them, where a sign or a digit comes next.
-/

namespace BuildTelemetry.Toml

/-- The integers that can be written. -/
def inIntegerRange (n : Int) : Bool := Int64.minValue.toInt ≤ n && n ≤ Int64.maxValue.toInt

/-- Reads digits behind a first one. An underscore stands between two digits. -/
def moreDigits (base : Nat) : Nat → Reader (List Char)
  | 0 => pure []
  | fuel + 1 => do
    if ← Reader.accept "_" then
      let d ← Reader.one (isDigitOf base)
      return d :: (← moreDigits base fuel)
    match ← Reader.peek? with
    | some c =>
      if isDigitOf base c then
        discard Reader.next
        return c :: (← moreDigits base fuel)
      else pure []
    | none => pure []

def digits (base : Nat) : Reader (List Char) := do
  let d ← Reader.one (isDigitOf base)
  return d :: (← moreDigits base ((← Reader.rest).length))

/-- Reads the digits of a decimal integer. Only zero itself starts with a zero. -/
def wholeDigits : Reader (List Char) := do
  if ← Reader.accept "0" then pure ['0'] else digits 10

def sign : Reader Bool := do
  if ← Reader.accept "-" then pure true
  else
    discard <| Reader.accept "+"
    pure false

def exponent : Reader Int := do
  let negative ← sign
  let n : Int := digitsValue 10 (← digits 10)
  pure (if negative then -n else n)

def exponent? : Reader (Option Int) := do
  if ← Reader.accept "e" then some <$> exponent
  else if ← Reader.accept "E" then some <$> exponent
  else pure none

/-- The float with the given digits before and after the point. None may be too large, but one
below zero may. -/
def floatOf (negative : Bool) (whole fraction : List Char) (e : Int) : Reader Value :=
  let x := Decimal.nearest negative (digitsValue 10 (whole ++ fraction)) (e - fraction.length)
  if x.isInf && !negative then Reader.refuse else pure (.float x)

def decimalNumber : Reader Value := do
  let negative ← sign
  if ← Reader.accept "inf" then
    return .float (Float.ofBits (if negative then 0xFFF0000000000000 else 0x7FF0000000000000))
  if ← Reader.accept "nan" then
    return .float (Float.ofBits (if negative then 0xFFF8000000000000 else 0x7FF8000000000000))
  let whole ← wholeDigits
  if ← Reader.accept "." then
    let fraction ← digits 10
    floatOf negative whole fraction ((← exponent?).getD 0)
  else match ← exponent? with
    | some e => floatOf negative whole [] e
    | none =>
      let n : Int := digitsValue 10 whole
      let n := if negative then -n else n
      if inIntegerRange n then pure (.integer n) else Reader.refuse

/-- Reads an integer of base 2, 8 or 16 behind its mark. -/
def markedInteger (base : Nat) : Reader Value := do
  let n : Int := digitsValue base (← digits base)
  if inIntegerRange n then pure (.integer n) else Reader.refuse

/-! ## Dates and times -/

/-- Reads `count` digits whose number lies in a range. -/
def ranged (count low high : Nat) : Reader Nat := do
  let n := digitsValue 10 (← Reader.exactly count isDigit)
  if low ≤ n ∧ n ≤ high then pure n else Reader.refuse

def daysIn (year month : Nat) : Nat :=
  let leap := year % 4 = 0 ∧ (year % 100 ≠ 0 ∨ year % 400 = 0)
  if month = 2 then (if leap then 29 else 28)
  else if month ∈ [4, 6, 9, 11] then 30
  else 31

def date : Reader Unit := do
  let year ← ranged 4 0 9999
  Reader.expect "-"
  let month ← ranged 2 1 12
  Reader.expect "-"
  discard <| ranged 2 1 (daysIn year month)

/-- Reads a time of day. A minute may have a leap second. -/
def timeOfDay : Reader Unit := do
  discard <| ranged 2 0 23
  Reader.expect ":"
  discard <| ranged 2 0 59
  Reader.expect ":"
  discard <| ranged 2 0 60
  if ← Reader.accept "." then
    discard <| Reader.one isDigit
    discard <| Reader.takeWhile isDigit

/-- Reads the distance from universal time. -/
def offset : Reader Unit := do
  discard <| ranged 2 0 23
  Reader.expect ":"
  discard <| ranged 2 0 59

/-- The characters that come next belong to a time of day. -/
def startsTime (cs : List Char) : Bool :=
  (cs.take 2).all isDigit && cs[2]? == some ':'

/-- The characters that come next belong to a date. -/
def startsDate (cs : List Char) : Bool :=
  (cs.take 4).all isDigit && cs[4]? == some '-'

/-- Reads a date, which a time of day may follow, which an offset may follow. -/
def dateTime : Reader Unit := do
  date
  match ← Reader.rest with
  | c :: cs =>
    if (c == 'T' || c == 't' || c == ' ') && startsTime cs then
      discard Reader.next
      timeOfDay
      match ← Reader.peek? with
      | some 'Z' => discard Reader.next
      | some 'z' => discard Reader.next
      | some '+' => do discard Reader.next; offset
      | some '-' => do discard Reader.next; offset
      | _ => pure ()
  | [] => pure ()

/-- Reads a number, a date or a time. -/
def number : Reader Value := do
  let cs ← Reader.rest
  if startsDate cs then
    dateTime
    pure .moment
  else if startsTime cs then
    timeOfDay
    pure .moment
  else if ← Reader.accept "0x" then markedInteger 16
  else if ← Reader.accept "0o" then markedInteger 8
  else if ← Reader.accept "0b" then markedInteger 2
  else decimalNumber

end BuildTelemetry.Toml
