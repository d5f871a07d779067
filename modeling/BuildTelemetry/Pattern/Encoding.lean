import BuildTelemetry.Text.CharSet

/-!
# Characters as bytes

A character is encoded in one to four bytes. The encodings of a range of characters are those of a
few sequences of byte ranges.

* `bytes`: the bytes of a code point.
* `byteSequences`: the sequences of byte ranges that encode the members of a set.
-/

namespace BuildTelemetry.Pattern

open Text

abbrev ByteRange := Nat × Nat

/-- The last code points of the encodings in one, two and three bytes. -/
def lengthLimits : List Nat := [0x7F, 0x7FF, 0xFFFF]

/-- Where a range has to be cut so that both parts are closer to one sequence of byte ranges, none
if it is one. -/
def cut? (first last : Nat) : Option Nat :=
  match lengthLimits.find? fun limit => first ≤ limit && limit < last with
  | some limit => some limit
  | none =>
    if last ≤ 0x7F then none
    else [64, 64 * 64, 64 * 64 * 64].findSome? fun block =>
      if first / block == last / block then none
      else if first % block != 0 then some (first / block * block + block - 1)
      else if last % block != block - 1 then some (last / block * block - 1)
      else none

/-- The parts of a range that are one sequence of byte ranges each. `fuel` bounds the number of
cuts above each other. -/
def cuts : Nat → Nat → Nat → List CodeRange
  | 0, first, last => [(first, last)]
  | fuel + 1, first, last =>
    match cut? first last with
    | some c => cuts fuel first c ++ cuts fuel (c + 1) last
    | none => [(first, last)]

def bytes (code : Nat) : List Nat :=
  let tail (shift : Nat) : Nat := 0x80 + code / shift % 64
  if code ≤ 0x7F then [code]
  else if code ≤ 0x7FF then [0xC0 + code / 64, tail 1]
  else if code ≤ 0xFFFF then [0xE0 + code / 4096, tail 64, tail 1]
  else [0xF0 + code / 262144, tail 4096, tail 64, tail 1]

/-- The sequences of byte ranges that encode the members of a set, in ascending order. A range of
the set may pass over the surrogates, which have no encoding. -/
def byteSequences (s : CharSet) : List (List ByteRange) :=
  (s.inter .all).ranges.flatMap fun r =>
    (cuts 16 r.1 r.2).map fun part => (bytes part.1).zip (bytes part.2)

end BuildTelemetry.Pattern
