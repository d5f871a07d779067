/-!
# Sets of characters

Sets of code points as sorted lists of ranges. Surrogates are never members.

* `contains`: membership.
* `union`, `inter`, `complement`, `difference`: the algebra of sets.
* `ofTable`: reads the ranges of a table.
-/

namespace BuildTelemetry.Text

abbrev CodeRange := Nat × Nat

/-- A set of code points: ranges in ascending order, none touching the next. -/
structure CharSet where
  ranges : List CodeRange
deriving DecidableEq, Repr, Inhabited

namespace CharSet

def empty : CharSet := ⟨[]⟩

/-- Joins ranges that overlap or touch; they come in the order of their first code points. -/
def joinRanges : CodeRange → List CodeRange → List CodeRange
  | r, [] => [r]
  | r, next :: rest =>
    if next.1 ≤ r.2 + 1 then joinRanges (r.1, max r.2 next.2) rest
    else r :: joinRanges next rest

/-- The set of the members of some ranges, in any order. -/
def ofRanges (rs : List CodeRange) : CharSet :=
  match rs.mergeSort fun a b => a.1 ≤ b.1 with
  | [] => empty
  | r :: rest => ⟨joinRanges r rest⟩

def range (first last : Nat) : CharSet := ⟨[(first, last)]⟩

def singleton (c : Char) : CharSet := range c.toNat c.toNat

def all : CharSet := ⟨[(0, 0xD7FF), (0xE000, 0x10FFFF)]⟩

def hasCode (s : CharSet) (n : Nat) : Bool :=
  s.ranges.any fun r => r.1 ≤ n && n ≤ r.2

def contains (s : CharSet) (c : Char) : Bool := s.hasCode c.toNat

def isEmpty (s : CharSet) : Bool := s.ranges.isEmpty

def isBelow (s : CharSet) (limit : Nat) : Bool := s.ranges.all fun r => r.2 < limit

def union (a b : CharSet) : CharSet := ofRanges (a.ranges ++ b.ranges)

def interRanges : List CodeRange → List CodeRange → List CodeRange
  | [], _ => []
  | _, [] => []
  | (a, b) :: xs, (c, d) :: ys =>
    let low := max a c
    let high := min b d
    let rest :=
      if b < d then interRanges xs ((c, d) :: ys) else interRanges ((a, b) :: xs) ys
    if low ≤ high then (low, high) :: rest else rest
termination_by xs ys => xs.length + ys.length

def inter (a b : CharSet) : CharSet := ⟨interRanges a.ranges b.ranges⟩

/-- The ranges between the given ones, from `first` to `last`. -/
def gaps (last : Nat) : Nat → List CodeRange → List CodeRange
  | first, [] => if first ≤ last then [(first, last)] else []
  | first, r :: rest =>
    if first < r.1 then (first, r.1 - 1) :: gaps last (r.2 + 1) rest
    else gaps last (r.2 + 1) rest

def complement (s : CharSet) : CharSet := inter ⟨gaps 0x10FFFF 0 s.ranges⟩ all

def difference (a b : CharSet) : CharSet := inter a b.complement

def symmetricDifference (a b : CharSet) : CharSet := (a.union b).difference (a.inter b)

/-! ## Tables -/

def hexNumber (cs : List Char) : Nat :=
  cs.foldl (fun n c => n * 16 +
    if c ≤ '9' then c.toNat - '0'.toNat else c.toNat - 'A'.toNat + 10) 0

/-- Splits characters at every blank or line end. -/
def words (text : List Char) : List (List Char) :=
  (text.splitBy fun a b => (a == ' ' || a == '\n') == (b == ' ' || b == '\n')).filter fun w =>
    w.any fun c => c != ' ' && c != '\n'

/-- Reads one entry of a table: `41` for one code point, `41-5A` for a range, and `100-12E/2` for
every second code point of a range. The step is in hexadecimal too. -/
def entryRanges (word : List Char) : List CodeRange :=
  let isHex (c : Char) : Bool := c != '-' && c != '/'
  let first := hexNumber (word.takeWhile isHex)
  match word.dropWhile isHex with
  | '-' :: rest =>
    let last := hexNumber (rest.takeWhile isHex)
    match rest.dropWhile isHex with
    | [] => [(first, last)]
    | _ :: step =>
      let step := hexNumber step
      (List.range ((last - first) / step + 1)).map fun i => (first + step * i, first + step * i)
  | _ => [(first, first)]

/-- The set that a table of ranges in hexadecimal stands for. -/
def ofTable (text : String) : CharSet :=
  ofRanges ((words text.toList).flatMap entryRanges)

end CharSet

/-- A table of ranges with the names of what it holds. -/
structure NamedTable where
  names : List String
  table : String

def findNamed? (tables : List NamedTable) (name : String) : Option CharSet :=
  (tables.find? fun t => t.names.contains name).map fun t => .ofTable t.table

/-- The set of the table with a name, empty if there is none. -/
def setNamed (tables : List NamedTable) (name : String) : CharSet :=
  (findNamed? tables name).getD .empty

end BuildTelemetry.Text
