/-!
# Sets of positions

A set of positions of a text is a number with a bit for each of them. Rows say for each position
where one may get from there.

* `PositionSet`: sets of positions.
* `PositionSet.advance`, `PositionSet.spread`: going on a number of times.
* `Rows.follow`: one step along rows.
* `Rows.closure`: the rows of any number of steps.
-/

namespace BuildTelemetry.Pattern

/-- A set of positions: those whose bit is set. -/
abbrev PositionSet := Nat

namespace PositionSet

def only (i : Nat) : PositionSet := 1 <<< i

/-- The positions below `size` that satisfy a condition. -/
def below (size : Nat) (condition : Nat → Bool) : PositionSet :=
  (List.range size).foldl (fun found i => if condition i then found ||| only i else found) 0

def first (s : PositionSet) : Nat := (s ^^^ (s - 1)).log2

/-- The members of the first set that are not in the second. -/
def without (s t : PositionSet) : PositionSet := s ^^^ (s &&& t)

/-- Adds to `found` the positions that the members lead to, one member after the other from the
greatest. -/
def gather (f : Nat → PositionSet) (s found : PositionSet) : PositionSet :=
  if _ : s = 0 then found else gather f (s - 1 <<< s.log2) (found ||| f s.log2)
termination_by s
decreasing_by
  exact Nat.sub_lt (Nat.pos_of_ne_zero ‹¬s = 0›) (Nat.one_shiftLeft _ ▸ Nat.two_pow_pos _)

/-- The positions that the members lead to. -/
def flatMap (s : PositionSet) (f : Nat → PositionSet) : PositionSet := gather f s 0

/-- Takes a step a number of times, or until that changes nothing. -/
def advance (step : PositionSet → PositionSet) : Nat → PositionSet → PositionSet
  | 0, here => here
  | rounds + 1, here =>
    let there := step here
    if there == here then here else advance step rounds there

/-- The positions that are reached by at most so many steps. `fresh` are those among `reached` from
which no step was taken before. -/
def spread (step : PositionSet → PositionSet) : Nat → PositionSet → PositionSet → PositionSet
  | 0, reached, _ => reached
  | rounds + 1, reached, fresh =>
    let new := (step fresh).without reached
    if new == 0 then reached else spread step rounds (reached ||| new) new

/-- The positions that are reached by `least` to `most` steps, in a text with `size` positions. More
steps than there are positions reach nothing else: one of them stays where it is, and it can be left
out or added again. -/
def repeated (step : PositionSet → PositionSet) (size least : Nat) (most : Option Nat)
    (starts : PositionSet) : PositionSet :=
  let optional := match most with
    | some most => min (most - least) size
    | none => size
  let required := advance step (min least size) starts
  spread step optional required required

end PositionSet

/-! ## Rows -/

/-- For each position of a text, the positions that it leads to. -/
abbrev Rows := Array PositionSet

namespace Rows

def ofFn (size : Nat) (f : Nat → PositionSet) : Rows := (Array.range size).map f

def row (rows : Rows) (i : Nat) : PositionSet := rows[i]?.getD 0

/-- The positions that some positions lead to. -/
def follow (rows : Rows) (starts : PositionSet) : PositionSet := starts.flatMap rows.row

/-- Adds to `found` the rows of the positions `left`, for rows of any number of steps. Positions
that were found lead to nothing that was not found with them. -/
def gatherClosed (rows : Rows) : Nat → PositionSet → PositionSet → PositionSet
  | 0, _, found => found
  | rounds + 1, left, found =>
    if left == 0 then found
    else
      let found := found ||| rows.row left.first
      gatherClosed rows rounds (left.without found) found

/-- The rows of any number of steps, where a step never goes back. They are made from the last
position to the first one. -/
def closure (size : Nat) (step : PositionSet → PositionSet) : Rows :=
  (List.range size).foldr (fun i rows =>
    rows.setIfInBounds i (rows.gatherClosed size ((step (.only i)).without (.only i)) (.only i)))
    (Array.replicate size 0)

end Rows

end BuildTelemetry.Pattern
