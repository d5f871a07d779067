import BuildTelemetry.Pattern.Node
import BuildTelemetry.Pattern.Position

/-!
# Searching a text for a pattern

The spans of a pattern lead from sets of positions to sets of positions. What the body of a
repetition does is worked out once for all positions, so that nested repetitions do not multiply the
work.

* `Moves`: what a pattern does to the positions of one text.
* `Node.moves`: the moves of a pattern.
* `Node.ends`: from a set of positions, all positions where spans that start there end.
* `Node.occursIn`: whether a text has a span of the pattern.
-/

namespace BuildTelemetry.Pattern

open Text

/-! ## Moves -/

/-- What a pattern does to the positions of one text. -/
inductive Moves where
  | stay
  /-- Certain positions stay where they are. -/
  | keep (allowed : PositionSet)
  /-- Certain positions go on by a character. -/
  | step (allowed : PositionSet)
  | andThen (first second : Moves)
  | orElse (left right : Moves)
  | table (rows : Rows)
  /-- The rows are those of any number of steps. -/
  | closure (rows : Rows)
deriving Repr

namespace Moves

/-- The positions that some positions lead to. -/
def ends : Moves → PositionSet → PositionSet
  | stay, starts => starts
  | keep allowed, starts => starts &&& allowed
  | step allowed, starts => (starts &&& allowed) <<< 1
  | andThen a b, starts => ends b (ends a starts)
  | orElse a b, starts => ends a starts ||| ends b starts
  | table rows, starts => rows.follow starts
  | closure rows, starts => rows.gatherClosed rows.size starts 0

/-- Between `least` and `most` repetitions, in a text with `size` positions. -/
def repeated (size : Nat) (body : Moves) (least : Nat) (most : Option Nat) : Moves :=
  let rows (least : Nat) (most : Option Nat) : Moves :=
    .table (.ofFn size fun i => PositionSet.repeated body.ends size least most (.only i))
  match most with
  | some most => if least = 0 ∧ most = 1 then .orElse .stay body else rows least (some most)
  | none =>
    let free := Moves.closure (.closure size body.ends)
    if least = 0 then free
    else if least = 1 then .andThen body free
    else .andThen (rows least (some least)) free

end Moves

/-! ## Searching -/

namespace Node

/-- Whether a character of a set begins at a position. -/
def beginsAt (text : Array Char) (members : CharSet) (i : Nat) : Bool :=
  text[i]?.any members.contains

def moves (text : Array Char) : Node → Moves
  | empty => .stay
  | set members => .step (.below text.size (beginsAt text members))
  | look condition => .keep (.below (text.size + 1) (condition.holds text))
  | seq a b => .andThen (moves text a) (moves text b)
  | either a b => .orElse (moves text a) (moves text b)
  | many a least most _ => (moves text a).repeated (text.size + 1) least most
  | capture a => moves text a

/-- The ends of all spans that start at one of the given positions. -/
def ends (text : Array Char) : Node → PositionSet → PositionSet
  | empty, starts => starts
  | set members, starts =>
    starts.flatMap fun i => if beginsAt text members i then .only (i + 1) else 0
  | look condition, starts =>
    starts.flatMap fun i => if condition.holds text i then .only i else 0
  | seq a b, starts => ends text b (ends text a starts)
  | either a b, starts => ends text a starts ||| ends text b starts
  | many a least most _, starts =>
    let body := moves text a
    PositionSet.repeated body.ends (text.size + 1) least most starts
  | capture a, starts => ends text a starts

/-- Whether a text has a span of the pattern. -/
def occursIn (node : Node) (text : String) : Bool :=
  let chars := text.toList.toArray
  ends chars node (1 <<< (chars.size + 1) - 1) != 0

end Node

end BuildTelemetry.Pattern
