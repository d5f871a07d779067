import BuildTelemetry.Text.Property.Binary

/-!
# Patterns and their spans

A pattern describes spans of a text, from one position to another. Positions are counted in
characters.

* `Look.holds`: what a position must satisfy.
* `Node`: patterns.
* `Node.Spans`: the spans of a pattern, as a relation.
-/

namespace BuildTelemetry.Pattern

open Text

/-! ## Conditions on a position -/

/-- How a position lies between two characters, each of which is part of a word or not. -/
inductive WordEdge where
  | boundary
  | notBoundary
  | start
  | finish
  | halfStart
  | halfFinish
deriving DecidableEq, Repr

/-- The condition that an edge puts on the characters before and after it. -/
def WordEdge.holds (before after : Bool) : WordEdge → Bool
  | boundary => before != after
  | notBoundary => before == after
  | start => !before && after
  | finish => before && !after
  | halfStart => !before
  | halfFinish => !after

/-- A condition on a position of a text. -/
inductive Look where
  | textStart
  | textEnd
  | lineStart
  | lineEnd
  /-- A line start where lines may also end in a carriage return. -/
  | returnLineStart
  | returnLineEnd
  | word (edge : WordEdge) (members : CharSet)
deriving DecidableEq, Repr

def before? (text : Array Char) (i : Nat) : Option Char := if i = 0 then none else text[i - 1]?

/-- Whether a position satisfies a condition. No line ends between a carriage return and a line
feed. -/
def Look.holds (text : Array Char) (i : Nat) : Look → Bool
  | textStart => i == 0
  | textEnd => i == text.size
  | lineStart => i == 0 || before? text i == some '\n'
  | lineEnd => i == text.size || text[i]? == some '\n'
  | returnLineStart =>
    i == 0 || before? text i == some '\n' ||
      (before? text i == some '\r' && text[i]? != some '\n')
  | returnLineEnd =>
    i == text.size || text[i]? == some '\r' ||
      (text[i]? == some '\n' && before? text i != some '\r')
  | word edge members =>
    edge.holds ((before? text i).any members.contains) (text[i]?.any members.contains)

/-! ## Patterns -/

/-- A pattern. -/
inductive Node where
  | empty
  | set (members : CharSet)
  | look (condition : Look)
  | seq (first second : Node)
  | either (left right : Node)
  /-- From `least` to `most` repetitions, without a limit if there is no `most`. Whether few or many
  are preferred does not change which spans there are. -/
  | many (body : Node) (least : Nat) (most : Option Nat) (prefersFew : Bool)
  /-- A pattern whose span is remembered. -/
  | capture (body : Node)
deriving DecidableEq, Repr, Inhabited

namespace Node

/-- The spans of a pattern in a text. -/
inductive Spans (text : Array Char) : Node → Nat → Nat → Prop
  | empty {i : Nat} : Spans text .empty i i
  | set {members : CharSet} {i : Nat} {c : Char} :
      text[i]? = some c → members.contains c = true → Spans text (.set members) i (i + 1)
  | look {condition : Look} {i : Nat} :
      condition.holds text i = true → Spans text (.look condition) i i
  | seq {a b : Node} {i j k : Nat} :
      Spans text a i j → Spans text b j k → Spans text (.seq a b) i k
  | left {a b : Node} {i j : Nat} : Spans text a i j → Spans text (.either a b) i j
  | right {a b : Node} {i j : Nat} : Spans text b i j → Spans text (.either a b) i j
  | stop {a : Node} {most : Option Nat} {few : Bool} {i : Nat} : Spans text (.many a 0 most few) i i
  | more {a : Node} {least : Nat} {most : Option Nat} {few : Bool} {i j k : Nat} :
      most ≠ some 0 → Spans text a i j →
      Spans text (.many a (least - 1) (most.map (· - 1)) few) j k →
      Spans text (.many a least most few) i k
  | capture {a : Node} {i j : Nat} : Spans text a i j → Spans text (.capture a) i j

end Node

end BuildTelemetry.Pattern
