import BuildTelemetry.Pattern.Node

/-!
# Patterns in normal form

Patterns are put together by operations that keep them small: sequences and alternatives are not
nested in each other, alternatives that are one character each become a set, and what all
alternatives begin with is taken out of them. None of this changes which spans there are.

* `Node.parts`, `Node.alternatives`: what a sequence and a choice consist of.
* `Node.sequence`: patterns one after the other.
* `Node.anyOf`: any one of some patterns.
* `Node.repeated`: a repetition.
-/

namespace BuildTelemetry.Pattern

open Text

/-- Whether a set has exactly one member. -/
def isSingle (s : CharSet) : Bool :=
  match s.ranges with
  | [(first, last)] => first == last
  | _ => false

namespace Node

/-! ## Sequences -/

def parts : Node → List Node
  | empty => []
  | seq a b => parts a ++ parts b
  | node => [node]

def ofParts : List Node → Node
  | [] => empty
  | [part] => part
  | part :: rest => seq part (ofParts rest)

def sequence (nodes : List Node) : Node := ofParts (nodes.flatMap parts)

/-! ## Choices -/

def alternatives : Node → List Node
  | either a b => alternatives a ++ alternatives b
  | node => [node]

def ofAlternatives : List Node → Node
  | [] => set .empty
  | [node] => node
  | node :: rest => either node (ofAlternatives rest)

def isCharacter : Node → Bool
  | set members => isSingle members
  | _ => false

/-- Whether a pattern is a set of other than one character. -/
def isClass : Node → Bool
  | set members => !isSingle members
  | _ => false

/-- The members of a pattern that is a set. -/
def members : Node → CharSet
  | set members => members
  | _ => .empty

/-- The choice between some alternatives, as one set if they are all characters or all classes. -/
def merge (nodes : List Node) : Node :=
  if 2 ≤ nodes.length ∧ (nodes.all isCharacter ∨ nodes.all isClass) then
    set (.ofRanges (nodes.flatMap fun node => node.members.ranges))
  else ofAlternatives nodes

/-- Whether a pattern remembers the span of a part. -/
def hasCapture : Node → Bool
  | empty => false
  | set _ => false
  | look _ => false
  | seq a b => hasCapture a || hasCapture b
  | either a b => hasCapture a || hasCapture b
  | many body _ _ _ => hasCapture body
  | capture _ => true

/-- The parts of a pattern, where characters next to each other are one element. -/
def elements (node : Node) : List (List Node) :=
  node.parts.splitBy fun a b => a.isCharacter && b.isCharacter

/-- What two lists of elements both begin with. Remembered spans are never the same. -/
def commonElements : List (List Node) → List (List Node) → List (List Node)
  | x :: xs, y :: ys =>
    if x == y && !x.any hasCapture then x :: commonElements xs ys else []
  | _, _ => []

/-- What all alternatives begin with, if each has at least two elements. -/
def commonStart : List (List (List Node)) → List (List Node)
  | [] => []
  | first :: rest =>
    if (first :: rest).all fun elements => 2 ≤ elements.length then
      rest.foldl commonElements first
    else []

def anyOf (nodes : List Node) : Node :=
  let nodes := nodes.flatMap alternatives
  if nodes.all isCharacter || nodes.all isClass then merge nodes
  else
    match commonStart (nodes.map elements) with
    | [] => ofAlternatives nodes
    | start =>
      let rests := nodes.map fun node => ofParts (node.elements.drop start.length).flatten
      sequence (start.flatten ++ [merge (rests.flatMap alternatives)])

/-! ## Repetitions -/

/-- Whether no span of the pattern has a character. -/
def isAlwaysEmpty : Node → Bool
  | empty => true
  | set _ => false
  | look _ => true
  | seq a b => isAlwaysEmpty a && isAlwaysEmpty b
  | either a b => isAlwaysEmpty a && isAlwaysEmpty b
  | many body _ _ _ => isAlwaysEmpty body
  | capture body => isAlwaysEmpty body

/-- From `least` to `most` repetitions. More than one repetition of a pattern without characters is
the same as one. -/
def repeated (body : Node) (least : Nat) (most : Option Nat) (prefersFew : Bool) : Node :=
  let (least, most) :=
    if body.isAlwaysEmpty then (min least 1, some (min (most.getD 1) 1)) else (least, most)
  if most = some 0 then empty
  else if least = 1 ∧ most = some 1 then body
  else many body least most prefersFew

end Node

end BuildTelemetry.Pattern
