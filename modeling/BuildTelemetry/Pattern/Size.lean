import Std.Data.HashMap
import BuildTelemetry.Pattern.Encoding
import BuildTelemetry.Pattern.Normal

/-!
# The size of a pattern

A pattern that is too large is refused. Its size is that of two automata over the bytes of a text,
one that reads forward and one that reads backward, in bytes of memory: so much for each state,
each transition and each alternative. A repetition counts its body as often as it has to be copied.

* `Footprint`: the size of an automaton as far as it is built.
* `Plan`: what is added to an automaton, in order.
* `Plan.addTo`: the footprint after that.
* `Node.fits`: whether both automata of a pattern are small enough.
-/

namespace BuildTelemetry.Pattern

open Text

/-! ## Footprints -/

/-- The number of states, and the memory of the transitions and alternatives that they hold. -/
structure Footprint where
  states : Nat
  entries : Nat
deriving DecidableEq, Repr

/-- The memory of one state, of one transition and of one alternative. -/
def stateSize : Nat := 32
def transitionSize : Nat := 8
def alternativeSize : Nat := 4

/-- Patterns of a larger size are refused. -/
def sizeLimit : Nat := 10 * 1024 * 1024

namespace Footprint

def memory (f : Footprint) : Nat := f.states * stateSize + f.entries

/-- States that hold nothing. -/
def ofStates (states : Nat) : Footprint := ⟨states, 0⟩

/-- A state with transitions. -/
def transitions (count : Nat) : Footprint := ⟨1, count * transitionSize⟩

/-- A state with alternatives. -/
def alternatives (count : Nat) : Footprint := ⟨1, count * alternativeSize⟩

def add (a b : Footprint) : Footprint := ⟨a.states + b.states, a.entries + b.entries⟩

def times (count : Nat) (f : Footprint) : Footprint := ⟨count * f.states, count * f.entries⟩

end Footprint

/-! ## Shared states

States that lead to the same rest are shared as far as they are remembered. Each has its place in a
table of limited size, and a later one may take its place over. -/

def mix (hash : UInt64) (n : Nat) : UInt64 := (hash ^^^ n.toUInt64) * 1099511628211

/-- The place of some numbers in a table with so many places. -/
def placeIn (size : Nat) (numbers : List Nat) : Nat :=
  (numbers.foldl mix 14695981039346656037).toNat % size

/-- What is remembered at each place, with the number of its state. -/
abbrev Memory (α : Type) := Std.HashMap Nat (α × Nat)

def Memory.find? {α : Type} [BEq α] (memory : Memory α) (place : Nat) (key : α) : Option Nat :=
  match memory[place]? with
  | some (remembered, state) => if remembered == key then some state else none
  | none => none

/-- An automaton with the states that are remembered for sharing. -/
structure Sharing (α : Type) where
  built : Footprint
  memory : Memory α

namespace Sharing

def start {α : Type} (built : Footprint) : Sharing α := ⟨built, ∅⟩

/-- The state for a key: the remembered one, or a new one. -/
@[specialize]
def state {α : Type} [BEq α] (place : Nat) (key : α) (added : Footprint) :
    Sharing α → Nat × Sharing α
  | ⟨built, memory⟩ =>
    match memory.find? place key with
    | some state => (state, ⟨built, memory⟩)
    | none => (built.states, ⟨built.add added, memory.insert place (key, built.states)⟩)

end Sharing

/-- A transition on some bytes to a state. -/
structure Transition where
  bytes : ByteRange
  target : Nat
deriving DecidableEq, Repr

def transitionState (transitions : List Transition) (sharing : Sharing (List Transition)) :
    Nat × Sharing (List Transition) :=
  let numbers := transitions.flatMap fun t => [t.bytes.1, t.bytes.2, t.target]
  sharing.state (placeIn 10000 numbers) transitions (.transitions transitions.length)

/-- The state from which some sequences of at most `length` bytes lead to the end. -/
def sequencesState (finish : Nat) : Nat → List (List ByteRange) → Sharing (List Transition) →
    Nat × Sharing (List Transition)
  | 0, _, sharing => (finish, sharing)
  | length + 1, sequences, sharing =>
    if sequences == [[]] then (finish, sharing)
    else
      let branches := sequences.splitBy fun a b => a.head? == b.head?
      let (transitions, sharing) := branches.foldl (fun (transitions, sharing) branch =>
        let bytes := (branch.head?.bind List.head?).getD (0, 0)
        let (target, sharing) := sequencesState finish length (branch.map List.tail) sharing
        (⟨bytes, target⟩ :: transitions, sharing)) ([], sharing)
      transitionState transitions.reverse sharing

/-- An automaton with a set that it reads forward: its end, and states that are shared if the same
sequences follow. -/
def addForward (sequences : List (List ByteRange)) (built : Footprint) : Footprint :=
  (sequencesState built.states 5 sequences (.start (built.add (.ofStates 1)))).2.built

/-- The states that one sequence adds to those that are read backward, from its first byte range to
its last one. -/
def addSequence (start : Nat) (sharing : Sharing (Nat × ByteRange)) (sequence : List ByteRange) :
    Sharing (Nat × ByteRange) :=
  (sequence.foldl (fun (source, sharing) bytes =>
    let place := placeIn 1000 [source, bytes.1, bytes.2]
    sharing.state place (source, bytes) (.ofStates 1)) (start, sharing)).2

/-- An automaton with a set that it reads backward: an alternative for each sequence, the end, and
states that are shared if the same byte ranges come before. -/
def addBackward (sequences : List (List ByteRange)) (built : Footprint) : Footprint :=
  let finish := built.states + 1
  let start := built.add ((Footprint.alternatives sequences.length).add (.ofStates 1))
  (sequences.foldl (addSequence finish) (.start start)).built

/-! ## Plans -/

/-- What is added to an automaton. Only sets beyond ASCII share states, so only for them it matters
how many states there are before. -/
inductive Plan where
  | fixed (added : Footprint)
  | forward (sequences : List (List ByteRange))
  | backward (sequences : List (List ByteRange))
  | both (first second : Plan)
  | copies (count : Nat) (plan : Plan)
deriving Repr

namespace Plan

/-- So many states that hold nothing. -/
def states (count : Nat) : Plan := fixed (.ofStates count)

def andThen : Plan → Plan → Plan
  | fixed a, fixed b => fixed (a.add b)
  | fixed a, both (fixed b) rest => both (fixed (a.add b)) rest
  | a, b => both a b

def times (count : Nat) : Plan → Plan
  | fixed a => fixed (a.times count)
  | plan => copies count plan

/-- Adds to an automaton a number of times, but not to one that is too large already. -/
def repeatWithin (limit : Nat) (add : Footprint → Footprint) : Nat → Footprint → Footprint
  | 0, built => built
  | count + 1, built =>
    if limit < built.memory then built else repeatWithin limit add count (add built)

/-- The footprint of an automaton after a plan. Beyond the limit it only tells that the limit is
passed. -/
def addTo (limit : Nat) : Plan → Footprint → Footprint
  | fixed added, built => built.add added
  | forward sequences, built => addForward sequences built
  | backward sequences, built => addBackward sequences built
  | both a b, built => addTo limit b (addTo limit a built)
  | copies count plan, built => repeatWithin limit (addTo limit plan) count built

end Plan

/-! ## Words

A choice between words is a tree that branches where words differ. A branch ends with a group of
transitions whenever a word ends there, so that earlier words keep their precedence. -/

/-- The groups of transitions of a branch, each with the words that go on behind it. -/
structure Branching where
  closed : List (List (Nat × List (List Nat)))
  isOpen : List (Nat × List (List Nat))

namespace Branching

/-- Adds the rest of a word behind a byte. -/
def follow (byte : Nat) (rest : List Nat) :
    List (Nat × List (List Nat)) → List (Nat × List (List Nat))
  | [] => [(byte, [rest])]
  | (b, words) :: more =>
    if b = byte then (b, words ++ [rest]) :: more else (b, words) :: follow byte rest more

/-- Adds a word. The end of a word closes the group, unless all words so far end here. -/
def add (branching : Branching) : List Nat → Branching
  | byte :: rest => { branching with isOpen := follow byte rest branching.isOpen }
  | [] =>
    if branching.isOpen.isEmpty && !branching.closed.isEmpty &&
        branching.closed.all List.isEmpty then branching
    else ⟨branching.closed ++ [branching.isOpen], []⟩

/-- The branching of some words. -/
def ofWords (words : List (List Nat)) : Branching := words.foldl add ⟨[], []⟩

def groups (branching : Branching) : List (List (Nat × List (List Nat))) :=
  branching.closed ++ [branching.isOpen]

end Branching

/-- The footprint of the branches of some words of at most `length` bytes. A branch where nothing
goes on is the end. -/
def branchesFootprint : Nat → List (List Nat) → Footprint
  | 0, _ => .ofStates 0
  | length + 1, words =>
    let groups := (Branching.ofWords words).groups
    if groups.all List.isEmpty then .ofStates 0
    else
      let below := groups.flatMap fun group =>
        group.map fun branch => branchesFootprint length branch.2
      let filled := groups.filter fun group => !group.isEmpty
      let own := filled.map fun group =>
        if group.length = 1 then Footprint.ofStates 1 else .transitions group.length
      (below ++ own).foldl Footprint.add (.alternatives (filled.length + groups.length - 1))

def wordsFootprint (words : List (List Nat)) : Footprint :=
  let longest := words.foldl (fun longest word => max longest word.length) 0
  (branchesFootprint (longest + 1) words).add (.ofStates 1)

/-! ## Patterns -/

namespace Node

/-- The least number of characters in a span of the pattern, none if a part of it has no spans. -/
def shortest? : Node → Option Nat
  | empty => some 0
  | set members => if members.isEmpty then none else some 1
  | look _ => some 0
  | seq a b => return (← shortest? a) + (← shortest? b)
  | either a b => return min (← shortest? a) (← shortest? b)
  | many body least _ _ => return (← shortest? body) * least
  | capture body => shortest? body

/-- Whether every span starts at the start of the text. -/
def startsText : Node → Bool
  | look condition => condition == .textStart
  | seq a b => startsText a || (a.isAlwaysEmpty && startsText b)
  | either a b => startsText a && startsText b
  | many body least _ _ => least != 0 && startsText body
  | capture body => startsText body
  | _ => false

/-- Whether every span ends at the end of the text. -/
def endsText : Node → Bool
  | look condition => condition == .textEnd
  | seq a b => endsText b || (b.isAlwaysEmpty && endsText a)
  | either a b => endsText a && endsText b
  | many body least _ _ => least != 0 && endsText body
  | capture body => endsText body
  | _ => false

end Node

namespace Plan

/-- The plan of a set. One character is a chain of bytes, and a set within ASCII needs two
states. -/
def ofSet (isBackward : Bool) (s : CharSet) : Plan :=
  if isSingle s then .states ((s.ranges.flatMap fun r => bytes r.1).length)
  else if s.isBelow 0x80 then
    .fixed ((Footprint.ofStates 1).add (.transitions s.ranges.length))
  else if isBackward then .backward (byteSequences s) else .forward (byteSequences s)

/-- A state with two alternatives. -/
def fork : Plan := .fixed (.alternatives 2)

def exactly (count : Nat) (body : Plan) : Plan :=
  if count = 0 then states 1 else body.times count

def repetition (body : Plan) (needsCharacter : Bool) (least : Nat) (most : Option Nat) : Plan :=
  match most with
  | none =>
    if least ≠ 0 then (exactly least body).andThen fork
    else if needsCharacter then fork.andThen body
    else body.andThen (fork.andThen (fork.andThen (states 1)))
  | some most =>
    if least = most then exactly least body
    else if least = 0 ∧ most = 1 then fork.andThen (body.andThen (states 1))
    else
      let optional := (fork.andThen body).times (most - least)
      (exactly least body).andThen ((states 1).andThen optional)

end Plan

/-- An alternative of a choice, with its bytes if it is a word. -/
structure Alternative where
  word? : Option (List Nat)
  plan : Plan

namespace Alternative

def choice (isBackward : Bool) (alternatives : List Alternative) : Plan :=
  match alternatives with
  | [alternative] => alternative.plan
  | alternatives =>
    match alternatives.mapM Alternative.word? with
    | some words => .fixed (wordsFootprint (if isBackward then words.map List.reverse else words))
    | none =>
      let plans := alternatives.map Alternative.plan
      let fork := Plan.fixed ((Footprint.alternatives plans.length).add (.ofStates 1))
      (plans.take 2 ++ fork :: plans.drop 2).foldr Plan.andThen (.states 0)

/-- The word of a single alternative. -/
def wordOf? : List Alternative → Option (List Nat)
  | [alternative] => alternative.word?
  | _ => none

end Alternative

namespace Node

/-- The alternatives of a pattern in one of its two automata. Only the one that reads forward
remembers spans. -/
def planned (isBackward : Bool) : Node → List Alternative
  | empty => [⟨none, .states 1⟩]
  | set members =>
    [⟨if isSingle members then some (members.ranges.flatMap fun r => bytes r.1) else none,
      .ofSet isBackward members⟩]
  | look _ => [⟨none, .states 1⟩]
  | seq a b =>
    let first := planned isBackward a
    let second := planned isBackward b
    let word? := do return (← Alternative.wordOf? first) ++ (← Alternative.wordOf? second)
    let first := Alternative.choice isBackward first
    let second := Alternative.choice isBackward second
    [⟨word?, if isBackward then second.andThen first else first.andThen second⟩]
  | either a b => planned isBackward a ++ planned isBackward b
  | many body least most _ =>
    let plan := Alternative.choice isBackward (planned isBackward body)
    [⟨none, plan.repetition (body.shortest?.any (0 < ·)) least most⟩]
  | capture body =>
    let plan := Alternative.choice isBackward (planned isBackward body)
    [⟨none, if isBackward then plan else (Plan.states 1).andThen (plan.andThen (.states 1))⟩]

/-- The plan of one of the two automata of a pattern. Where a span may start anywhere, the automaton
passes over any bytes first. -/
def plan (isBackward : Bool) (node : Node) : Plan :=
  let isFixed := if isBackward then node.endsText else node.startsText
  let start := if isFixed then Plan.states 1
    else Plan.fork.andThen (.fixed ((Footprint.ofStates 1).add (.transitions 1)))
  let whole := if isBackward then node else capture node
  start.andThen ((Alternative.choice isBackward (planned isBackward whole)).andThen (.states 1))

/-- Whether both automata of a pattern are small enough. -/
def fits (node : Node) : Bool :=
  [false, true].all fun isBackward =>
    ((node.plan isBackward).addTo sizeLimit ⟨0, 0⟩).memory ≤ sizeLimit

end Node

end BuildTelemetry.Pattern
