import BuildTelemetry.Pattern.Escape

/-!
# Bracketed classes

A class in brackets: characters, ranges, named classes and nested brackets, joined by set
operations that all bind alike, from left to right.

* `bracketed`: reads a class.
-/

namespace BuildTelemetry.Pattern

open Text Reader

/-- A part of a class, with the depth of its nesting. -/
structure ClassPart where
  set : CharSet
  depth : Nat

namespace ClassPart

/-- Items side by side. Only two or more of them nest. -/
def union (items : List ClassPart) : ClassPart :=
  match items with
  | [item] => item
  | items =>
    ⟨items.foldl (fun s item => s.union item.set) .empty,
      if items.isEmpty then 0 else items.foldl (fun depth item => max depth item.depth) 0 + 1⟩

end ClassPart

/-- An operation on two sets. -/
inductive SetOperation where
  | intersection
  | difference
  | symmetricDifference
deriving DecidableEq, Repr

def SetOperation.apply (a b : CharSet) : SetOperation → CharSet
  | intersection => a.inter b
  | difference => a.difference b
  | symmetricDifference => a.symmetricDifference b

/-- The sign of an operation in front of a text. -/
def operationAt? : List Char → Option SetOperation
  | '&' :: '&' :: _ => some .intersection
  | '-' :: '-' :: _ => some .difference
  | '~' :: '~' :: _ => some .symmetricDifference
  | _ => none

/-- An operation that waits for its second operand. -/
abbrev Pending := Option (ClassPart × SetOperation)

def Pending.complete (flags : Flags) (pending : Pending) (second : ClassPart) : ClassPart :=
  match pending with
  | none => second
  | some (first, operation) =>
    ⟨operation.apply (foldCase flags first.set) (foldCase flags second.set),
      max first.depth second.depth + 1⟩

/-! ## Named classes -/

/-- A class of ASCII characters. -/
def namedClass? (name : String) : Option CharSet :=
  let digits : List CodeRange := [(0x30, 0x39)]
  let lower : List CodeRange := [(0x61, 0x7A)]
  let upper : List CodeRange := [(0x41, 0x5A)]
  match name with
  | "alnum" => some (.ofRanges (digits ++ upper ++ lower))
  | "alpha" => some (.ofRanges (upper ++ lower))
  | "ascii" => some (.range 0 0x7F)
  | "blank" => some (.ofRanges [(0x09, 0x09), (0x20, 0x20)])
  | "cntrl" => some (.ofRanges [(0, 0x1F), (0x7F, 0x7F)])
  | "digit" => some (.ofRanges digits)
  | "graph" => some (.range 0x21 0x7E)
  | "lower" => some (.ofRanges lower)
  | "print" => some (.range 0x20 0x7E)
  | "punct" => some (.ofRanges [(0x21, 0x2F), (0x3A, 0x40), (0x5B, 0x60), (0x7B, 0x7E)])
  | "space" => some asciiBlank
  | "upper" => some (.ofRanges upper)
  | "word" => some asciiWord
  | "xdigit" => some (.ofRanges [(0x30, 0x39), (0x41, 0x46), (0x61, 0x66)])
  | _ => none

/-- A named class in front of a text: whether it is negated, its members and the rest. -/
def namedClassAt? (cs : List Char) : Option (Bool × CharSet × List Char) :=
  match cs with
  | '[' :: ':' :: cs =>
    let negated := cs.head? == some '^'
    let cs := if negated then cs.drop 1 else cs
    match cs.dropWhile (· != ':') with
    | ':' :: ']' :: rest =>
      (namedClass? (String.ofList (cs.takeWhile (· != ':')))).map fun s => (negated, s, rest)
    | _ => none
  | _ => none

/-! ## Ranges -/

/-- The next character but one, where white space and one number sign do not count in verbose
mode. -/
def secondShown? (flags : Flags) (cs : List Char) : Option Char :=
  let rec firstShown (seenSign : Bool) : List Char → Option Char
    | [] => none
    | c :: cs =>
      if blankCharacters.contains c then firstShown seenSign cs
      else if !seenSign && c == '#' then firstShown true cs
      else some c
  if flags.verbose then firstShown false cs.tail else cs.tail.head?

def classAtom : Reader Atom := do
  let c ← next
  if c == '\\' then escape else pure (.literal c false)

/-- The character that stands for itself in a class. Without Unicode only ASCII does. -/
def classChar? (flags : Flags) : Atom → Option Char
  | .literal c _ => if flags.unicode || c.toNat < 0x80 then some c else none
  | _ => none

def classSet? (flags : Flags) : Atom → Option CharSet
  | .set s => some s
  | atom => (classChar? flags atom).map .singleton

/-- Reads an atom, or a range between two characters. -/
def classRange : Reader ClassPart := do
  let first ← classAtom
  skip
  mustGoOn
  let flags ← flags
  let second := secondShown? flags (← rest)
  if (← peek?) != some '-' || second == some ']' || second == some '-' then
    return ⟨← require (classSet? flags first), 0⟩
  let _ ← nextAndSkip
  mustGoOn
  let last ← classAtom
  let low ← require (classChar? flags first)
  let high ← require (classChar? flags last)
  if low ≤ high then return ⟨.range low.toNat high.toNat, 0⟩ else refuse

/-! ## Classes -/

/-- Reads the front of a class: its negation, and hyphens or one closing bracket that stand for
themselves. -/
def bracketStart : Reader (Bool × List ClassPart) := do
  expect "["
  skip
  mustGoOn
  let negated := (← peek?) == some '^'
  if negated then
    let _ ← nextAndSkip
    mustGoOn
  let literal (c : Char) : ClassPart := ⟨.singleton c, 0⟩
  let hyphens ← takeSpaced (· == '-')
  mustGoOn
  if hyphens.isEmpty && (← peek?) == some ']' then
    let _ ← nextAndSkip
    mustGoOn
    return (negated, [literal ']'])
  return (negated, hyphens.map literal)

mutual

def bracketed : Nat → Reader ClassPart
  | 0 => refuse
  | fuel + 1 => do
    let (negated, items) ← bracketStart
    let inner ← classItems fuel items.reverse none
    let s ← require (foldAndNegate? (← flags) negated inner.set)
    return ⟨s, inner.depth + 1⟩

/-- Reads the items of a class up to its end. `items` are those since the last operation, the last
one first. -/
def classItems : Nat → List ClassPart → Pending → Reader ClassPart
  | 0, _, _ => refuse
  | fuel + 1, items, pending => do
    skip
    let cs ← rest
    let flags ← flags
    match operationAt? cs with
    | some operation =>
      setRest (cs.drop 2)
      classItems fuel [] (some (pending.complete flags (.union items.reverse), operation))
    | none =>
      match cs with
      | [] => refuse
      | ']' :: rest =>
        setRest rest
        return pending.complete flags (.union items.reverse)
      | '[' :: _ =>
        match namedClassAt? cs with
        | some (negated, s, rest) =>
          setRest rest
          let s ← require (foldAndNegate? flags negated s)
          classItems fuel (⟨s, 0⟩ :: items) pending
        | none =>
          let item ← bracketed fuel
          classItems fuel (item :: items) pending
      | _ =>
        let item ← classRange
        classItems fuel (item :: items) pending

end

end BuildTelemetry.Pattern
