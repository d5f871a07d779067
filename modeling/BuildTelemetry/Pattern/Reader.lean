import BuildTelemetry.Text.Property.Lookup
import BuildTelemetry.Text.Fold
import BuildTelemetry.Pattern.Normal

/-!
# Readers of patterns

A pattern is read from front to back under flags that the pattern itself may change. A text that is
wrong anywhere is no pattern, so there is only one way to refuse it.

* `Flags`: how characters are understood.
* `Reader`: reads a part of a pattern.
* `skip`: in verbose mode, passes over white space and comments.
* `Part`: a part that was read, with the depth of its nesting.
-/

namespace BuildTelemetry.Pattern

open Text

/-- How the characters of a pattern are understood. -/
structure Flags where
  ignoreCase : Bool
  multiLine : Bool
  dotMatchesAll : Bool
  swapGreed : Bool
  unicode : Bool
  returnEndsLine : Bool
  verbose : Bool
deriving DecidableEq, Repr

def Flags.initial : Flags := ⟨false, false, false, false, true, false, false⟩

/-- What is left of a pattern, the flags in force and the names of the groups so far. -/
structure ReaderState where
  rest : List Char
  flags : Flags
  names : List (List Char)

/-- Reads a part of a pattern, or refuses it. -/
abbrev Reader (α : Type) := StateT ReaderState Option α

namespace Reader

def refuse {α : Type} : Reader α := fun _ => none

/-- Refuses the pattern unless there is a value. -/
def require {α : Type} (value : Option α) : Reader α := fun state => value.map fun a => (a, state)

def rest : Reader (List Char) := return (← get).rest

def peek? : Reader (Option Char) := return (← rest).head?

def flags : Reader Flags := return (← get).flags

def setRest (cs : List Char) : Reader Unit := modify fun state => { state with rest := cs }

def setFlags (flags : Flags) : Reader Unit := modify fun state => { state with flags }

def next : Reader Char := do
  match ← rest with
  | c :: cs => setRest cs; pure c
  | [] => refuse

/-- Takes `text`, if it comes next. -/
def accept (text : String) : Reader Bool := do
  let t := text.toList
  let cs ← rest
  if t.isPrefixOf cs then setRest (cs.drop t.length); pure true else pure false

/-- Takes `text`, which must come next. -/
def expect (text : String) : Reader Unit := do
  if ← accept text then pure () else refuse

/-- Refuses a pattern that ends here. -/
def mustGoOn : Reader Unit := do
  if (← rest).isEmpty then refuse else pure ()

end Reader

open Reader

/-! ## White space and comments -/

/-- Passes over white space and over comments, which last to the end of their line. -/
def dropInsignificant (inComment : Bool) : List Char → List Char
  | [] => []
  | c :: cs =>
    if inComment then dropInsignificant (c != '\n') cs
    else if blankCharacters.contains c then dropInsignificant false cs
    else if c == '#' then dropInsignificant true cs
    else c :: cs

/-- In verbose mode, passes over white space and comments. -/
def skip : Reader Unit := do
  if (← flags).verbose then setRest (dropInsignificant false (← rest)) else pure ()

def nextAndSkip : Reader Char := do
  let c ← next
  skip
  pure c

/-- Takes characters of a class and skips after each, at most `fuel` of them. -/
def collectSpaced (p : Char → Bool) : Nat → Reader (List Char)
  | 0 => pure []
  | fuel + 1 => do
    match ← peek? with
    | some c =>
      if p c then
        let _ ← nextAndSkip
        return c :: (← collectSpaced p fuel)
      else pure []
    | none => pure []

/-- Takes all characters of a class that come next and skips after each. -/
def takeSpaced (p : Char → Bool) : Reader (List Char) := do
  if (← peek?).any p then collectSpaced p (← rest).length else pure []

/-- Takes `n` characters of a class and skips after each. -/
def exactlySpaced (p : Char → Bool) : Nat → Reader (List Char)
  | 0 => pure []
  | n + 1 => do
    let c ← nextAndSkip
    if p c then return c :: (← exactlySpaced p n) else refuse

/-! ## Parts -/

/-- A part of a pattern. Nested parts count their depth, and a directive cannot be repeated. -/
structure Part where
  node : Node
  depth : Nat
  isRepeatable : Bool

namespace Part

/-- A part that contains no other. -/
def leaf (node : Node) : Part := ⟨node, 0, true⟩

def maxDepth (parts : List Part) : Nat := parts.foldl (fun depth part => max depth part.depth) 0

/-- Parts one after the other. Only two or more of them nest. -/
def sequence (parts : List Part) : Part :=
  match parts with
  | [part] => part
  | [] => leaf .empty
  | parts => ⟨.sequence (parts.map Part.node), maxDepth parts + 1, true⟩

/-- Any one of some parts. Only two or more of them nest. -/
def anyOf (first : Part) : List Part → Part
  | [] => first
  | rest => ⟨.anyOf ((first :: rest).map Part.node), maxDepth (first :: rest) + 1, true⟩

end Part

/-! ## Sets under flags -/

/-- A set with the case variants that the flags ask for. -/
def foldCase (flags : Flags) (s : CharSet) : CharSet :=
  if flags.ignoreCase then (if flags.unicode then caseClosure s else asciiCaseClosure s) else s

/-- A set or its complement. Without Unicode the complement would hold bytes that are no
characters. -/
def negate? (flags : Flags) (negated : Bool) (s : CharSet) : Option CharSet :=
  if !negated then some s else if flags.unicode then some s.complement else none

/-- A set with case variants, or the complement of that. -/
def foldAndNegate? (flags : Flags) (negated : Bool) (s : CharSet) : Option CharSet :=
  negate? flags negated (foldCase flags s)

def asciiWord : CharSet := .ofRanges [(0x30, 0x39), (0x41, 0x5A), (0x5F, 0x5F), (0x61, 0x7A)]

def asciiBlank : CharSet := .ofRanges [(0x09, 0x0D), (0x20, 0x20)]

def wordSet (flags : Flags) : CharSet := if flags.unicode then wordCharacters else asciiWord

/-- The class that a letter behind a backslash stands for. -/
def shortClass? (flags : Flags) (letter : Char) : Option CharSet :=
  match letter with
  | 'd' => some (if flags.unicode then digitCharacters else .range 0x30 0x39)
  | 's' => some (if flags.unicode then blankCharacters else asciiBlank)
  | 'w' => some (wordSet flags)
  | _ => none

end BuildTelemetry.Pattern
