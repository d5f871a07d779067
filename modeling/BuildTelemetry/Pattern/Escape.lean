import BuildTelemetry.Pattern.Reader

/-!
# Escapes

What a backslash introduces: a character by its code or its short name, a class, a property, or a
condition on a position.

* `Atom`: the smallest parts of a pattern.
* `escape`: reads an atom behind a backslash.
-/

namespace BuildTelemetry.Pattern

open Text Reader

/-- One of the smallest parts of a pattern. `isByte` marks a character that was written as two
hexadecimal digits. -/
inductive Atom where
  | literal (c : Char) (isByte : Bool)
  | set (s : CharSet)
  | look (condition : Look)
deriving Repr

/-! ## Characters by code -/

def isHexDigit (c : Char) : Bool :=
  c.isDigit || ('a' ≤ c && c ≤ 'f') || ('A' ≤ c && c ≤ 'F')

def hexValue (c : Char) : Nat :=
  if c.isDigit then c.toNat - '0'.toNat else c.toLower.toNat - 'a'.toNat + 10

/-- The character of a code in hexadecimal, none if there is no such character. -/
def charOfHex? (digits : List Char) : Option Char :=
  let code := digits.foldl (fun n c => n * 16 + hexValue c) 0
  if digits.isEmpty then none
  else if code < 0xD800 ∨ (0xDFFF < code ∧ code < 0x110000) then some (Char.ofNat code)
  else none

/-- Reads a code: so many digits, or any number of them in braces. -/
def codePoint (digits : Nat) : Reader Atom := do
  mustGoOn
  if (← peek?) == some '\x7b' then
    let _ ← nextAndSkip
    let ds ← takeSpaced isHexDigit
    expect "\x7d"
    return .literal (← require (charOfHex? ds)) false
  else
    let ds ← exactlySpaced isHexDigit digits
    return .literal (← require (charOfHex? ds)) (digits == 2)

/-! ## Properties -/

/-- Splits a text at the first occurrence of a separator. -/
def splitAt? (separator : List Char) : List Char → Option (List Char × List Char)
  | [] => none
  | c :: cs =>
    if separator.isPrefixOf (c :: cs) then some ([], (c :: cs).drop separator.length)
    else (splitAt? separator cs).map fun parts => (c :: parts.1, parts.2)

/-- The set of a property that is written with its value, or by one word, and whether the sign
between property and value negates it. -/
def propertyOfText? (text : List Char) : Option (Bool × CharSet) :=
  match splitAt? ['!', '='] text with
  | some (name, value) => (propertyValue? name value).map fun s => (true, s)
  | none =>
    match splitAt? [':'] text <|> splitAt? ['='] text with
    | some (name, value) => (propertyValue? name value).map fun s => (false, s)
    | none => (property? text).map fun s => (false, s)

/-- Reads a property: one letter, or a text in braces. -/
def propertySet (negated : Bool) : Reader Atom := do
  mustGoOn
  let c ← nextAndSkip
  let text ←
    if c == '\x7b' then do
      let text ← takeSpaced (· != '\x7d')
      expect "\x7d"
      pure text
    else if c == '\\' then refuse
    else pure [c]
  let flags ← flags
  if !flags.unicode then refuse
  let (negatesValue, s) ← require (propertyOfText? text)
  return .set (← require (foldAndNegate? flags (negated != negatesValue) s))

/-! ## Positions -/

def edgeNamed? (name : List Char) : Option WordEdge :=
  match String.ofList name with
  | "start" => some .start
  | "end" => some .finish
  | "start-half" => some .halfStart
  | "end-half" => some .halfFinish
  | _ => none

/-- Reads what may follow a boundary of a word: the name of an edge in braces. Braces that hold no
name belong to a repetition. -/
def boundary : Reader WordEdge := do
  if (← peek?) != some '\x7b' then return .boundary
  let start ← rest
  let _ ← nextAndSkip
  let isNamePart (c : Char) : Bool := c.isAlpha || c == '-'
  if !(← peek?).any isNamePart then
    setRest start
    return .boundary
  let name ← takeSpaced isNamePart
  expect "\x7d"
  require (edgeNamed? name)

/-- A condition on the word characters around a position. -/
def wordLook (edge : WordEdge) : Reader Atom := do
  return .look (.word edge (wordSet (← flags)))

/-! ## Escapes -/

/-- A character that a backslash turns into itself: all of ASCII but letters, digits and the two
angle brackets. -/
def isEscapable (c : Char) : Bool :=
  c.toNat < 0x80 && !c.isAlphanum && c != '<' && c != '>'

/-- Reads the atom behind a backslash. -/
def escape : Reader Atom := do
  mustGoOn
  let c ← next
  match c with
  | 'x' => skip; codePoint 2
  | 'u' => skip; codePoint 4
  | 'U' => skip; codePoint 8
  | 'p' => skip; propertySet false
  | 'P' => skip; propertySet true
  | 'a' => return .literal '\x07' false
  | 'f' => return .literal '\x0c' false
  | 't' => return .literal '\t' false
  | 'n' => return .literal '\n' false
  | 'r' => return .literal '\r' false
  | 'v' => return .literal '\x0b' false
  | 'A' => return .look .textStart
  | 'z' => return .look .textEnd
  | 'b' => wordLook (← boundary)
  | 'B' => wordLook .notBoundary
  | '<' => wordLook .start
  | '>' => wordLook .finish
  | c =>
    if isEscapable c then return .literal c false
    let flags ← flags
    let s ← require (shortClass? flags c.toLower)
    return .set (← require (negate? flags c.isUpper s))

end BuildTelemetry.Pattern
