import BuildTelemetry.Pattern.Bracket
import BuildTelemetry.Pattern.Search
import BuildTelemetry.Pattern.Size

/-!
# Texts of patterns

A pattern is written as alternatives, each a sequence of atoms, classes and groups that may be
repeated.

* `read?`: the pattern that a text stands for, none if the text is not well-formed.
* `compile?`: the same, none also for a pattern that is too large.
* `wholeText`: the text that is compiled to compare a pattern with whole names.
-/

namespace BuildTelemetry.Pattern

open Text Reader

/-! ## Flags -/

def isFlagLetter (c : Char) : Bool := ['i', 'm', 's', 'U', 'u', 'R', 'x'].contains c

def Flags.switch (flags : Flags) (letter : Char) (on : Bool) : Flags :=
  match letter with
  | 'i' => { flags with ignoreCase := on }
  | 'm' => { flags with multiLine := on }
  | 's' => { flags with dotMatchesAll := on }
  | 'U' => { flags with swapGreed := on }
  | 'u' => { flags with unicode := on }
  | 'R' => { flags with returnEndsLine := on }
  | 'x' => { flags with verbose := on }
  | _ => flags

/-- Letters and at most one hyphen, which is not the last sign. Nothing is repeated. -/
def areFlagSigns (signs : List Char) : Bool :=
  signs.all (fun c => isFlagLetter c || c == '-') && signs.eraseDups.length == signs.length &&
    signs.getLast? != some '-'

/-- Switches the flags before the hyphen on and those behind it off. -/
def Flags.apply (flags : Flags) (signs : List Char) : Flags :=
  let on := signs.takeWhile (· != '-')
  let off := (signs.dropWhile (· != '-')).drop 1
  let switchAll (value : Bool) (flags : Flags) (letters : List Char) : Flags :=
    letters.foldl (fun flags letter => flags.switch letter value) flags
  switchAll false (switchAll true flags on) off

/-! ## Groups -/

/-- How a group begins. -/
inductive GroupStart where
  | directive (flags : Flags)
  | plain (flags : Flags)
  | capturing
deriving Repr

def isNameChar (first : Bool) (c : Char) : Bool :=
  c == '_' || alphabetic.contains c ||
    (!first && (c == '.' || c == '[' || c == ']' || numberCharacters.contains c))

/-- Reads a group's name up to the closing angle bracket. No two groups share a name. -/
def groupName : Reader Unit := do
  let cs ← rest
  let name := cs.takeWhile (· != '>')
  let isName := match name with
    | [] => false
    | c :: cs => isNameChar true c && cs.all (isNameChar false)
  let names := (← get).names
  if !isName || names.contains name then refuse
  setRest (cs.drop name.length)
  expect ">"
  modify fun state => { state with names := name :: names }

/-- Reads the flags at the start of a group, up to the sign behind them. -/
def groupFlags : Reader GroupStart := do
  let cs ← rest
  let signs := cs.takeWhile fun c => c != ':' && c != ')'
  if !areFlagSigns signs then refuse
  setRest (cs.drop signs.length)
  let flags := (← flags).apply signs
  if (← next) == ':' then return .plain flags
  else if signs.isEmpty then refuse
  else return .directive flags

/-- Reads the start of a group. Conditions on what lies around a span do not exist. -/
def groupStart : Reader GroupStart := do
  expect "("
  skip
  for sign in ["?=", "?!", "?<=", "?<!"] do
    if ← accept sign then refuse
  if ← accept "?P<" then
    groupName
    return .capturing
  if ← accept "?<" then
    groupName
    return .capturing
  if ← accept "?" then groupFlags else return .capturing

/-! ## Repetitions -/

/-- Reads a number of repetitions, with white space around it. It has 32 bits. -/
def repetitionCount : Reader Nat := do
  setRest ((← rest).dropWhile blankCharacters.contains)
  let ds ← takeSpaced Char.isDigit
  let _ ← takeSpaced blankCharacters.contains
  let n := ds.foldl (fun n c => n * 10 + (c.toNat - '0'.toNat)) 0
  if ds.isEmpty || UInt32.size ≤ n then refuse else return n

def repetitionBounds : Reader (Nat × Option Nat) := do
  expect "\x7b"
  skip
  mustGoOn
  let least ← repetitionCount
  let bounds ←
    if ← accept "," then do
      skip
      if (← peek?) == some '\x7d' then pure (least, none)
      else pure (least, some (← repetitionCount))
    else pure (least, some least)
  expect "\x7d"
  skip
  if bounds.2.any (· < least) then refuse else return bounds

/-- Takes the sign that turns the preference of a repetition around: whether few are preferred. -/
def prefersFew : Reader Bool := do
  let isTurned ← accept "?"
  return isTurned != (← flags).swapGreed

/-- Repeats the last part of a sequence. `parts` has the last one first. -/
def repeatLast (parts : List Part) (least : Nat) (most : Option Nat) : Reader (List Part) := do
  let few ← prefersFew
  match parts with
  | [] => refuse
  | part :: rest =>
    if part.isRepeatable then
      return ⟨part.node.repeated least most few, part.depth + 1, true⟩ :: rest
    else refuse

/-! ## Atoms -/

/-- The pattern of an atom. Without Unicode a byte beyond ASCII is no character. -/
def Atom.node? (flags : Flags) : Atom → Option Node
  | .literal c isByte =>
    if !flags.unicode && isByte && 0x80 ≤ c.toNat then none
    else some (.set (foldCase flags (.singleton c)))
  | .set s => some (.set s)
  | .look condition => some (.look condition)

/-- The characters that a dot stands for: all but line ends, unless the flags say otherwise. -/
def dotSet? (flags : Flags) : Option CharSet :=
  if !flags.unicode then none
  else if flags.dotMatchesAll then some .all
  else if flags.returnEndsLine then
    some (CharSet.all.difference (.ofRanges [(0x0A, 0x0A), (0x0D, 0x0D)]))
  else some (CharSet.all.difference (.singleton '\n'))

/-- The condition that a circumflex stands for. -/
def lineStartLook (flags : Flags) : Look :=
  if !flags.multiLine then .textStart
  else if flags.returnEndsLine then .returnLineStart else .lineStart

/-- The condition that a dollar sign stands for. -/
def lineEndLook (flags : Flags) : Look :=
  if !flags.multiLine then .textEnd
  else if flags.returnEndsLine then .returnLineEnd else .lineEnd

/-- Reads an atom outside of classes. -/
def atom : Reader Part := do
  let flags ← flags
  let c ← next
  match c with
  | '\\' => return .leaf (← require ((← escape).node? flags))
  | '.' => return .leaf (.set (← require (dotSet? flags)))
  | '^' => return .leaf (.look (lineStartLook flags))
  | '$' => return .leaf (.look (lineEndLook flags))
  | c => return .leaf (← require ((Atom.literal c false).node? flags))

/-! ## Patterns -/

mutual

/-- Reads alternatives up to the end of the group around them. -/
def alternatives : Nat → Reader (List Part)
  | 0 => refuse
  | fuel + 1 => do
    let first := Part.sequence (← parts fuel [])
    if ← accept "|" then return first :: (← alternatives fuel)
    else return [first]

/-- Reads a sequence of parts up to the end of the alternative. `before` has the last one first. -/
def parts : Nat → List Part → Reader (List Part)
  | 0, _ => refuse
  | fuel + 1, before => do
    skip
    match ← peek? with
    | none => return before.reverse
    | some ')' => return before.reverse
    | some '|' => return before.reverse
    | some '(' => parts fuel ((← group fuel) :: before)
    | some '[' =>
      let s ← bracketed fuel
      parts fuel (⟨.set s.set, s.depth, true⟩ :: before)
    | some '?' =>
      let _ ← next
      parts fuel (← repeatLast before 0 (some 1))
    | some '*' =>
      let _ ← next
      parts fuel (← repeatLast before 0 none)
    | some '+' =>
      let _ ← next
      parts fuel (← repeatLast before 1 none)
    | some '\x7b' =>
      let (least, most) ← repetitionBounds
      parts fuel (← repeatLast before least most)
    | some _ => parts fuel ((← atom) :: before)

/-- Reads a group, or a directive that changes the flags up to the end of the group around it. -/
def group : Nat → Reader Part
  | 0 => refuse
  | fuel + 1 => do
    let outer ← flags
    match ← groupStart with
    | .directive flags =>
      setFlags flags
      return ⟨.empty, 0, false⟩
    | .plain flags =>
      setFlags flags
      let inner ← body fuel
      setFlags outer
      return ⟨inner.node, inner.depth + 1, true⟩
    | .capturing =>
      let inner ← body fuel
      setFlags outer
      return ⟨.capture inner.node, inner.depth + 1, true⟩

/-- Reads the alternatives of a group and its closing parenthesis. -/
def body : Nat → Reader Part
  | 0 => refuse
  | fuel + 1 => do
    match ← alternatives fuel with
    | [] => refuse
    | first :: rest =>
      expect ")"
      return .anyOf first rest

end

def depthLimit : Nat := 250

/-- The pattern that a text stands for. -/
def read? (text : String) : Option Node := do
  let cs := text.toList
  let (parts, state) ← (alternatives (4 * cs.length + 4)).run ⟨cs, .initial, []⟩
  match parts with
  | [] => none
  | first :: rest =>
    let whole := Part.anyOf first rest
    if state.rest.isEmpty && whole.depth ≤ depthLimit then some whole.node else none

/-- The pattern that a text stands for, if it is not too large. -/
def compile? (text : String) : Option Node :=
  (read? text).filter Node.fits

/-! ## Whole names -/

/-- The text that is compiled for a pattern that has to match a name from its start to its end. -/
def wholeText (pattern : String) : String := "^(?:" ++ pattern ++ ")$"

end BuildTelemetry.Pattern
