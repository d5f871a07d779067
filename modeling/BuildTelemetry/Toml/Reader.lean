/-!
# Readers

A reader takes characters from the front of a text and gives a value, or refuses the text. There is
only one way to refuse, because a document that is wrong anywhere is wrong as a whole.
-/

namespace BuildTelemetry.Toml

/-- Reads a value from the front of a text and leaves the rest. -/
abbrev Reader (α : Type) := StateT (List Char) Option α

namespace Reader

def refuse {α : Type} : Reader α := fun _ => none

def peek? : Reader (Option Char) := fun cs => some (cs.head?, cs)

def next : Reader Char
  | [] => none
  | c :: cs => some (c, cs)

def one (p : Char → Bool) : Reader Char := do
  let c ← next
  if p c then pure c else refuse

/-- Takes `text`, if it comes next. -/
def accept (text : String) : Reader Bool := fun cs =>
  let t := text.toList
  if t.isPrefixOf cs then some (true, cs.drop t.length) else some (false, cs)

/-- Takes `text`, which must come next. -/
def expect (text : String) : Reader Unit := do
  if ← accept text then pure () else refuse

/-- Takes characters of a class as long as they come. -/
def takeWhile (p : Char → Bool) : Reader (List Char) := fun cs =>
  some (cs.takeWhile p, cs.dropWhile p)

def rest : Reader (List Char) := get

/-- Takes `n` characters, all of one class. -/
def exactly (n : Nat) (p : Char → Bool) : Reader (List Char) := fun cs =>
  let taken := cs.take n
  if taken.length = n ∧ taken.all p then some (taken, cs.drop n) else none

end Reader

/-! ## Blanks and line ends -/

def isBlank (c : Char) : Bool := c == ' ' || c == '\t'

/-- A character that stands for itself outside of strings and names: no control character but a
tab. -/
def isPrintable (c : Char) : Bool := c == '\t' || (' ' ≤ c && c != '\x7f')

def skipBlanks : Reader Unit := discard <| Reader.takeWhile isBlank

/-- Takes a line end if one comes next. A carriage return must be followed by a line feed. -/
def lineEnd : Reader Bool := do
  if ← Reader.accept "\n" then pure true else Reader.accept "\r\n"

/-- Takes the comment that comes next, if any, up to the end of the line. -/
def skipComment : Reader Unit := do
  if ← Reader.accept "#" then discard <| Reader.takeWhile isPrintable

/-- Skips what may follow a value or a header on its line, with the line end. -/
def finishLine : Reader Unit := do
  skipBlanks
  skipComment
  if ← lineEnd then pure ()
  else if (← Reader.rest).isEmpty then pure ()
  else Reader.refuse

/-- Skips blanks, comments and line ends, at most `fuel` lines of them. A comment must end with its
line. -/
def skipLines : Nat → Reader Unit
  | 0 => pure ()
  | fuel + 1 => do
    skipBlanks
    match ← Reader.peek? with
    | some '#' => do
      skipComment
      if ← lineEnd then skipLines fuel else Reader.refuse
    | some '\n' => do
      discard lineEnd
      skipLines fuel
    | some '\r' => do
      if ← lineEnd then skipLines fuel else Reader.refuse
    | _ => pure ()

/-! ## Digits -/

def isDigit (c : Char) : Bool := '0' ≤ c && c ≤ '9'

/-- A digit of base 2, 8, 10 or 16. -/
def isDigitOf (base : Nat) (c : Char) : Bool :=
  if base = 16 then isDigit c || ('a' ≤ c && c ≤ 'f') || ('A' ≤ c && c ≤ 'F')
  else isDigit c && c.toNat < '0'.toNat + base

def digitValue (c : Char) : Nat :=
  if isDigit c then c.toNat - '0'.toNat
  else if 'a' ≤ c then c.toNat - 'a'.toNat + 10
  else c.toNat - 'A'.toNat + 10

def digitsValue (base : Nat) (ds : List Char) : Nat :=
  ds.foldl (fun n c => n * base + digitValue c) 0

end BuildTelemetry.Toml
