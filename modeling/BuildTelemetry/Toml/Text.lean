import BuildTelemetry.Toml.Reader

/-!
# TOML strings

Basic strings have escapes, literal strings have none; both come in one-line and many-line forms.

* `string`: reads a string of any form.
* `scalar?`: the character with a number, none for a surrogate or a number that is too large.
-/

namespace BuildTelemetry.Toml

/-- The character with the given number. -/
def scalar? (n : Nat) : Option Char :=
  if n.isValidChar then some (Char.ofNat n) else none

/-- Reads the character that an escape stands for, behind the backslash. -/
def escaped : Reader Char := do
  match ← Reader.next with
  | 'b' => pure '\x08'
  | 't' => pure '\t'
  | 'n' => pure '\n'
  | 'f' => pure '\x0c'
  | 'r' => pure '\r'
  | '"' => pure '"'
  | '\\' => pure '\\'
  | 'u' => hex 4
  | 'U' => hex 8
  | _ => Reader.refuse
where
  hex (count : Nat) : Reader Char := do
    let ds ← Reader.exactly count (isDigitOf 16)
    match scalar? (digitsValue 16 ds) with
    | some c => pure c
    | none => Reader.refuse

/-! ## One line -/

/-- Reads the rest of a basic string behind its first quote. -/
def basicTail : Nat → Reader (List Char)
  | 0 => Reader.refuse
  | fuel + 1 => do
    match ← Reader.next with
    | '"' => pure []
    | '\\' => do
      let c ← escaped
      return c :: (← basicTail fuel)
    | c => do
      if isPrintable c then return c :: (← basicTail fuel) else Reader.refuse

/-- Reads the rest of a literal string behind its first quote. -/
def literalTail : Reader (List Char) := do
  let cs ← Reader.takeWhile fun c => isPrintable c && c != '\''
  Reader.expect "'"
  pure cs

/-! ## Many lines -/

/-- Skips blanks and line ends behind a backslash at the end of a line. -/
def skipContinuation : Nat → Reader Unit
  | 0 => pure ()
  | fuel + 1 => do
    skipBlanks
    if ← lineEnd then skipContinuation fuel

/-- Reads the rest of a many-line string behind its opening quotes. One or two quotes stand for
themselves, also right before the three that close the string. A line end is a line feed. -/
def manyLineTail (quote : Char) : Nat → Reader (List Char)
  | 0 => Reader.refuse
  | fuel + 1 => do
    if ← lineEnd then
      return '\n' :: (← manyLineTail quote fuel)
    match ← Reader.peek? with
    | none => Reader.refuse
    | some c =>
      if c == quote then
        let run ← Reader.takeWhile (· == quote)
        if run.length < 3 then return run ++ (← manyLineTail quote fuel)
        else if run.length ≤ 5 then return run.drop 3
        else Reader.refuse
      else if c == '\\' && quote == '"' then
        discard Reader.next
        let behind ← Reader.rest
        let afterBlanks := behind.dropWhile isBlank
        if ['\n'].isPrefixOf afterBlanks || ['\r', '\n'].isPrefixOf afterBlanks then
          skipContinuation (behind.length + 1)
          manyLineTail quote fuel
        else
          let e ← escaped
          return e :: (← manyLineTail quote fuel)
      else if isPrintable c then
        discard Reader.next
        return c :: (← manyLineTail quote fuel)
      else Reader.refuse

/-- Reads a many-line string behind its opening quotes. A line end right behind them is dropped. -/
def manyLines (quote : Char) : Reader (List Char) := do
  discard lineEnd
  manyLineTail quote ((← Reader.rest).length + 1)

def lineString : Reader String := do
  if ← Reader.accept "\"" then
    String.ofList <$> basicTail ((← Reader.rest).length + 1)
  else
    Reader.expect "'"
    String.ofList <$> literalTail

def string : Reader String := do
  if ← Reader.accept "\"\"\"" then String.ofList <$> manyLines '"'
  else if ← Reader.accept "'''" then String.ofList <$> manyLines '\''
  else lineString

end BuildTelemetry.Toml
