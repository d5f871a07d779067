import BuildTelemetry.Toml.Text
import BuildTelemetry.Toml.Number
import BuildTelemetry.Toml.Table

/-!
# TOML documents

A document is a sequence of lines: comments, headers and keys with their values.

* `document?`: the entries of a document, none if it is not well-formed.
-/

namespace BuildTelemetry.Toml

/-- Arrays and inline tables are nested less deep than this, and keys have fewer parts. -/
def depthLimit : Nat := 80

/-! ## Keys -/

/-- A character of a key without quotes. -/
def isBareKey (c : Char) : Bool := c.isAlphanum || c == '-' || c == '_'

def keyPart : Reader String := do
  match ← Reader.peek? with
  | some '"' => lineString
  | some '\'' => lineString
  | _ => do
    let cs ← Reader.takeWhile isBareKey
    if cs.isEmpty then Reader.refuse else pure (String.ofList cs)

/-- Reads the parts of a key, at most `fuel` of them, with the blanks around them. -/
def keyParts : Nat → Reader (List String)
  | 0 => Reader.refuse
  | fuel + 1 => do
    skipBlanks
    let part ← keyPart
    skipBlanks
    if ← Reader.accept "." then return part :: (← keyParts fuel) else pure [part]

/-- A key: the parts before the last one, and the last one. -/
structure Key where
  path : List String
  last : String

def key : Reader Key := do
  let parts ← keyParts (depthLimit - 1)
  match parts.getLast? with
  | some last => pure ⟨parts.dropLast, last⟩
  | none => Reader.refuse

/-! ## Values -/

mutual

/-- Reads a value. `depth` counts the arrays and inline tables around it. -/
def value : Nat → Nat → Reader Value
  | 0, _ => Reader.refuse
  | fuel + 1, depth => do
    match ← Reader.peek? with
    | some '"' => .string <$> string
    | some '\'' => .string <$> string
    | some '[' =>
      if depth + 1 < depthLimit then
        discard Reader.next
        .array <$> items fuel (depth + 1)
      else Reader.refuse
    | some '{' =>
      if depth + 1 < depthLimit then
        discard Reader.next
        skipBlanks
        if ← Reader.accept "\x7d" then pure (.table [])
        else (fun t => .table t.entries) <$> inlineEntries fuel (depth + 1) (.new .header)
      else Reader.refuse
    | some 't' => do
      Reader.expect "true"
      pure (.boolean true)
    | some 'f' => do
      Reader.expect "false"
      pure (.boolean false)
    | some c =>
      if c == '+' || c == '-' || isDigit c then number
      else if c == 'i' || c == 'n' then decimalNumber
      else Reader.refuse
    | none => Reader.refuse

/-- Reads the items of an array up to its end. A comma may follow the last one. -/
def items : Nat → Nat → Reader (List Value)
  | 0, _ => Reader.refuse
  | fuel + 1, depth => do
    skipLines ((← Reader.rest).length + 1)
    if ← Reader.accept "]" then pure []
    else
      let v ← value fuel depth
      skipLines ((← Reader.rest).length + 1)
      if ← Reader.accept "," then return v :: (← items fuel depth)
      else
        Reader.expect "]"
        pure [v]

/-- Reads the entries of an inline table up to its end. No comma follows the last one. -/
def inlineEntries : Nat → Nat → Table → Reader Table
  | 0, _, _ => Reader.refuse
  | fuel + 1, depth, t => do
    let k ← key
    Reader.expect "="
    skipBlanks
    let v ← value fuel depth
    skipBlanks
    match t.assign k.path k.last v with
    | none => Reader.refuse
    | some t =>
      if ← Reader.accept "," then inlineEntries fuel depth t
      else
        Reader.expect "\x7d"
        pure t

end

/-! ## Lines -/

/-- A document under construction: its root and the path of the table that keys go to. -/
structure Draft where
  root : Table
  path : List String

/-- Reads a header, behind which keys go to another table. -/
def header (d : Draft) : Reader Draft := do
  let isElement ← Reader.accept "[["
  if !isElement then Reader.expect "["
  let k ← key
  Reader.expect (if isElement then "]]" else "]")
  finishLine
  let root := if isElement then d.root.openElement k.path k.last else d.root.openTable k.path k.last
  match root with
  | some root => pure ⟨root, k.path ++ [k.last]⟩
  | none => Reader.refuse

/-- Reads a key with its value into the current table. -/
def keyValue (d : Draft) : Reader Draft := do
  let k ← key
  Reader.expect "="
  skipBlanks
  let v ← value (2 * (← Reader.rest).length + 2) 0
  finishLine
  match d.root.within .passedThrough (fun t => t.assign k.path k.last v) d.path with
  | some root => pure { d with root }
  | none => Reader.refuse

/-- Reads lines up to the end of the document, at most `fuel` of them. -/
def lines : Nat → Draft → Reader Draft
  | 0, _ => Reader.refuse
  | fuel + 1, d => do
    skipBlanks
    match ← Reader.peek? with
    | none => pure d
    | some '#' => do finishLine; lines fuel d
    | some '\n' => do finishLine; lines fuel d
    | some '\r' => do finishLine; lines fuel d
    | some '[' => do lines fuel (← header d)
    | some _ => do lines fuel (← keyValue d)

/-- The entries of a document. A byte order mark in front is skipped. -/
def document? (text : String) : Option (List (String × Value)) :=
  let cs := match text.toList with
    | '\ufeff' :: cs => cs
    | cs => cs
  (lines (cs.length + 1) ⟨.new .header, []⟩ cs).map fun (d, _) => d.root.entries

end BuildTelemetry.Toml
