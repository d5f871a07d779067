import BuildTelemetry.Exposition.Basic
import BuildTelemetry.Decimal.Notation

/-!
# The text exposition

The text form of a list of metric families: two comment lines for each family, its help and its
type, then one line for each sample. Help texts and label values are escaped, names are written as
they are.

* `encode`: the text of a list of families.
* `valueText`: how a value is written.
-/

namespace BuildTelemetry.Exposition

/-- A backslash is doubled and a line feed becomes `\n`. -/
def escapeHelp : List Char → List Char
  | [] => []
  | '\\' :: cs => '\\' :: '\\' :: escapeHelp cs
  | '\n' :: cs => '\\' :: 'n' :: escapeHelp cs
  | c :: cs => c :: escapeHelp cs

/-- As in a help text, and a double quote is written behind a backslash. -/
def escapeLabel : List Char → List Char
  | [] => []
  | '\\' :: cs => '\\' :: '\\' :: escapeLabel cs
  | '"' :: cs => '\\' :: '"' :: escapeLabel cs
  | '\n' :: cs => '\\' :: 'n' :: escapeLabel cs
  | c :: cs => c :: escapeLabel cs

/-- An integer below `2 ^ 63` in size is written without a point, so a zero has no sign. Every
other finite value is written as `Decimal.floating`. -/
def finiteText (x : Float) : String :=
  match Double.integer? x with
  | some n => if n.natAbs < 1 <<< 63 then toString n else Decimal.floating x
  | none => Decimal.floating x

def valueText (x : Float) : String :=
  if x.isNaN then "NaN"
  else if x.isInf then (if 0 < x then "+Inf" else "-Inf")
  else finiteText x

/-- A label pair: the name, an equals sign and the quoted value. -/
def labelChars (pair : LabelPair) : List Char :=
  pair.1.toList ++ '=' :: '"' :: escapeLabel pair.2.toList ++ ['"']

/-- Label pairs in braces, separated by commas; nothing at all without labels. -/
def labelBlock : List LabelPair → List Char
  | [] => []
  | pair :: rest => '{' :: labelChars pair ++ rest.flatMap (fun p => ',' :: labelChars p) ++ ['}']

def sampleLine (s : Sample) : List Char :=
  s.name.toList ++ labelBlock s.labels ++ ' ' :: (valueText s.value).toList ++ ['\n']

def helpLine (f : MetricFamily) : List Char :=
  "# HELP ".toList ++ f.name.toList ++ ' ' :: escapeHelp f.help.toList ++ ['\n']

def typeLine (f : MetricFamily) : List Char :=
  "# TYPE ".toList ++ f.name.toList ++ ' ' :: f.type.text.toList ++ ['\n']

def familyLines (f : MetricFamily) : List Char :=
  helpLine f ++ typeLine f ++ f.samples.flatMap sampleLine

def encode (families : List MetricFamily) : String :=
  String.ofList (families.flatMap familyLines)

/-- The media type of the text form. -/
def contentType : String := "text/plain; version=0.0.4; charset=utf-8"

end BuildTelemetry.Exposition
