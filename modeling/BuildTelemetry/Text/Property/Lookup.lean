import BuildTelemetry.Text.Property.Age
import BuildTelemetry.Text.Property.Break
import BuildTelemetry.Text.Property.Script

/-!
# Properties by name

A property is looked up by a loose name: case, spaces, hyphens and underscores do not matter, and a
leading `is` is dropped.

* `looseName`: the form of a name that tables are searched for.
* `property?`: a property named by one word.
* `propertyValue?`: a property named together with one of its values.
* `trimBlanks`: a text without the white space around it.
-/

namespace BuildTelemetry.Text

/-- A name in lower case without spaces, hyphens, underscores and a leading `is`. Characters beyond
ASCII are left out. The name `isc` is kept as it is. -/
def looseName (name : List Char) : List Char :=
  let startsWithIs := match name with
    | a :: b :: _ => a.toLower == 'i' && b.toLower == 's'
    | _ => false
  let kept := ((if startsWithIs then name.drop 2 else name).filter fun c =>
    c.toNat < 0x80 && c != ' ' && c != '_' && c != '-').map Char.toLower
  if startsWithIs && kept == ['c'] then ['i', 's', 'c'] else kept

/-- Names of categories that are also short for a property without a set of characters. -/
def categoryFirst : List String := ["cf", "sc", "lc"]

/-- The characters with a property, in a category or of a script. -/
def property? (name : List Char) : Option CharSet :=
  let key := String.ofList (looseName name)
  let binary := if categoryFirst.contains key then none else binaryProperty? key
  binary <|> category? key <|> script? key

/-- The characters for which a property has a value. -/
def propertyValue? (name value : List Char) : Option CharSet :=
  let key := String.ofList (looseName name)
  let value := String.ofList (looseName value)
  if ["gc", "generalcategory"].contains key then category? value
  else if ["sc", "script"].contains key then script? value
  else if ["scx", "scriptextensions"].contains key then scriptExtensions? value
  else if ["gcb", "graphemeclusterbreak"].contains key then graphemeBreak? value
  else if ["wb", "wordbreak"].contains key then wordBreak? value
  else if ["sb", "sentencebreak"].contains key then sentenceBreak? value
  else if key == "age" then assignedBy? value
  else none

/-- A text without the white space at its start and its end. -/
def trimBlanks (text : String) : String :=
  let dropBlanks := List.dropWhile blankCharacters.contains
  String.ofList (dropBlanks (dropBlanks text.toList).reverse).reverse

end BuildTelemetry.Text
