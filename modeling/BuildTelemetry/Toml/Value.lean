/-!
# TOML values

The values of a document. A date or a time is kept without its parts: it is only ever skipped.
-/

namespace BuildTelemetry.Toml

/-- A value. A table lists its keys without repetition. -/
inductive Value where
  | string (s : String)
  | integer (n : Int)
  | float (x : Float)
  | boolean (b : Bool)
  | moment
  | array (items : List Value)
  | table (entries : List (String × Value))
deriving Repr, Inhabited

def find? (entries : List (String × Value)) (key : String) : Option Value :=
  (entries.find? fun entry => entry.1 == key).map Prod.snd

end BuildTelemetry.Toml
