import BuildTelemetry.Toml.Value

/-!
# Tables under construction

A document builds its tables piece by piece. How a table came about decides who may still add to
it: a table with a header of its own is closed to dotted keys, a table that was only passed through
by a longer header may still get its header, and a table made by a dotted key only grows by dotted
keys.

* `assign`: adds a key, perhaps dotted, to a table.
* `openTable`, `openElement`: what a header does.
* `entries`: the finished table as a value.
-/

namespace BuildTelemetry.Toml

/-- How a table came about. -/
inductive Origin where
  | header
  | passedThrough
  | dottedKey
deriving DecidableEq, Repr

mutual

/-- What a key of a table under construction holds. The elements of a list of tables are given
with the last one first. -/
inductive Node where
  | value (v : Value)
  | table (t : Table)
  | elements (last : Table) (earlier : List Table)

/-- A table under construction. Keys are in the order of their first appearance. -/
inductive Table where
  | mk (origin : Origin) (nodes : List (String × Node))

end

namespace Table

def new (origin : Origin) : Table := .mk origin []

def origin : Table → Origin
  | mk o _ => o

def nodes : Table → List (String × Node)
  | mk _ ns => ns

def find? (t : Table) (key : String) : Option Node :=
  (t.nodes.find? fun n => n.1 == key).map Prod.snd

/-- Puts a node in the place of an old one, or behind all if the key is new. -/
def put (t : Table) (key : String) (n : Node) : Table :=
  if t.nodes.any fun m => m.1 == key then
    .mk t.origin (t.nodes.map fun m => if m.1 == key then (key, n) else m)
  else
    .mk t.origin (t.nodes ++ [(key, n)])

/-- Follows `path` into the table, the last element of a list of tables included, and applies `f`
to the table at its end. Missing tables are made with the origin `via`. Dotted keys do not enter a
table that has a header. -/
def within (via : Origin) (f : Table → Option Table) : List String → Table → Option Table
  | [], t => f t
  | key :: path, t =>
    match t.find? key with
    | none => do
      let child ← within via f path (.new via)
      pure (t.put key (.table child))
    | some (.value _) => none
    | some (.table child) =>
      if via = .dottedKey ∧ child.origin = .header then none
      else do
        let child ← within via f path child
        pure (t.put key (.table child))
    | some (.elements last earlier) => do
      let last ← within via f path last
      pure (t.put key (.elements last earlier))

/-- Adds a key that the table does not have yet. -/
def add (t : Table) (key : String) (n : Node) : Option Table :=
  match t.find? key with
  | none => some (t.put key n)
  | some _ => none

/-- Adds a dotted key with its value. The parts before the last name tables that dotted keys
made. -/
def assign (t : Table) (path : List String) (key : String) (v : Value) : Option Table :=
  let last (t : Table) : Option Table :=
    if !path.isEmpty && t.origin != .dottedKey || path.isEmpty && t.origin == .dottedKey then none
    else t.add key (.value v)
  t.within .dottedKey last path

/-- Opens the table of a header, which is new or was only passed through. -/
def openTable (t : Table) (path : List String) (key : String) : Option Table :=
  t.within .passedThrough (fun t =>
    match t.find? key with
    | none => some (t.put key (.table (.new .header)))
    | some (.table child) =>
      if child.origin = .passedThrough then some (t.put key (.table (.mk .header child.nodes)))
      else none
    | some _ => none) path

def openElement (t : Table) (path : List String) (key : String) : Option Table :=
  t.within .passedThrough (fun t =>
    match t.find? key with
    | none => some (t.put key (.elements (.new .header) []))
    | some (.elements last earlier) =>
      some (t.put key (.elements (.new .header) (last :: earlier)))
    | some _ => none) path

end Table

mutual

/-- The finished form of what a key holds. -/
def Node.finish : Node → Value
  | .value v => v
  | .table t => .table t.entries
  | .elements last earlier => .array (Table.finishAll earlier [.table last.entries])

def Table.entries : Table → List (String × Value)
  | .mk _ ns => Table.finishNodes ns

def Table.finishNodes : List (String × Node) → List (String × Value)
  | [] => []
  | (key, n) :: rest => (key, n.finish) :: Table.finishNodes rest

/-- The finished elements of a list of tables in their order, in front of `later`. -/
def Table.finishAll : List Table → List Value → List Value
  | [], later => later
  | t :: earlier, later => Table.finishAll earlier (.table t.entries :: later)

end

end BuildTelemetry.Toml
