/-!
# Quantile sketch

Approximate quantiles of a stream with a bounded rank error. Of each stretch of the sorted
observations only one is kept, with the number of observations it stands for and the uncertainty of
its rank. The entries are held in blocks, because the rank that decides the uncertainty of a new
entry is estimated from whole blocks.

* `insert`: adds an observation and, every so often, merges entries.
* `quantile?`: the observation reported for a quantile, none before the first observation.
* `compress`: merges neighbours that stay within the permitted rank error.
-/

namespace BuildTelemetry.Quantile

/-- An observation that stands for `weight` of them and whose rank is known up to `slack`. -/
structure Entry where
  value : Float
  weight : Nat
  slack : Nat
deriving Repr

def blockCapacity : Nat := 2048

/-- The observations that the entries of a block stand for. -/
def blockWeight (b : List Entry) : Nat := b.foldl (fun n e => n + e.weight) 0

/-- A sketch: its rank error, the number of observations and the blocks of entries. -/
structure Sketch where
  error : Float
  count : Nat
  blocks : List (List Entry)
deriving Repr

/-- The rank error that a sketch works with: at least `1e-10` and below one. -/
def usableError (error : Float) : Float :=
  if error ≤ 1e-10 then 1e-10 else if error ≥ 1.0 then 0.99 else error

/-- The number of observations that an entry of rank `r` may span. -/
def spread (error r : Float) : Nat :=
  max 1 (2.0 * error * r).floor.toUInt32.toNat

namespace Sketch

def empty (error : Float) : Sketch :=
  ⟨usableError error, 0, []⟩

/-- Entries are merged each time this many observations were added. A rank error that is no number
gives zero, which is no such count. -/
def compressEvery (s : Sketch) : Nat :=
  let stretch := 1.0 / (2.0 * s.error)
  if stretch < 1.0 then 1 else stretch.toUInt64.toNat

def entries (s : Sketch) : List Entry := s.blocks.flatten

/-! ## Insertion -/

/-- Moves the last entry of an overfull block into a block of its own. -/
def splitOverfull (b : List Entry) : List (List Entry) :=
  if b.length > blockCapacity then [b.dropLast, b.getLast?.toList] else [b]

/-- Puts an observation into the block that it belongs to, behind the smaller entries. `r` is the
rank estimated from the blocks passed so far. -/
def insertInBlock (error v : Float) (r : Nat) (b : List Entry) : List Entry :=
  let smaller := b.takeWhile fun e => e.value < v
  let others := b.drop smaller.length
  smaller ++ ⟨v, 1, spread error (r + smaller.length).toFloat - 1⟩ :: others

/-- Finds the first block that does not end below `v`. The rank grows by the weight of each block
that is entered. -/
def insertInside (error v : Float) : Nat → List (List Entry) → List (List Entry)
  | _, [] => []
  | r, [b] => splitOverfull (insertInBlock error v r b)
  | r, b :: c :: rest =>
    if b.getLast?.any fun e => v > e.value then
      b :: insertInside error v (r + blockWeight c) (c :: rest)
    else
      splitOverfull (insertInBlock error v r b) ++ c :: rest

def insertFront (v : Float) : List (List Entry) → List (List Entry)
  | [] => [[⟨v, 1, 0⟩]]
  | b :: rest => splitOverfull (⟨v, 1, 0⟩ :: b) ++ rest

def insertBack (v : Float) : List (List Entry) → List (List Entry)
  | [] => [[⟨v, 1, 0⟩]]
  | [b] => splitOverfull (b ++ [⟨v, 1, 0⟩])
  | b :: rest => b :: insertBack v rest

/-- The place of an observation: in front if no entry is smaller, behind if all are, and otherwise
inside. -/
def place (error v : Float) (blocks : List (List Entry)) : List (List Entry) :=
  match blocks.flatten.head?, blocks.flatten.getLast? with
  | some first, some last =>
    if first.value ≥ v then insertFront v blocks
    else if last.value < v then insertBack v blocks
    else insertInside error v 0 blocks
  | _, _ => insertFront v blocks

/-! ## Compression -/

/-- Walks over the entries, each with the number of its block, and merges `cur` with its successor
wherever their joint span is permitted at rank `r`. The merged entry stays in the block of `cur`. -/
def mergeEntries (error : Float) : Nat → Nat × Entry → List (Nat × Entry) → List (Nat × Entry)
  | _, cur, [] => [cur]
  | r, cur, next :: rest =>
    let joint := cur.2.weight + next.2.weight
    if joint + next.2.slack ≤ spread error r.toFloat then
      mergeEntries error (r + 1) (cur.1, ⟨next.2.value, joint, next.2.slack⟩) rest
    else
      cur :: mergeEntries error (r + 1) next rest

/-- Numbers the entries by their block. -/
def tagged (blocks : List (List Entry)) : List (Nat × Entry) :=
  (blocks.zipIdx.map fun (b, i) => b.map fun e => (i, e)).flatten

/-- Collects the entries of `count` blocks by their number. -/
def regroup (count : Nat) (entries : List (Nat × Entry)) : List (List Entry) :=
  (List.range count).map fun i => (entries.filter fun e => e.1 == i).map Prod.snd

/-- Joins neighbouring blocks that fit together in one, from left to right. -/
def joinBlocks : List Entry → List (List Entry) → List (List Entry)
  | b, [] => [b]
  | b, c :: rest =>
    if b.length + c.length ≤ blockCapacity then joinBlocks (b ++ c) rest
    else b :: joinBlocks c rest

/-- Merges entries, then blocks. Fewer than three entries are left alone. -/
def compress (error : Float) (blocks : List (List Entry)) : List (List Entry) :=
  if blocks.flatten.length < 3 then blocks
  else match tagged blocks with
    | [] => blocks
    | first :: rest =>
      match regroup blocks.length (mergeEntries error 1 first rest) with
      | [] => []
      | b :: others => joinBlocks b others

def insert (s : Sketch) (v : Float) : Sketch :=
  let blocks := place s.error v s.blocks
  let count := s.count + 1
  { s with
    count
    blocks := if count % s.compressEvery = 0 then compress s.error blocks else blocks }

/-! ## Queries -/

/-- The first entry whose successor may lie beyond the rank `limit`, else the last entry. -/
def seek (limit : Float) : Nat → Entry → List Entry → Float
  | _, prev, [] => prev.value
  | r, prev, cur :: rest =>
    let r := r + prev.weight
    if (r + cur.weight + cur.slack).toFloat > limit then prev.value else seek limit r cur rest

def quantile? (s : Sketch) (q : Float) : Option Float :=
  match s.entries with
  | [] => none
  | first :: rest =>
    let rank := q * s.count.toFloat
    some (seek (rank + (spread s.error rank).toFloat / 2.0) 0 first rest)

end Sketch

end BuildTelemetry.Quantile
