import BuildTelemetry.Host.Build

/-!
# Completed builds waiting to be counted

The host reports every build as it completes. The builds wait in a buffer for the next scrape, which
drains it. Draining empties the buffer however many builds are looked at.

* `CompletionBuffer.complete`, `register`, `unregister`: what happens between two scrapes.
* `CompletionBuffer.drain`: takes the builds that wait.
* `Drain.next?`, `Drain.remaining`: looks at the drained builds one by one.
-/

namespace BuildTelemetry

/-- The builds that wait, in the order of their completion. Builds are only kept while the buffer is
registered with the host. -/
structure CompletionBuffer (α : Type) where
  waiting : List α
  registered : Bool
deriving Repr

/-- Builds taken from a buffer. The first `seen` of them were looked at. -/
structure Drain (α : Type) where
  items : List α
  seen : Nat
deriving Repr

namespace Drain

variable {α : Type}

/-- The builds that were not looked at. -/
def left (d : Drain α) : List α := d.items.drop d.seen

/-- The number of builds that were not looked at. -/
def remaining (d : Drain α) : Nat := d.items.length - d.seen

def next? (d : Drain α) : Option (α × Drain α) :=
  d.items[d.seen]?.map fun item => (item, { d with seen := d.seen + 1 })

/-- Looks at up to `count` builds. Each comes with the number of builds that were left before it. -/
def take (d : Drain α) : Nat → List (α × Nat) × Drain α
  | 0 => ([], d)
  | count + 1 =>
    match d.next? with
    | none => ([], d)
    | some (item, rest) =>
      let (later, final) := rest.take count
      ((item, d.remaining) :: later, final)

end Drain

namespace CompletionBuffer

variable {α : Type}

/-- An empty buffer that is registered. -/
def empty : CompletionBuffer α := ⟨[], true⟩

def size (b : CompletionBuffer α) : Nat := b.waiting.length

/-- A build completed. It is dropped while the buffer is not registered. -/
def complete (b : CompletionBuffer α) (build : α) : CompletionBuffer α :=
  if b.registered then { b with waiting := b.waiting ++ [build] } else b

def register (b : CompletionBuffer α) : CompletionBuffer α := { b with registered := true }

/-- Stops keeping completed builds and forgets those that wait. -/
def unregister (_ : CompletionBuffer α) : CompletionBuffer α := ⟨[], false⟩

/-- Takes the builds that wait. The buffer is empty afterwards. -/
def drain (b : CompletionBuffer α) : Drain α × CompletionBuffer α :=
  (⟨b.waiting, 0⟩, { b with waiting := [] })

end CompletionBuffer

end BuildTelemetry
