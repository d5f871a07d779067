/-!
# Journals

A computation that notes things down as it goes and may stop early. What was noted before it
stopped stays in the journal, which is why the order of the steps matters.

* `notes_bind`, `result_bind`: a sequence notes what its parts note, up to the first that stops.
-/

namespace BuildTelemetry

/-- Notes of type `ν` in the order they were made, and the result or the reason of stopping. -/
structure Journal (ν ε α : Type) where
  notes : List ν
  result : Except ε α
deriving Repr

namespace Journal

variable {ν μ ε α β : Type}

protected def pure (a : α) : Journal ν ε α := ⟨[], .ok a⟩

/-- Continues with `f` unless `j` stopped. -/
protected def bind (j : Journal ν ε α) (f : α → Journal ν ε β) : Journal ν ε β :=
  match j.result with
  | .ok a => ⟨j.notes ++ (f a).notes, (f a).result⟩
  | .error e => ⟨j.notes, .error e⟩

instance : Monad (Journal ν ε) where
  pure := Journal.pure
  bind := Journal.bind

def note (n : ν) : Journal ν ε Unit := ⟨[n], .ok ()⟩

def stop (e : ε) : Journal ν ε α := ⟨[], .error e⟩

/-- A plain result as a journal without notes. -/
def ofExcept (r : Except ε α) : Journal ν ε α := ⟨[], r⟩

instance : MonadLift (Except ε) (Journal ν ε) where
  monadLift := ofExcept

def mapNotes (f : ν → μ) (j : Journal ν ε α) : Journal μ ε α :=
  ⟨j.notes.map f, j.result⟩

/-- Goes on with `f` where `j` stopped. -/
def recover (j : Journal ν ε α) (f : ε → Journal ν ε α) : Journal ν ε α :=
  match j.result with
  | .ok a => ⟨j.notes, .ok a⟩
  | .error e => ⟨j.notes ++ (f e).notes, (f e).result⟩

/-- Runs the steps of a list in order, up to the first that stops. -/
def each (f : α → Journal ν ε Unit) : List α → Journal ν ε Unit
  | [] => pure ()
  | a :: as => do f a; each f as

@[simp] theorem notes_pure (a : α) : (pure a : Journal ν ε α).notes = [] := rfl

@[simp] theorem result_pure (a : α) : (pure a : Journal ν ε α).result = .ok a := rfl

theorem notes_bind (j : Journal ν ε α) (f : α → Journal ν ε β) :
    (j >>= f).notes = j.notes ++ (match j.result with | .ok a => (f a).notes | .error _ => []) := by
  change (Journal.bind j f).notes = _
  unfold Journal.bind
  split <;> simp_all

theorem result_bind (j : Journal ν ε α) (f : α → Journal ν ε β) :
    (j >>= f).result = j.result.bind fun a => (f a).result := by
  change (Journal.bind j f).result = _
  unfold Journal.bind
  split <;> simp_all [Except.bind]

end Journal

end BuildTelemetry
