import BuildTelemetry.Journal

/-!
# What journals note

A sequence of steps notes what its steps note, up to the first that stops.

* `bind_of_ok`, `bind_of_error`: a sequence whose first part is known.
* `mem_notes_bind`, `mem_notes_read`, `mem_notes_each`: where a note of a sequence comes from.
* `notes_each`, `result_each`: a list of steps none of which stops.
* `notes_recover`, `result_recover`: going on after a stop.
-/

namespace BuildTelemetry.Journal

variable {ν μ ε α β : Type}

@[simp] theorem liftM_eq (r : Except ε α) : (liftM r : Journal ν ε α) = ofExcept r := rfl

/-! ## 1. Sequences -/

/-- Two journals are equal if they note the same and end in the same way. -/
theorem eq_of_parts {j k : Journal ν ε α} (hnotes : j.notes = k.notes)
    (hresult : j.result = k.result) : j = k := by
  cases j
  cases k
  simp_all

@[simp] theorem ofExcept_ok_bind (a : α) (f : α → Journal ν ε β) :
    ((ofExcept (.ok a) : Journal ν ε α) >>= f) = f a := rfl

theorem bind_of_ok {j : Journal ν ε α} {a : α} (h : j.result = .ok a) (f : α → Journal ν ε β) :
    (j >>= f) = ⟨j.notes ++ (f a).notes, (f a).result⟩ := by
  refine eq_of_parts ?_ ?_
  · rw [notes_bind, h]
  · rw [result_bind, h]
    rfl

theorem bind_of_error {j : Journal ν ε α} {e : ε} (h : j.result = .error e)
    (f : α → Journal ν ε β) : (j >>= f) = ⟨j.notes, .error e⟩ := by
  refine eq_of_parts ?_ ?_
  · rw [notes_bind, h]
    exact List.append_nil _
  · rw [result_bind, h]
    rfl

/-- A note of a sequence comes from its first part, or from the rest after a result of that part. -/
theorem mem_notes_bind {n : ν} {j : Journal ν ε α} {f : α → Journal ν ε β} :
    n ∈ (j >>= f).notes ↔ n ∈ j.notes ∨ ∃ a, j.result = .ok a ∧ n ∈ (f a).notes := by
  cases h : j.result with
  | ok a => simp [bind_of_ok h]
  | error e => simp [bind_of_error h]

/-- A reading leaves no note, so a note of a sequence that begins with it comes from the rest. -/
theorem mem_notes_read {n : ν} {r : Except ε α} {f : α → Journal ν ε β} :
    n ∈ ((liftM r : Journal ν ε α) >>= f).notes ↔ ∃ a, r = .ok a ∧ n ∈ (f a).notes := by
  rw [mem_notes_bind, liftM_eq]
  simp [ofExcept]

/-! ## 2. Lists of steps -/

theorem mem_notes_each {n : ν} {f : α → Journal ν ε Unit} {as : List α}
    (h : n ∈ (each f as).notes) : ∃ a ∈ as, n ∈ (f a).notes := by
  induction as with
  | nil => simp [each] at h
  | cons a as ih =>
    rcases mem_notes_bind.mp h with hfirst | ⟨_, _, hrest⟩
    · exact ⟨a, List.mem_cons_self, hfirst⟩
    · obtain ⟨b, hb, hmem⟩ := ih hrest
      exact ⟨b, List.mem_cons_of_mem _ hb, hmem⟩

/-- Steps none of which stops note everything, one after the other. -/
theorem each_eq {f : α → Journal ν ε Unit} {as : List α} (h : ∀ a ∈ as, (f a).result = .ok ()) :
    each f as = ⟨as.flatMap fun a => (f a).notes, .ok ()⟩ := by
  induction as with
  | nil => rfl
  | cons a as ih =>
    have hrest : each f as = _ := ih fun b hb => h b (List.mem_cons_of_mem _ hb)
    rw [each, bind_of_ok (h a List.mem_cons_self), hrest]
    rfl

theorem notes_each {f : α → Journal ν ε Unit} {as : List α} (h : ∀ a ∈ as, (f a).result = .ok ()) :
    (each f as).notes = as.flatMap fun a => (f a).notes := by
  rw [each_eq h]

theorem result_each {f : α → Journal ν ε Unit} {as : List α}
    (h : ∀ a ∈ as, (f a).result = .ok ()) : (each f as).result = .ok () := by
  rw [each_eq h]

/-! ## 3. Going on after a stop -/

/-- Whoever goes on without a note leaves the notes as they are. -/
theorem notes_recover {j : Journal ν ε α} {f : ε → Journal ν ε α} (h : ∀ e, (f e).notes = []) :
    (j.recover f).notes = j.notes := by
  unfold recover
  split
  · rfl
  · simp [h]

/-- Whoever goes on without a stop prevents the stop. -/
theorem result_recover {j : Journal ν ε Unit} {f : ε → Journal ν ε Unit}
    (h : ∀ e, (f e).result = .ok ()) : (j.recover f).result = .ok () := by
  unfold recover
  split
  · rfl
  · exact h _

/-- Whoever goes on by stopping for the same reason has not gone on. -/
theorem recover_stop (j : Journal ν ε α) : j.recover stop = j := by
  unfold recover
  split
  · next hresult => exact eq_of_parts rfl hresult.symm
  · next hresult => exact eq_of_parts (List.append_nil _) hresult.symm

end BuildTelemetry.Journal
