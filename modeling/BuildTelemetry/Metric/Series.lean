import BuildTelemetry.Metric.Instrument

/-!
# Series

The instruments of one metric, one for each list of label values. The lists are kept in
lexicographic order; strings are ordered by code point, which is the order of their UTF-8 bytes.

* `update`: changes the instrument of a list of label values, a new one at the first use, and fails
  if the list does not have one value for each label name.
* `samples`: the samples of all instruments in the order of their label values.
* `sorted_upsert`: the order of the lists is kept.
-/

namespace BuildTelemetry

/-- A list of label values whose length is not that of the schema. -/
structure ArityError where
  expected : Nat
  actual : Nat
deriving DecidableEq, Repr

def ArityError.message (e : ArityError) : String :=
  "incorrect number of labels: expected " ++ toString e.expected ++ ", got " ++ toString e.actual

/-- The instruments of a metric. -/
structure Series (M : Type) where
  labelNames : List String
  fresh : M
  cells : List (List String × M)
  /-- The cells are in the order of their label values, and no label values come twice. -/
  sorted : cells.Pairwise fun a b => a.1 < b.1
deriving Repr

namespace Series

variable {M : Type}

def empty (labelNames : List String) (fresh : M) : Series M := ⟨labelNames, fresh, [], .nil⟩

/-- The number of label sets. -/
def size (s : Series M) : Nat := s.cells.length

def isEmpty (s : Series M) : Bool := s.cells.isEmpty

/-- The instrument of a list of label values. -/
def get? (s : Series M) (values : List String) : Option M :=
  (s.cells.find? fun cell => cell.1 == values).map Prod.snd

/-- The instrument of a list of label values, a fresh one before the first use. -/
def instrument (s : Series M) (values : List String) : M := (s.get? values).getD s.fresh

/-- Applies `f` to the cell of `key`, which is put in its place with `fresh` if it is missing. -/
def upsert (fresh : M) (key : List String) (f : M → M) :
    List (List String × M) → List (List String × M)
  | [] => [(key, f fresh)]
  | (k, m) :: rest =>
    if key = k then (k, f m) :: rest
    else if key < k then (key, f fresh) :: (k, m) :: rest
    else (k, m) :: upsert fresh key f rest

theorem mem_upsert {fresh : M} {key : List String} {f : M → M} {cell : List String × M}
    {cells : List (List String × M)} (h : cell ∈ upsert fresh key f cells) :
    cell.1 = key ∨ cell ∈ cells := by
  induction cells with
  | nil => simp_all [upsert]
  | cons head rest ih =>
    obtain ⟨k, m⟩ := head
    rw [upsert] at h
    split at h
    · grind
    · split at h <;> grind

/-- An upsert keeps the order: the new cell goes in front of the first cell that comes behind it. -/
theorem sorted_upsert (fresh : M) (key : List String) (f : M → M) {cells : List (List String × M)}
    (h : cells.Pairwise fun a b => a.1 < b.1) :
    (upsert fresh key f cells).Pairwise fun a b => a.1 < b.1 := by
  induction cells with
  | nil => exact List.pairwise_singleton _ _
  | cons head rest ih =>
    obtain ⟨k, m⟩ := head
    obtain ⟨hhead, hrest⟩ := List.pairwise_cons.mp h
    rw [upsert]
    split
    · exact List.pairwise_cons.mpr ⟨hhead, hrest⟩
    · next hne =>
      split
      · next hlt =>
        refine List.pairwise_cons.mpr ⟨fun cell hcell => ?_, h⟩
        rcases List.mem_cons.mp hcell with rfl | hmem
        · exact hlt
        · exact List.lt_trans hlt (hhead cell hmem)
      · next hge =>
        have hlt : k < key := Decidable.byContradiction fun hnot =>
          hne (Std.Trichotomous.trichotomous (r := (· < ·)) key k hge hnot)
        refine List.pairwise_cons.mpr ⟨fun cell hcell => ?_, ih hrest⟩
        rcases mem_upsert hcell with hkey | hmem
        · exact hkey ▸ hlt
        · exact hhead cell hmem

/-- Fails unless there is one value for each label name. -/
def checkArity (s : Series M) (values : List String) : Except ArityError Unit :=
  if values.length = s.labelNames.length then .ok ()
  else .error ⟨s.labelNames.length, values.length⟩

/-- Changes the instrument of a list of label values without a check of its length. -/
def touch (s : Series M) (values : List String) (f : M → M) : Series M :=
  { s with
    cells := upsert s.fresh values f s.cells
    sorted := sorted_upsert s.fresh values f s.sorted }

/-- Changes the instrument of a list of label values. -/
def update (s : Series M) (values : List String) (f : M → M) : Except ArityError (Series M) :=
  (s.checkArity values).map fun _ => s.touch values f

/-- The samples of all instruments under a family name. -/
def samples [Exposable M] (s : Series M) (name : String) : List Sample :=
  s.cells.flatMap fun cell => Exposable.samples cell.2 name (s.labelNames.zip cell.1)

end Series

end BuildTelemetry
