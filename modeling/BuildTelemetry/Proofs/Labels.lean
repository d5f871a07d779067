import Mathlib.Data.List.Forall2
import BuildTelemetry.Label.Schema

/-!
# Label values

Label values are read from the host. All those of a job and of its builds begin with the name of the
job, which is what keeps the recordings of different jobs apart.

* `Job.labelValues`: the label values of a job, from what the host knows.
* `jobLabelValues_eq_ok`: when they can be read.
* `head_buildLabelValues`, `length_buildLabelValues`: the label values of a build.
-/

namespace BuildTelemetry

/-! ## 1. Readings -/

/-- A sequence of readings, or of other steps that may fail, succeeds if its parts do. -/
theorem reading_bind_eq_ok {ε α β : Type} {r : Except ε α} {f : α → Except ε β} {b : β} :
    (r >>= f) = .ok b ↔ ∃ a, r = .ok a ∧ f a = .ok b := by
  cases r with
  | error fault => simp [bind, Except.bind]
  | ok a => simp [bind, Except.bind]

theorem reading_pure_eq_ok {ε α : Type} {a b : α} : (pure a : Except ε α) = .ok b ↔ a = b := by
  simp [pure, Except.pure]

theorem reading_map_eq_ok {ε α β : Type} {f : α → β} {r : Except ε α} {b : β} :
    r.map f = .ok b ↔ ∃ a, r = .ok a ∧ f a = b := by
  cases r with
  | error fault => simp [Except.map]
  | ok a => simp [Except.map]

/-- Reading a list gives one value for each item, each read from its item. -/
theorem mapM_eq_ok {ε α β : Type} {f : α → Except ε β} {as : List α} {bs : List β} :
    as.mapM f = .ok bs ↔ List.Forall₂ (fun a b => f a = .ok b) as bs := by
  induction as generalizing bs with
  | nil => cases bs <;> simp [reading_pure_eq_ok]
  | cons a as ih =>
    simp only [List.mapM_cons, reading_bind_eq_ok, reading_pure_eq_ok, ih]
    constructor
    · rintro ⟨b, hb, rest, hrest, rfl⟩
      exact .cons hb hrest
    · intro h
      cases h with
      | cons hb hrest => exact ⟨_, hb, _, hrest, rfl⟩

section Accessor

variable {κ α : Type} [BEq κ] [LawfulBEq κ]

theorem readThrough_eq_ok {failing : List κ} {accessor : κ} {value read : α} :
    readThrough failing accessor value = .ok read ↔ accessor ∉ failing ∧ value = read := by
  unfold readThrough
  split
  · next h => simp [List.contains_iff_mem.mp h]
  · next h => simpa using fun _ hmem => h (List.contains_iff_mem.mpr hmem)

theorem readThrough_of_not_mem {failing : List κ} {accessor : κ} (h : accessor ∉ failing)
    (value : α) : readThrough failing accessor value = .ok value :=
  readThrough_eq_ok.mpr ⟨h, rfl⟩

/-- What follows a reading succeeds if the reading does not fail. -/
theorem readThrough_bind_eq_ok {β : Type} {failing : List κ} {accessor : κ} {value : α}
    {f : α → Reading β} {b : β} :
    (readThrough failing accessor value >>= f) = .ok b ↔
      accessor ∉ failing ∧ f value = .ok b := by
  rw [reading_bind_eq_ok]
  constructor
  · rintro ⟨_, hread, h⟩
    obtain ⟨hmem, rfl⟩ := readThrough_eq_ok.mp hread
    exact ⟨hmem, h⟩
  · rintro ⟨hmem, h⟩
    exact ⟨value, readThrough_of_not_mem hmem value, h⟩

theorem readThrough_of_mem {failing : List κ} {accessor : κ} (h : accessor ∈ failing)
    (value : α) : readThrough failing accessor value = .error .failed :=
  if_pos (List.contains_iff_mem.mpr h)

end Accessor

/-! ## 2. Jobs -/

namespace Job

/-- The job can be named. -/
def Nameable (j : Job) : Prop := JobAccessor.fullName ∉ j.failing

instance (j : Job) : Decidable j.Nameable := inferInstanceAs (Decidable (_ ∉ _))

theorem fullName_eq_ok {j : Job} {name : String} :
    j.fullName = .ok name ↔ j.Nameable ∧ j.info.fullName = name :=
  readThrough_eq_ok

theorem Nameable.fullName {j : Job} (h : j.Nameable) : j.fullName = .ok j.info.fullName :=
  readThrough_of_not_mem h _

/-- The label values of a job, from what the host knows. -/
def labelValues (j : Job) : List String :=
  [j.info.fullName, repository j.info.fullName, truthText j.info.buildable]

end Job

namespace Config

theorem jobLabelNames_eq (c : Config) : c.jobLabelNames = [c.jobLabel, "repo", "buildable"] := rfl

/-- The label values of a job can be read if its name and whether it is buildable can. -/
theorem jobLabelValues_eq_ok {c : Config} {j : Job} {values : List String} :
    c.jobLabelValues j = .ok values ↔
      j.Nameable ∧ JobAccessor.isBuildable ∉ j.failing ∧ j.labelValues = values := by
  unfold jobLabelValues
  rw [mapM_eq_ok]
  constructor
  · intro h
    match values, h with
    | [_, _, _], .cons hname (.cons hrepository (.cons hbuildable .nil)) =>
      simp only [readBaseSlot, reading_bind_eq_ok, reading_pure_eq_ok, Job.fullName_eq_ok,
        Job.isBuildable, readThrough_eq_ok] at hname hrepository hbuildable
      obtain ⟨hnameable, rfl⟩ := hname
      obtain ⟨_, ⟨_, rfl⟩, rfl⟩ := hrepository
      obtain ⟨_, ⟨hread, rfl⟩, rfl⟩ := hbuildable
      exact ⟨hnameable, hread, rfl⟩
  · rintro ⟨hnameable, hread, rfl⟩
    have hbuildable : j.isBuildable = .ok j.info.buildable := readThrough_of_not_mem hread _
    refine .cons ?_ (.cons ?_ (.cons ?_ .nil))
    · exact hnameable.fullName
    · simp only [readBaseSlot, hnameable.fullName]
      rfl
    · simp only [readBaseSlot, hbuildable]
      rfl

/-! ## 3. Builds -/

/-- The label values of a build are read slot by slot, after its parameters. -/
theorem buildLabelValues_eq_ok {c : Config} {j : Job} {b : Build} {values : List String} :
    c.buildLabelValues j b = .ok values ↔
      BuildAccessor.parameters ∉ b.failing ∧
        List.Forall₂ (fun slot value => readBuildSlot j b b.info.parameters slot = .ok value)
          c.buildSlots values := by
  rw [buildLabelValues, Build.parameters, readThrough_bind_eq_ok, mapM_eq_ok]

theorem length_buildLabelValues {c : Config} {j : Job} {b : Build} {values : List String}
    (h : c.buildLabelValues j b = .ok values) : values.length = c.buildLabelNames.length := by
  obtain ⟨_, hslots⟩ := buildLabelValues_eq_ok.mp h
  rw [← hslots.length_eq, buildLabelNames, List.length_map]

theorem head_buildLabelValues {c : Config} {j : Job} {b : Build} {values : List String}
    (h : c.buildLabelValues j b = .ok values) : values.head? = some j.info.fullName := by
  obtain ⟨_, hslots⟩ := buildLabelValues_eq_ok.mp h
  cases hslots with
  | cons hname _ =>
    obtain ⟨_, rfl⟩ := Job.fullName_eq_ok.mp hname
    rfl

end Config

end BuildTelemetry
