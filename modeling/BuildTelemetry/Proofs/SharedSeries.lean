import Mathlib
import BuildTelemetry.Proofs.ByteOrder
import BuildTelemetry.Proofs.Families

/-!
# Series by reference

The label sets of a metric stand in memory, and all references to them see the same. An instrument
is looked up and changed where it is. The lookup goes two ways: the first only reads, the second
creates the instrument where the first has found none.

1. Label sets in memory, and references to them (`SharedSeries`). Both ways of a lookup lead to the
   same instrument, and a use does what the update of a series does (`use_of_length_eq`,
   `use_eq_update`).
2. What a series holds after some uses (`Series.Holds`). One use keeps it (`Holds.touch`,
   `Holds.append`), so any number of uses through any references keep it (`Run.holds`).
3. What a reference gives after some uses (`SharedSeries.Reflects`).
4. What counters, gauges and summaries show then (`shared_series_is_ordered_map`).
-/

namespace BuildTelemetry

variable {M : Type}

/-! ## 1. Label sets in memory -/

/-- The instruments of some label values, in the order of these. -/
structure LabelSets (M : Type) where
  cells : List (List String × M)
  sorted : cells.Pairwise fun a b => a.1 < b.1

namespace LabelSets

/-- The label sets of a series. -/
def ofSeries (s : Series M) : LabelSets M := ⟨s.cells, s.sorted⟩

def get? (sets : LabelSets M) (values : List String) : Option M :=
  (sets.cells.find? fun cell => cell.1 == values).map Prod.snd

/-- Adds an instrument for some label values unless there is one. -/
def insertNew (sets : LabelSets M) (values : List String) (fresh : M) : LabelSets M :=
  ⟨Series.upsert fresh values id sets.cells, Series.sorted_upsert fresh values id sets.sorted⟩

/-- Changes the instrument of some label values where it is. -/
def modify (sets : LabelSets M) (values : List String) (f : M → M) : LabelSets M where
  cells := sets.cells.map fun cell => if cell.1 = values then (cell.1, f cell.2) else cell
  sorted := by
    refine List.pairwise_map.mpr (sets.sorted.imp fun {a b} hlt => ?_)
    split <;> split <;> exact hlt

/-- The series with these label sets. -/
def toSeries (sets : LabelSets M) (labelNames : List String) (fresh : M) : Series M :=
  ⟨labelNames, fresh, sets.cells, sets.sorted⟩

variable {sets : LabelSets M} {labelNames : List String} {fresh : M}

theorem get?_insertNew (key values : List String) :
    (sets.insertNew key fresh).get? values =
      if values = key then some ((sets.get? key).getD fresh) else sets.get? values :=
  (sets.toSeries [] fresh).get?_touch key values id

theorem get?_modify (key values : List String) (f : M → M) :
    (sets.modify key f).get? values =
      if values = key then (sets.get? key).map f else sets.get? values := by
  -- a change keeps the label values of all cells
  have hkeys : ((fun cell : List String × M => cell.1 == values) ∘ fun cell =>
      if cell.1 = key then (cell.1, f cell.2) else cell) = fun cell => cell.1 == values := by
    funext cell
    rw [Function.comp_apply]
    split <;> rfl
  have hfound : (sets.modify key f).get? values =
      ((sets.cells.find? fun cell => cell.1 == values).map fun cell =>
        if cell.1 = key then (cell.1, f cell.2) else cell).map Prod.snd := by
    rw [get?, modify, List.find?_map, hkeys]
  rw [hfound]
  cases hfind : sets.cells.find? fun cell => cell.1 == values with
  | none =>
    split
    · next h =>
      rw [get?, ← h, hfind]
      rfl
    · rw [get?, hfind]
      rfl
  | some cell =>
    obtain rfl : cell.1 = values := by simpa using List.find?_some hfind
    split
    · next h =>
      rw [get?, ← h, hfind]
      simp [h]
    · next h =>
      rw [get?, hfind]
      simp [h]

/-- Label sets with the same instruments are the same. -/
theorem eq_of_get? {a b : LabelSets M} (fresh : M) (h : ∀ values, a.get? values = b.get? values) :
    a = b := by
  have hseries : a.toSeries [] fresh = b.toSeries [] fresh := Series.eq_of_get? rfl rfl h
  cases a
  cases b
  cases hseries
  rfl

/-- Where there is an instrument nothing is added. -/
theorem insertNew_of_get? {key : List String} {m : M} (h : sets.get? key = some m) :
    sets.insertNew key fresh = sets := by
  refine eq_of_get? fresh fun values => ?_
  rw [get?_insertNew]
  split
  · next heq => rw [heq, h, Option.getD_some]
  · rfl

/-- To add an instrument and to change it where it is is to touch the series. -/
theorem toSeries_modify_insertNew (key : List String) (f : M → M) :
    ((sets.insertNew key fresh).modify key f).toSeries labelNames fresh =
      (sets.toSeries labelNames fresh).touch key f := by
  refine Series.eq_of_get? rfl rfl fun values => ?_
  have htouch := (sets.toSeries labelNames fresh).get?_touch key values f
  refine ((get?_modify key values f).trans ?_).trans htouch.symm
  rw [get?_insertNew, get?_insertNew, if_pos rfl]
  split <;> rfl

end LabelSets

/-- All label sets, each at its place. The places from `next` on are free. -/
structure Memory (M : Type) where
  sets : Nat → LabelSets M
  next : Nat

namespace Memory

def put (memory : Memory M) (place : Nat) (sets : LabelSets M) : Memory M :=
  { memory with sets := Function.update memory.sets place sets }

variable (memory : Memory M) (place : Nat) (sets sets' : LabelSets M)

@[simp] theorem sets_put_self : (memory.put place sets).sets place = sets :=
  Function.update_self ..

theorem sets_put_of_ne {place other : Nat} (h : other ≠ place) :
    (memory.put place sets).sets other = memory.sets other :=
  Function.update_of_ne h ..

@[simp] theorem put_put : (memory.put place sets).put place sets' = memory.put place sets' := by
  simp only [put, Function.update_idem]

end Memory

/-- A use of an instrument: its label values, and what is done to it. -/
structure Use (M : Type) where
  values : List String
  change : M → M

/-- A series by reference. -/
structure SharedSeries (M : Type) where
  labelNames : List String
  fresh : M
  place : Nat

namespace SharedSeries

/-- A new series, without label sets. -/
def create (labelNames : List String) (fresh : M) (memory : Memory M) :
    SharedSeries M × Memory M :=
  (⟨labelNames, fresh, memory.next⟩,
    { memory.put memory.next (.ofSeries (.empty labelNames fresh)) with next := memory.next + 1 })

/-- Another reference to the same label sets. -/
def clone (s : SharedSeries M) : SharedSeries M := ⟨s.labelNames, s.fresh, s.place⟩

/-- The series as it is in a memory. -/
def view (s : SharedSeries M) (memory : Memory M) : Series M :=
  (memory.sets s.place).toSeries s.labelNames s.fresh

/-- Looks an instrument up, by reading only as long as it is there. Otherwise it is created, and
looked up once more. -/
def getOrCreate (s : SharedSeries M) (values : List String) (memory : Memory M) :
    Except ArityError (Option M) × Memory M :=
  if values.length ≠ s.labelNames.length then
    (.error ⟨s.labelNames.length, values.length⟩, memory)
  else match (memory.sets s.place).get? values with
    | some m => (.ok (some m), memory)
    | none =>
      let created := memory.put s.place ((memory.sets s.place).insertNew values s.fresh)
      (.ok ((created.sets s.place).get? values), created)

/-- Looks an instrument up and changes it where it is. Gives the instrument that was found, none if
it is missing in spite of its creation. -/
def use (s : SharedSeries M) (u : Use M) (memory : Memory M) :
    Except ArityError (Option M) × Memory M :=
  match s.getOrCreate u.values memory with
  | (.ok (some m), found) =>
    (.ok (some m), found.put s.place ((found.sets s.place).modify u.values u.change))
  | (result, found) => (result, found)

theorem view_create (labelNames : List String) (fresh : M) (memory : Memory M) :
    (create labelNames fresh memory).1.view (create labelNames fresh memory).2 =
      .empty labelNames fresh := by
  have hsets : (create labelNames fresh memory).2.sets memory.next =
      .ofSeries (.empty labelNames fresh) := Memory.sets_put_self ..
  exact congrArg (·.toSeries labelNames fresh) hsets

variable {s : SharedSeries M} {u : Use M} {memory : Memory M}

theorem use_of_length_ne (h : u.values.length ≠ s.labelNames.length) :
    s.use u memory = (.error ⟨s.labelNames.length, u.values.length⟩, memory) := by
  rw [use, getOrCreate, if_pos h]

/-- Both ways of a lookup lead to the same instrument, which is then changed. -/
theorem use_of_length_eq (h : u.values.length = s.labelNames.length) :
    s.use u memory = (.ok (some ((s.view memory).instrument u.values)),
      memory.put s.place
        (((memory.sets s.place).insertNew u.values s.fresh).modify u.values u.change)) := by
  rw [use, getOrCreate, if_neg (not_not.mpr h)]
  cases hget : (memory.sets s.place).get? u.values with
  | some m =>
    have hinstrument : (s.view memory).instrument u.values = m := congrArg (·.getD s.fresh) hget
    dsimp only
    rw [hinstrument, LabelSets.insertNew_of_get? hget]
  | none =>
    have hinstrument : (s.view memory).instrument u.values = s.fresh :=
      congrArg (·.getD s.fresh) hget
    have hcreated : ((memory.sets s.place).insertNew u.values s.fresh).get? u.values =
        some s.fresh := by
      rw [LabelSets.get?_insertNew, if_pos rfl, hget, Option.getD_none]
    simp only [Memory.sets_put_self, Memory.put_put, hcreated, hinstrument]

theorem view_use (s : SharedSeries M) (u : Use M) (memory : Memory M) :
    s.view (s.use u memory).2 =
      if u.values.length = s.labelNames.length then (s.view memory).touch u.values u.change
      else s.view memory := by
  split
  · next h =>
    rw [use_of_length_eq h, view, Memory.sets_put_self]
    exact LabelSets.toSeries_modify_insertNew u.values u.change
  · next h => rw [use_of_length_ne h]

/-- A use of a series by reference is an update of the series. -/
theorem use_eq_update (s : SharedSeries M) (u : Use M) (memory : Memory M) :
    ((s.use u memory).1.map fun _ => s.view (s.use u memory).2) =
      (s.view memory).update u.values u.change := by
  have hnames : (s.view memory).labelNames = s.labelNames := rfl
  rw [Series.update, Series.checkArity, view_use, hnames]
  split
  · next h =>
    rw [use_of_length_eq h]
    rfl
  · next h =>
    rw [use_of_length_ne h]
    rfl

/-- A use changes nothing at another place. -/
theorem sets_use_of_ne {place : Nat} (h : place ≠ s.place) :
    (s.use u memory).2.sets place = memory.sets place := by
  by_cases hlength : u.values.length = s.labelNames.length
  · rw [use_of_length_eq hlength]
    exact Memory.sets_put_of_ne _ _ h
  · rw [use_of_length_ne hlength]

end SharedSeries

/-! ## 2. Runs -/

namespace Use

/-- A fresh instrument after everything that was done to it under some label values. -/
def after (fresh : M) (values : List String) (uses : List (Use M)) : M :=
  (uses.filter fun u => u.values == values).foldl (fun m u => u.change m) fresh

theorem after_append_self (fresh : M) (uses : List (Use M)) (u : Use M) :
    after fresh u.values (uses ++ [u]) = u.change (after fresh u.values uses) := by
  simp [after]

theorem after_append_of_ne (fresh : M) {values : List String} (uses : List (Use M)) {u : Use M}
    (h : u.values ≠ values) : after fresh values (uses ++ [u]) = after fresh values uses := by
  simp [after, h]

theorem after_of_forall_ne (fresh : M) {values : List String} {uses : List (Use M)}
    (h : ∀ u ∈ uses, u.values ≠ values) : after fresh values uses = fresh := by
  have hnone : uses.filter (fun u => u.values == values) = [] :=
    List.filter_eq_nil_iff.mpr fun u hu => by simpa using h u hu
  rw [after, hnone, List.foldl_nil]

/-- The label values of the uses that fit, each once and in the order of their bytes. -/
structure Keys (labelNames : List String) (uses : List (Use M)) (keys : List (List String)) :
    Prop where
  ordered : keys.Pairwise BytesBefore
  mem_iff : ∀ values, values ∈ keys ↔
    values.length = labelNames.length ∧ ∃ u ∈ uses, u.values = values

end Use

namespace Series

variable {s : Series M} {uses : List (Use M)} {u : Use M}

/-- A series has the label sets of the uses that fit, and their instruments are fresh ones after
what was done to them. -/
def Holds (s : Series M) (uses : List (Use M)) : Prop :=
  ∀ values m, s.get? values = some m ↔
    (values.length = s.labelNames.length ∧ ∃ u ∈ uses, u.values = values) ∧
      m = Use.after s.fresh values uses

theorem holds_empty (labelNames : List String) (fresh : M) : (empty labelNames fresh).Holds [] := by
  intro values m
  refine iff_of_false (by simp [get?, empty]) ?_
  rintro ⟨⟨-, u, hu, -⟩, -⟩
  cases hu

namespace Holds

theorem instrument (h : s.Holds uses) {values : List String}
    (hfits : values.length = s.labelNames.length) :
    s.instrument values = Use.after s.fresh values uses := by
  rw [Series.instrument]
  cases hget : s.get? values with
  | some m => exact ((h values m).mp hget).2
  | none =>
    -- what was used has an instrument, so nothing was done under these label values
    refine (Use.after_of_forall_ne s.fresh fun u hu heq => ?_).symm
    have hsome := (h values _).mpr ⟨⟨hfits, u, hu, heq⟩, rfl⟩
    rw [hget] at hsome
    cases hsome

/-- One use that fits. -/
theorem touch (h : s.Holds uses) (hfits : u.values.length = s.labelNames.length) :
    (s.touch u.values u.change).Holds (uses ++ [u]) := by
  intro values m
  rw [get?_touch, h.instrument hfits, fresh_touch, labelNames_touch]
  split
  · next heq =>
    subst heq
    rw [Use.after_append_self, Option.some.injEq, eq_comm]
    refine (and_iff_right ⟨hfits, u, ?_, rfl⟩).symm
    exact List.mem_append_right _ (List.mem_singleton_self u)
  · next hne =>
    rw [h values m, Use.after_append_of_ne _ _ (Ne.symm hne)]
    simp [Ne.symm hne]

/-- One use that does not fit. -/
theorem append (h : s.Holds uses) (hfits : u.values.length ≠ s.labelNames.length) :
    s.Holds (uses ++ [u]) := by
  intro values m
  rw [h values m]
  by_cases hvalues : u.values = values
  · have hnot : ¬values.length = s.labelNames.length := hvalues ▸ hfits
    simp [hnot]
  · simp [hvalues, Use.after_append_of_ne]

theorem isSome_get?_iff (h : s.Holds uses) (values : List String) :
    (s.get? values).isSome ↔
      values.length = s.labelNames.length ∧ ∃ u ∈ uses, u.values = values := by
  rw [Option.isSome_iff_exists]
  simp only [h values]
  exact ⟨fun ⟨_, hm⟩ => hm.1, fun hm => ⟨_, hm, rfl⟩⟩

theorem keys (h : s.Holds uses) : Use.Keys s.labelNames uses (s.cells.map Prod.fst) where
  ordered := List.pairwise_map.mpr (s.sorted.imp lt_iff_bytesBefore.mp)
  mem_iff values := by rw [mem_keys, h.isSome_get?_iff]

theorem size (h : s.Holds uses) :
    s.size = ((uses.map Use.values).filter
      fun values => values.length = s.labelNames.length).dedup.length := by
  rw [Series.size, ← List.length_map Prod.fst]
  refine List.Perm.length_eq ?_
  refine (List.perm_ext_iff_of_nodup (nodup_keys s.sorted) (List.nodup_dedup _)).mpr
    fun values => ?_
  rw [h.keys.mem_iff, List.mem_dedup, List.mem_filter, List.mem_map, decide_eq_true_iff, and_comm]

theorem samples [Exposable M] (h : s.Holds uses) (name : String) :
    s.samples name = (s.cells.map Prod.fst).flatMap fun values =>
      Exposable.samples (Use.after s.fresh values uses) name (s.labelNames.zip values) := by
  rw [Series.samples, List.flatMap_map]
  refine List.flatMap_congr fun cell hcell => ?_
  rw [((h _ _).mp (mem_cells.mp hcell)).2]

end Holds

end Series

namespace SharedSeries

variable {first s : SharedSeries M} {start memory : Memory M} {uses : List (Use M)}
  {references : List (SharedSeries M)}

/-- References are cloned and used in any order. -/
inductive Run (first : SharedSeries M) (start : Memory M) :
    List (Use M) → List (SharedSeries M) → Memory M → Prop
  | start : Run first start [] [first] start
  | clone {uses : List (Use M)} {references : List (SharedSeries M)} {memory : Memory M}
      {s : SharedSeries M} :
      Run first start uses references memory → s ∈ references →
      Run first start uses (s.clone :: references) memory
  | use {uses : List (Use M)} {references : List (SharedSeries M)} {memory : Memory M}
      {s : SharedSeries M} (u : Use M) :
      Run first start uses references memory → s ∈ references →
      Run first start (uses ++ [u]) references (s.use u memory).2

/-- All references are to the same label sets, and these are what was done through any of them. -/
theorem Run.holds (h : Run first start uses references memory)
    (hstart : (first.view start).Holds []) :
    (∀ s ∈ references, s = first) ∧ (first.view memory).Holds uses := by
  induction h with
  | start => exact ⟨fun s hs => List.mem_singleton.mp hs, hstart⟩
  | clone _ hs ih =>
    refine ⟨fun t ht => ?_, ih.2⟩
    rcases List.mem_cons.mp ht with rfl | ht
    · exact ih.1 _ hs
    · exact ih.1 t ht
  | use u _ hs ih =>
    refine ⟨ih.1, ?_⟩
    rw [ih.1 _ hs, view_use]
    split
    · next hfits => exact ih.2.touch hfits
    · next hfits => exact ih.2.append hfits

/-! ## 3. References after some uses -/

/-- Some uses of a new series lead to a reference and a memory. -/
def Reaches (labelNames : List String) (fresh : M) (uses : List (Use M)) (s : SharedSeries M)
    (memory : Memory M) : Prop :=
  ∃ before references, Run (create labelNames fresh before).1 (create labelNames fresh before).2
    uses references memory ∧ s ∈ references

/-- A reference gives what some uses have left of a series. -/
structure Reflects (s : SharedSeries M) (labelNames : List String) (fresh : M)
    (uses : List (Use M)) (memory : Memory M) : Prop where
  /-- A use whose label values do not fit fails and changes nothing. -/
  rejects : ∀ u : Use M, u.values.length ≠ labelNames.length →
    s.use u memory = (.error ⟨labelNames.length, u.values.length⟩, memory)
  /-- Any other finds what the earlier uses of the same label values have left, and changes no other
  instrument, here or at another place. -/
  accepts : ∀ u : Use M, u.values.length = labelNames.length → ∃ later,
    s.use u memory = (.ok (some (Use.after fresh u.values uses)), later) ∧
      (s.view later).get? u.values = some (u.change (Use.after fresh u.values uses)) ∧
      (∀ values, values ≠ u.values → (s.view later).get? values = (s.view memory).get? values) ∧
      ∀ place, place ≠ s.place → later.sets place = memory.sets place
  /-- All of it is what updates of the series do. -/
  updates : ∀ u : Use M, ((s.use u memory).1.map fun _ => s.view (s.use u memory).2) =
    (s.view memory).update u.values u.change
  /-- An instrument is there from its first use on. -/
  exists_iff : ∀ values, ((s.view memory).get? values).isSome ↔
    values.length = labelNames.length ∧ ∃ u ∈ uses, u.values = values
  size : (s.view memory).size =
    ((uses.map Use.values).filter fun values => values.length = labelNames.length).dedup.length
  samples : ∃ keys, Use.Keys labelNames uses keys ∧ ∀ [Exposable M] (name : String),
    (s.view memory).samples name = keys.flatMap fun values =>
      Exposable.samples (Use.after fresh values uses) name (labelNames.zip values)

theorem reflects_of_holds (h : (s.view memory).Holds uses) :
    s.Reflects s.labelNames s.fresh uses memory where
  rejects _ hfits := use_of_length_ne hfits
  accepts u hfits := by
    have hinstrument : (s.view memory).instrument u.values = Use.after s.fresh u.values uses :=
      h.instrument hfits
    have hview : s.view (s.use u memory).2 = (s.view memory).touch u.values u.change := by
      rw [view_use, if_pos hfits]
    refine ⟨(s.use u memory).2, ?_, ?_, fun values hne => ?_, fun place => sets_use_of_ne⟩
    · rw [use_of_length_eq hfits, hinstrument]
    · rw [hview, Series.get?_touch, if_pos rfl, hinstrument]
    · rw [hview, Series.get?_touch, if_neg hne]
  updates u := use_eq_update s u memory
  exists_iff := h.isSome_get?_iff
  size := h.size
  samples := ⟨_, h.keys, fun name => h.samples name⟩

theorem Reaches.reflects {labelNames : List String} {fresh : M}
    (h : Reaches labelNames fresh uses s memory) : s.Reflects labelNames fresh uses memory := by
  obtain ⟨before, references, hrun, hs⟩ := h
  have hnew := view_create labelNames fresh before
  obtain ⟨hsame, hholds⟩ := hrun.holds (hnew ▸ Series.holds_empty labelNames fresh)
  rw [hsame s hs]
  exact reflects_of_holds hholds

end SharedSeries

/-! ## 4. Instruments -/

/-- A use that takes some steps on the instrument, or none to look it up only. -/
def Use.ofSteps {α : Type} (step : M → α → M) (call : List String × List α) : Use M :=
  ⟨call.1, fun m => call.2.foldl step m⟩

/-- The steps of all uses of some label values, one after the other. -/
def stepsUnder {α : Type} (values : List String) (calls : List (List String × List α)) : List α :=
  (calls.filter fun call => call.1 == values).flatMap Prod.snd

theorem after_ofSteps {α : Type} (step : M → α → M) (fresh : M) (values : List String)
    (calls : List (List String × List α)) :
    Use.after fresh values (calls.map (.ofSteps step)) =
      (stepsUnder values calls).foldl step fresh := by
  rw [Use.after, List.filter_map, List.foldl_map, stepsUnder, List.foldl_flatMap]
  rfl

/-- Setting a gauge forgets what it was. -/
def Gauge.set (_ : Gauge) (v : Float) : Gauge := ⟨v⟩

theorem Gauge.foldl_set (vs : List Float) (g : Gauge) :
    vs.foldl set g = ⟨vs.getLast?.getD g.value⟩ := by
  induction vs generalizing g with
  | nil => rfl
  | cons v vs ih =>
    rw [List.foldl_cons, ih, List.getLast?_cons]
    rfl

theorem Counter.foldl_add (ns : List UInt64) (c : Counter) :
    ns.foldl add c = ⟨c.value + UInt64.ofNat (ns.map UInt64.toNat).sum⟩ := by
  induction ns generalizing c with
  | nil => simp
  | cons n ns ih =>
    rw [List.foldl_cons, ih, List.map_cons, List.sum_cons, UInt64.ofNat_add, UInt64.ofNat_toNat,
      add, UInt64.add_assoc]

namespace SharedSeries

variable {s : SharedSeries M} {memory : Memory M} {labelNames : List String} {fresh : M}

/-- The samples are those of the instruments after all steps. -/
theorem Reaches.samples_ofSteps {α : Type} [Exposable M] {step : M → α → M}
    {calls : List (List String × List α)}
    (h : Reaches labelNames fresh (calls.map (.ofSteps step)) s memory) :
    ∃ keys, Use.Keys labelNames (calls.map (.ofSteps step)) keys ∧ ∀ name,
      (s.view memory).samples name = keys.flatMap fun values =>
        Exposable.samples ((stepsUnder values calls).foldl step fresh) name
          (labelNames.zip values) := by
  obtain ⟨keys, hkeys, hsamples⟩ := h.reflects.samples
  refine ⟨keys, hkeys, fun name => ?_⟩
  simp only [hsamples, after_ofSteps]

end SharedSeries

open SharedSeries (Reaches)

/-- A series by reference is a map from label values to instruments, ordered by the bytes of the
label values, and it does not matter through which reference it is used. So counters show the sum
of what they were increased by, gauges the value that was set last, and summaries the number of
their observations. Sums and numbers are modulo `2 ^ 64`. -/
theorem shared_series_is_ordered_map :
    (∀ (M : Type) (labelNames : List String) (fresh : M) (uses : List (Use M))
        (s : SharedSeries M) (memory : Memory M),
      Reaches labelNames fresh uses s memory → s.Reflects labelNames fresh uses memory) ∧
    (∀ (labelNames : List String) (calls : List (List String × List UInt64))
        (s : SharedSeries Counter) (memory : Memory Counter),
      Reaches labelNames .zero (calls.map (.ofSteps .add)) s memory →
      ∃ keys, Use.Keys labelNames (calls.map (.ofSteps Counter.add)) keys ∧ ∀ name,
        (s.view memory).samples name = keys.map fun values =>
          ⟨name ++ "_total", labelNames.zip values,
            (UInt64.ofNat (((stepsUnder values calls).map UInt64.toNat).sum % 2 ^ 64)).toFloat⟩) ∧
    (∀ (labelNames : List String) (calls : List (List String × List Float))
        (s : SharedSeries Gauge) (memory : Memory Gauge),
      Reaches labelNames .zero (calls.map (.ofSteps .set)) s memory →
      ∃ keys, Use.Keys labelNames (calls.map (.ofSteps Gauge.set)) keys ∧ ∀ name,
        (s.view memory).samples name = keys.map fun values =>
          ⟨name, labelNames.zip values, (stepsUnder values calls).getLast?.getD 0.0⟩) ∧
    ∀ (labelNames : List String) (fresh : Summary) (calls : List (List String × List Float))
        (s : SharedSeries Summary) (memory : Memory Summary), fresh.count = 0 →
      Reaches labelNames fresh (calls.map (.ofSteps .observe)) s memory →
      ∃ keys, Use.Keys labelNames (calls.map (.ofSteps Summary.observe)) keys ∧ ∀ name,
        (((s.view memory).samples name).filter fun x => x.name == name ++ "_count") =
          keys.map fun values => ⟨name ++ "_count", labelNames.zip values,
            (UInt64.ofNat ((stepsUnder values calls).length % 2 ^ 64)).toFloat⟩ := by
  refine ⟨fun _ _ _ _ _ _ h => h.reflects, fun _ calls _ _ h => ?_, fun _ calls _ _ h => ?_,
    fun _ fresh calls _ _ hfresh h => ?_⟩
  · obtain ⟨keys, hkeys, hsamples⟩ := h.samples_ofSteps
    refine ⟨keys, hkeys, fun name => ?_⟩
    rw [hsamples, List.map_eq_flatMap]
    refine List.flatMap_congr fun values _ => ?_
    have hzero (n : UInt64) : Counter.zero.value + n = n := UInt64.zero_add n
    rw [Counter.foldl_add, UInt64.ofNat_mod_size, hzero]
    rfl
  · obtain ⟨keys, hkeys, hsamples⟩ := h.samples_ofSteps
    refine ⟨keys, hkeys, fun name => ?_⟩
    rw [hsamples, List.map_eq_flatMap]
    refine List.flatMap_congr fun values _ => ?_
    rw [Gauge.foldl_set]
    rfl
  · obtain ⟨keys, hkeys, hsamples⟩ := h.samples_ofSteps
    refine ⟨keys, hkeys, fun name => ?_⟩
    rw [hsamples, List.filter_flatMap, List.map_eq_flatMap]
    refine List.flatMap_congr fun values _ => ?_
    rw [Summary.filter_samples_count, count_foldl_observe, hfresh, UInt64.zero_add,
      UInt64.ofNat_mod_size]

/-- Four calls, one of them with too many label values. -/
def countedCalls : List (List String × List UInt64) :=
  [(["b"], [1]), (["a", "x"], [5]), (["a"], [2]), (["b"], [3])]

/-- The calls are made through a clone, except for the first and the last. -/
theorem shared_series_is_ordered_map_of_calls :
    ∃ (s : SharedSeries Counter) (memory : Memory Counter),
      Reaches ["job"] .zero (countedCalls.map (.ofSteps .add)) s memory ∧
        (s.view memory).size = 2 ∧
        (s.use ⟨["b"], id⟩ memory).1 = .ok (some ⟨4⟩) ∧
        ⟨"builds_total", [("job", "b")], (4 : UInt64).toFloat⟩ ∈
          (s.view memory).samples "builds" := by
  obtain ⟨hseries, hcounters, -, -⟩ := shared_series_is_ordered_map
  let made := SharedSeries.create ["job"] Counter.zero ⟨fun _ => .ofSeries (.empty [] .zero), 0⟩
  have hfirst : SharedSeries.Run made.1 made.2 _ [made.1.clone, made.1] _ :=
    .clone (.use (.ofSteps .add (["b"], [1])) .start (List.mem_singleton_self _))
      (List.mem_singleton_self _)
  have hsecond := hfirst.use (.ofSteps .add (["a", "x"], [5])) List.mem_cons_self
  have hthird := hsecond.use (.ofSteps .add (["a"], [2])) List.mem_cons_self
  have hlast := hthird.use (.ofSteps .add (["b"], [3])) (List.mem_cons_of_mem _ List.mem_cons_self)
  have hreaches : Reaches ["job"] .zero (countedCalls.map (.ofSteps .add)) made.1.clone _ :=
    ⟨_, _, hlast, List.mem_cons_self⟩
  have hreflects := hseries Counter _ _ _ _ _ hreaches
  refine ⟨_, _, hreaches, ?_, ?_, ?_⟩
  · rw [hreflects.size]
    decide
  · obtain ⟨later, hused, -⟩ := hreflects.accepts ⟨["b"], id⟩ rfl
    rw [hused]
    rfl
  · obtain ⟨keys, hkeys, hsamples⟩ := hcounters _ _ _ _ hreaches
    rw [hsamples]
    refine List.mem_map.mpr ⟨["b"], (hkeys.mem_iff ["b"]).mpr ⟨rfl, ?_⟩, rfl⟩
    exact ⟨.ofSteps .add (["b"], [1]), List.mem_cons_self, rfl⟩

end BuildTelemetry
