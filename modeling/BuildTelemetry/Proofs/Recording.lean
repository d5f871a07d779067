import BuildTelemetry.Proofs.Journal
import BuildTelemetry.Proofs.Series
import BuildTelemetry.Report.Recording

/-!
# What recordings leave in a meter

The instrument of some label values depends only on the recordings for just these label values, in
their order.

* `get?_record`: the instrument after some recordings.
* `record_eq_of_get?`: the instruments determine the meter.
* `foldl_gauge`, `foldl_counter`, `foldl_summary`: what recordings do to an instrument.
* `recordingsFor_recordEntity`: what a measured entity leaves for one meter.
-/

namespace BuildTelemetry

namespace Recording

/-- The label values that a recording goes to. -/
def key (r : Recording) : List String := r.values ++ r.mark.extra

/-- What a recording does to the instrument of its label values. -/
def apply (i : Instrument) (r : Recording) : Instrument :=
  match r.mark.value with
  | some value => i.record value
  | none => i

/-- The recordings that go to some label values. -/
def under (values : List String) (recordings : List Recording) : List Recording :=
  recordings.filter fun r => r.key == values

/-- The values that were recorded under some label values. -/
def valuesUnder (values : List String) (recordings : List Recording) : List Float :=
  (under values recordings).filterMap fun r => r.mark.value

theorem under_flatMap {α : Type} (values : List String) (f : α → List Recording) (as : List α) :
    under values (as.flatMap f) = as.flatMap fun a => under values (f a) :=
  List.filter_flatMap ..

/-- Marks that add no label values go to the label values of their entity. -/
theorem under_map {marks : List Mark} (h : ∀ mark ∈ marks, mark.extra = []) (meter : MeterId)
    (entity values : List String) :
    under values (marks.map fun mark => ⟨meter, entity, mark⟩) =
      if entity = values then marks.map fun mark => ⟨meter, entity, mark⟩ else [] := by
  split
  · next heq =>
    refine List.filter_eq_self.mpr fun r hr => ?_
    obtain ⟨mark, hmark, rfl⟩ := List.mem_map.mp hr
    simp [key, h mark hmark, heq]
  · next hne =>
    refine List.filter_eq_nil_iff.mpr fun r hr => ?_
    obtain ⟨mark, hmark, rfl⟩ := List.mem_map.mp hr
    simp [key, h mark hmark, hne]

/-- The values of marks that go to one more list of label values behind those of their entity. -/
theorem valuesUnder_map (marks : List Mark) (meter : MeterId) (entity extra : List String) :
    valuesUnder (entity ++ extra) (marks.map fun mark => ⟨meter, entity, mark⟩) =
      (marks.filter fun mark => mark.extra == extra).filterMap Mark.value := by
  rw [valuesUnder, under, List.filter_map, List.filterMap_map]
  congr 1
  refine List.filter_congr fun mark _ => ?_
  simp [key]

/-- Marks go to label values with `extra` behind only if these begin with those of their entity. -/
theorem valuesUnder_map_of_length {marks : List Mark} {extra : List String}
    (h : ∀ mark ∈ marks, mark.extra.length = extra.length) (meter : MeterId)
    (entity values : List String) :
    valuesUnder (values ++ extra) (marks.map fun mark => ⟨meter, entity, mark⟩) =
      if entity = values then (marks.filter fun mark => mark.extra == extra).filterMap Mark.value
      else [] := by
  split
  · next heq => rw [heq, valuesUnder_map]
  · next hne =>
    have hnone : under (values ++ extra) (marks.map fun mark => ⟨meter, entity, mark⟩) = [] := by
      refine List.filter_eq_nil_iff.mpr fun r hr hkey => hne ?_
      obtain ⟨mark, hmark, rfl⟩ := List.mem_map.mp hr
      exact List.append_inj_left' (beq_iff_eq.mp hkey) (h mark hmark)
    rw [valuesUnder, hnone, List.filterMap_nil]

theorem valuesUnder_flatMap {α : Type} (values : List String) (f : α → List Recording)
    (as : List α) :
    valuesUnder values (as.flatMap f) = as.flatMap fun a => valuesUnder values (f a) := by
  rw [valuesUnder, under_flatMap, List.filterMap_flatMap]
  rfl

end Recording

open Recording

/-! ## 1. Meters -/

namespace Meter

theorem record_cons (m : Meter) (r : Recording) (rs : List Recording) :
    m.record (r :: rs) =
      Meter.record { m with series := m.series.touch r.key fun i => apply i r } rs := rfl

theorem record_append (m : Meter) (rs ts : List Recording) :
    m.record (rs ++ ts) = (m.record rs).record ts := List.foldl_append

@[simp] theorem kind_record (m : Meter) (rs : List Recording) : (m.record rs).kind = m.kind := by
  induction rs generalizing m with
  | nil => rfl
  | cons r rs ih => rw [record_cons, ih]

@[simp] theorem descriptor_record (m : Meter) (rs : List Recording) :
    (m.record rs).descriptor = m.descriptor := by
  induction rs generalizing m with
  | nil => rfl
  | cons r rs ih => rw [record_cons, ih]

@[simp] theorem labelNames_record (m : Meter) (rs : List Recording) :
    (m.record rs).series.labelNames = m.series.labelNames := by
  induction rs generalizing m with
  | nil => rfl
  | cons r rs ih => rw [record_cons, ih, Series.labelNames_touch]

@[simp] theorem fresh_record (m : Meter) (rs : List Recording) :
    (m.record rs).series.fresh = m.series.fresh := by
  induction rs generalizing m with
  | nil => rfl
  | cons r rs ih => rw [record_cons, ih, Series.fresh_touch]

/-- After some recordings the instrument of some label values is the one before them, changed by the
recordings for these label values. Without such recordings it is not touched. -/
theorem get?_record (m : Meter) (rs : List Recording) (values : List String) :
    (m.record rs).series.get? values =
      if (under values rs).isEmpty then m.series.get? values
      else some ((under values rs).foldl apply (m.series.instrument values)) := by
  -- for all meters, because the first recording changes the one that the others go to
  induction rs generalizing m with
  | nil => rfl
  | cons r rs ih =>
    rw [record_cons, ih]
    by_cases hkey : r.key = values
    · have hunder : under values (r :: rs) = r :: under values rs := by
        simp [under, hkey]
      rw [hunder, List.isEmpty_cons, List.foldl_cons]
      simp only [Series.instrument, Series.get?_touch, hkey, if_true, Option.getD_some]
      cases under values rs <;> rfl
    · have hunder : under values (r :: rs) = under values rs := by
        simp [under, hkey]
      simp only [hunder, Series.instrument, Series.get?_touch, Ne.symm hkey, if_false,
        Series.fresh_touch]

theorem get?_record_congr {m : Meter} {rs ts : List Recording} {values : List String}
    (h : under values rs = under values ts) :
    (m.record rs).series.get? values = (m.record ts).series.get? values := by
  rw [get?_record, get?_record, h]

/-- Recordings that lead to the same instruments lead to the same meter. -/
theorem record_eq_of_get? {m : Meter} {rs ts : List Recording}
    (h : ∀ values, (m.record rs).series.get? values = (m.record ts).series.get? values) :
    m.record rs = m.record ts := by
  have hseries : (m.record rs).series = (m.record ts).series := by
    refine Series.eq_of_get? ?_ ?_ h
    · rw [labelNames_record, labelNames_record]
    · rw [fresh_record, fresh_record]
  have hkind : (m.record rs).kind = (m.record ts).kind := by rw [kind_record, kind_record]
  have hdescriptor : (m.record rs).descriptor = (m.record ts).descriptor := by
    rw [descriptor_record, descriptor_record]
  cases hrs : m.record rs
  cases hts : m.record ts
  simp_all

/-- The label sets of a meter are the earlier ones and those of the recordings. -/
theorem key_of_mem_cells_record {m : Meter} {rs : List Recording} {cell : List String × Instrument}
    (h : cell ∈ (m.record rs).series.cells) :
    (∃ i, (cell.1, i) ∈ m.series.cells) ∨ ∃ r ∈ rs, r.key = cell.1 := by
  obtain ⟨values, i⟩ := cell
  rw [Series.mem_cells, get?_record] at h
  split at h
  · exact .inl ⟨i, Series.mem_cells.mpr h⟩
  · next hne =>
    obtain ⟨r, hr⟩ := List.exists_mem_of_ne_nil _ (by simpa using hne)
    have hmem := List.mem_filter.mp hr
    exact .inr ⟨r, hmem.1, by simpa using hmem.2⟩

/-- Every label set has one value for each label name. -/
def Sized (m : Meter) : Prop :=
  ∀ cell ∈ m.series.cells, cell.1.length = m.series.labelNames.length

theorem sized_new (kind : MetricKind) (descriptor : Descriptor) (labelNames : List String)
    (quantiles : List Float) : (new kind descriptor labelNames quantiles).Sized := by
  intro cell hcell
  cases hcell

/-- A fresh meter has the label sets that recordings go to. -/
theorem isSome_get?_record_new {kind : MetricKind} {descriptor : Descriptor}
    {labelNames : List String} {quantiles : List Float} (rs : List Recording)
    (values : List String) :
    (((new kind descriptor labelNames quantiles).record rs).series.get? values).isSome ↔
      ∃ r ∈ rs, r.key = values := by
  have hnew : (new kind descriptor labelNames quantiles).series.get? values = none := rfl
  have hunder : (∃ r ∈ rs, r.key = values) ↔ under values rs ≠ [] := by
    simp [under, List.filter_eq_nil_iff]
  rw [get?_record, hnew, hunder]
  cases under values rs <;> simp

theorem Sized.record {m : Meter} {rs : List Recording} (hm : m.Sized)
    (hrs : ∀ r ∈ rs, r.key.length = m.series.labelNames.length) : (m.record rs).Sized := by
  intro cell hcell
  rw [labelNames_record]
  rcases key_of_mem_cells_record hcell with ⟨i, hmem⟩ | ⟨r, hr, hkey⟩
  · exact hm (cell.1, i) hmem
  · exact hkey ▸ hrs r hr

/-- Marks are recordings under the label values of their entity. -/
theorem markAll_eq_record (m : Meter) (values : List String) (marks : List Mark) (id : MeterId) :
    m.markAll values marks = m.record (marks.map fun mark => ⟨id, values, mark⟩) := by
  rw [record, List.foldl_map]
  rfl

end Meter

/-! ## 2. Gauges, counters and summaries -/

/-- A gauge shows the value that was recorded last. -/
theorem foldl_gauge (rs : List Recording) (g : Gauge) :
    rs.foldl apply (.gauge g) =
      .gauge ⟨((rs.filterMap fun r => r.mark.value).getLast?).getD g.value⟩ := by
  induction rs generalizing g with
  | nil => rfl
  | cons r rs ih =>
    rw [List.foldl_cons]
    cases hvalue : r.mark.value with
    | none =>
      have happly : apply (.gauge g) r = .gauge g := by simp [apply, hvalue]
      simp only [happly, ih, List.filterMap_cons, hvalue]
    | some x =>
      have happly : apply (.gauge g) r = .gauge ⟨x⟩ := by simp [apply, hvalue, Instrument.record]
      simp only [happly, ih, List.filterMap_cons, hvalue, List.getLast?_cons, Option.getD_some]

/-- A counter counts the values that were recorded. -/
theorem foldl_counter (rs : List Recording) (c : Counter) :
    rs.foldl apply (.counter c) =
      .counter ⟨c.value + UInt64.ofNat (rs.filterMap fun r => r.mark.value).length⟩ := by
  induction rs generalizing c with
  | nil => simp
  | cons r rs ih =>
    rw [List.foldl_cons]
    cases hvalue : r.mark.value with
    | none =>
      have happly : apply (.counter c) r = .counter c := by simp [apply, hvalue]
      simp only [happly, ih, List.filterMap_cons, hvalue]
    | some x =>
      have happly : apply (.counter c) r = .counter (c.add 1) := by
        simp [apply, hvalue, Instrument.record]
      simp only [happly, ih, List.filterMap_cons, hvalue, List.length_cons, Counter.add]
      rw [UInt64.ofNat_add, UInt64.add_assoc, UInt64.add_comm (UInt64.ofNat _)]
      rfl

/-- A summary observes the values that were recorded. -/
theorem foldl_summary (rs : List Recording) (s : Summary) :
    rs.foldl apply (.summary s) =
      .summary ((rs.filterMap fun r => r.mark.value).foldl Summary.observe s) := by
  induction rs generalizing s with
  | nil => rfl
  | cons r rs ih =>
    rw [List.foldl_cons]
    cases hvalue : r.mark.value with
    | none =>
      have happly : apply (.summary s) r = .summary s := by simp [apply, hvalue]
      simp only [happly, ih, List.filterMap_cons, hvalue]
    | some x =>
      have happly : apply (.summary s) r = .summary (s.observe x) := by
        simp [apply, hvalue, Instrument.record]
      simp only [happly, ih, List.filterMap_cons, hvalue, List.foldl_cons]

/-- A summary counts its observations. -/
theorem count_foldl_observe (vs : List Float) (s : Summary) :
    (vs.foldl Summary.observe s).count = s.count + UInt64.ofNat vs.length := by
  induction vs generalizing s with
  | nil => exact (UInt64.add_zero s.count).symm
  | cons v vs ih =>
    have hobserve : (s.observe v).count = s.count + 1 := rfl
    have hlength : UInt64.ofNat (v :: vs).length = 1 + UInt64.ofNat vs.length := by
      rw [List.length_cons, Nat.add_comm, UInt64.ofNat_add]
      rfl
    rw [List.foldl_cons, ih, hobserve, hlength, UInt64.add_assoc]

/-! ## 3. Measured entities -/

theorem recordingsFor_append (meter : MeterId) (rs ts : List Recording) :
    recordingsFor meter (rs ++ ts) = recordingsFor meter rs ++ recordingsFor meter ts :=
  List.filter_append ..

theorem recordingsFor_flatMap {α : Type} (meter : MeterId) (f : α → List Recording)
    (as : List α) :
    recordingsFor meter (as.flatMap f) = as.flatMap fun a => recordingsFor meter (f a) :=
  List.filter_flatMap ..

/-- A recording of a measured entity is one of the marks of one of the meters. -/
theorem mem_recordEntity {now : Int64} {meters : List MeterId} {entity : Entity}
    {values : List String} {r : Recording}
    (h : r ∈ (recordEntity now meters entity values).notes) :
    r.meter ∈ meters ∧ r.values = values ∧ r.mark ∈ (r.meter.kind.measure now entity).notes := by
  obtain ⟨meter, hmeter, hr⟩ := Journal.mem_notes_each h
  obtain ⟨mark, hmark, rfl⟩ := List.mem_map.mp hr
  exact ⟨hmeter, rfl, hmark⟩

/-- Among different items only one contributes. -/
theorem flatMap_eq_of_nodup {α β : Type} {f : α → List β} {as : List α} {a : α}
    (hnodup : as.Nodup) (ha : a ∈ as) (h : ∀ b ∈ as, b ≠ a → f b = []) : as.flatMap f = f a := by
  induction as with
  | nil => cases ha
  | cons b as ih =>
    obtain ⟨hb, hrest⟩ := List.nodup_cons.mp hnodup
    rw [List.flatMap_cons]
    rcases List.mem_cons.mp ha with rfl | hmem
    · have hnone : as.flatMap f = [] := by
        refine List.flatMap_eq_nil_iff.mpr fun c hc => ?_
        exact h c (List.mem_cons_of_mem _ hc) fun hca => hb (hca ▸ hc)
      rw [hnone, List.append_nil]
    · have hne : b ≠ a := fun hba => hb (hba ▸ hmem)
      rw [h b List.mem_cons_self hne, List.nil_append]
      exact ih hrest hmem fun c hc => h c (List.mem_cons_of_mem _ hc)

theorem flatMap_filter {α β : Type} (p : α → Bool) (f : α → List β) (as : List α) :
    (as.filter p).flatMap f = as.flatMap fun a => if p a then f a else [] := by
  induction as with
  | nil => rfl
  | cons a as ih =>
    rw [List.flatMap_cons, List.filter_cons, ← ih]
    split <;> simp

/-- While the host does not fail, every meter gets all its marks. -/
theorem recordEntity_eq {now : Int64} {meters : List MeterId} {entity : Entity}
    {values : List String}
    (h : ∀ meter ∈ meters, (meter.kind.measure now entity).result = .ok ()) :
    recordEntity now meters entity values =
      ⟨meters.flatMap fun meter =>
        (meter.kind.measure now entity).notes.map fun mark => ⟨meter, values, mark⟩, .ok ()⟩ :=
  Journal.each_eq h

/-- The marks of one meter among those of different meters. -/
theorem recordingsFor_recordEntity {now : Int64} {meters : List MeterId} {entity : Entity}
    {values : List String} {meter : MeterId} (hnodup : meters.Nodup) (hmem : meter ∈ meters)
    (h : ∀ meter ∈ meters, (meter.kind.measure now entity).result = .ok ()) :
    recordingsFor meter (recordEntity now meters entity values).notes =
      (meter.kind.measure now entity).notes.map fun mark => ⟨meter, values, mark⟩ := by
  rw [recordEntity_eq h, recordingsFor_flatMap, flatMap_eq_of_nodup hnodup hmem]
  · simp [recordingsFor]
  · intro other _ hne
    simp [recordingsFor, hne]

/-- A meter that is not among the measured ones gets nothing. -/
theorem recordingsFor_eq_nil {meter : MeterId} {rs : List Recording}
    (h : ∀ r ∈ rs, r.meter ≠ meter) : recordingsFor meter rs = [] := by
  refine List.filter_eq_nil_iff.mpr fun r hr => ?_
  simpa using h r hr

/-! ## 4. Planned meters -/

theorem mem_planFor {s : Settings} {kinds : List MetricKind} {names : List String}
    {planned : PlannedMeter} :
    planned ∈ s.planFor kinds names ↔
      ∃ kind ∈ kinds, s.allows kind ∧ planned = ⟨⟨kind, none⟩, names⟩ := by
  simp only [Settings.planFor, List.mem_map, List.mem_filter, and_assoc]
  exact exists_congr fun kind => by simp only [eq_comm]

/-- Recordings that fit a planned meter leave one label value for each label name in it. -/
theorem sized_planned (s : Settings) {planned : PlannedMeter} {rs : List Recording}
    (hrs : ∀ r ∈ rs, r.meter = planned.meter → r.key.length = planned.labelNames.length) :
    ((s.freshMeter planned).record (recordingsFor planned.meter rs)).Sized := by
  refine (Meter.sized_new _ _ _ _).record fun r hr => ?_
  obtain ⟨hmem, hmeter⟩ := List.mem_filter.mp hr
  exact hrs r hmem (beq_iff_eq.mp hmeter)

end BuildTelemetry
