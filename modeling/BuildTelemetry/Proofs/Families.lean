import BuildTelemetry.Proofs.Recording
import BuildTelemetry.Report.Jobs

/-!
# Families and their values

What a scrape shows is read by name and label values. Names tell all metrics apart, so that each
value can be traced to the one meter that it comes from.

* `MeterId.name_injective`: no two metrics of a scrape have one name.
* `familyValues`: the values under a name and label values.
* `familyValues_eq`: they are those of the meter of that name.
* `valuesAt_gauge`, `valuesAt_counter`: the values of a meter from what was recorded for it.
* `familyCounts`, `countsAt_summary`: the numbers of observations that summaries show.
-/

namespace BuildTelemetry

/-! ## 1. Names -/

/-- The name under which a meter is exposed. -/
def MeterId.name (id : MeterId) (nameSpace : String) : String :=
  id.kind.exposedName nameSpace id.qualifier

/-- The metrics of all scrapes. Those of last builds are there twice. -/
def exposedIds : List MeterId :=
  MetricKind.all.map (⟨·, none⟩) ++ buildMetrics.map (⟨.build ·, some lastQualifier⟩)

namespace MeterId

/-- The part of a name behind the subsystem. -/
def tail (id : MeterId) : String :=
  String.join ((id.kind.group.toList ++ (id.qualifier.filter fun q => !q.isEmpty).toList).map
    ("_" ++ ·)) ++ ("_" ++ id.kind.name)

theorem name_eq (id : MeterId) (nameSpace : String) :
    id.name nameSpace = nameSpace ++ ("_" ++ (subsystem ++ id.tail)) := by
  simp only [name, tail, MetricKind.exposedName, String.append_assoc]

theorem nodup_tails : (exposedIds.map tail).Nodup := by decide +kernel

/-- No two metrics of a scrape have one name, whatever the namespace. -/
theorem name_injective (nameSpace : String) {a b : MeterId} (ha : a ∈ exposedIds)
    (hb : b ∈ exposedIds) (h : a.name nameSpace = b.name nameSpace) : a = b := by
  rw [name_eq, name_eq] at h
  simp only [String.append_right_inj] at h
  exact List.inj_on_of_nodup_map nodup_tails ha hb h

theorem mem_exposedIds (kind : MetricKind) : (⟨kind, none⟩ : MeterId) ∈ exposedIds := by
  have hall : kind ∈ MetricKind.all := by
    cases kind with
    | build m => cases m <;> decide
    | job m => cases m <;> decide
    | executor m => cases m <;> decide
    | directory m => cases m <;> decide
    | jobUsage => decide
    | fileStore size => cases size <;> decide
    | host m => cases m <;> decide
    | coverage scope figure => cases scope <;> cases figure <;> decide
  exact List.mem_append_left _ (List.mem_map_of_mem hall)

theorem last_mem_exposedIds {m : BuildMetric} (h : m ∈ buildMetrics) :
    (⟨.build m, some lastQualifier⟩ : MeterId) ∈ exposedIds :=
  List.mem_append_right _ (List.mem_map_of_mem h)

end MeterId

/-! ## 2. Values -/

/-- The values that the samples of a family show under label values. -/
def MetricFamily.valuesAt (f : MetricFamily) (values : List String) : List Float :=
  (f.samples.filter fun x => x.labelValues == values).map Sample.value

/-- The values that the families of a name show under label values. -/
def familyValues (families : List MetricFamily) (name : String) (values : List String) :
    List Float :=
  families.flatMap fun f => if f.name = name then f.valuesAt values else []

/-- The numbers of observations that a summary's family shows under label values. -/
def MetricFamily.countsAt (f : MetricFamily) (values : List String) : List Float :=
  (f.samples.filter fun x => x.name == f.name ++ "_count" && x.labelValues == values).map
    Sample.value

/-- The numbers of observations that the families of a name show under label values. -/
def familyCounts (families : List MetricFamily) (name : String) (values : List String) :
    List Float :=
  families.flatMap fun f => if f.name = name then f.countsAt values else []

/-- What is read of the families of a name comes from one of them. -/
theorem mem_flatMap_named {α : Type} {read : MetricFamily → List α} {families : List MetricFamily}
    {name : String} {a : α} :
    (a ∈ families.flatMap fun f => if f.name = name then read f else []) ↔
      ∃ f ∈ families, f.name = name ∧ a ∈ read f := by
  refine List.mem_flatMap.trans (exists_congr fun f => and_congr_right fun _ => ?_)
  by_cases hname : f.name = name <;> simp [hname]

/-- A value that is shown under label values is that of a sample. -/
theorem mem_familyValues {families : List MetricFamily} {name : String} {values : List String}
    {value : Float} :
    value ∈ familyValues families name values ↔
      ∃ f ∈ families, f.name = name ∧ ∃ x ∈ f.samples, x.labelValues = values ∧ x.value = value := by
  rw [familyValues, mem_flatMap_named]
  simp [MetricFamily.valuesAt, and_assoc]

/-- A number of observations that is shown under label values is the value of a sample. -/
theorem mem_familyCounts {families : List MetricFamily} {name : String} {values : List String}
    {value : Float} :
    value ∈ familyCounts families name values ↔
      ∃ f ∈ families, f.name = name ∧ ∃ x ∈ f.samples, x.name = f.name ++ "_count" ∧
        x.labelValues = values ∧ x.value = value := by
  rw [familyCounts, mem_flatMap_named]
  simp [MetricFamily.countsAt, and_assoc]

/-- The families of some meters that have samples. -/
def familiesOf (meters : List Meter) : List MetricFamily :=
  (meters.map Meter.family).filter fun f => !f.isEmpty

theorem mem_familiesOf {meters : List Meter} {f : MetricFamily} :
    f ∈ familiesOf meters ↔ (∃ m ∈ meters, m.family = f) ∧ f.samples ≠ [] := by
  simp [familiesOf, MetricFamily.isEmpty]

/-- Of meters with different names only the one of a name has a family of that name. -/
theorem flatMap_familiesOf {α : Type} {meters : List Meter} {m : Meter}
    (read : MetricFamily → List α) (hread : ∀ f, f.samples = [] → read f = [])
    (hnames : (meters.map fun m => m.descriptor.name).Nodup) (hm : m ∈ meters) :
    ((familiesOf meters).flatMap fun f => if f.name = m.descriptor.name then read f else []) =
      read m.family := by
  have hsplit : ((familiesOf meters).flatMap fun f =>
        if f.name = m.descriptor.name then read f else []) =
      meters.flatMap fun n =>
        if n.descriptor.name = m.descriptor.name then read n.family else [] := by
    clear hnames hm
    induction meters with
    | nil => rfl
    | cons n ms ih =>
      simp only [familiesOf] at ih
      simp only [familiesOf, List.map_cons, List.filter_cons, List.flatMap_cons, ← ih]
      split
      · rfl
      · next hempty =>
        have hnone : read n.family = [] := by
          simp only [Bool.not_eq_true, Bool.not_eq_false'] at hempty
          exact hread _ (List.isEmpty_iff.mp hempty)
        simp [hnone]
  rw [hsplit, flatMap_eq_of_nodup hnames.of_map hm]
  · simp
  · intro n hn hne
    exact if_neg fun h => hne (List.inj_on_of_nodup_map hnames hn hm h)

/-- Of meters with different names only the one of a name shows values under it. -/
theorem familyValues_eq {meters : List Meter} {m : Meter} (values : List String)
    (hnames : (meters.map fun m => m.descriptor.name).Nodup) (hm : m ∈ meters) :
    familyValues (familiesOf meters) m.descriptor.name values = m.family.valuesAt values := by
  refine flatMap_familiesOf (·.valuesAt values) (fun f hf => ?_) hnames hm
  rw [MetricFamily.valuesAt, hf]
  rfl

/-! ## 3. Values of a meter -/

/-- The labels of an instrument's sample are those of its cell, for a summary perhaps with a
quantile. -/
theorem labels_of_mem_samples {i : Instrument} {name : String} {labels : List LabelPair}
    {x : Sample} (h : x ∈ Exposable.samples i name labels) :
    x.labels = labels ∨ ∃ s q, i = .summary s ∧ x.labels = labels ++ [("quantile", q)] := by
  cases i with
  | counter c =>
    obtain rfl := List.mem_singleton.mp h
    exact .inl rfl
  | gauge g =>
    obtain rfl := List.mem_singleton.mp h
    exact .inl rfl
  | summary s =>
    rcases List.mem_append.mp h with hbase | hquantile
    · simp only [List.mem_cons, List.not_mem_nil, or_false] at hbase
      rcases hbase with rfl | rfl <;> exact .inl rfl
    · obtain ⟨q, _, rfl⟩ := List.mem_map.mp hquantile
      exact .inr ⟨s, _, rfl, rfl⟩

/-- Of the samples of a summary one tells the number of observations. -/
theorem Summary.filter_samples_count (t : Summary) (name : String) (labels : List LabelPair) :
    (Exposable.samples t name labels).filter (fun x => x.name == name ++ "_count") =
      [⟨name ++ "_count", labels, t.count.toFloat⟩] := by
  have hsum : (name ++ "_sum" == name ++ "_count") = false := by
    rw [beq_eq_false_iff_ne, ne_eq, String.append_right_inj]
    decide
  have hquantile : (name == name ++ "_count") = false := by
    rw [beq_eq_false_iff_ne]
    intro heq
    have hlength := congrArg String.length heq
    rw [String.length_append] at hlength
    exact absurd (Nat.left_eq_add.mp hlength) (by decide)
  have hnone : (t.quantileValues.map (quantileSample name labels)).filter
      (fun x => x.name == name ++ "_count") = [] := by
    refine List.filter_eq_nil_iff.mpr fun x hx => ?_
    obtain ⟨q, _, rfl⟩ := List.mem_map.mp hx
    simp [quantileSample, hquantile]
  have hsamples : Exposable.samples t name labels =
      [⟨name ++ "_count", labels, t.count.toFloat⟩, ⟨name ++ "_sum", labels, t.sum⟩] ++
        t.quantileValues.map (quantileSample name labels) := rfl
  rw [hsamples, List.filter_append, hnone, List.append_nil]
  simp [hsum]

theorem mem_samples {m : Meter} {x : Sample} :
    x ∈ m.family.samples ↔ ∃ values i, m.series.get? values = some i ∧
      x ∈ Exposable.samples i m.descriptor.name (m.series.labelNames.zip values) := by
  simp only [Meter.family, Series.samples, List.mem_flatMap, Prod.exists, Series.mem_cells]

namespace Meter

variable {m : Meter} {values : List String}

/-- Under label values of the right number a meter shows the samples of their instrument. -/
theorem valuesAt_family (hsized : m.Sized) (hlength : values.length = m.series.labelNames.length) :
    m.family.valuesAt values =
      match m.series.get? values with
      | none => []
      | some i =>
        ((Exposable.samples i m.descriptor.name (m.series.labelNames.zip values)).filter
          fun x => x.labelValues == values).map Sample.value := by
  -- the samples of another cell have other label values, with or without a quantile behind them
  have hother : ∀ cell ∈ m.series.cells, cell.1 ≠ values →
      (Exposable.samples cell.2 m.descriptor.name (m.series.labelNames.zip cell.1)).filter
        (fun x => x.labelValues == values) = [] := by
    intro cell hcell hne
    have hcelllength := hsized cell hcell
    have hzip : (m.series.labelNames.zip cell.1).map Prod.snd = cell.1 :=
      List.map_snd_zip hcelllength.le
    refine List.filter_eq_nil_iff.mpr fun x hx => ?_
    rw [beq_iff_eq, Sample.labelValues]
    rcases labels_of_mem_samples hx with hlabels | ⟨_, q, _, hlabels⟩
    · rw [hlabels, hzip]
      exact hne
    · rw [hlabels, List.map_append, hzip]
      intro heq
      have := congrArg List.length heq
      simp at this
      omega
  unfold MetricFamily.valuesAt Meter.family Series.samples
  simp only [List.filter_flatMap]
  cases hget : m.series.get? values with
  | none =>
    rw [List.flatMap_eq_nil_iff.mpr, List.map_nil]
    intro cell hcell
    refine hother cell hcell fun hkey => ?_
    rw [← hkey, Series.mem_cells.mp hcell] at hget
    cases hget
  | some i =>
    have hmem : (values, i) ∈ m.series.cells := Series.mem_cells.mpr hget
    rw [flatMap_eq_of_nodup (Series.nodup_keys m.series.sorted).of_map hmem]
    intro cell hcell hne
    refine hother cell hcell fun hkey => hne ?_
    exact List.inj_on_of_nodup_map (Series.nodup_keys m.series.sorted) hcell hmem hkey

theorem labelValues_zip (hlength : values.length = m.series.labelNames.length) :
    (m.series.labelNames.zip values).map Prod.snd = values :=
  List.map_snd_zip hlength.le

/-- The instruments of a counter's meter are counters of the recorded values. -/
theorem get?_record_counter (rs : List Recording) (hempty : m.series.get? values = none)
    (hfresh : m.series.fresh = .counter .zero) :
    (m.record rs).series.get? values =
      if Recording.under values rs = [] then none
      else some (.counter ⟨UInt64.ofNat (Recording.valuesUnder values rs).length⟩) := by
  rw [get?_record]
  by_cases hunder : Recording.under values rs = []
  · simp [hempty, hunder]
  · have hinstrument : m.series.instrument values = .counter .zero := by
      rw [Series.instrument, hempty, hfresh]
      rfl
    have hnumber : Counter.zero.value + UInt64.ofNat (Recording.valuesUnder values rs).length =
        UInt64.ofNat (Recording.valuesUnder values rs).length := UInt64.zero_add _
    rw [if_neg (by simpa using hunder), if_neg hunder, hinstrument, foldl_counter,
      ← Recording.valuesUnder, hnumber]

/-- Only samples of summaries may have more label values than there are label names. -/
theorem length_labelValues_of_mem_samples (hsized : m.Sized)
    (hplain : ∀ values s, m.series.get? values ≠ some (.summary s)) {x : Sample}
    (hx : x ∈ m.family.samples) : x.labelValues.length = m.series.labelNames.length := by
  obtain ⟨values, i, hget, hsample⟩ := mem_samples.mp hx
  have hsize : values.length = m.series.labelNames.length :=
    hsized _ (Series.mem_cells.mpr hget)
  rcases labels_of_mem_samples hsample with hlabels | ⟨s, _, rfl, _⟩
  · rw [Sample.labelValues, hlabels, labelValues_zip hsize, hsize]
  · exact absurd hget (hplain values s)

/-- A counter shows the number of recorded values, once its label set exists. -/
theorem valuesAt_counter {rs : List Recording} (hsized : (m.record rs).Sized)
    (hempty : ∀ values, m.series.get? values = none) (hfresh : m.series.fresh = .counter .zero)
    (values : List String) :
    (m.record rs).family.valuesAt values =
      if Recording.under values rs = [] then []
      else [(UInt64.ofNat (Recording.valuesUnder values rs).length).toFloat] := by
  have hget := get?_record_counter rs (hempty values) hfresh
  by_cases hlength : values.length = (m.record rs).series.labelNames.length
  · rw [valuesAt_family hsized hlength]
    by_cases hunder : Recording.under values rs = []
    · rw [hget, if_pos hunder, if_pos hunder]
    · have hzip := labelValues_zip hlength
      rw [labelNames_record] at hzip
      rw [hget, if_neg hunder, if_neg hunder]
      simp [Exposable.samples, Sample.labelValues, hzip]
  · -- label values of another length have no cell, and no sample of a counter adds a label
    have hnone : Recording.under values rs = [] := by
      by_contra hunder
      rw [if_neg hunder] at hget
      exact hlength (hsized _ (Series.mem_cells.mpr hget))
    have hplain : ∀ other s, (m.record rs).series.get? other ≠ some (.summary s) := by
      intro other s hother
      rw [get?_record_counter rs (hempty other) hfresh] at hother
      split at hother <;> cases hother
    rw [if_pos hnone, MetricFamily.valuesAt, List.filter_eq_nil_iff.mpr, List.map_nil]
    intro x hx heq
    exact hlength (beq_iff_eq.mp heq ▸ length_labelValues_of_mem_samples hsized hplain hx)

/-- The instruments of a gauge's meter hold the values that were recorded last. -/
theorem get?_record_gauge {rs : List Recording} (hempty : m.series.get? values = none)
    (hfresh : m.series.fresh = .gauge .zero) (hvalues : ∀ r ∈ rs, r.mark.value.isSome) :
    (m.record rs).series.get? values =
      (Recording.valuesUnder values rs).getLast?.map fun v => .gauge ⟨v⟩ := by
  rw [get?_record]
  cases hunder : Recording.under values rs with
  | nil => simp [hempty, Recording.valuesUnder, hunder]
  | cons r under =>
    have hinstrument : m.series.instrument values = .gauge .zero := by
      rw [Series.instrument, hempty, hfresh]
      rfl
    have hmem : r ∈ Recording.under values rs := hunder ▸ List.mem_cons_self
    obtain ⟨x, hx⟩ := Option.isSome_iff_exists.mp (hvalues r (List.mem_filter.mp hmem).1)
    obtain ⟨y, hy⟩ : ∃ y, (Recording.valuesUnder values rs).getLast? = some y := by
      simp only [Recording.valuesUnder, hunder, List.filterMap_cons, hx, List.getLast?_cons]
      exact ⟨_, rfl⟩
    rw [hinstrument, foldl_gauge, ← hunder, ← Recording.valuesUnder, hy, hunder]
    rfl

/-- The samples of a gauge show the values that were recorded last. -/
theorem mem_samples_gauge {rs : List Recording} (hempty : m.series.cells = [])
    (hfresh : m.series.fresh = .gauge .zero) (hvalues : ∀ r ∈ rs, r.mark.value.isSome)
    {x : Sample} :
    x ∈ (m.record rs).family.samples ↔
      ∃ values v, (Recording.valuesUnder values rs).getLast? = some v ∧
        x = ⟨m.descriptor.name, m.series.labelNames.zip values, v⟩ := by
  have hnone (values : List String) : m.series.get? values = none := by
    rw [Series.get?, hempty]
    rfl
  simp only [mem_samples, get?_record_gauge (hnone _) hfresh hvalues, Option.map_eq_some_iff,
    descriptor_record, labelNames_record]
  constructor
  · rintro ⟨values, _, ⟨v, hv, rfl⟩, hx⟩
    exact ⟨values, v, hv, List.mem_singleton.mp hx⟩
  · rintro ⟨values, v, hv, rfl⟩
    exact ⟨values, _, ⟨v, hv, rfl⟩, List.mem_singleton_self _⟩

/-- A gauge shows one value, the last one that was recorded. -/
theorem valuesAt_gauge {rs : List Recording} (hsized : (m.record rs).Sized)
    (hlength : values.length = m.series.labelNames.length)
    (hempty : m.series.get? values = none) (hfresh : m.series.fresh = .gauge .zero)
    (hvalues : ∀ r ∈ rs, r.mark.value.isSome) :
    (m.record rs).family.valuesAt values = (Recording.valuesUnder values rs).getLast?.toList := by
  have hlength' : values.length = (m.record rs).series.labelNames.length := by
    rw [labelNames_record, hlength]
  rw [valuesAt_family hsized hlength', get?_record_gauge hempty hfresh hvalues]
  cases (Recording.valuesUnder values rs).getLast? with
  | none => rfl
  | some v => simp [Exposable.samples, Sample.labelValues, labelValues_zip hlength]

/-- A gauge shows nothing under label values of another number. -/
theorem valuesAt_gauge_of_length_ne {rs : List Recording} (hsized : (m.record rs).Sized)
    (hlength : values.length ≠ m.series.labelNames.length)
    (hempty : ∀ values, m.series.get? values = none) (hfresh : m.series.fresh = .gauge .zero) :
    (m.record rs).family.valuesAt values = [] := by
  -- only the instruments of a summary's meter have quantiles
  have hplain : ∀ other s, (m.record rs).series.get? other ≠ some (.summary s) := by
    intro other s hother
    have hinstrument : m.series.instrument other = .gauge .zero := by
      rw [Series.instrument, hempty, hfresh]
      rfl
    rw [get?_record, hempty, hinstrument, foldl_gauge] at hother
    split at hother <;> cases hother
  rw [MetricFamily.valuesAt, List.filter_eq_nil_iff.mpr, List.map_nil]
  intro x hx heq
  have hsize := length_labelValues_of_mem_samples hsized hplain hx
  rw [beq_iff_eq.mp heq, labelNames_record] at hsize
  exact hlength hsize

/-- The instruments of a summary's meter are summaries of the recorded values. -/
theorem get?_record_summary (rs : List Recording) (hempty : m.series.get? values = none)
    {s : Summary} (hfresh : m.series.fresh = .summary s) :
    (m.record rs).series.get? values =
      if Recording.under values rs = [] then none
      else some (.summary ((Recording.valuesUnder values rs).foldl Summary.observe s)) := by
  have hinstrument : m.series.instrument values = .summary s := by
    rw [Series.instrument, hempty, hfresh]
    rfl
  rw [get?_record, hempty, hinstrument, foldl_summary]
  simp only [List.isEmpty_iff]
  rfl

theorem filter_samples_summary (t : Summary) (name : String) (labels : List LabelPair)
    (values : List String) :
    ((Exposable.samples (Instrument.summary t) name labels).filter
        fun x => x.name == name ++ "_count" && x.labelValues == values).map Sample.value =
      if labels.map Prod.snd = values then [t.count.toFloat] else [] := by
  have hsamples : Exposable.samples (Instrument.summary t) name labels =
      Exposable.samples t name labels := rfl
  have hcomm : (fun x : Sample => x.name == name ++ "_count" && x.labelValues == values) =
      fun x => x.labelValues == values && x.name == name ++ "_count" :=
    funext fun x => Bool.and_comm ..
  rw [hcomm, hsamples, ← List.filter_filter, Summary.filter_samples_count]
  by_cases hvalues : labels.map Prod.snd = values <;> simp [Sample.labelValues, hvalues]

/-- A summary shows how many values were recorded, modulo `2 ^ 64`, and only where any were. -/
theorem countsAt_summary {rs : List Recording} (hsized : (m.record rs).Sized)
    (hempty : ∀ values, m.series.get? values = none) {s : Summary}
    (hfresh : m.series.fresh = .summary s) (hzero : s.count = 0) (values : List String) :
    (m.record rs).family.countsAt values =
      if Recording.under values rs = [] then []
      else [(UInt64.ofNat (Recording.valuesUnder values rs).length).toFloat] := by
  have hcell : ∀ cell ∈ (m.record rs).series.cells,
      ((Exposable.samples cell.2 (m.record rs).descriptor.name
          ((m.record rs).series.labelNames.zip cell.1)).filter fun x =>
            x.name == (m.record rs).descriptor.name ++ "_count" && x.labelValues == values).map
        Sample.value =
      if cell.1 = values then [(UInt64.ofNat (Recording.valuesUnder values rs).length).toFloat]
      else [] := by
    intro cell hcell
    obtain ⟨key, i⟩ := cell
    have hget := Series.mem_cells.mp hcell
    rw [get?_record_summary rs (hempty key) hfresh] at hget
    split at hget
    · cases hget
    · cases hget
      rw [filter_samples_summary, labelValues_zip (hsized _ hcell), count_foldl_observe, hzero,
        UInt64.zero_add]
      split
      · next heq => rw [show key = values from heq]
      · rfl
  unfold MetricFamily.countsAt Meter.family Series.samples
  rw [List.filter_flatMap, List.map_flatMap, List.flatMap_congr hcell]
  have hsummary := get?_record_summary rs (hempty values) hfresh
  split at hsummary
  · next hunder =>
    rw [if_pos hunder, List.flatMap_eq_nil_iff]
    intro cell hmem
    refine if_neg fun heq => ?_
    rw [← heq, Series.mem_cells.mp hmem] at hsummary
    cases hsummary
  · next hunder =>
    have hmem := Series.mem_cells.mpr hsummary
    rw [if_neg hunder, flatMap_eq_of_nodup (Series.nodup_keys (m.record rs).series.sorted).of_map
      hmem, if_pos rfl]
    intro cell hcell hne
    refine if_neg fun heq => hne ?_
    exact List.inj_on_of_nodup_map (Series.nodup_keys (m.record rs).series.sorted) hcell hmem heq

end Meter

end BuildTelemetry
