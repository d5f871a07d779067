import BuildTelemetry.Proofs.JobFamilies

/-!
# What collectors report

Every family of a collector is that of one meter, and the settings in force say how it is announced
and labelled.

1. All instruments of a meter have the type of its metric (`Meter.Typed`), also those that a
   reachable cache has kept.
2. The configuration gives the label names of each metric (`Config.labelNames`). A meter reports a
   metric if it has them, the name and the type of the metric, a label value for each label name in
   every label set, and summaries of what was observed (`Settings.Reports`).
3. All meters of all collectors report metrics (`exists_reports_of_mem_familiesFrom`).
-/

namespace BuildTelemetry

/-! ## 1. Types of instruments -/

theorem type_ne_unknown (kind : MetricKind) : kind.type ≠ .unknown := by
  cases kind with
  | build m => cases m <;> decide
  | job m => cases m <;> decide
  | executor m => cases m <;> decide
  | directory m => cases m <;> decide
  | jobUsage => decide
  | fileStore size => cases size <;> decide
  | host m => cases m <;> decide
  | coverage scope figure =>
    show MetricType.gauge ≠ .unknown
    decide

/-- The instruments of a metric begin with its type. -/
theorem type_freshInstrument (kind : MetricKind) (quantiles : List Float) :
    Exposable.type (kind.freshInstrument quantiles) = kind.type := by
  unfold MetricKind.freshInstrument
  cases htype : kind.type with
  | counter => rfl
  | gauge => rfl
  | summary => rfl
  | unknown => exact absurd htype (type_ne_unknown kind)

/-- Recordings leave the type of an instrument as it is. -/
theorem type_foldl_apply (rs : List Recording) (i : Instrument) :
    Exposable.type (rs.foldl Recording.apply i) = Exposable.type i := by
  induction rs generalizing i with
  | nil => rfl
  | cons r rs ih =>
    rw [List.foldl_cons, ih]
    unfold Recording.apply
    cases r.mark.value with
    | none => rfl
    | some x => cases i <;> rfl

/-- All instruments of a meter, those to come included, have the type that it is announced with. -/
structure Meter.Typed (m : Meter) : Prop where
  fresh : Exposable.type m.series.fresh = m.descriptor.type
  get : ∀ values i, m.series.get? values = some i → Exposable.type i = m.descriptor.type

theorem Meter.typed_new (kind : MetricKind) (nameSpace : String) (qualifier : Option String)
    (labelNames : List String) (quantiles : List Float) :
    (new kind (.of kind nameSpace qualifier) labelNames quantiles).Typed where
  fresh := type_freshInstrument kind quantiles
  get values i hget := by cases hget

theorem Meter.Typed.record {m : Meter} (h : m.Typed) (rs : List Recording) :
    (m.record rs).Typed where
  fresh := by
    rw [fresh_record, descriptor_record]
    exact h.fresh
  get values i hget := by
    rw [descriptor_record]
    rw [get?_record] at hget
    split at hget
    · exact h.get values i hget
    · rw [Option.some.injEq] at hget
      rw [← hget, type_foldl_apply, Series.instrument]
      cases hbefore : m.series.get? values with
      | none => exact h.fresh
      | some before => exact h.get values before hbefore

/-- Every meter of a reachable cache has instruments of its type only. -/
theorem CounterCache.Reachable.typed {c : CounterCache} (h : c.Reachable) :
    ∀ key m, c.find? key = some (some m) → m.Typed := fun key m hfind =>
  (h.meter_induction (P := fun _ m => m.Typed) (fun _ _ => Meter.typed_new ..)
    (fun _ _ rs htyped => htyped.record rs) key m hfind).2

/-! ## 2. Reported metrics -/

/-- The label names of a metric. Samples of quantiles have one more. -/
def Config.labelNames (c : Config) (id : MeterId) : List String :=
  match id.kind with
  | .build .durations => c.buildLabelNames
  | .build m =>
    if m ∈ buildCounters then c.jobLabelNames
    else if id.qualifier.isSome then buildMetricLabels c.jobLabelNames (.build m)
    else buildMetricLabels (c.buildLabelNames ++ [numberLabel]) (.build m)
  | .job _ => c.jobLabelNames
  | .executor _ => [nodeLabel]
  | .directory _ => [storeLabel, directoryLabel]
  | .jobUsage => [storeLabel, diskJobLabel, urlLabel]
  | .fileStore _ => [storeLabel]
  | .host .version => [versionLabel]
  | .host _ => []
  | .coverage _ _ => [c.jobLabel]

/-- A meter reports a metric as the settings say. -/
structure Settings.Reports (s : Settings) (m : Meter) (id : MeterId) : Prop where
  known : id ∈ exposedIds
  descriptor : m.descriptor = .of id.kind s.nameSpace id.qualifier
  labelNames : m.series.labelNames = s.config.labelNames id
  sized : m.Sized
  typed : m.Typed
  /-- A label set comes with its first observation. -/
  observed : ∀ values t, m.series.get? values = some (.summary t) →
    ∃ vs, vs ≠ [] ∧ t = vs.foldl Summary.observe (.forScrape s.config.quantiles)

variable {s : Settings}

/-- The instruments of a planned meter, where every recording has a value. -/
theorem observed_planned {planned : PlannedMeter} {rs : List Recording}
    (hrs : ∀ r ∈ rs, r.mark.value.isSome) {values : List String} {t : Summary}
    (hget : ((s.freshMeter planned).record rs).series.get? values = some (.summary t)) :
    ∃ vs, vs ≠ [] ∧ t = vs.foldl Summary.observe (.forScrape s.config.quantiles) := by
  have hempty : (s.freshMeter planned).series.get? values = none := rfl
  have htyped : ((s.freshMeter planned).record rs).Typed := (Meter.typed_new ..).record rs
  have htype := htyped.get values _ hget
  rw [Meter.descriptor_record] at htype
  have hfresh : (s.freshMeter planned).series.fresh = .summary (.forScrape s.config.quantiles) := by
    change planned.meter.kind.freshInstrument _ = _
    rw [MetricKind.freshInstrument, ← show MetricType.summary = planned.meter.kind.type from htype]
  rw [Meter.get?_record_summary rs hempty hfresh] at hget
  split at hget
  · cases hget
  next hunder =>
  cases hget
  refine ⟨_, fun hnone => hunder ?_, rfl⟩
  -- a recording without a value would not count
  refine List.eq_nil_iff_forall_not_mem.mpr fun r hr => ?_
  have hvalue := List.filterMap_eq_nil_iff.mp hnone r hr
  have hsome := hrs r (List.mem_filter.mp hr).1
  rw [hvalue] at hsome
  cases hsome

theorem reports_planned {planned : PlannedMeter} {rs : List Recording}
    (hknown : planned.meter ∈ exposedIds)
    (hnames : planned.labelNames = s.config.labelNames planned.meter)
    (hrs : ∀ r ∈ rs, r.meter = planned.meter →
      r.key.length = planned.labelNames.length ∧ r.mark.value.isSome) :
    s.Reports ((s.freshMeter planned).record (recordingsFor planned.meter rs)) planned.meter where
  known := hknown
  descriptor := by
    rw [Meter.descriptor_record]
    rfl
  labelNames := by
    rw [Meter.labelNames_record]
    exact hnames
  sized := sized_planned s fun r hr hmeter => (hrs r hr hmeter).1
  typed := (Meter.typed_new ..).record _
  observed values t hget := observed_planned (fun r hr => by
    obtain ⟨hmem, hmeter⟩ := List.mem_filter.mp hr
    exact (hrs r hmem (beq_iff_eq.mp hmeter)).2) hget

/-! ## 3. Collectors -/

/-- A recording of an entity with some number of label values. -/
def Recording.HasValues (r : Recording) (n : Nat) : Prop :=
  r.values.length = n ∧ ∃ now entity, r.mark ∈ (r.meter.kind.measure now entity).notes

theorem hasValues_of_mem_recordEntity {now : Int64} {meters : List MeterId} {entity : Entity}
    {values : List String} {r : Recording}
    (h : r ∈ (recordEntity now meters entity values).notes) {n : Nat}
    (hlength : values.length = n) : r.HasValues n := by
  obtain ⟨_, rfl, hmark⟩ := mem_recordEntity h
  exact ⟨hlength, now, entity, hmark⟩

/-- The families of metrics without stages that builds do not count, where every recording has the
number of label values of the plan. -/
theorem exists_reports_of_planFor {kinds : List MetricKind} {names : List String}
    {rs : List Recording}
    (hkinds : ∀ kind ∈ kinds, kind.extraLabels = 0 ∧ kind ∉ buildCounters.map MetricKind.build)
    (hnames : ∀ kind ∈ kinds, s.config.labelNames ⟨kind, none⟩ = names)
    (hrs : ∀ r ∈ rs, r.meter.kind ∈ kinds → r.HasValues names.length) {f : MetricFamily}
    (hf : f ∈ (s.meters (s.planFor kinds names) rs).map Meter.family) :
    ∃ id m, s.Reports m id ∧ m.family = f := by
  obtain ⟨m, hm, rfl⟩ := List.mem_map.mp hf
  obtain ⟨planned, hplanned, rfl⟩ := List.mem_map.mp hm
  obtain ⟨kind, hkind, _, rfl⟩ := mem_planFor.mp hplanned
  refine ⟨_, _, reports_planned (MeterId.mem_exposedIds kind) (hnames kind hkind).symm
    fun r hr hmeter => ?_, rfl⟩
  have hmem : r.meter.kind ∈ kinds := by
    rw [hmeter]
    exact hkind
  obtain ⟨hlength, _, _, hmark⟩ := hrs r hr hmem
  obtain ⟨hextra, hcounter⟩ := hkinds _ hmem
  refine ⟨?_, value_of_mem_measure hcounter hmark⟩
  rw [Recording.key, List.length_append, hlength, extra_of_mem_measure hmark, hextra]
  rfl

theorem labelNames_build {m : BuildMetric} (hm : m ∈ buildMetrics) (c : Config)
    (qualifier : Option String) :
    c.labelNames ⟨.build m, qualifier⟩ =
      if qualifier.isSome then buildMetricLabels c.jobLabelNames (.build m)
      else buildMetricLabels (c.buildLabelNames ++ [numberLabel]) (.build m) := by
  cases m with
  | durations | successes | failures | unstables | aborts | total => exact absurd hm (by decide)
  | _ => rfl

theorem labelNames_counter {m : BuildMetric} (hm : m ∈ buildCounters) (c : Config) :
    c.labelNames ⟨.build m, none⟩ = c.jobLabelNames := by
  cases m with
  | successes | failures | unstables | aborts | total => rfl
  | _ => exact absurd hm (by decide)

/-- The label names of the metrics that a scrape of jobs plans. -/
theorem labelNames_of_mem_all {planned : PlannedMeter} (h : planned ∈ (JobPlan.of s).all) :
    planned.labelNames = s.config.labelNames planned.meter := by
  rw [JobPlan.all, List.mem_append, List.mem_append, List.mem_append] at h
  rcases h with h | (h | h) | h
  · obtain ⟨kind, hkind, _, rfl⟩ := mem_planFor.mp h
    rw [List.mem_singleton.mp hkind]
    rfl
  · obtain ⟨kind, hkind, _, rfl⟩ := mem_planFor.mp h
    obtain ⟨m, _, rfl⟩ := List.mem_map.mp hkind
    rfl
  · obtain ⟨m, hm, _, rfl⟩ := mem_planBuilds.mp h
    exact (labelNames_build hm s.config (some lastQualifier)).symm
  · obtain ⟨m, hm, _, rfl⟩ := mem_perBuild h
    exact (labelNames_build hm s.config none).symm

theorem exists_reports_of_jobFamilies {c : CounterCache} (hc : c.Reachable) {now : Int64}
    {jobs : List Job} {f : MetricFamily} (hf : f ∈ jobFamilies s c now jobs) :
    ∃ id m, s.Reports m id ∧ m.family = f := by
  obtain ⟨⟨m, hm, rfl⟩, _⟩ := mem_familiesOf.mp hf
  rcases mem_meters.mp hm with ⟨planned, hplanned, rfl⟩ | ⟨kind, hkind, hkept⟩
  · refine ⟨_, _, reports_planned (mem_exposedIds_of_mem_all hplanned)
      (labelNames_of_mem_all hplanned) fun r hr hmeter => ⟨?_, value_of_mem_recordJobs hr⟩, rfl⟩
    exact length_of_mem_recordJobs hplanned hr hmeter
  · obtain ⟨counter, hcounter, rfl⟩ := List.mem_map.mp (mem_counters.mp hkind).1
    have hfits := hc.wellKept.fits hkept
    rw [CounterCache.meter?_eq, Option.join_eq_some_iff] at hkept
    have htyped := hc.typed _ m hkept
    refine ⟨⟨.build counter, none⟩, m, ⟨MeterId.mem_exposedIds _, hfits.descriptor, ?_,
      hfits.sized, htyped, fun values t hget => ?_⟩, rfl⟩
    · exact hfits.labelNames.trans (labelNames_counter hcounter s.config).symm
    · -- a counter has no summaries
      have htype := htyped.get values _ hget
      rw [hfits.descriptor] at htype
      cases htype.trans (type_counter counter hcounter)

theorem exists_reports_of_coverageFamilies {jobs : List Job} {families : List MetricFamily}
    (hok : coverageFamilies s jobs = .ok families) {f : MetricFamily} (hf : f ∈ families) :
    ∃ id m, s.Reports m id ∧ m.family = f := by
  unfold coverageFamilies at hok
  split at hok
  · cases hok
    cases hf
  obtain ⟨_, _, rfl⟩ := reading_map_eq_ok.mp hok
  refine exists_reports_of_planFor (by decide) (fun kind hkind => ?_) (fun r hr _ => ?_) hf
  · obtain ⟨_, _, rfl⟩ := List.mem_map.mp hkind
    rfl
  · obtain ⟨j, _, hj⟩ := Journal.mem_notes_each hr
    obtain ⟨_, _, b, hentity⟩ := mem_recordCoverage hj
    exact hasValues_of_mem_recordEntity hentity rfl

theorem exists_reports_of_executorFamilies {loads : List ExecutorLoad} {f : MetricFamily}
    (hf : f ∈ executorFamilies s loads) : ∃ id m, s.Reports m id ∧ m.family = f := by
  refine exists_reports_of_planFor (by decide) (fun kind hkind => ?_) (fun r hr _ => ?_) hf
  · obtain ⟨_, _, rfl⟩ := List.mem_map.mp hkind
    rfl
  · obtain ⟨load, _, hload⟩ := Journal.mem_notes_each hr
    exact hasValues_of_mem_recordEntity hload rfl

theorem exists_reports_of_storagePartFamilies {α : Type} {kinds : List MetricKind}
    {names : List String} {record : List MeterId → α → Recorder} {items : List α}
    (hkinds : ∀ kind ∈ kinds, kind.extraLabels = 0 ∧ kind ∉ buildCounters.map MetricKind.build)
    (hnames : ∀ kind ∈ kinds, s.config.labelNames ⟨kind, none⟩ = names)
    (hrecord : ∀ meters item, ∀ r ∈ (record meters item).notes, r.HasValues names.length)
    {f : MetricFamily} (hf : f ∈ storagePartFamilies s (s.planFor kinds names) record items) :
    ∃ id m, s.Reports m id ∧ m.family = f := by
  refine exists_reports_of_planFor hkinds hnames (fun r hr _ => ?_) hf
  obtain ⟨item, _, hitem⟩ := Journal.mem_notes_each hr
  exact hrecord _ item r hitem

theorem exists_reports_of_storageFamilies {disk : Option DiskUsage} {f : MetricFamily}
    (hf : f ∈ storageFamilies s disk) : ∃ id m, s.Reports m id ∧ m.family = f := by
  unfold storageFamilies at hf
  split at hf
  · cases hf
  cases disk with
  | none => cases hf
  | some usage =>
    rcases List.mem_append.mp hf with hf | hf
    · rcases List.mem_append.mp hf with hf | hf
      · refine exists_reports_of_storagePartFamilies (by decide) (fun kind hkind => ?_) ?_ hf
        · obtain ⟨_, _, rfl⟩ := List.mem_map.mp hkind
          rfl
        · exact fun _ _ _ hr => hasValues_of_mem_recordEntity hr rfl
      · refine exists_reports_of_storagePartFamilies (by decide) (fun kind hkind => ?_) ?_ hf
        · rw [List.mem_singleton.mp hkind]
          rfl
        · exact fun _ _ _ hr => hasValues_of_mem_recordEntity hr rfl
    · refine exists_reports_of_storagePartFamilies (by decide) (fun kind hkind => ?_) ?_ hf
      · obtain ⟨_, _, rfl⟩ := List.mem_map.mp hkind
        rfl
      · exact fun _ _ _ hr => hasValues_of_mem_recordEntity hr rfl

/-- A recording of the status has a label value for the version only. -/
theorem mem_recordStatus {status : HostStatus} {r : Recording}
    (h : r ∈ (recordStatus s status).notes) :
    r.meter.kind ∈ plainHostMetrics.map MetricKind.host ∧ r.HasValues 0 ∨
      r.meter.kind = .host .version ∧ r.HasValues 1 := by
  have hkind {kinds : List MetricKind}
      (hmeter : r.meter ∈ (s.planFor kinds []).map PlannedMeter.meter) : r.meter.kind ∈ kinds := by
    obtain ⟨planned, hplanned, heq⟩ := List.mem_map.mp hmeter
    obtain ⟨kind, hkind, _, rfl⟩ := mem_planFor.mp hplanned
    rw [← heq]
    exact hkind
  rw [recordStatus] at h
  rcases Journal.mem_notes_bind.mp h with hplain | ⟨_, _, hversion⟩
  · exact .inl ⟨hkind (mem_recordEntity hplain).1, hasValues_of_mem_recordEntity hplain rfl⟩
  · split at hversion
    · exact .inr ⟨List.mem_singleton.mp (hkind (mem_recordEntity hversion).1),
        hasValues_of_mem_recordEntity hversion rfl⟩
    · cases hversion

theorem exists_reports_of_statusFamilies {status : HostStatus} {f : MetricFamily}
    (hf : f ∈ statusFamilies s status) : ∃ id m, s.Reports m id ∧ m.family = f := by
  rw [statusFamilies, Settings.meters, statusPlan, List.map_append, List.map_append,
    List.mem_append] at hf
  rcases hf with hf | hf
  · refine exists_reports_of_planFor (by decide) (fun kind hkind => ?_) (fun r hr hkind => ?_) hf
    · obtain ⟨m, hm, rfl⟩ := List.mem_map.mp hkind
      cases m with
      | version => exact absurd hm (by decide)
      | _ => rfl
    · rcases mem_recordStatus hr with ⟨_, hvalues⟩ | ⟨hversion, _⟩
      · exact hvalues
      · rw [hversion] at hkind
        exact absurd hkind (by decide)
  · refine exists_reports_of_planFor (by decide) (fun kind hkind => ?_) (fun r hr hkind => ?_) hf
    · rw [List.mem_singleton.mp hkind]
      rfl
    · rcases mem_recordStatus hr with ⟨hplain, _⟩ | ⟨_, hvalues⟩
      · rw [List.mem_singleton.mp hkind] at hplain
        exact absurd hplain (by decide)
      · exact hvalues

/-- Every family that a collector gives is that of a meter that reports a metric. -/
theorem exists_reports_of_mem_familiesFrom {e : Exporter} {now : Int64}
    (hc : e.counters.Reachable) {c : Collector}
    (hok : (e.collectFrom now c).2 = .ok (e.familiesFrom now c)) {f : MetricFamily}
    (hf : f ∈ e.familiesFrom now c) : ∃ id m, e.active.load.Reports m id ∧ m.family = f := by
  cases c with
  | jobs =>
    rw [Exporter.familiesFrom_jobs hok] at hf
    split at hf
    · exact exists_reports_of_jobFamilies (Exporter.reachable_collectJobs hc now) hf
    · cases hf
  | coverage => exact exists_reports_of_coverageFamilies hok hf
  | executors => exact exists_reports_of_executorFamilies hf
  | storage => exact exists_reports_of_storageFamilies hf
  | status => exact exists_reports_of_statusFamilies hf

end BuildTelemetry
