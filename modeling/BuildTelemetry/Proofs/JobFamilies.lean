import BuildTelemetry.Proofs.Scrape

/-!
# The families of a scrape of jobs

1. The metrics that a scrape plans are gauges and summaries, in groups that have no meter in common
   (`type_of_mem_all`, `mem_gauges`, `mem_lastBuild`, `mem_durations`, `mem_ids_perBuild`).
2. A gauge shows the value that was recorded last under its label values (`familyValues_gauge`), a
   summary how many were recorded (`familyCounts_summary`).
3. Of a job that is alone of its name a scrape shows what this job records and nothing else
   (`familyValues_of_marks`, `exists_named_iff`).
-/

namespace BuildTelemetry

open JobPlan (ids)

variable {s : Settings} {c : CounterCache} {now : Int64} {jobs : List Job} {j : Job}

/-! ## 1. Groups of metrics -/

theorem mem_gauges {meter : MeterId} :
    meter ∈ ids (JobPlan.of s).gauges ↔
      ∃ m ∈ jobMetrics, s.allows (.job m) ∧ meter = ⟨.job m, none⟩ := by
  simp only [ids, List.mem_map]
  constructor
  · rintro ⟨planned, hplanned, rfl⟩
    obtain ⟨kind, hkind, hallows, rfl⟩ := mem_planFor.mp hplanned
    obtain ⟨m, hm, rfl⟩ := List.mem_map.mp hkind
    exact ⟨m, hm, hallows, rfl⟩
  · rintro ⟨m, hm, hallows, rfl⟩
    exact ⟨_, mem_planFor.mpr ⟨.job m, List.mem_map_of_mem hm, hallows, rfl⟩, rfl⟩

theorem mem_lastBuild {meter : MeterId} :
    meter ∈ ids (JobPlan.of s).lastBuild ↔
      ∃ m ∈ buildMetrics, s.allows (.build m) ∧ meter = ⟨.build m, some lastQualifier⟩ := by
  simp only [ids, List.mem_map]
  constructor
  · rintro ⟨planned, hplanned, rfl⟩
    obtain ⟨m, hm, hallows, rfl⟩ := mem_planBuilds.mp hplanned
    exact ⟨m, hm, hallows, rfl⟩
  · rintro ⟨m, hm, hallows, rfl⟩
    exact ⟨_, mem_planBuilds.mpr ⟨m, hm, hallows, rfl⟩, rfl⟩

theorem mem_durations {meter : MeterId} :
    meter ∈ ids (JobPlan.of s).durations ↔
      s.allows (.build .durations) ∧ meter = ⟨.build .durations, none⟩ := by
  simp only [ids, List.mem_map]
  constructor
  · rintro ⟨planned, hplanned, rfl⟩
    obtain ⟨kind, hkind, hallows, rfl⟩ := mem_planFor.mp hplanned
    obtain rfl := List.mem_singleton.mp hkind
    exact ⟨hallows, rfl⟩
  · rintro ⟨hallows, rfl⟩
    exact ⟨_, mem_planFor.mpr ⟨_, List.mem_singleton_self _, hallows, rfl⟩, rfl⟩

theorem mem_ids_perBuild {meter : MeterId} :
    meter ∈ ids (JobPlan.of s).perBuild ↔
      s.config.perBuild ∧ ∃ m ∈ buildMetrics, s.allows (.build m) ∧
        meter = ⟨.build m, none⟩ := by
  have hplan : (JobPlan.of s).perBuild =
      if s.config.perBuild then s.planBuilds (s.config.buildLabelNames ++ [numberLabel]) none
      else [] := rfl
  simp only [ids, hplan, List.mem_map]
  split
  · next hon =>
    simp only [hon, true_and, mem_planBuilds]
    constructor
    · rintro ⟨_, ⟨m, hm, hallows, rfl⟩, rfl⟩
      exact ⟨m, hm, hallows, rfl⟩
    · rintro ⟨m, hm, hallows, rfl⟩
      exact ⟨_, ⟨m, hm, hallows, rfl⟩, rfl⟩
  · next hoff => simp [hoff]

/-- The metrics of every build are not those of the last one. -/
theorem meter_of_mem_recordBuild {b : Build} {r : Recording}
    (h : r ∈ (recordBuild (.of s) now j b).notes) :
    ∃ m, r.meter = ⟨.build m, none⟩ := by
  obtain ⟨values, _, hr | ⟨_, hr⟩⟩ := mem_recordBuild h
  · obtain ⟨_, hmeter⟩ := mem_durations.mp (mem_recordEntity hr).1
    exact ⟨_, hmeter⟩
  · obtain ⟨_, m, _, _, hmeter⟩ := mem_ids_perBuild.mp (mem_recordEntity hr).1
    exact ⟨m, hmeter⟩

/-- No group has a meter twice. -/
theorem nodup_ids_groups (s : Settings) :
    (ids (JobPlan.of s).durations).Nodup ∧ (ids (JobPlan.of s).gauges).Nodup ∧
      (ids (JobPlan.of s).lastBuild).Nodup ∧ (ids (JobPlan.of s).perBuild).Nodup := by
  have hnodup := nodup_ids_all s
  simp only [ids, JobPlan.all, List.map_append] at hnodup
  obtain ⟨hdurations, hgroups, _⟩ := List.nodup_append.mp hnodup
  obtain ⟨hgroups, hperBuild, _⟩ := List.nodup_append.mp hgroups
  obtain ⟨hgauges, hlast, _⟩ := List.nodup_append.mp hgroups
  exact ⟨hdurations, hgauges, hlast, hperBuild⟩

/-- No planned metric is a counter. -/
theorem type_of_mem_all {planned : PlannedMeter} (h : planned ∈ (JobPlan.of s).all) :
    planned.meter.kind.type ≠ .counter := by
  have hkinds : ∀ kind ∈ plannedKinds, kind.type ≠ .counter := by decide
  exact hkinds _ (planned_of_mem_all h).1

/-- Every recording of a job has a value. -/
theorem value_of_mem_recordJobs {r : Recording}
    (h : r ∈ (recordJobs (.of s) now jobs).notes) : r.mark.value.isSome := by
  obtain ⟨j, _, hr⟩ := mem_recordJobs h
  obtain ⟨planned, hplanned, hmeter, _⟩ := length_of_mem_recordJob hr
  obtain ⟨entity, hmark⟩ := mark_of_mem_recordJob hr
  refine value_of_mem_measure (fun hcounter => ?_) hmark
  obtain ⟨m, hm, hkind⟩ := List.mem_map.mp hcounter
  refine type_of_mem_all hplanned ?_
  rw [hmeter, ← hkind]
  exact type_counter m hm

/-! ## 2. Families -/

/-- A planned metric has its meter among those of a scrape. -/
theorem planned_mem_meters {planned : PlannedMeter} (hplanned : planned ∈ (JobPlan.of s).all)
    (rs : List Recording) :
    (s.freshMeter planned).record (recordingsFor planned.meter rs) ∈
      (JobPlan.of s).meters (counterMeters c s) rs :=
  mem_meters.mpr (.inl ⟨planned, hplanned, rfl⟩)

theorem fresh_gauge {planned : PlannedMeter} (hgauge : planned.meter.kind.type = .gauge) :
    (s.freshMeter planned).series.fresh = .gauge .zero := by
  change planned.meter.kind.freshInstrument _ = _
  rw [MetricKind.freshInstrument, hgauge]

/-- A gauge of a scrape shows the value that was recorded last. -/
theorem familyValues_gauge (hc : c.WellKept) {planned : PlannedMeter}
    (hplanned : planned ∈ (JobPlan.of s).all) (hgauge : planned.meter.kind.type = .gauge)
    {values : List String} (hlength : values.length = planned.labelNames.length) :
    familyValues (jobFamilies s c now jobs) (planned.meter.name s.nameSpace) values =
      (Recording.valuesUnder values
        (recordingsFor planned.meter (recordJobs (.of s) now jobs).notes)).getLast?.toList := by
  rw [jobFamilies, ← name_planned, familyValues_eq values (nodup_names s hc _)
    (planned_mem_meters hplanned _)]
  refine Meter.valuesAt_gauge (sized_of_mem_all hplanned now jobs) hlength rfl
    (fresh_gauge hgauge) ?_
  exact fun r hr => value_of_mem_recordJobs (List.mem_filter.mp hr).1

/-- Under label values of another number a gauge of a scrape shows nothing. -/
theorem familyValues_gauge_of_length_ne (hc : c.WellKept) {planned : PlannedMeter}
    (hplanned : planned ∈ (JobPlan.of s).all) (hgauge : planned.meter.kind.type = .gauge)
    {values : List String} (hlength : values.length ≠ planned.labelNames.length) :
    familyValues (jobFamilies s c now jobs) (planned.meter.name s.nameSpace) values = [] := by
  rw [jobFamilies, ← name_planned, familyValues_eq values (nodup_names s hc _)
    (planned_mem_meters hplanned _)]
  exact Meter.valuesAt_gauge_of_length_ne (sized_of_mem_all hplanned now jobs) hlength
    (fun _ => rfl) (fresh_gauge hgauge)

theorem count_forScrape (quantiles : List Float) : (Summary.forScrape quantiles).count = 0 := by
  unfold Summary.forScrape Summary.withQuantiles
  cases firstOutOfRange? quantiles <;> rfl

/-- A summary of a scrape shows how many values were recorded. -/
theorem familyCounts_summary (hc : c.WellKept) {planned : PlannedMeter}
    (hplanned : planned ∈ (JobPlan.of s).all) (hsummary : planned.meter.kind.type = .summary)
    (values : List String) :
    familyCounts (jobFamilies s c now jobs) (planned.meter.name s.nameSpace) values =
      let recorded := recordingsFor planned.meter (recordJobs (.of s) now jobs).notes
      if Recording.under values recorded = [] then []
      else [(UInt64.ofNat (Recording.valuesUnder values recorded).length).toFloat] := by
  have hfresh : (s.freshMeter planned).series.fresh =
      .summary (.forScrape s.config.quantiles) := by
    change planned.meter.kind.freshInstrument _ = _
    rw [MetricKind.freshInstrument, hsummary]
  have hfamily := flatMap_familiesOf (·.countsAt values)
    (fun f hf => by rw [MetricFamily.countsAt, hf]; rfl) (nodup_names s hc _)
    (planned_mem_meters (c := c) hplanned (recordJobs (.of s) now jobs).notes)
  rw [jobFamilies, familyCounts, ← name_planned, hfamily]
  exact Meter.countsAt_summary (sized_of_mem_all hplanned now jobs) (fun _ => rfl) hfresh
    (count_forScrape _) values

/-! ## 3. One job among others -/

/-- The only job of its name. -/
def Job.AloneIn (j : Job) (jobs : List Job) : Prop :=
  jobs.filter (fun other => other.info.fullName == j.info.fullName) = [j]

instance (j : Job) (jobs : List Job) : Decidable (j.AloneIn jobs) :=
  inferInstanceAs (Decidable (_ = _))

theorem Job.AloneIn.mem (h : j.AloneIn jobs) : j ∈ jobs := by
  have hmem : j ∈ jobs.filter fun other => other.info.fullName == j.info.fullName := by
    rw [h]
    exact List.mem_singleton_self j
  exact (List.mem_filter.mp hmem).1

theorem Job.AloneIn.eq (h : j.AloneIn jobs) {other : Job} (hother : other ∈ jobs)
    (hname : other.info.fullName = j.info.fullName) : other = j := by
  have hmem : other ∈ jobs.filter fun other => other.info.fullName == j.info.fullName :=
    List.mem_filter.mpr ⟨hother, beq_iff_eq.mpr hname⟩
  rw [h] at hmem
  exact List.mem_singleton.mp hmem

/-- The label values of a recording begin with those of its entity. -/
theorem Recording.head_key {r : Recording} {name : String} (h : r.values.head? = some name) :
    r.key.head? = some name := by
  rw [key, List.head?_append, h]
  rfl

/-- If all recordings of a job begin with its name, only jobs of some names leave anything under
label values that begin with one of these names. -/
theorem under_flatMap_jobs {f : Job → List Recording}
    (hf : ∀ j, ∀ r ∈ f j, r.values.head? = some j.info.fullName) (meter : MeterId)
    {values : List String} {p : String → Bool}
    (hp : ∀ name, values.head? = some name → p name) (jobs : List Job) :
    Recording.under values (recordingsFor meter (jobs.flatMap f)) =
      (jobs.filter fun j => p j.info.fullName).flatMap fun j =>
        Recording.under values (recordingsFor meter (f j)) := by
  rw [recordingsFor_flatMap, Recording.under_flatMap, flatMap_filter]
  refine List.flatMap_congr fun j _ => ?_
  split
  · rfl
  · next hname =>
    refine List.filter_eq_nil_iff.mpr fun r hr hkey => hname (hp _ ?_)
    rw [← beq_iff_eq.mp hkey]
    exact Recording.head_key (hf j r (List.mem_filter.mp hr).1)

/-- Jobs of other names leave nothing under label values that begin with the name of a job. -/
theorem under_recordJobs (hnameable : ∀ other ∈ jobs, other.Nameable) (halone : j.AloneIn jobs)
    (meter : MeterId) {values : List String} (hvalues : values.head? = some j.info.fullName) :
    Recording.under values (recordingsFor meter (recordJobs (.of s) now jobs).notes) =
      Recording.under values (recordingsFor meter (recordJob (.of s) now j).notes) := by
  rw [recordJobs_eq hnameable, under_flatMap_jobs (fun _ _ => head_of_mem_recordJob) meter
    (p := (· == j.info.fullName)) (by simp [hvalues])]
  exact (congrArg (List.flatMap _) halone).trans (List.flatMap_singleton ..)

/-- A gauge shows the last value among the marks that a job alone of its name leaves for it. -/
theorem familyValues_of_marks (hc : c.WellKept) (hjobs : ∀ other ∈ jobs, other.Nameable)
    (halone : j.AloneIn jobs) {planned : PlannedMeter} (hplanned : planned ∈ (JobPlan.of s).all)
    (hgauge : planned.meter.kind.type = .gauge) {marks : List Mark}
    (hmarks : recordingsFor planned.meter (recordJob (.of s) now j).notes =
      marks.map fun mark => ⟨planned.meter, j.labelValues, mark⟩) (stage : List String)
    (hlength : (j.labelValues ++ stage).length = planned.labelNames.length) :
    familyValues (jobFamilies s c now jobs) (planned.meter.name s.nameSpace)
        (j.labelValues ++ stage) =
      ((marks.filter fun mark => mark.extra == stage).filterMap Mark.value).getLast?.toList := by
  rw [familyValues_gauge hc hplanned hgauge hlength, Recording.valuesUnder,
    under_recordJobs hjobs halone planned.meter rfl, ← Recording.valuesUnder, hmarks,
    Recording.valuesUnder_map]

/-- A gauge or a summary names a job that is alone of its name exactly if the job records
anything. -/
theorem exists_named_iff (now : Int64) (hc : c.WellKept) (hjobs : ∀ other ∈ jobs, other.Nameable)
    (halone : j.AloneIn jobs) :
    (∃ f ∈ jobFamilies s c now jobs, f.type ≠ .counter ∧
        ∃ x ∈ f.samples, x.label? s.config.jobLabel = some j.info.fullName) ↔
      (recordJob (.of s) now j).notes ≠ [] := by
  have hhead : ∀ r ∈ (recordJobs (.of s) now jobs).notes, r.values.head?.isSome := by
    intro r hr
    obtain ⟨other, _, hrecorded⟩ := mem_recordJobs hr
    rw [head_of_mem_recordJob hrecorded]
    rfl
  constructor
  · rintro ⟨f, hf, htype, x, hx, hlabel⟩
    obtain ⟨⟨meter, hmeter, rfl⟩, _⟩ := mem_familiesOf.mp hf
    rcases mem_meters.mp hmeter with ⟨planned, hplanned, rfl⟩ | ⟨kind, hkind, hkept⟩
    · obtain ⟨r, hr, hvalue⟩ := (exists_label?_head_iff rfl (planned_of_mem_all hplanned).2.2
        fun r hr => hhead r (List.mem_filter.mp hr).1).mp ⟨x, hx, hlabel⟩
      obtain ⟨other, hother, hrecorded⟩ := mem_recordJobs (List.mem_filter.mp hr).1
      have hname := head_of_mem_recordJob hrecorded
      rw [hvalue, Option.some.injEq] at hname
      rw [halone.eq hother hname.symm] at hrecorded
      exact List.ne_nil_of_mem hrecorded
    · -- the other meters of a scrape are kept counters
      obtain ⟨m, hm, rfl⟩ := List.mem_map.mp (mem_counters.mp hkind).1
      refine absurd ?_ htype
      change meter.descriptor.type = .counter
      rw [(hc.fits hkept).descriptor]
      exact type_counter m hm
  · intro hne
    obtain ⟨r, hr⟩ := List.exists_mem_of_ne_nil _ hne
    obtain ⟨planned, hplanned, hmeter, _⟩ := length_of_mem_recordJob hr
    have hrecorded : r ∈ (recordJobs (.of s) now jobs).notes := by
      rw [recordJobs_eq hjobs]
      exact List.mem_flatMap.mpr ⟨j, halone.mem, hr⟩
    have hmem : r ∈ recordingsFor planned.meter (recordJobs (.of s) now jobs).notes :=
      List.mem_filter.mpr ⟨hrecorded, by simp [hmeter]⟩
    obtain ⟨x, hx, hlabel⟩ := (exists_label?_head_iff (m := s.freshMeter planned) rfl
      (planned_of_mem_all hplanned).2.2 fun r hr => hhead r (List.mem_filter.mp hr).1).mpr
        ⟨r, hmem, head_of_mem_recordJob hr⟩
    refine ⟨_, mem_familiesOf.mpr ⟨⟨_, mem_meters.mpr (.inl ⟨planned, hplanned, rfl⟩), rfl⟩,
      List.ne_nil_of_mem hx⟩, ?_, x, hx, hlabel⟩
    change ((s.freshMeter planned).record _).descriptor.type ≠ _
    rw [Meter.descriptor_record]
    exact type_of_mem_all hplanned

end BuildTelemetry
