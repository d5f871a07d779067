import BuildTelemetry.Proofs.Scrape

/-!
# Suppressed jobs

Where a suppressed job is still named. The gauges, the metrics of builds and the coverage reports
ask the rules about every job, each time. Two paths do not:

1. A kept counter holds the label sets of all jobs that were counted, also of those that a rule came
   to suppress afterwards (`KeepsCount`).
2. The disk usage of jobs is reported without a look at the rules for jobs (`ReportsUsage`).

These are the only ones: a scrape names a sample after a suppressed job exactly if one of the two
paths leads to it (`exists_names_of_scrape_iff`).
-/

namespace BuildTelemetry

open JobPlan (ids)

/-! ## 1. Job labels -/

/-- The label that holds the name of a job in the samples of a metric: the configured one for jobs,
builds and coverage reports, a fixed one for disk usage. Other metrics have none. -/
def Settings.jobLabelOf? (s : Settings) : MetricKind → Option String
  | .build _ => some s.config.jobLabel
  | .job _ => some s.config.jobLabel
  | .coverage _ _ => some s.config.jobLabel
  | .jobUsage => some diskJobLabel
  | _ => none

/-- A sample of a family carries the name of a job as its job label. -/
def Settings.Names (s : Settings) (f : MetricFamily) (x : Sample) (job : String) : Prop :=
  ∃ id ∈ exposedIds, f.name = id.name s.nameSpace ∧
    ∃ label, s.jobLabelOf? id.kind = some label ∧ x.label? label = some job

/-- A metric is shown: neither its qualified name nor its exposed name is suppressed. -/
def Settings.Shows (s : Settings) (kind : MetricKind) : Prop :=
  s.allows kind ∧ s.policy.allowsMetric (kind.exposedName s.nameSpace none)

section Names

variable {s : Settings} {f : MetricFamily} {x : Sample} {job : String} {id : MeterId}

/-- In a family of a known metric it is known which label names a job. -/
theorem Settings.names_iff (hid : id ∈ exposedIds) (hname : f.name = id.name s.nameSpace)
    {label : String} (hlabel : s.jobLabelOf? id.kind = some label) :
    s.Names f x job ↔ x.label? label = some job := by
  constructor
  · rintro ⟨other, hother, hsame, shown, hshown, hvalue⟩
    -- two known metrics of one name are the same
    rw [← MeterId.name_injective s.nameSpace hid hother (hname.symm.trans hsame), hlabel,
      Option.some.injEq] at hshown
    exact hshown ▸ hvalue
  · exact fun hvalue => ⟨id, hid, hname, label, hlabel, hvalue⟩

/-- A metric without a job label names no job. -/
theorem Settings.not_names (hid : id ∈ exposedIds) (hname : f.name = id.name s.nameSpace)
    (hnone : s.jobLabelOf? id.kind = none) : ¬s.Names f x job := by
  rintro ⟨other, hother, hsame, _, hshown, _⟩
  rw [← MeterId.name_injective s.nameSpace hid hother (hname.symm.trans hsame), hnone] at hshown
  cases hshown

end Names

/-- All metrics of a scrape of jobs have the configured job label. -/
theorem jobLabelOf?_of_mem_all {s : Settings} {planned : PlannedMeter}
    (h : planned ∈ (JobPlan.of s).all) :
    s.jobLabelOf? planned.meter.kind = some s.config.jobLabel := by
  have hkind := (planned_of_mem_all h).1
  simp only [plannedKinds, List.mem_cons, List.mem_append, List.mem_map] at hkind
  rcases hkind with heq | ⟨m, _, heq⟩ | ⟨m, _, heq⟩
  · rw [heq]
    rfl
  · rw [← heq]
    rfl
  · rw [← heq]
    rfl

/-! ## 2. Gauges and coverage reports -/

/-- What only jobs that are not suppressed have recorded names no suppressed job. -/
theorem label?_ne_of_denied {s : Settings} {m : Meter} {rs : List Recording}
    (hm : m.series.cells = []) {label : String}
    (hlabel : m.series.labelNames.head? = some label)
    (hrs : ∀ r ∈ rs, ∃ j : Job, s.policy.allowsJob j.info.fullName ∧
      r.values.head? = some j.info.fullName)
    {x : Sample} (hx : x ∈ (m.record rs).family.samples) {job : String}
    (hdenied : s.policy.allowsJob job = false) : x.label? label ≠ some job := by
  intro hvalue
  have hsome : ∀ r ∈ rs, r.values.head?.isSome := by
    intro r hr
    obtain ⟨j, _, hj⟩ := hrs r hr
    rw [hj]
    rfl
  obtain ⟨r, hr, hhead⟩ := (exists_label?_head_iff hm hlabel hsome).mp ⟨x, hx, hvalue⟩
  obtain ⟨j, hallowed, hj⟩ := hrs r hr
  rw [hj, Option.some.injEq] at hhead
  rw [hhead, hdenied] at hallowed
  cases hallowed

/-- What a scrape makes of jobs and their builds names no suppressed job. -/
theorem not_names_of_planned {s : Settings} {now : Int64} {jobs : List Job}
    {planned : PlannedMeter} (hplanned : planned ∈ (JobPlan.of s).all) {x : Sample}
    (hx : x ∈ ((s.freshMeter planned).record
      (recordingsFor planned.meter (recordJobs (.of s) now jobs).notes)).family.samples)
    {job : String} (hdenied : s.policy.allowsJob job = false) :
    ¬s.Names ((s.freshMeter planned).record
      (recordingsFor planned.meter (recordJobs (.of s) now jobs).notes)).family x job := by
  rw [Settings.names_iff (mem_exposedIds_of_mem_all hplanned) (name_planned s _ _)
    (jobLabelOf?_of_mem_all hplanned)]
  refine label?_ne_of_denied rfl (planned_of_mem_all hplanned).2.2 (fun r hr => ?_) hx hdenied
  obtain ⟨j, _, hmem⟩ := mem_recordJobs (List.mem_filter.mp hr).1
  exact ⟨j, (mem_recordJob hmem).2.1, head_of_mem_recordJob hmem⟩

/-- A coverage report names no suppressed job. -/
theorem not_names_of_coverage {s : Settings} {jobs : List Job} {families : List MetricFamily}
    (hok : coverageFamilies s jobs = .ok families) {f : MetricFamily} (hf : f ∈ families)
    {x : Sample} (hx : x ∈ f.samples) {job : String} (hdenied : s.policy.allowsJob job = false) :
    ¬s.Names f x job := by
  unfold coverageFamilies at hok
  split at hok
  · cases hok
    cases hf
  obtain ⟨_, _, rfl⟩ := reading_map_eq_ok.mp hok
  obtain ⟨m, hm, rfl⟩ := List.mem_map.mp hf
  obtain ⟨planned, hplanned, rfl⟩ := List.mem_map.mp hm
  obtain ⟨kind, hkind, _, rfl⟩ := mem_planFor.mp hplanned
  obtain ⟨⟨scope, figure⟩, _, rfl⟩ := List.mem_map.mp hkind
  rw [Settings.names_iff (MeterId.mem_exposedIds (.coverage scope figure)) (name_planned s _ _) rfl]
  refine label?_ne_of_denied rfl rfl (fun r hr => ?_) hx hdenied
  obtain ⟨j, _, hmem⟩ := Journal.mem_notes_each (List.mem_filter.mp hr).1
  refine ⟨j, (mem_recordCoverage hmem).2.1, ?_⟩
  rw [values_of_mem_recordCoverage hmem]
  rfl

/-! ## 3. Kept counters -/

/-- A collection of jobs makes a label set of a job for a counter: it counts a build for the job.
Where the result of the build cannot be read the counting stops behind the first counter. -/
def JobScrape.Touches (x : JobScrape) (kind : MetricKind) (job : String) : Prop :=
  ∃ c ∈ x.waiting, ∃ j, (x.host.completion c).CountsFor x.settings j ∧ j.info.fullName = job ∧
    (BuildAccessor.result ∉ c.failing ∨ x.settings.counters.head? = some kind)

/-- An earlier collection of jobs has made a label set of a job for a counter that is shown. -/
def KeepsCount (log : List JobScrape) (s : Settings) (job : String) : Prop :=
  s.config.countsAnyBuild ∧ ∃ m ∈ buildCounters, s.Shows (.build m) ∧
    ∃ x ∈ log, x.FeedsAsShown s (.build m) ∧ x.Touches (.build m) job

/-- The counters that a build reaches: all of them, or only the first if its result cannot be
read. -/
theorem exists_recording_of_counter {kinds : List MetricKind}
    (hkinds : ∀ kind ∈ kinds, kind ∈ buildCounters.map MetricKind.build) (hnodup : kinds.Nodup)
    {kind : MetricKind} (hkind : kind ∈ kinds) (b : Build) (values : List String) :
    (∃ r ∈ (recordEntity 0 (kinds.map fun kind => ⟨kind, none⟩) (.build b) values).notes,
        r.meter = ⟨kind, none⟩) ↔
      BuildAccessor.result ∉ b.failing ∨ kinds.head? = some kind := by
  by_cases hresult : BuildAccessor.result ∈ b.failing
  · cases kinds with
    | nil => cases hkind
    | cons first rest =>
      obtain ⟨m, hm, rfl⟩ := List.mem_map.mp (hkinds first List.mem_cons_self)
      -- the first counter has made its label set when reading the result ends the counting
      have hstop := measure_counter_of_failing hm hresult
      have hnotes : (recordEntity 0 ((.build m :: rest).map fun kind => ⟨kind, none⟩) (.build b)
          values).notes = [⟨⟨.build m, none⟩, values, ⟨[], none⟩⟩] := by
        rw [recordEntity, List.map_cons, Journal.each, Journal.bind_of_error (e := .failed)]
        · rw [recordAs, hstop]
          rfl
        · rw [recordAs, hstop]
          rfl
      rw [hnotes]
      simp [hresult, eq_comm]
  · have hok : ∀ meter ∈ kinds.map fun kind => (⟨kind, none⟩ : MeterId),
        (meter.kind.measure 0 (.build b)).result = .ok () := by
      intro meter hmeter
      obtain ⟨other, hother, rfl⟩ := List.mem_map.mp hmeter
      obtain ⟨m, hm, rfl⟩ := List.mem_map.mp (hkinds other hother)
      rw [measure_counter_of_readable hm hresult]
    have hmem : (⟨kind, none⟩ : MeterId) ∈ kinds.map fun kind => ⟨kind, none⟩ :=
      List.mem_map_of_mem hkind
    obtain ⟨m, hm, rfl⟩ := List.mem_map.mp (hkinds kind hkind)
    rw [recordEntity_eq hok]
    refine iff_of_true ⟨⟨⟨.build m, none⟩, values, ⟨[], none⟩⟩, ?_, rfl⟩ (.inl hresult)
    refine List.mem_flatMap.mpr ⟨_, hmem, List.mem_map.mpr ⟨⟨[], none⟩, ?_, rfl⟩⟩
    rw [measure_counter_of_readable hm hresult]
    exact List.mem_cons_self

/-- What a collection of jobs records for a counter goes to the jobs of the counted builds. -/
theorem touches_iff {x : JobScrape} {kind : MetricKind} (hkind : kind ∈ x.settings.counters)
    {job : String} :
    (∃ r ∈ recordingsFor ⟨kind, none⟩ x.recordings, r.values.head? = some job) ↔
      x.Touches kind job := by
  have hkinds : ∀ other ∈ x.settings.counters, other ∈ buildCounters.map MetricKind.build :=
    fun other hother => (mem_counters.mp hother).1
  constructor
  · rintro ⟨r, hr, hhead⟩
    obtain ⟨hmem, hmeter⟩ := List.mem_filter.mp hr
    obtain ⟨_, hc, j, hcounts, hentity⟩ := mem_countCompletions.mp hmem
    obtain ⟨c, hwaiting, rfl⟩ := List.mem_map.mp hc
    rw [(mem_recordEntity hentity).2.1] at hhead
    refine ⟨c, hwaiting, j, hcounts, Option.some.inj hhead, ?_⟩
    exact (exists_recording_of_counter hkinds (nodup_counters _) hkind _ _).mp
      ⟨r, hentity, beq_iff_eq.mp hmeter⟩
  · rintro ⟨c, hwaiting, j, hcounts, rfl, hreached⟩
    obtain ⟨r, hentity, hmeter⟩ := (exists_recording_of_counter hkinds (nodup_counters _) hkind
      (x.host.completion c).build j.labelValues).mpr hreached
    refine ⟨r, List.mem_filter.mpr ⟨?_, beq_iff_eq.mpr hmeter⟩, ?_⟩
    · exact mem_countCompletions.mpr ⟨_, List.mem_map_of_mem hwaiting, j, hcounts, hentity⟩
    · rw [(mem_recordEntity hentity).2.1]
      rfl

/-- The samples of a kept counter name the jobs for which a collection of jobs has made a label
set. -/
theorem exists_names_of_kept_iff (log : List JobScrape) (s : Settings) {m : BuildMetric}
    (hm : m ∈ buildCounters) {job : String} :
    (∃ x ∈ (JobScrape.shownMeter log s m).family.samples,
        s.Names (JobScrape.shownMeter log s m).family x job) ↔
      ∃ x ∈ log, x.FeedsAsShown s (.build m) ∧ x.Touches (.build m) job := by
  have hnames : ∀ x, s.Names (JobScrape.shownMeter log s m).family x job ↔
      x.label? s.config.jobLabel = some job :=
    fun x => Settings.names_iff (MeterId.mem_exposedIds (.build m))
      (JobScrape.name_shownMeter log s m) rfl
  have hmem : ∀ r, r ∈ JobScrape.recordedFor (s.counterKey (.build m)) log ↔
      ∃ x ∈ log, x.FeedsAsShown s (.build m) ∧
        r ∈ recordingsFor ⟨.build m, none⟩ x.recordings := by
    intro r
    simp only [JobScrape.recordedFor, List.mem_flatMap, List.mem_filter,
      JobScrape.feeds_counterKey_iff hm, and_assoc]
    rfl
  have hhead : ∀ r ∈ JobScrape.recordedFor (s.counterKey (.build m)) log,
      r.values.head?.isSome := by
    intro r hr
    obtain ⟨x, _, _, hx⟩ := (hmem r).mp hr
    obtain ⟨_, _, j, _, hentity⟩ := mem_countCompletions.mp (List.mem_filter.mp hx).1
    rw [(mem_recordEntity hentity).2.1]
    rfl
  simp only [hnames]
  rw [JobScrape.shownMeter, exists_label?_head_iff rfl rfl hhead]
  constructor
  · rintro ⟨r, hr, hvalue⟩
    obtain ⟨x, hxlog, hfeeds, hx⟩ := (hmem r).mp hr
    have hcounter : .build m ∈ x.settings.counters :=
      mem_counters.mpr ⟨List.mem_map_of_mem hm, hfeeds.2.2.2⟩
    exact ⟨x, hxlog, hfeeds, (touches_iff hcounter).mp ⟨r, hx, hvalue⟩⟩
  · rintro ⟨x, hxlog, hfeeds, htouches⟩
    have hcounter : .build m ∈ x.settings.counters :=
      mem_counters.mpr ⟨List.mem_map_of_mem hm, hfeeds.2.2.2⟩
    obtain ⟨r, hx, hvalue⟩ := (touches_iff hcounter).mpr htouches
    exact ⟨r, (hmem r).mpr ⟨x, hxlog, hfeeds, hx⟩, hvalue⟩

/-- A collection of jobs names a suppressed job exactly if an earlier one has counted it. -/
theorem exists_names_of_jobs_iff {e : Exporter} {log : List JobScrape} (h : e.Remembers log)
    {now : Int64} {families : List MetricFamily} (hok : (e.collectJobs now).2 = .ok families)
    {job : String} (hdenied : e.active.load.policy.allowsJob job = false) :
    (∃ f ∈ families, isExposed (some e.active.load) f ∧
        ∃ x ∈ f.samples, e.active.load.Names f x job) ↔ KeepsCount log e.active.load job := by
  have hafter := h.collectJobs now
  -- the collection itself counts nothing for the job
  have hearlier {m : BuildMetric} {x : JobScrape} (hx : x ∈ log ++ [e.jobScrape])
      (htouches : x.Touches (.build m) job) : x ∈ log := by
    rcases List.mem_append.mp hx with hx | hx
    · exact hx
    · rw [List.mem_singleton.mp hx] at htouches
      obtain ⟨_, _, j, hcounts, rfl, _⟩ := htouches
      have hallowed := hcounts.allowed
      rw [show e.jobScrape.settings = e.active.load from rfl, hdenied] at hallowed
      cases hallowed
  constructor
  · rintro ⟨f, hf, hexposed, x, hx, hnames⟩
    by_cases hcounts : e.active.load.config.countsAnyBuild
    · rw [Exporter.result_collectJobs now hcounts] at hok
      obtain ⟨_, _, rfl⟩ := reading_map_eq_ok.mp hok
      obtain ⟨⟨meter, hmeter, rfl⟩, _⟩ := mem_familiesOf.mp hf
      rcases mem_meters.mp hmeter with ⟨planned, hplanned, rfl⟩ | ⟨kind, hkind, hmeter⟩
      · exact absurd hnames (not_names_of_planned hplanned hx hdenied)
      · obtain ⟨m, hm, rfl⟩ := List.mem_map.mp (mem_counters.mp hkind).1
        rw [h.meter?_collectJobs now hcounts hkind] at hmeter
        cases hmeter
        obtain ⟨y, hy, hfed, htouches⟩ := (exists_names_of_kept_iff _ _ hm).mp ⟨x, hx, hnames⟩
        have hallowed := (isExposed_iff.mp hexposed).2
        rw [Meter.family, JobScrape.name_shownMeter] at hallowed
        exact ⟨hcounts, m, hm, ⟨(mem_counters.mp hkind).2, hallowed⟩, y, hearlier hy htouches, hfed,
          htouches⟩
    · rw [Exporter.result_collectJobs_of_not_counts now hcounts] at hok
      cases hok
      cases hf
  · rintro ⟨hcounts, m, hm, ⟨hallows, hallowed⟩, y, hy, hfed, htouches⟩
    have hkind : .build m ∈ e.active.load.counters :=
      mem_counters.mpr ⟨List.mem_map_of_mem hm, hallows⟩
    obtain ⟨x, hx, hnames⟩ := (exists_names_of_kept_iff (log ++ [e.jobScrape]) _ hm).mpr
      ⟨y, List.mem_append_left _ hy, hfed, htouches⟩
    have hsamples :
        (JobScrape.shownMeter (log ++ [e.jobScrape]) e.active.load m).family.samples ≠ [] :=
      List.ne_nil_of_mem hx
    rw [Exporter.result_collectJobs now hcounts] at hok
    obtain ⟨_, _, rfl⟩ := reading_map_eq_ok.mp hok
    refine ⟨_, mem_familiesOf.mpr ⟨⟨_, mem_meters.mpr
      (.inr ⟨_, hkind, h.meter?_collectJobs now hcounts hkind⟩), rfl⟩, hsamples⟩, ?_, x, hx, hnames⟩
    refine isExposed_iff.mpr ⟨hsamples, ?_⟩
    rw [Meter.family, JobScrape.name_shownMeter]
    exact hallowed

/-! ## 4. Disk usage -/

/-- The disk usage of jobs is shown, and the job is in it. -/
def ReportsUsage (s : Settings) (disk : Option DiskUsage) (job : String) : Prop :=
  s.config.collectDiskUsage ∧ s.Shows .jobUsage ∧
    ∃ usage, disk = some usage ∧ ∃ item ∈ usage.jobs, item.jobName = job ∧ item.usageKiB.isSome

/-- Reports whose metrics have no job label name no job. -/
theorem not_names_of_unlabelled {s : Settings} {kinds : List MetricKind} {names : List String}
    (hkinds : ∀ kind ∈ kinds, s.jobLabelOf? kind = none) {recordings : List Recording}
    {f : MetricFamily} (hf : f ∈ (s.meters (s.planFor kinds names) recordings).map Meter.family)
    {x : Sample} {job : String} : ¬s.Names f x job := by
  obtain ⟨m, hm, rfl⟩ := List.mem_map.mp hf
  obtain ⟨planned, hplanned, rfl⟩ := List.mem_map.mp hm
  obtain ⟨kind, hkind, _, rfl⟩ := mem_planFor.mp hplanned
  exact Settings.not_names (MeterId.mem_exposedIds kind) (name_planned s _ _) (hkinds kind hkind)

/-- Every entry of the disk usage of jobs that has a size is recorded, whatever the rules say about
its job. -/
theorem mem_recordJobUsage {items : List JobUsage} {r : Recording} :
    r ∈ (Journal.each (recordJobUsage [⟨.jobUsage, none⟩]) items).notes ↔
      ∃ item ∈ items, ∃ kib, item.usageKiB = some kib ∧
        r = ⟨⟨.jobUsage, none⟩, [item.fileStore, item.jobName, item.url],
          ⟨[], some (kibiBytes kib)⟩⟩ := by
  have heach : ∀ item : JobUsage, recordJobUsage [⟨.jobUsage, none⟩] item =
      ⟨item.usageKiB.toList.map fun kib => ⟨⟨.jobUsage, none⟩,
        [item.fileStore, item.jobName, item.url], ⟨[], some (kibiBytes kib)⟩⟩, .ok ()⟩ := by
    intro item
    obtain ⟨store, name, url, usage⟩ := item
    cases usage <;> rfl
  rw [Journal.notes_each fun item _ => by rw [heach], List.mem_flatMap]
  refine exists_congr fun item => and_congr_right fun _ => ?_
  rw [heach, List.mem_map]
  simp only [Option.mem_toList, eq_comm]

/-- The meter of the disk usage of jobs. -/
def usageMeter (s : Settings) (items : List JobUsage) : Meter :=
  (s.freshMeter ⟨⟨.jobUsage, none⟩, [storeLabel, diskJobLabel, urlLabel]⟩).record
    (recordingsFor ⟨.jobUsage, none⟩
      (Journal.each (recordJobUsage [⟨.jobUsage, none⟩]) items).notes)

theorem name_usageMeter (s : Settings) (items : List JobUsage) :
    (usageMeter s items).descriptor.name = (⟨.jobUsage, none⟩ : MeterId).name s.nameSpace :=
  name_planned s _ _

/-- The disk usage of jobs names those whose size is known. -/
theorem exists_names_of_usageMeter {s : Settings} {items : List JobUsage} {job : String} :
    (∃ x ∈ (usageMeter s items).family.samples, s.Names (usageMeter s items).family x job) ↔
      ∃ item ∈ items, item.jobName = job ∧ item.usageKiB.isSome := by
  have hnames : ∀ x, s.Names (usageMeter s items).family x job ↔
      x.label? diskJobLabel = some job :=
    fun x => Settings.names_iff (MeterId.mem_exposedIds .jobUsage) (name_usageMeter s items) rfl
  have hmem : ∀ r, r ∈ recordingsFor ⟨.jobUsage, none⟩
      (Journal.each (recordJobUsage [⟨.jobUsage, none⟩]) items).notes ↔
        ∃ item ∈ items, ∃ kib, item.usageKiB = some kib ∧
          r = ⟨⟨.jobUsage, none⟩, [item.fileStore, item.jobName, item.url],
            ⟨[], some (kibiBytes kib)⟩⟩ := by
    intro r
    rw [recordingsFor, List.mem_filter, mem_recordJobUsage, and_iff_left_of_imp]
    rintro ⟨item, _, kib, _, rfl⟩
    exact beq_self_eq_true _
  simp only [hnames]
  rw [usageMeter, exists_label?_iff (fun r => r.values[1]?) rfl]
  · constructor
    · rintro ⟨r, hr, hvalue⟩
      obtain ⟨item, hitem, kib, hkib, rfl⟩ := (hmem r).mp hr
      exact ⟨item, hitem, Option.some.inj hvalue, by rw [hkib]; rfl⟩
    · rintro ⟨item, hitem, rfl, hsome⟩
      obtain ⟨kib, hkib⟩ := Option.isSome_iff_exists.mp hsome
      exact ⟨_, (hmem _).mpr ⟨item, hitem, kib, hkib, rfl⟩, rfl⟩
  · intro r hr
    obtain ⟨item, _, kib, _, rfl⟩ := (hmem r).mp hr
    exact ⟨rfl, rfl⟩

/-- The families of the disk usage of jobs. -/
theorem storagePartFamilies_jobUsage (s : Settings) (items : List JobUsage) :
    storagePartFamilies s (s.planFor [.jobUsage] [storeLabel, diskJobLabel, urlLabel])
        recordJobUsage items =
      if s.allows .jobUsage then [(usageMeter s items).family] else [] := by
  unfold storagePartFamilies
  by_cases hallows : s.allows .jobUsage
  · have hplan : s.planFor [.jobUsage] [storeLabel, diskJobLabel, urlLabel] =
        [⟨⟨.jobUsage, none⟩, [storeLabel, diskJobLabel, urlLabel]⟩] := by
      simp [Settings.planFor, hallows]
    rw [hplan, if_pos hallows]
    rfl
  · have hplan : s.planFor [.jobUsage] [storeLabel, diskJobLabel, urlLabel] = [] := by
      simp [Settings.planFor, hallows]
    rw [hplan, if_neg hallows]
    rfl

/-- The reports about storage name a job exactly if the disk usage of jobs does. -/
theorem exists_names_of_storage_iff {s : Settings} {disk : Option DiskUsage} {job : String} :
    (∃ f ∈ storageFamilies s disk, isExposed (some s) f ∧ ∃ x ∈ f.samples, s.Names f x job) ↔
      ReportsUsage s disk job := by
  constructor
  · rintro ⟨f, hf, hexposed, x, hx, hnames⟩
    unfold storageFamilies at hf
    split at hf
    · cases hf
    next hcollect =>
    cases disk with
    | none => cases hf
    | some usage =>
      rw [List.mem_append, List.mem_append, storagePartFamilies_jobUsage] at hf
      rcases hf with (hf | hf) | hf
      · refine absurd hnames (not_names_of_unlabelled ?_ hf)
        simp [Settings.jobLabelOf?]
      · split at hf
        · next hallows =>
          cases List.mem_singleton.mp hf
          have hallowed := (isExposed_iff.mp hexposed).2
          rw [Meter.family, name_usageMeter] at hallowed
          exact ⟨by simpa using hcollect, ⟨hallows, hallowed⟩, usage, rfl,
            exists_names_of_usageMeter.mp ⟨x, hx, hnames⟩⟩
        · cases hf
      · refine absurd hnames (not_names_of_unlabelled ?_ hf)
        simp [Settings.jobLabelOf?]
  · rintro ⟨hcollect, ⟨hallows, hallowed⟩, usage, rfl, hitem⟩
    obtain ⟨x, hx, hnames⟩ := (exists_names_of_usageMeter (s := s)).mpr hitem
    refine ⟨(usageMeter s usage.jobs).family, ?_, ?_, x, hx, hnames⟩
    · rw [storageFamilies, if_neg (by simp [hcollect])]
      refine List.mem_append_left _ (List.mem_append_right _ ?_)
      rw [storagePartFamilies_jobUsage, if_pos hallows]
      exact List.mem_singleton_self _
    · refine isExposed_iff.mpr ⟨List.ne_nil_of_mem hx, ?_⟩
      rw [Meter.family, name_usageMeter]
      exact hallowed

/-! ## 5. Scrapes -/

/-- The collectors of an exporter. -/
def everyCollector : List Collector := [.jobs, .coverage, .executors, .storage, .status]

/-- Each collector of an exporter, in any order. -/
def Complete (collectors : List Collector) : Prop := collectors.Perm everyCollector

instance (collectors : List Collector) : Decidable (Complete collectors) :=
  inferInstanceAs (Decidable (List.Perm _ _))

theorem Complete.nodup {collectors : List Collector} (h : Complete collectors) :
    collectors.Nodup :=
  h.nodup_iff.mpr (by decide)

theorem Complete.mem {collectors : List Collector} (h : Complete collectors) (c : Collector) :
    c ∈ collectors := by
  refine h.mem_iff.mpr ?_
  cases c <;> decide

/-- A scrape names a suppressed job exactly if a kept counter or the disk usage does. -/
theorem exists_names_of_scrape_iff {e : Exporter} {log : List JobScrape} (h : e.Remembers log)
    {now : Int64} {collectors : List Collector} (hcomplete : Complete collectors)
    {families : List MetricFamily} (hscrape : (e.scrape collectors now).2 = .ok families)
    {job : String} (hdenied : e.active.load.policy.allowsJob job = false) :
    (∃ f ∈ families, ∃ x ∈ f.samples, e.active.load.Names f x job) ↔
      KeepsCount log e.active.load job ∨ ReportsUsage e.active.load e.host.report.disk job := by
  obtain ⟨hok, rfl⟩ := (Exporter.scrape_eq_ok hcomplete.nodup).mp hscrape
  have hjobs : (e.collectJobs now).2 = .ok (e.familiesFrom now .jobs) :=
    hok .jobs (hcomplete.mem .jobs)
  have hstorage : e.familiesFrom now .storage = storageFamilies e.active.load e.host.report.disk :=
    Exporter.familiesFrom_eq rfl
  rw [← exists_names_of_jobs_iff h hjobs hdenied, ← exists_names_of_storage_iff, ← hstorage]
  constructor
  · rintro ⟨f, hf, x, hx, hnames⟩
    obtain ⟨hmem, hexposed⟩ := List.mem_filter.mp hf
    obtain ⟨c, _, hfrom⟩ := List.mem_flatMap.mp hmem
    cases c with
    | jobs => exact .inl ⟨f, hfrom, hexposed, x, hx, hnames⟩
    | storage => exact .inr ⟨f, hfrom, hexposed, x, hx, hnames⟩
    | coverage =>
      exact absurd hnames (not_names_of_coverage (hok _ (hcomplete.mem .coverage)) hfrom hx hdenied)
    | executors =>
      rw [Exporter.familiesFrom_eq rfl] at hfrom
      refine absurd hnames (not_names_of_unlabelled ?_ hfrom)
      simp [Settings.jobLabelOf?]
    | status =>
      rw [Exporter.familiesFrom_eq rfl, statusFamilies, Settings.meters, statusPlan,
        List.map_append, List.map_append, List.mem_append] at hfrom
      rcases hfrom with hfrom | hfrom
      · refine absurd hnames (not_names_of_unlabelled ?_ hfrom)
        simp [Settings.jobLabelOf?]
      · refine absurd hnames (not_names_of_unlabelled ?_ hfrom)
        simp [Settings.jobLabelOf?]
  · rintro (⟨f, hfrom, hexposed, hnames⟩ | ⟨f, hfrom, hexposed, hnames⟩)
    · exact ⟨f, List.mem_filter.mpr
        ⟨List.mem_flatMap.mpr ⟨.jobs, hcomplete.mem _, hfrom⟩, hexposed⟩, hnames⟩
    · exact ⟨f, List.mem_filter.mpr
        ⟨List.mem_flatMap.mpr ⟨.storage, hcomplete.mem _, hfrom⟩, hexposed⟩, hnames⟩

/-- The settings of an operator who suppresses the job `a` and configures nothing else. -/
def withoutJobA : Settings where
  config := { Config.initial with rules := [.jobPattern "a"] }
  nameSpace := fallbackNameSpace
  policy := ⟨[.jobPattern (.seq (.look .textStart) (.seq (.set ⟨[(97, 97)]⟩) (.look .textEnd)))]⟩

theorem of_withoutJobA : Settings.of none withoutJobA.config = .ok withoutJobA := by
  have hcompile : Policy.compile withoutJobA.config.rules = .ok withoutJobA.policy := by
    decide +kernel
  have hperiod : withoutJobA.config.period ≠ 0 := by decide
  have hquantiles : firstOutOfRange? withoutJobA.config.quantiles = none := rfl
  rw [Settings.of, if_neg hperiod, hquantiles, hcompile]
  rfl

/-- A host with the job `a` alone, which has one build. -/
def hostOfJobA : Host := ⟨[⟨0, .plain "a" [.plain 1]⟩], [], .initial⟩

theorem not_allowsJob_withoutJobA : withoutJobA.policy.allowsJob "a" = false := by
  decide +kernel

/-- After every history, whether or not the host fails, a scrape names no sample after a suppressed
job exactly if no earlier collection has counted the job for a counter that is shown now, and if the
disk usage of jobs is not shown or does not mention the job. -/
theorem names_no_suppressed_job_iff (active : ActiveSettings) (host : Host) (events : List Event)
    (now : Int64) {collectors : List Collector} (hcomplete : Complete collectors)
    {families : List MetricFamily}
    (hscrape : (((Exporter.start active host).run events).scrape collectors now).2 = .ok families)
    {job : String}
    (hdenied : ((Exporter.start active host).run events).active.load.policy.allowsJob job = false) :
    let e := (Exporter.start active host).run events
    let s := e.active.load
    (∀ f ∈ families, ∀ x ∈ f.samples, ¬s.Names f x job) ↔
      ¬KeepsCount ((Exporter.start active host).jobScrapes events) s job ∧
        ¬ReportsUsage s e.host.report.disk job := by
  intro e s
  have hnames := exists_names_of_scrape_iff (Exporter.remembers_run active host events) hcomplete
    hscrape hdenied
  rw [← not_or, ← hnames]
  simp only [not_exists, not_and]
  exact Iff.rfl

/-- Where the job `a` was suppressed before its build completed, it is not named. -/
theorem names_no_suppressed_job_iff_before_completion :
    ∃ families, (((Exporter.start (.empty none) hostOfJobA).run
        [.store withoutJobA, .complete (.plain 1), .scrape everyCollector 0]).scrape
          everyCollector 0).2 = .ok families ∧
      ∀ f ∈ families, ∀ x ∈ f.samples, ¬withoutJobA.Names f x "a" := by
  let before := (Exporter.start (.empty none) hostOfJobA).run
    [.store withoutJobA, .complete (.plain 1)]
  obtain ⟨hactive, hhost⟩ := before.active_host_scrape everyCollector 0
  have hload : (before.scrape everyCollector 0).1.active.load = withoutJobA := by
    rw [hactive]
    rfl
  obtain ⟨families, hscrape⟩ := Exporter.scrape_of_nameable
    (e := (before.scrape everyCollector 0).1) (by rw [hhost]; decide) 0
    (Complete.nodup (.refl everyCollector))
  have hiff := names_no_suppressed_job_iff (.empty none) hostOfJobA
    [.store withoutJobA, .complete (.plain 1), .scrape everyCollector 0] 0 (.refl _) hscrape
    (hload ▸ not_allowsJob_withoutJobA)
  have hlog : (Exporter.start (.empty none) hostOfJobA).jobScrapes
      [.store withoutJobA, .complete (.plain 1), .scrape everyCollector 0] =
        [before.jobScrape] := by
    change Exporter.jobScrapesWithin 0 before everyCollector ++ [] = _
    rw [everyCollector, Exporter.jobScrapesWithin_jobs (by decide), List.append_nil]
  refine ⟨families, hscrape, hload ▸ hiff.mpr ⟨?_, ?_⟩⟩
  · rintro ⟨_, m, _, _, x, hx, _, c, _, j, hcounts, hname, _⟩
    rw [hlog, List.mem_singleton] at hx
    subst hx
    have hallowed : withoutJobA.policy.allowsJob j.info.fullName := hcounts.allowed
    rw [hname, not_allowsJob_withoutJobA] at hallowed
    cases hallowed
  · rintro ⟨_, _, usage, hdisk, _⟩
    change (before.scrape everyCollector 0).1.host.report.disk = some usage at hdisk
    rw [hhost] at hdisk
    cases hdisk

/-- A job was counted while it was not suppressed, and still is shown by all counters afterwards. -/
theorem suppressed_job_still_counted :
    Settings.of none withoutJobA.config = .ok withoutJobA ∧
      withoutJobA.policy.allowsJob "a" = false ∧
      ∃ families, (((Exporter.start (.empty none) hostOfJobA).run
          [.complete (.plain 1), .scrape everyCollector 0, .store withoutJobA]).scrape
            everyCollector 0).2 = .ok families ∧
        ∃ f ∈ families, ∃ x ∈ f.samples, withoutJobA.Names f x "a" := by
  let before := (Exporter.start (.empty none) hostOfJobA).run [.complete (.plain 1)]
  let e := (before.scrape everyCollector 0).1.step (.store withoutJobA)
  have hhost : e.host = hostOfJobA := (before.active_host_scrape everyCollector 0).2
  obtain ⟨families, hscrape⟩ := Exporter.scrape_of_nameable (e := e) (by rw [hhost]; decide) 0
    (Complete.nodup (.refl everyCollector))
  refine ⟨of_withoutJobA, not_allowsJob_withoutJobA, families, hscrape, ?_⟩
  have hremembers := Exporter.remembers_run (.empty none) hostOfJobA
    [.complete (.plain 1), .scrape everyCollector 0, .store withoutJobA]
  have hlog : (Exporter.start (.empty none) hostOfJobA).jobScrapes
      [.complete (.plain 1), .scrape everyCollector 0, .store withoutJobA] =
        [before.jobScrape] := by
    change Exporter.jobScrapesWithin 0 before everyCollector ++ [] = _
    rw [everyCollector, Exporter.jobScrapesWithin_jobs (by decide), List.append_nil]
  rw [hlog] at hremembers
  refine (exists_names_of_scrape_iff hremembers (.refl _) hscrape not_allowsJob_withoutJobA).mpr
    (.inl ?_)
  refine ⟨by decide, .successes, by decide, ⟨by decide, by decide⟩, _, List.mem_singleton_self _,
    by decide, .plain 1, List.mem_singleton_self _, .plain "a" [.plain 1], ?_, rfl,
    .inl (by decide)⟩
  exact ⟨rfl, by decide, by decide, by decide⟩

end BuildTelemetry
