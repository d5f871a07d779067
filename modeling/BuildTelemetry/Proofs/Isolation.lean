import BuildTelemetry.Proofs.JobFamilies

/-!
# Jobs do not disturb each other

Two hosts that have the same jobs of other names show the same apart from one name, whatever fails
on the jobs of this name, and whether or not they are there.

1. A meter shows each cell under its own label values, so recordings that agree apart from a name
   leave the same samples apart from it (`Meter.off_record_eq`).
2. All that a job records, and all that its completed builds count, goes to label values that begin
   with its name (`under_flatMap_off`, `under_countCompletions_off`). A failure of the host cuts off
   what the job still had to record, and nothing else.
3. So a collection of jobs shows the same apart from the name (`shownOff_jobFamilies`), and so does
   one of coverage reports (`off_coverageFamilies`).
-/

namespace BuildTelemetry

open Recording (under)

/-! ## 1. What is shown apart from a name -/

/-- The samples of a family whose first label value is not a name. -/
def MetricFamily.off (name : String) (f : MetricFamily) : MetricFamily :=
  { f with samples := f.samples.filter fun x => x.labelValues.head? != some name }

/-- Families without the samples of a name. Families that have no other samples are left out. -/
def shownOff (name : String) (families : List MetricFamily) : List MetricFamily :=
  (families.map (MetricFamily.off name)).filter fun f => !f.isEmpty

/-- Leaving families without samples out does not matter to what is shown apart from a name. -/
theorem shownOff_familiesOf (name : String) (meters : List Meter) :
    shownOff name (familiesOf meters) =
      (meters.map fun m => m.family.off name).filter fun f => !f.isEmpty := by
  unfold shownOff familiesOf
  induction meters with
  | nil => rfl
  | cons m ms ih =>
    rw [List.map_cons, List.map_cons, List.filter_cons]
    split
    · rw [List.map_cons, List.filter_cons, List.filter_cons, ih]
    · next hempty =>
      have hsamples : m.family.samples = [] := by
        simpa [MetricFamily.isEmpty] using hempty
      have hoff : (m.family.off name).isEmpty = true := by
        simp [MetricFamily.off, MetricFamily.isEmpty, hsamples]
      rw [List.filter_cons, hoff, ih]
      rfl

namespace Meter

/-- The first label value of a sample is the first one of its cell. -/
theorem head_labelValues {i : Instrument} {name : String} {labelNames key : List String}
    {x : Sample} (hlength : key.length = labelNames.length) (hne : labelNames ≠ [])
    (h : x ∈ Exposable.samples i name (labelNames.zip key)) :
    x.labelValues.head? = key.head? := by
  have hzip : (labelNames.zip key).map Prod.snd = key := List.map_snd_zip hlength.le
  rcases labels_of_mem_samples h with hlabels | ⟨_, q, _, hlabels⟩
  · rw [Sample.labelValues, hlabels, hzip]
  · -- the quantile of a summary stands behind the label values of its cell
    rw [Sample.labelValues, hlabels, List.map_append, hzip]
    cases key with
    | nil => exact absurd (List.length_eq_zero_iff.mp hlength.symm) hne
    | cons first rest => rfl

/-- Apart from a name a meter shows its cells of other first label values. -/
theorem samples_off {m : Meter} (hsized : m.Sized) (hne : m.series.labelNames ≠ [])
    (name : String) :
    (m.family.off name).samples =
      (m.series.cells.filter fun cell => cell.1.head? != some name).flatMap fun cell =>
        Exposable.samples cell.2 m.descriptor.name (m.series.labelNames.zip cell.1) := by
  change (m.series.cells.flatMap _).filter _ = _
  rw [List.filter_flatMap, flatMap_filter]
  refine List.flatMap_congr fun cell hcell => ?_
  have hhead : ∀ x ∈ Exposable.samples cell.2 m.descriptor.name
      (m.series.labelNames.zip cell.1), x.labelValues.head? = cell.1.head? :=
    fun x hx => head_labelValues (hsized cell hcell) hne hx
  split
  · next hkept =>
    refine List.filter_eq_self.mpr fun x hx => ?_
    rw [hhead x hx]
    exact hkept
  · next hdropped =>
    refine List.filter_eq_nil_iff.mpr fun x hx => ?_
    rw [hhead x hx]
    exact hdropped

/-- Recordings that agree apart from a name leave meters that show the same apart from it. -/
theorem off_record_eq {m : Meter} {rs ts : List Recording} {name : String}
    (hrs : (m.record rs).Sized) (hts : (m.record ts).Sized) (hne : m.series.labelNames ≠ [])
    (h : ∀ values, values.head? ≠ some name → under values rs = under values ts) :
    (m.record rs).family.off name = (m.record ts).family.off name := by
  have hcells : ((m.record rs).series.cells.filter fun cell => cell.1.head? != some name) =
      (m.record ts).series.cells.filter fun cell => cell.1.head? != some name := by
    refine Series.filter_cells_eq (fun key => key.head? != some name) fun values hvalues => ?_
    exact get?_record_congr (h values (by simpa using hvalues))
  have hsamples : ((m.record rs).family.off name).samples =
      ((m.record ts).family.off name).samples := by
    rw [samples_off hrs (by rwa [labelNames_record]), samples_off hts (by rwa [labelNames_record]),
      hcells]
    simp only [labelNames_record, descriptor_record]
  unfold MetricFamily.off at hsamples ⊢
  simp only [Meter.family, descriptor_record] at hsamples ⊢
  rw [hsamples]

end Meter

/-! ## 2. Hosts that agree apart from a name -/

/-- The job has another name. -/
def Job.isOff (name : String) (j : Job) : Bool := j.info.fullName != name

/-- Two hosts have the same jobs of other names, in the same order and under the same numbers. -/
structure Host.AgreeOff (name : String) (h h' : Host) : Prop where
  jobs : h.jobs.filter (Job.isOff name) = h'.jobs.filter (Job.isOff name)
  numbers : ∀ id, (h.job? id).filter (Job.isOff name) = (h'.job? id).filter (Job.isOff name)

variable {name : String} {s : Settings} {now : Int64} {h h' : Host} {c : CounterCache}

/-- Where no number is taken twice, it leads to the job that has it. -/
theorem Host.job?_eq_some_iff (hids : (h.existing.map HostedJob.id).Nodup) {id : Nat} {j : Job} :
    h.job? id = some j ↔ ⟨id, j⟩ ∈ h.existing := by
  unfold Host.job?
  rw [Option.map_eq_some_iff]
  constructor
  · rintro ⟨found, hfind, rfl⟩
    have hid : found.id = id := by simpa using List.find?_some hfind
    exact hid ▸ List.mem_of_find?_eq_some hfind
  · intro hmem
    obtain ⟨found, hfind⟩ : ∃ found,
        h.existing.find? (fun hosted => hosted.id == id) = some found :=
      Option.isSome_iff_exists.mp (List.find?_isSome.mpr ⟨_, hmem, beq_self_eq_true id⟩)
    have hid : found.id = id := by simpa using List.find?_some hfind
    have hsame : found = ⟨id, j⟩ :=
      List.inj_on_of_nodup_map hids (List.mem_of_find?_eq_some hfind) hmem hid
    exact ⟨found, hfind, by rw [hsame]⟩

/-- Hosts in which no number is taken twice agree apart from a name if their listed and unlisted
jobs do. -/
theorem Host.agreeOff_of_existing (hids : (h.existing.map HostedJob.id).Nodup)
    (hids' : (h'.existing.map HostedJob.id).Nodup)
    (hlisted : (h.hosted.filter fun hosted => hosted.job.isOff name) =
      h'.hosted.filter fun hosted => hosted.job.isOff name)
    (hunlisted : (h.unlisted.filter fun hosted => hosted.job.isOff name) =
      h'.unlisted.filter fun hosted => hosted.job.isOff name) : h.AgreeOff name h' where
  jobs := by
    have hmap (host : Host) : host.jobs.filter (Job.isOff name) =
        (host.hosted.filter fun hosted => hosted.job.isOff name).map HostedJob.job :=
      List.filter_map ..
    rw [hmap, hmap, hlisted]
  numbers id := by
    refine Option.ext fun j => ?_
    rw [Option.filter_eq_some_iff, Option.filter_eq_some_iff, Host.job?_eq_some_iff hids,
      Host.job?_eq_some_iff hids']
    have hmem : (⟨id, j⟩ : HostedJob) ∈ (h.existing.filter fun hosted => hosted.job.isOff name) ↔
        (⟨id, j⟩ : HostedJob) ∈ h'.existing.filter fun hosted => hosted.job.isOff name := by
      rw [existing, existing, List.filter_append, List.filter_append, hlisted, hunlisted]
    rwa [List.mem_filter, List.mem_filter] at hmem

/-- If all recordings of a job begin with its name, jobs that agree apart from a name leave the same
under all other label values. -/
theorem under_flatMap_off {f : Job → List Recording}
    (hf : ∀ j, ∀ r ∈ f j, r.values.head? = some j.info.fullName) (meter : MeterId)
    {values : List String} (hvalues : values.head? ≠ some name) (hagree : h.AgreeOff name h') :
    under values (recordingsFor meter (h.jobs.flatMap f)) =
      under values (recordingsFor meter (h'.jobs.flatMap f)) := by
  have hother : ∀ first, values.head? = some first → (first != name) = true := by
    intro first hfirst
    refine bne_iff_ne.mpr fun heq => hvalues ?_
    rw [hfirst, heq]
  rw [under_flatMap_jobs hf meter hother, under_flatMap_jobs hf meter hother]
  exact congrArg (List.flatMap _) hagree.jobs

/-- Jobs record the same apart from a name that only other jobs have. -/
theorem under_recordJobs_off (hagree : h.AgreeOff name h') (hjobs : ∀ j ∈ h.jobs, j.Nameable)
    (hjobs' : ∀ j ∈ h'.jobs, j.Nameable) (meter : MeterId) {values : List String}
    (hvalues : values.head? ≠ some name) :
    under values (recordingsFor meter (recordJobs (.of s) now h.jobs).notes) =
      under values (recordingsFor meter (recordJobs (.of s) now h'.jobs).notes) := by
  rw [recordJobs_eq hjobs, recordJobs_eq hjobs']
  exact under_flatMap_off (fun _ _ => head_of_mem_recordJob) meter hvalues hagree

/-- A completed build of a job of a name, or of one that is gone, counts for no other name. -/
theorem under_countCompletion_eq_nil {b : Build}
    (hnone : (h.job? b.jobId).filter (Job.isOff name) = none) (counters : List MetricKind)
    (meter : MeterId) {values : List String} (hvalues : values.head? ≠ some name) :
    under values
      (recordingsFor meter (countCompletion s counters (h.completion b)).notes) = [] := by
  refine List.filter_eq_nil_iff.mpr fun r hr hkey => hvalues ?_
  by_cases hcounts : ∃ j, (h.completion b).CountsFor s j
  · obtain ⟨j, hj⟩ := hcounts
    have hparent : h.job? b.jobId = some j := (readThrough_eq_ok.mp hj.parent).2
    have hname : j.info.fullName = name := by
      rw [hparent] at hnone
      simpa [Job.isOff] using hnone
    rw [countCompletion_eq hj] at hr
    have hhead := (mem_recordEntity (List.mem_filter.mp hr).1).2.1
    rw [← beq_iff_eq.mp hkey, ← hname]
    refine Recording.head_key ?_
    rw [hhead]
    rfl
  · rw [notes_countCompletion (not_exists.mp hcounts)] at hr
    cases hr

/-- Completed builds are counted the same apart from a name that only other jobs have. -/
theorem under_countCompletions_off (hagree : h.AgreeOff name h') (counters : List MetricKind)
    (waiting : List Build) (meter : MeterId) {values : List String}
    (hvalues : values.head? ≠ some name) :
    under values (recordingsFor meter
        (countCompletions s counters (waiting.map h.completion))) =
      under values (recordingsFor meter
        (countCompletions s counters (waiting.map h'.completion))) := by
  simp only [countCompletions, List.flatMap_map, recordingsFor_flatMap, Recording.under_flatMap]
  refine List.flatMap_congr fun b _ => ?_
  have hnumber := hagree.numbers b.jobId
  cases hoff : (h.job? b.jobId).filter (Job.isOff name) with
  | none =>
    -- in neither run the build counts for a job of another name
    rw [under_countCompletion_eq_nil hoff counters meter hvalues,
      under_countCompletion_eq_nil (hnumber ▸ hoff) counters meter hvalues]
  | some j =>
    have hjob : h.job? b.jobId = some j := (Option.filter_eq_some_iff.mp hoff).1
    have hjob' : h'.job? b.jobId = some j := (Option.filter_eq_some_iff.mp (hnumber ▸ hoff)).1
    rw [Host.completion, Host.completion, hjob, hjob']

/-! ## 3. Collections -/

/-- The planned meters of a scrape show the same apart from the name. -/
theorem off_planned (hagree : h.AgreeOff name h') (hjobs : ∀ j ∈ h.jobs, j.Nameable)
    (hjobs' : ∀ j ∈ h'.jobs, j.Nameable) {plan : List PlannedMeter}
    (hplan : plan ⊆ (JobPlan.of s).all) :
    (s.meters plan (recordJobs (.of s) now h.jobs).notes).map (fun m => m.family.off name) =
      (s.meters plan (recordJobs (.of s) now h'.jobs).notes).map fun m => m.family.off name := by
  simp only [Settings.meters, List.map_map]
  refine List.map_congr_left fun planned hplanned => ?_
  have hall := hplan hplanned
  refine Meter.off_record_eq (sized_of_mem_all hall now h.jobs) (sized_of_mem_all hall now h'.jobs)
    ?_ fun values hvalues => under_recordJobs_off hagree hjobs hjobs' planned.meter hvalues
  intro hnil
  have hhead := (planned_of_mem_all hall).2.2
  rw [show planned.labelNames = [] from hnil] at hhead
  cases hhead

/-- The kept counters show the same apart from the name. -/
theorem off_counterMeters (hagree : h.AgreeOff name h') (hc : c.WellKept)
    (waiting : List Build) :
    (counterMeters (c.count s (waiting.map h.completion)) s).map (fun m => m.family.off name) =
      (counterMeters (c.count s (waiting.map h'.completion)) s).map
        fun m => m.family.off name := by
  have hfits := hc.count s (waiting.map h.completion)
  have hfits' := hc.count s (waiting.map h'.completion)
  simp only [counterMeters, List.map_filterMap]
  refine List.filterMap_congr fun kind hkind => ?_
  have hm := c.meter?_count hkind (waiting.map h.completion)
  have hm' := c.meter?_count hkind (waiting.map h'.completion)
  -- both runs begin with the same meter, whatever was kept before
  cases hkept : (c.find? (s.counterKey kind)).getD (some (counterMeter (s.counterKey kind))) with
  | none =>
    rw [hm, hm', hkept]
    rfl
  | some m =>
    rw [hkept, Option.map_some] at hm hm'
    have hnames := (hfits.fits hm).labelNames
    rw [Meter.labelNames_record] at hnames
    rw [hm, hm', Option.map_some, Option.map_some, Option.some.injEq]
    refine Meter.off_record_eq (hfits.fits hm).sized (hfits'.fits hm').sized ?_
      fun values hvalues => under_countCompletions_off hagree s.counters waiting _ hvalues
    rw [hnames]
    exact List.cons_ne_nil _ _

/-- A collection of jobs shows the same apart from the name. -/
theorem shownOff_jobFamilies (hagree : h.AgreeOff name h') (hc : c.WellKept)
    (hjobs : ∀ j ∈ h.jobs, j.Nameable) (hjobs' : ∀ j ∈ h'.jobs, j.Nameable)
    (waiting : List Build) :
    shownOff name (jobFamilies s (c.count s (waiting.map h.completion)) now h.jobs) =
      shownOff name (jobFamilies s (c.count s (waiting.map h'.completion)) now h'.jobs) := by
  have hdurations : (JobPlan.of s).durations ⊆ (JobPlan.of s).all :=
    List.subset_append_left _ _
  have hgroups : (JobPlan.of s).gauges ++ (JobPlan.of s).lastBuild ++ (JobPlan.of s).perBuild ⊆
      (JobPlan.of s).all := List.subset_append_right _ _
  have hsettings : (JobPlan.of s).settings = s := rfl
  rw [jobFamilies, jobFamilies, shownOff_familiesOf, shownOff_familiesOf, JobPlan.meters,
    JobPlan.meters, hsettings]
  simp only [List.map_append]
  rw [off_planned hagree hjobs hjobs' hdurations, off_counterMeters hagree hc waiting,
    off_planned hagree hjobs hjobs' hgroups]

/-- A collection of coverage reports shows the same apart from the name, family by family. -/
theorem off_coverageFamilies (hagree : h.AgreeOff name h') :
    ((s.meters (coveragePlan s) (coverageRecordings s h.jobs)).map Meter.family).map
        (MetricFamily.off name) =
      ((s.meters (coveragePlan s) (coverageRecordings s h'.jobs)).map Meter.family).map
        (MetricFamily.off name) := by
  simp only [Settings.meters, List.map_map]
  refine List.map_congr_left fun planned hplanned => ?_
  refine Meter.off_record_eq (sized_of_mem_coveragePlan hplanned h.jobs)
    (sized_of_mem_coveragePlan hplanned h'.jobs) ?_ fun values hvalues => ?_
  · obtain ⟨kind, _, _, rfl⟩ := mem_planFor.mp hplanned
    exact List.cons_ne_nil _ _
  · refine under_flatMap_off (fun j r hr => ?_) planned.meter hvalues hagree
    rw [values_of_mem_recordCoverage hr]
    rfl

/-- Whatever fails on the jobs of a name, as long as they can be named, and whether or not these
jobs are there, collections of jobs and of coverage reports succeed and show the same apart from the
name. -/
theorem jobs_isolated (e : Exporter) (hc : e.counters.Reachable) (host : Host) (name : String)
    (hagree : e.host.AgreeOff name host) (hjobs : ∀ j ∈ e.host.jobs, j.Nameable)
    (hjobs' : ∀ j ∈ host.jobs, j.Nameable) (now : Int64) :
    let e' : Exporter := { e with host }
    (∃ families families', (e.collectFrom now .jobs).2 = .ok families ∧
      (e'.collectFrom now .jobs).2 = .ok families' ∧
      shownOff name families = shownOff name families') ∧
    ∃ families families', (e.collectFrom now .coverage).2 = .ok families ∧
      (e'.collectFrom now .coverage).2 = .ok families' ∧
      families.map (MetricFamily.off name) = families'.map (MetricFamily.off name) := by
  intro e'
  refine ⟨?_, ?_⟩
  · by_cases hcounts : e.active.load.config.countsAnyBuild
    · refine ⟨_, _, Exporter.collectJobs_of_nameable hjobs now hcounts,
        Exporter.collectJobs_of_nameable (e := e') hjobs' now hcounts, ?_⟩
      rw [Exporter.counters_collectJobs, Exporter.counters_collectJobs, if_pos hcounts,
        if_pos hcounts]
      exact shownOff_jobFamilies hagree hc.wellKept hjobs hjobs' e.buffer.waiting
    · exact ⟨_, _, Exporter.result_collectJobs_of_not_counts now hcounts,
        Exporter.result_collectJobs_of_not_counts (e := e') now hcounts, rfl⟩
  · refine ⟨_, _, coverageFamilies_eq hjobs, coverageFamilies_eq hjobs', ?_⟩
    split
    · exact off_coverageFamilies hagree
    · rfl

/-- Two jobs, the first of which is replaced by one that fails as soon as its builds are read. -/
theorem jobs_isolated_from_failing_job :
    let e := Exporter.start (.empty none)
      ⟨[⟨0, .plain "a" [.plain 1]⟩, ⟨1, .plain "b" [.ofJob 1 (.plain 1)]⟩], [], .initial⟩
    let e' : Exporter := { e with host :=
      ⟨[⟨2, { Job.plain "a" [] with failing := [.lastBuild] }⟩, ⟨1, .plain "b" [.ofJob 1 (.plain 1)]⟩],
        [], .initial⟩ }
    ∃ families families', (e.collectFrom 0 .jobs).2 = .ok families ∧
      (e'.collectFrom 0 .jobs).2 = .ok families' ∧
      shownOff "a" families = shownOff "a" families' :=
  (jobs_isolated _ .empty _ "a"
    (Host.agreeOff_of_existing (by decide) (by decide) (by decide) (by decide)) (by decide)
    (by decide) 0).1

end BuildTelemetry
