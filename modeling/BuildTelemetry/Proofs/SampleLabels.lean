import Mathlib
import BuildTelemetry.Proofs.LabelPairs
import BuildTelemetry.Proofs.Reports

/-!
# The labels of samples

Every sample of a scrape of jobs goes back to a job, and for the metrics of every build to one of
its builds. Its labels are those that this job or this build has, in their order; what a metric adds
comes behind them.

1. What a meter shows goes back to what was recorded for it (`labels_of_mem_record`).
2. The gauges, the last group and the counters of a job have its labels; the summary of durations
   and the metrics of every build have the labels of a build (`SampleLabels`,
   `sampleLabels_of_mem_recordJob`, `sampleLabels_of_mem_recordedFor`).
3. So after every history the labels of all samples are aligned with their names
   (`label_pairs_aligned`).
-/

namespace BuildTelemetry

open JobPlan (ids)

variable {s : Settings} {c : CounterCache} {now : Int64} {jobs : List Job} {j : Job} {b : Build}
  {log : List JobScrape}

/-! ## 1. Samples of a meter -/

/-- A sample of a summary may have the quantile behind the labels of its label set. -/
def Quantiles (type : MetricType) (more : List LabelPair) : Prop :=
  more = [] ∨ type = .summary ∧ ∃ q, more = [("quantile", q)]

/-- A sample of a meter that began without label sets has the labels of a recording. -/
theorem labels_of_mem_record {m : Meter} {rs : List Recording} (hm : m.series.cells = [])
    (htyped : m.Typed) {x : Sample} (hx : x ∈ (m.record rs).family.samples) :
    ∃ r ∈ rs, ∃ more, x.labels = m.series.labelNames.zip r.key ++ more ∧
      Quantiles m.descriptor.type more := by
  obtain ⟨values, i, hget, hsample⟩ := mem_samples.mp hx
  rw [Meter.labelNames_record] at hsample
  have hrecorded : ∃ r ∈ rs, r.key = values := by
    rcases Meter.key_of_mem_cells_record (Series.mem_cells.mpr hget) with ⟨_, hmem⟩ | hrecorded
    · rw [hm] at hmem
      cases hmem
    · exact hrecorded
  obtain ⟨r, hr, rfl⟩ := hrecorded
  rcases labels_of_mem_samples hsample with hplain | ⟨t, q, rfl, hquantile⟩
  · exact ⟨r, hr, [], by rw [hplain, List.append_nil], .inl rfl⟩
  · have htype := (htyped.record rs).get _ _ hget
    rw [Meter.descriptor_record] at htype
    exact ⟨r, hr, _, hquantile, .inr ⟨htype.symm, q, rfl⟩⟩

/-! ## 2. Labels of a recording -/

/-- A completed build of the job was counted in one of some collections of jobs. -/
def CountedIn (log : List JobScrape) (j : Job) : Prop :=
  ∃ x ∈ log, ∃ completed ∈ x.waiting, (x.host.completion completed).CountsFor x.settings j

/-- The labels of the samples of a metric, where `jobs` are those of the host and `log` are the
collections of jobs up to now. The metrics of stages add the stage. -/
inductive SampleLabels (s : Settings) (jobs : List Job) (log : List JobScrape) :
    MeterId → List LabelPair → Prop
  /-- A gauge of a job has the labels of the job. -/
  | gauge {j : Job} {pairs : List LabelPair} (m : JobMetric) :
      j ∈ jobs → s.config.jobLabels j = .ok pairs → SampleLabels s jobs log ⟨.job m, none⟩ pairs
  /-- A metric of the last build has the labels of the job. -/
  | lastBuild {j : Job} {b : Build} {pairs : List LabelPair} (m : BuildMetric)
      (stage : List String) :
      j ∈ jobs → b ∈ j.newestFirst → s.config.jobLabels j = .ok pairs →
      stage.length = (MetricKind.build m).extraLabels →
      SampleLabels s jobs log ⟨.build m, some lastQualifier⟩
        (pairs ++ stage.map fun name => (stageLabel, name))
  /-- The summary of durations has the labels of a build. -/
  | durations {j : Job} {b : Build} {pairs : List LabelPair} :
      j ∈ jobs → b ∈ j.newestFirst → s.config.buildLabels j b = .ok pairs →
      SampleLabels s jobs log ⟨.build .durations, none⟩ pairs
  /-- A metric of every build has the labels of a build and its number. -/
  | perBuild {j : Job} {b : Build} {pairs : List LabelPair} (m : BuildMetric)
      (stage : List String) :
      m ∈ buildMetrics → j ∈ jobs → b ∈ j.newestFirst → s.config.buildLabels j b = .ok pairs →
      stage.length = (MetricKind.build m).extraLabels →
      SampleLabels s jobs log ⟨.build m, none⟩
        (pairs ++ [(numberLabel, toString b.info.number)] ++
          stage.map fun name => (stageLabel, name))
  /-- A counter has the labels of a job of which a build was counted. -/
  | counter {j : Job} {pairs : List LabelPair} (m : BuildMetric) :
      m ∈ buildCounters → CountedIn log j → s.config.jobLabels j = .ok pairs →
      SampleLabels s jobs log ⟨.build m, none⟩ pairs

/-- The label values of a recording are those of its entity and those of its mark. -/
theorem key_of_mem_recordEntity {meters : List MeterId} {entity : Entity} {values : List String}
    {r : Recording} (h : r ∈ (recordEntity now meters entity values).notes) :
    ∃ extra, r.key = values ++ extra ∧ extra.length = r.meter.kind.extraLabels := by
  obtain ⟨_, rfl, hmark⟩ := mem_recordEntity h
  exact ⟨r.mark.extra, rfl, extra_of_mem_measure hmark⟩

/-- What a mark adds stands under the label of the stage. -/
theorem zip_buildMetricLabels {names values stage : List String} (m : BuildMetric)
    (hvalues : values.length = names.length)
    (hstage : stage.length = (MetricKind.build m).extraLabels) :
    (buildMetricLabels names (.build m)).zip (values ++ stage) =
      names.zip values ++ stage.map fun name => (stageLabel, name) := by
  have hone : (MetricKind.build m).extraLabels = 0 ∨ (MetricKind.build m).extraLabels = 1 := by
    cases m <;> simp [MetricKind.extraLabels]
  unfold buildMetricLabels
  rcases hone with hzero | hone
  · obtain rfl : stage = [] := List.length_eq_zero_iff.mp (hstage.trans hzero)
    rw [if_pos hzero, List.map_nil, List.append_nil, List.append_nil]
  · obtain ⟨name, rfl⟩ := List.length_eq_one_iff.mp (hstage.trans hone)
    rw [if_neg (by rw [hone]; decide), List.zip_append hvalues.symm]
    rfl

/-- The label names of its metric with the label values of a recording of a job are labels of the
job or of one of its builds. -/
theorem sampleLabels_of_mem_recordJob (hj : j ∈ jobs) {r : Recording}
    (h : r ∈ (recordJob (.of s) now j).notes) :
    SampleLabels s jobs log r.meter ((s.config.labelNames r.meter).zip r.key) := by
  obtain ⟨_, _, hread, hgauge | ⟨b, hb, hlast⟩ | ⟨b, hb, hbuild⟩⟩ := mem_recordJob_parts h
  · have hlabels := Config.jobLabels_of_values hread
    obtain ⟨m, _, _, hmeter⟩ := mem_gauges.mp (mem_recordEntity hgauge).1
    obtain ⟨extra, hkey, hextra⟩ := key_of_mem_recordEntity hgauge
    rw [hmeter] at hextra ⊢
    obtain rfl : extra = [] := List.length_eq_zero_iff.mp hextra
    rw [hkey, List.append_nil]
    exact .gauge m hj hlabels
  · have hlabels := Config.jobLabels_of_values hread
    obtain ⟨m, hm, _, hmeter⟩ := mem_lastBuild.mp (mem_recordEntity hlast).1
    obtain ⟨stage, hkey, hstage⟩ := key_of_mem_recordEntity hlast
    have hlength : j.labelValues.length = s.config.jobLabelNames.length := rfl
    have hnames : s.config.labelNames ⟨.build m, some lastQualifier⟩ =
        buildMetricLabels s.config.jobLabelNames (.build m) := labelNames_build hm ..
    rw [hmeter] at hstage ⊢
    rw [hkey, hnames, zip_buildMetricLabels m hlength hstage]
    exact .lastBuild m stage hj hb hlabels hstage
  · obtain ⟨values, hvalues, hduration | hnumbered⟩ := mem_recordBuild_parts hbuild
    · have hlabels := Config.buildLabels_of_values hvalues
      obtain ⟨_, hmeter⟩ := mem_durations.mp (mem_recordEntity hduration).1
      obtain ⟨extra, hkey, hextra⟩ := key_of_mem_recordEntity hduration
      rw [hmeter] at hextra ⊢
      obtain rfl : extra = [] := List.length_eq_zero_iff.mp hextra
      rw [hkey, List.append_nil]
      exact .durations hj hb hlabels
    · have hlabels := Config.buildLabels_of_values hvalues
      obtain ⟨_, m, hm, _, hmeter⟩ := mem_ids_perBuild.mp (mem_recordEntity hnumbered).1
      obtain ⟨stage, hkey, hstage⟩ := key_of_mem_recordEntity hnumbered
      have hlength : values.length = s.config.buildLabelNames.length :=
        Config.length_buildLabelValues hvalues
      have hnumbers : (values ++ [toString b.info.number]).length =
          (s.config.buildLabelNames ++ [numberLabel]).length := by
        rw [List.length_append, List.length_append, hlength]
        rfl
      have hnames : s.config.labelNames ⟨.build m, none⟩ =
          buildMetricLabels (s.config.buildLabelNames ++ [numberLabel]) (.build m) :=
        labelNames_build hm ..
      rw [hmeter] at hstage ⊢
      rw [hkey, hnames, zip_buildMetricLabels m hnumbers hstage, List.zip_append hlength.symm]
      exact .perBuild m stage hm hj hb hlabels hstage

/-- What was recorded for a counter has the labels of a job of which a build was counted. -/
theorem sampleLabels_of_mem_recordedFor {m : BuildMetric} (hm : m ∈ buildCounters) {r : Recording}
    (h : r ∈ JobScrape.recordedFor (s.counterKey (.build m)) log) :
    SampleLabels s jobs log ⟨.build m, none⟩ (s.config.jobLabelNames.zip r.key) := by
  obtain ⟨x, hx, hr⟩ := List.mem_flatMap.mp h
  obtain ⟨hrecorded, hmeter⟩ := List.mem_filter.mp hr
  obtain ⟨_, hcompletion, j, hcounts, hentity⟩ := mem_countCompletions.mp hrecorded
  obtain ⟨completed, hcompleted, rfl⟩ := List.mem_map.mp hcompletion
  obtain ⟨extra, hkey, hextra⟩ := key_of_mem_recordEntity hentity
  have hid : r.meter = ⟨.build m, none⟩ := beq_iff_eq.mp hmeter
  rw [hid, extraLabels_counter m hm] at hextra
  obtain rfl : extra = [] := List.length_eq_zero_iff.mp hextra
  rw [hkey, List.append_nil]
  refine .counter m hm ⟨x, (List.mem_filter.mp hx).1, completed, hcompleted, hcounts⟩ ?_
  exact Config.jobLabels_of_values
    (Config.jobLabelValues_eq_ok.mpr ⟨hcounts.nameable, hcounts.buildable, rfl⟩)

/-! ## 3. Labels of a scrape -/

/-- A family is that of a metric, and its samples have the labels of this metric, for a summary
perhaps with a quantile behind them. -/
def CarriesLabels (s : Settings) (jobs : List Job) (log : List JobScrape) (f : MetricFamily) :
    Prop :=
  ∃ id : MeterId, f.name = id.name s.nameSpace ∧ ∀ x ∈ f.samples, ∃ pairs more,
    SampleLabels s jobs log id pairs ∧ x.labels = pairs ++ more ∧ Quantiles f.type more

theorem carriesLabels_planned {planned : PlannedMeter} (hplanned : planned ∈ (JobPlan.of s).all) :
    CarriesLabels s jobs log ((s.freshMeter planned).record
      (recordingsFor planned.meter (recordJobs (.of s) now jobs).notes)).family := by
  refine ⟨planned.meter, name_planned s planned _, fun x hx => ?_⟩
  obtain ⟨r, hr, more, hlabels, hmore⟩ := labels_of_mem_record rfl (Meter.typed_new ..) hx
  obtain ⟨hrecorded, hmeter⟩ := List.mem_filter.mp hr
  obtain ⟨j, hj, hjob⟩ := mem_recordJobs hrecorded
  have hid : r.meter = planned.meter := beq_iff_eq.mp hmeter
  have hsample : SampleLabels s jobs log r.meter _ := sampleLabels_of_mem_recordJob hj hjob
  rw [hid, ← labelNames_of_mem_all hplanned] at hsample
  refine ⟨_, more, hsample, hlabels, ?_⟩
  change Quantiles ((s.freshMeter planned).record _).descriptor.type more
  rwa [Meter.descriptor_record]

theorem carriesLabels_counter {m : BuildMetric} (hm : m ∈ buildCounters) :
    CarriesLabels s jobs log (JobScrape.shownMeter log s m).family := by
  refine ⟨⟨.build m, none⟩, JobScrape.name_shownMeter log s m, fun x hx => ?_⟩
  obtain ⟨r, hr, more, hlabels, hmore⟩ := labels_of_mem_record rfl (Meter.typed_new ..) hx
  refine ⟨_, more, sampleLabels_of_mem_recordedFor hm hr, hlabels, ?_⟩
  change Quantiles ((counterMeter (s.counterKey (.build m))).record _).descriptor.type more
  rwa [Meter.descriptor_record]

/-- The families of a scrape of jobs, with counters that hold what was recorded for them, carry the
labels of their metrics. -/
theorem carriesLabels_jobFamilies (hc : ∀ key, c.find? key = (JobScrape.kept key log).map some)
    {f : MetricFamily} (hf : f ∈ jobFamilies s c now jobs) : CarriesLabels s jobs log f := by
  obtain ⟨⟨meter, hmeter, rfl⟩, _⟩ := mem_familiesOf.mp hf
  rcases mem_meters.mp hmeter with ⟨planned, hplanned, rfl⟩ | ⟨kind, hkind, hkept⟩
  · exact carriesLabels_planned hplanned
  · obtain ⟨m, hm, rfl⟩ := List.mem_map.mp (mem_counters.mp hkind).1
    rw [CounterCache.meter?_eq, Option.join_eq_some_iff, hc] at hkept
    have hshown : meter = JobScrape.shownMeter log s m := by
      unfold JobScrape.kept at hkept
      split at hkept
      · cases hkept
        rfl
      · cases hkept
    rw [hshown]
    exact carriesLabels_counter hm

/-- For every configuration and every build the names, the values and the labels agree and say what
was configured; and after every history all samples of a collection of jobs carry the labels of
their job or build, in their order. -/
theorem label_pairs_aligned (active : ActiveSettings) (host : Host) (events : List Event)
    (now : Int64) :
    let start := Exporter.start active host
    let e := start.run events
    (∀ (config : Config) (j : Job) (b : Build), config.LabelsAligned j b) ∧
      ∀ families, (e.collectJobs now).2 = .ok families → ∀ f ∈ families,
        CarriesLabels e.active.load e.host.jobs (start.jobScrapes events ++ [e.jobScrape]) f := by
  intro start e
  refine ⟨Config.labelsAligned, fun families hok f hf => ?_⟩
  by_cases hcounts : e.active.load.config.countsAnyBuild
  · rw [Exporter.result_collectJobs now hcounts] at hok
    obtain ⟨_, _, rfl⟩ := reading_map_eq_ok.mp hok
    exact carriesLabels_jobFamilies ((Exporter.remembers_run active host events).collectJobs now) hf
  · rw [Exporter.result_collectJobs_of_not_counts now hcounts] at hok
    cases hok
    cases hf

/-- Every label of builds: all parameters, the status, and two parameters, the names of which were
written with spaces around them. -/
def everyBuildLabel : Settings :=
  let s := Settings.initial none
  { s with config := { s.config with
      parametersLabel := true, statusLabel := true
      labelledParameters := [" DEPLOY ", " ", "REGION"] } }

/-- A build that is unstable and has two parameters. -/
def Build.parameterised : Build :=
  let parameters := [("BRANCH", "main"), ("DEPLOY", "true")]
  ⟨{ (Build.plain 1).info with result := some .unstable, parameters }, [], 0⟩

/-- The labels of a build with parameters, and a collection in which all samples carry them. -/
theorem label_pairs_aligned_of_parameters :
    (∃ pairs, everyBuildLabel.config.buildLabels (.plain "org/repo/main" []) .parameterised =
        .ok pairs ∧ pairs.map Prod.fst = everyBuildLabel.config.buildLabelNames) ∧
      ∃ families, ((Exporter.start ⟨none, some everyBuildLabel⟩
          (hostOfBuilds [.parameterised])).collectJobs 0).2 = .ok families ∧
        ∀ f ∈ families, CarriesLabels everyBuildLabel [.plain "a" [.parameterised]]
          [⟨everyBuildLabel, hostOfBuilds [.parameterised], []⟩] f := by
  obtain ⟨haligned, hsamples⟩ := label_pairs_aligned ⟨none, some everyBuildLabel⟩
    (hostOfBuilds [.parameterised]) [] 0
  have hbuild := haligned everyBuildLabel.config (.plain "org/repo/main" []) .parameterised
  obtain ⟨pairs, hpairs⟩ := hbuild.readable.mpr ⟨by decide, by decide, by decide, by decide⟩
  refine ⟨⟨pairs, hpairs, hbuild.names pairs hpairs⟩, ?_⟩
  have hok := Exporter.collectJobs_of_nameable (e := Exporter.start ⟨none, some everyBuildLabel⟩
    (hostOfBuilds [.parameterised])) (by decide) 0 (by decide)
  exact ⟨_, hok, hsamples _ hok⟩

example : everyBuildLabel.config.buildLabels (.plain "org/repo/main" []) .parameterised = .ok
    [("jenkins_job", "org/repo/main"), ("repo", "repo"), ("buildable", "true"),
      ("parameters", "BRANCH=main;DEPLOY=true"), ("status", "UNSTABLE"), ("DEPLOY", "true"),
      ("REGION", "UNDEFINED")] := by cbv

/-- The sample of the last group for a build has the labels of the job only, although the build has
more. -/
theorem last_group_lacks_parameters :
    ∃ pairs families,
      everyBuildLabel.config.buildLabels (.plain "a" [.parameterised]) .parameterised = .ok pairs ∧
      ((Exporter.start ⟨none, some everyBuildLabel⟩
        (hostOfBuilds [.parameterised])).collectJobs 0).2 = .ok families ∧
      ∃ f ∈ families, f.name = "default_jenkins_builds_last_build_result_ordinal" ∧
        ∃ x ∈ f.samples, x.labelValues = ["a", "NA", "true"] ∧
          x.value = BuildResult.unstable.ordinal.toFloat ∧ ¬pairs <+: x.labels := by
  let e := Exporter.start ⟨none, some everyBuildLabel⟩ (hostOfBuilds [.parameterised])
  have haligned := everyBuildLabel.config.labelsAligned (.plain "a" [.parameterised]) .parameterised
  obtain ⟨pairs, hpairs⟩ := haligned.readable.mpr ⟨by decide, by decide, by decide, by decide⟩
  have hreported : (Job.plain "a" [.parameterised]).Reported everyBuildLabel e.host.jobs :=
    ⟨by decide, by decide, by decide, by decide⟩
  have hkept : (e.collectJobs 0).1.counters.WellKept :=
    ((Exporter.remembers_run ⟨none, some everyBuildLabel⟩
      (hostOfBuilds [.parameterised]) []).collectJobs 0).wellKept
  have hnoStage : ([] : List String).length =
      (MetricKind.build .resultOrdinal).extraLabels := rfl
  have hvalue : BuildResult.unstable.ordinal.toFloat ∈ familyValues
      (jobFamilies everyBuildLabel (e.collectJobs 0).1.counters 0 e.host.jobs)
      ((MetricKind.build .resultOrdinal).exposedName everyBuildLabel.nameSpace (some lastQualifier))
      ((Job.plain "a" [.parameterised]).labelValues ++ []) := by
    rw [familyValues_lastBuild hkept hreported (by decide) (by decide) rfl hnoStage]
    exact List.mem_singleton_self _
  obtain ⟨f, hf, hname, x, hx, hvalues, hresult⟩ := mem_familyValues.mp hvalue
  refine ⟨pairs, _, hpairs, Exporter.collectJobs_of_nameable hreported.nameable 0 (by decide),
    f, hf, hname, x, hx, hvalues, hresult, fun hprefix => ?_⟩
  -- the sample has three labels, the build has seven
  have hshort : x.labels.length = 3 := (List.length_map Prod.snd).symm.trans
    (congrArg List.length hvalues)
  have hlong : pairs.length = 7 := by
    rw [← List.length_map Prod.fst, haligned.names pairs hpairs]
    cbv
  have hle := hprefix.length_le
  omega

end BuildTelemetry
