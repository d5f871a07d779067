import BuildTelemetry.Proofs.JobFamilies

/-!
# The last build

The last group of a scrape is meant for the newest completed build of a job. A scrape looks at the
newest build and, while that one is running, at the one before it.

1. While at most the newest build is running, this finds the newest completed one
   (`Job.described?_eq_newestCompleted?`).
2. A job on which nothing fails records its gauges, the build that is described and the builds that
   count (`notes_recordJob`), and each metric gets its marks (`recordingsFor_recordJob`).
3. The last group shows the values of the build that is described (`familyValues_lastBuild`). So it
   is correct exactly if no metric tells this build from the newest completed one
   (`lastGroupCorrect_jobFamilies_iff`).
-/

namespace BuildTelemetry

open JobPlan (ids)

/-! ## 1. The build that is described -/

namespace Job

/-- The newest build that has completed. -/
def newestCompleted? (j : Job) : Option Build := j.newestFirst.find? fun b => !b.info.building

/-- The build that a scrape describes as the last one: the newest, or the one before it while the
newest is running. -/
def described? (j : Job) : Option Build :=
  match j.newestFirst with
  | [] => none
  | b :: older => if b.info.building then older.head? else some b

variable {j : Job}

theorem mem_newestFirst_of_described? {b : Build} (h : j.described? = some b) :
    b ∈ j.newestFirst := by
  unfold described? at h
  split at h
  · cases h
  · next b' older hbuilds =>
    rw [hbuilds]
    split at h
    · exact List.mem_cons_of_mem _ (List.mem_of_head? h)
    · cases h
      exact List.mem_cons_self

/-- A job with a completed build has a build that is described, which may be another one. -/
theorem exists_described? {b : Build} (h : j.newestCompleted? = some b) :
    ∃ shown, j.described? = some shown := by
  unfold newestCompleted? at h
  unfold described?
  split
  · next hnil =>
    rw [hnil] at h
    cases h
  · next newest older hbuilds =>
    rw [hbuilds, List.find?_cons] at h
    cases hrunning : newest.info.building with
    | false => exact ⟨newest, rfl⟩
    | true =>
      simp only [hrunning, Bool.not_true] at h
      cases older with
      | nil => cases h
      | cons previous rest => exact ⟨previous, rfl⟩

/-- Unless two builds are running, the newest completed build is described. -/
theorem described?_eq_newestCompleted?
    (h : ∀ b previous rest, j.newestFirst = b :: previous :: rest → b.info.building →
      previous.info.building = false) : j.described? = j.newestCompleted? := by
  unfold described? newestCompleted?
  match hbuilds : j.newestFirst with
  | [] => rfl
  | [b] => cases hb : b.info.building <;> simp [hb]
  | b :: previous :: rest =>
    cases hb : b.info.building with
    | false => simp [hb]
    | true => simp [hb, h b previous rest hbuilds hb]

end Job

theorem lastCompleted_eq {last : Build} (h : last.Healthy) (older : List Build) :
    lastCompleted last older =
      .ok (if last.info.building then older.head? else some last) := by
  rw [lastCompleted, h.isBuilding, h.previous]
  cases last.info.building with
  | false => rfl
  | true => cases older <;> rfl

/-! ## 2. Recordings of a job -/

variable {s : Settings} {c : CounterCache} {now : Int64} {jobs : List Job} {j : Job}

theorem result_gauges (hj : j.Healthy) {meter : MeterId}
    (h : meter ∈ ids (JobPlan.of s).gauges) :
    (meter.kind.measure now (.job j)).result = .ok () := by
  obtain ⟨m, _, _, rfl⟩ := mem_gauges.mp h
  exact JobMetric.result_measure hj now m

theorem result_lastBuild {b : Build} (hb : b.Healthy) {meter : MeterId}
    (h : meter ∈ ids (JobPlan.of s).lastBuild) :
    (meter.kind.measure now (.build b)).result = .ok () := by
  obtain ⟨m, _, _, rfl⟩ := mem_lastBuild.mp h
  exact BuildMetric.result_measure hb m

/-- A job on which nothing fails records its gauges, the build that is described and its builds that
count, unless it is skipped. -/
theorem notes_recordJob (hj : j.Healthy)
    (hallowed : s.policy.allowsJob j.info.fullName)
    (hbuildable : j.info.buildable ∨ s.config.includeDisabledJobs) :
    (recordJob (.of s) now j).notes = match j.described? with
      | none => []
      | some shown =>
        (recordEntity now (ids (JobPlan.of s).gauges) (.job j) j.labelValues).notes ++
          ((recordEntity now (ids (JobPlan.of s).lastBuild) (.build shown) j.labelValues).notes ++
            (recordBuilds (.of s) now j j.newestFirst).notes) := by
  have hpolicy : (JobPlan.of s).settings.policy.allowsJob j.info.fullName = true := hallowed
  have hbuild : (!j.info.buildable && !(JobPlan.of s).config.includeDisabledJobs) = false := by
    rcases hbuildable with h | h
    · simp [h]
    · simp [JobPlan.config, JobPlan.of, h]
  have hread : j.isBuildable = .ok j.info.buildable := hj.read ..
  simp only [recordJob, Journal.liftM_eq, hj.nameable.fullName, Journal.ofExcept_ok_bind, hpolicy,
    Bool.not_true, Bool.false_eq_true, if_false, hread, hbuild, hj.lastBuild]
  cases hbuilds : j.newestFirst with
  | nil =>
    have hdescribed : j.described? = none := by rw [Job.described?, hbuilds]
    rw [hdescribed]
    rfl
  | cons last older =>
    have hdescribed : j.described? = if last.info.building then older.head? else some last := by
      rw [Job.described?, hbuilds]
    have hlast : last.Healthy := hj.build (hbuilds ▸ List.mem_cons_self)
    simp only [lastCompleted_eq hlast, Journal.ofExcept_ok_bind, ← hdescribed]
    cases hshown : j.described? with
    | none => rfl
    | some shown =>
      have hhealthy : shown.Healthy := hj.build (Job.mem_newestFirst_of_described? hshown)
      simp only [hj.jobLabelValues, Journal.ofExcept_ok_bind]
      rw [Journal.bind_of_ok, Journal.bind_of_ok]
      · rw [recordEntity_eq fun meter => result_lastBuild hhealthy]
      · rw [recordEntity_eq fun meter => result_gauges hj]

/-- A job none of whose builds has completed has no builds that count. -/
theorem notes_recordBuilds_of_running {p : JobPlan} {builds : List Build}
    (h : ∀ b ∈ builds, b.Healthy ∧ b.info.building) :
    (recordBuilds p now j builds).notes = [] := by
  induction builds with
  | nil => rfl
  | cons b older ih =>
    obtain ⟨⟨hb, hrunning⟩, hrest⟩ := List.forall_mem_cons.mp h
    have hincluded : isIncluded p.config b = .ok false := by
      rw [isIncluded, hb.isBuilding, hrunning]
      rfl
    simp only [recordBuilds, Journal.liftM_eq, hincluded, hb.previous, Journal.ofExcept_ok_bind,
      Bool.false_eq_true, if_false]
    exact ih hrest

/-- The gauges of a job leave nothing for the metrics of builds. -/
theorem recordingsFor_gauges_eq_nil {m : BuildMetric} {qualifier : Option String} {entity : Entity}
    {values : List String} :
    recordingsFor ⟨.build m, qualifier⟩
      (recordEntity now (ids (JobPlan.of s).gauges) entity values).notes = [] := by
  refine recordingsFor_eq_nil fun r hr heq => ?_
  obtain ⟨_, _, _, hmeter⟩ := mem_gauges.mp (mem_recordEntity hr).1
  cases heq.symm.trans hmeter

/-- The last build leaves nothing for the gauges of its job. -/
theorem recordingsFor_lastBuild_eq_nil {m : JobMetric} {entity : Entity} {values : List String} :
    recordingsFor ⟨.job m, none⟩
      (recordEntity now (ids (JobPlan.of s).lastBuild) entity values).notes = [] := by
  refine recordingsFor_eq_nil fun r hr heq => ?_
  obtain ⟨_, _, _, hmeter⟩ := mem_lastBuild.mp (mem_recordEntity hr).1
  cases heq.symm.trans hmeter

/-- The builds that count leave nothing for other metrics than those of every build. -/
theorem recordingsFor_recordBuilds_eq_nil {meter : MeterId} {builds : List Build}
    (h : ∀ m, meter ≠ ⟨.build m, none⟩) :
    recordingsFor meter (recordBuilds (.of s) now j builds).notes = [] := by
  refine recordingsFor_eq_nil fun r hr heq => ?_
  obtain ⟨_, _, hrecorded⟩ := mem_recordBuilds hr
  obtain ⟨m, hmeter⟩ := meter_of_mem_recordBuild hrecorded
  exact h m (heq.symm.trans hmeter)

/-- What a job leaves for the metrics of the last build and for its gauges. -/
theorem recordingsFor_recordJob (now : Int64) (hj : j.Healthy)
    (hallowed : s.policy.allowsJob j.info.fullName)
    (hbuildable : j.info.buildable ∨ s.config.includeDisabledJobs) :
    (∀ m ∈ buildMetrics, s.allows (.build m) →
      recordingsFor ⟨.build m, some lastQualifier⟩ (recordJob (.of s) now j).notes =
        (j.described?.elim [] fun b => (m.measure b).notes).map fun mark =>
          ⟨⟨.build m, some lastQualifier⟩, j.labelValues, mark⟩) ∧
    ∀ m ∈ jobMetrics, s.allows (.job m) →
      recordingsFor ⟨.job m, none⟩ (recordJob (.of s) now j).notes =
        (j.described?.elim [] fun _ => (m.measure now j).notes).map fun mark =>
          ⟨⟨.job m, none⟩, j.labelValues, mark⟩ := by
  rw [notes_recordJob hj hallowed hbuildable]
  cases hdescribed : j.described? with
  | none => exact ⟨fun _ _ _ => rfl, fun _ _ _ => rfl⟩
  | some b =>
    have hb : b.Healthy := hj.build (Job.mem_newestFirst_of_described? hdescribed)
    obtain ⟨_, hgauges, hlast, _⟩ := nodup_ids_groups s
    -- of the three parts of a job's recordings each metric is served by one
    simp only [recordingsFor_append]
    refine ⟨fun m hm hshown => ?_, fun m hm hshown => ?_⟩
    · have hmem : ⟨.build m, some lastQualifier⟩ ∈ ids (JobPlan.of s).lastBuild :=
        mem_lastBuild.mpr ⟨m, hm, hshown, rfl⟩
      rw [recordingsFor_gauges_eq_nil, recordingsFor_recordBuilds_eq_nil (by simp),
        recordingsFor_recordEntity hlast hmem fun _ => result_lastBuild hb, List.nil_append,
        List.append_nil]
      rfl
    · have hmem : ⟨.job m, none⟩ ∈ ids (JobPlan.of s).gauges :=
        mem_gauges.mpr ⟨m, hm, hshown, rfl⟩
      rw [recordingsFor_lastBuild_eq_nil, recordingsFor_recordBuilds_eq_nil (by simp),
        recordingsFor_recordEntity hgauges hmem fun _ => result_gauges hj, List.append_nil,
        List.append_nil]
      rfl

/-- Measuring an entity on which nothing fails leaves nothing exactly if no metric has a mark. -/
theorem notes_recordEntity_eq_nil_iff {meters : List MeterId} {entity : Entity}
    {values : List String}
    (h : ∀ meter ∈ meters, (meter.kind.measure now entity).result = .ok ()) :
    (recordEntity now meters entity values).notes = [] ↔
      ∀ meter ∈ meters, (meter.kind.measure now entity).notes = [] := by
  rw [recordEntity_eq h]
  simp [List.flatMap_eq_nil_iff]

/-- No metric of a job and of one of its builds has a mark to show. -/
def Job.LeavesNothing (j : Job) (s : Settings) (now : Int64) (b : Build) : Prop :=
  (∀ m ∈ jobMetrics, s.allows (.job m) → (m.measure now j).notes = []) ∧
    ∀ m ∈ buildMetrics, s.allows (.build m) → (m.measure b).notes = []

/-- While no build has completed, a job records what its gauges and the build that is described
leave. -/
theorem notes_recordJob_eq_nil_iff (hj : j.Healthy)
    (hallowed : s.policy.allowsJob j.info.fullName)
    (hbuildable : j.info.buildable ∨ s.config.includeDisabledJobs) {shown : Build}
    (hshown : j.described? = some shown) (hnone : j.newestCompleted? = none) :
    (recordJob (.of s) now j).notes = [] ↔ j.LeavesNothing s now shown := by
  -- no build counts, so the gauges and the last group are all that is left
  have hrunning : ∀ b ∈ j.newestFirst, b.Healthy ∧ b.info.building := by
    intro b hb
    exact ⟨hj.build hb, by simpa using List.find?_eq_none.mp hnone b hb⟩
  have hhealthy : shown.Healthy := hj.build (Job.mem_newestFirst_of_described? hshown)
  rw [notes_recordJob hj hallowed hbuildable, hshown]
  simp only [notes_recordBuilds_of_running hrunning, List.append_nil, List.append_eq_nil_iff]
  rw [notes_recordEntity_eq_nil_iff fun _ => result_gauges hj,
    notes_recordEntity_eq_nil_iff fun _ => result_lastBuild hhealthy]
  constructor
  · rintro ⟨hgauges, hlast⟩
    exact ⟨fun m hm hallows => hgauges _ (mem_gauges.mpr ⟨m, hm, hallows, rfl⟩),
      fun m hm hallows => hlast _ (mem_lastBuild.mpr ⟨m, hm, hallows, rfl⟩)⟩
  · rintro ⟨hgauges, hlast⟩
    refine ⟨fun meter hmeter => ?_, fun meter hmeter => ?_⟩
    · obtain ⟨m, hm, hallows, rfl⟩ := mem_gauges.mp hmeter
      exact hgauges m hm hallows
    · obtain ⟨m, hm, hallows, rfl⟩ := mem_lastBuild.mp hmeter
      exact hlast m hm hallows

/-! ## 3. What the last group shows -/

/-- The last value that a metric of builds takes from a build under some more label values. -/
def BuildMetric.valueAt? (b : Build) (stage : List String) (m : BuildMetric) : Option Float :=
  (((m.measure b).notes.filter fun mark => mark.extra == stage).filterMap Mark.value).getLast?

/-- A job that is alone of its name, not suppressed and not skipped, among jobs on which nothing
fails. -/
structure Job.Reported (j : Job) (s : Settings) (jobs : List Job) : Prop where
  healthy : ∀ other ∈ jobs, other.Healthy
  alone : j.AloneIn jobs
  allowed : s.policy.allowsJob j.info.fullName
  buildable : j.info.buildable ∨ s.config.includeDisabledJobs

theorem Job.Reported.self (h : j.Reported s jobs) : j.Healthy := h.healthy j h.alone.mem

theorem Job.Reported.nameable (h : j.Reported s jobs) : ∀ other ∈ jobs, other.Nameable :=
  fun other hother => (h.healthy other hother).nameable

/-- What a gauge of the last build shows of a job. -/
theorem familyValues_lastBuild (hc : c.WellKept) (h : j.Reported s jobs) {m : BuildMetric}
    (hm : m ∈ buildMetrics) (hshown : s.allows (.build m))
    (hgauge : (MetricKind.build m).type = .gauge) {stage : List String}
    (hstage : stage.length = (MetricKind.build m).extraLabels) :
    familyValues (jobFamilies s c now jobs)
        ((MetricKind.build m).exposedName s.nameSpace (some lastQualifier))
        (j.labelValues ++ stage) =
      (j.described?.bind fun b => m.valueAt? b stage).toList := by
  let planned : PlannedMeter :=
    ⟨⟨.build m, some lastQualifier⟩, buildMetricLabels s.config.jobLabelNames (.build m)⟩
  have hplanned : planned ∈ (JobPlan.of s).all := by
    have hmem : planned ∈ (JobPlan.of s).lastBuild := mem_planBuilds.mpr ⟨m, hm, hshown, rfl⟩
    simp [JobPlan.all, hmem]
  have hlength : (j.labelValues ++ stage).length = planned.labelNames.length := by
    rw [length_buildMetricLabels, List.length_append, hstage]
    rfl
  have hrecorded := recordingsFor_recordJob now h.self h.allowed h.buildable
  have hvalues := familyValues_of_marks hc h.nameable h.alone hplanned hgauge
    (hrecorded.1 m hm hshown) stage hlength
  refine hvalues.trans ?_
  cases j.described? <;> rfl

/-- What a gauge of jobs shows of a job. -/
theorem familyValues_job (hc : c.WellKept) (h : j.Reported s jobs) {m : JobMetric}
    (hm : m ∈ jobMetrics) (hshown : s.allows (.job m)) :
    familyValues (jobFamilies s c now jobs) ((MetricKind.job m).exposedName s.nameSpace none)
        j.labelValues =
      (((j.described?.elim [] fun _ => (m.measure now j).notes).filter fun mark =>
        mark.extra == []).filterMap Mark.value).getLast?.toList := by
  let planned : PlannedMeter := ⟨⟨.job m, none⟩, s.config.jobLabelNames⟩
  have hplanned : planned ∈ (JobPlan.of s).all := by
    have hmem : planned ∈ (JobPlan.of s).gauges :=
      mem_planFor.mpr ⟨.job m, List.mem_map_of_mem hm, hshown, rfl⟩
    simp [JobPlan.all, hmem]
  have hgauge : planned.meter.kind.type = .gauge := by cases m <;> rfl
  have hrecorded := recordingsFor_recordJob now h.self h.allowed h.buildable
  have hvalues := familyValues_of_marks hc h.nameable h.alone hplanned hgauge
    (hrecorded.2 m hm hshown) [] rfl
  rw [List.append_nil] at hvalues
  exact hvalues

/-- The last group describes the newest completed build of a job, and the gauges of its health, its
builds and its discarder are there. A job without a completed build is named by no gauge and no
summary. -/
def LastGroupCorrect (s : Settings) (families : List MetricFamily) (j : Job) : Prop :=
  match j.newestCompleted? with
  | some b =>
    (∀ m ∈ buildMetrics, s.allows (.build m) → (MetricKind.build m).type = .gauge →
      ∀ stage : List String, stage.length = (MetricKind.build m).extraLabels →
        familyValues families ((MetricKind.build m).exposedName s.nameSpace (some lastQualifier))
          (j.labelValues ++ stage) = (m.valueAt? b stage).toList) ∧
    ∀ m ∈ [JobMetric.healthScore, .availableBuilds, .discardActive], s.allows (.job m) →
      familyValues families ((MetricKind.job m).exposedName s.nameSpace none) j.labelValues ≠ []
  | none => ∀ f ∈ families, f.type ≠ .counter →
      ∀ x ∈ f.samples, x.label? s.config.jobLabel ≠ some j.info.fullName

/-- No metric tells the build that is described from the newest completed one. If no build has
completed, no metric has anything to say of the job and of the build that is described. -/
def LooksBackFarEnough (s : Settings) (now : Int64) (j : Job) : Prop :=
  match j.described?, j.newestCompleted? with
  | none, _ => True
  | some shown, none => j.LeavesNothing s now shown
  | some shown, some b =>
    ∀ m ∈ buildMetrics, s.allows (.build m) → (MetricKind.build m).type = .gauge →
      ∀ stage : List String, stage.length = (MetricKind.build m).extraLabels →
        m.valueAt? shown stage = m.valueAt? b stage

/-- One step back is far enough unless the build before the newest is running as well. -/
theorem looksBackFarEnough_of_one_running
    (h : ∀ b previous rest, j.newestFirst = b :: previous :: rest → b.info.building →
      previous.info.building = false) : LooksBackFarEnough s now j := by
  unfold LooksBackFarEnough
  rw [Job.described?_eq_newestCompleted? h]
  cases j.newestCompleted? with
  | none => trivial
  | some b => exact fun _ _ _ _ _ _ => rfl

/-- The gauges of health, builds and discarder say something of every job. -/
theorem familyValues_job_ne_nil (hc : c.WellKept) (h : j.Reported s jobs) {shown : Build}
    (hshown : j.described? = some shown) :
    ∀ m ∈ [JobMetric.healthScore, .availableBuilds, .discardActive], s.allows (.job m) →
      familyValues (jobFamilies s c now jobs) ((MetricKind.job m).exposedName s.nameSpace none)
        j.labelValues ≠ [] := by
  have hall : ∀ m ∈ [JobMetric.healthScore, .availableBuilds, .discardActive], m ∈ jobMetrics := by
    decide
  intro m hm hallows
  have hj : j.Healthy := h.self
  have hgauge : m ∈ jobMetrics := hall m hm
  have hmark : ∃ value, (m.measure now j).notes = [⟨[], some value⟩] := by
    simp only [List.mem_cons, List.not_mem_nil, or_false] at hm
    rcases hm with rfl | rfl | rfl
    · exact ⟨j.info.healthScore.toFloat, by rw [JobMetric.measure, Job.healthScore, hj.read]; rfl⟩
    · exact ⟨j.builds.length.toFloat, by rw [JobMetric.measure, Job.buildCount, hj.read]; rfl⟩
    · exact ⟨truthNumber j.info.hasDiscarder,
        by rw [JobMetric.measure, Job.hasDiscarder, hj.read]; rfl⟩
  obtain ⟨value, hvalue⟩ := hmark
  rw [familyValues_job hc h hgauge hallows, hshown, Option.elim_some,
    hvalue]
  simp

/-- A scrape of jobs shows of a job that is alone of its name what it should, exactly if it looks
back far enough. -/
theorem lastGroupCorrect_jobFamilies_iff (now : Int64) (hc : c.WellKept)
    (h : j.Reported s jobs) :
    LastGroupCorrect s (jobFamilies s c now jobs) j ↔ LooksBackFarEnough s now j := by
  unfold LastGroupCorrect LooksBackFarEnough
  cases hnewest : j.newestCompleted? with
  | some b =>
    obtain ⟨shown, hshown⟩ := Job.exists_described? hnewest
    rw [hshown]
    constructor
    · rintro ⟨hlast, _⟩ m hm hallows hgauge stage hstage
      have hvalues := hlast m hm hallows hgauge stage hstage
      rw [familyValues_lastBuild hc h hm hallows hgauge hstage,
        hshown] at hvalues
      have hhead := congrArg List.head? hvalues
      simp only [Option.head?_toList] at hhead
      exact hhead
    · intro hsame
      refine ⟨fun m hm hallows hgauge stage hstage => ?_,
        familyValues_job_ne_nil hc h hshown⟩
      rw [familyValues_lastBuild hc h hm hallows hgauge hstage,
        hshown]
      exact congrArg Option.toList (hsame m hm hallows hgauge stage hstage)
  | none =>
    have hnamed := exists_named_iff now hc h.nameable h.alone (s := s)
    cases hdescribed : j.described? with
    | none =>
      have hnothing : (recordJob (.of s) now j).notes = [] := by
        rw [notes_recordJob h.self h.allowed h.buildable, hdescribed]
      refine iff_of_true (fun f hf htype x hx hlabel => ?_) trivial
      exact hnamed.mp ⟨f, hf, htype, x, hx, hlabel⟩ hnothing
    | some shown =>
      change _ ↔ j.LeavesNothing s now shown
      rw [← notes_recordJob_eq_nil_iff h.self h.allowed h.buildable hdescribed hnewest,
        ← not_ne_iff (a := (recordJob (.of s) now j).notes), ← hnamed]
      simp only [not_exists, not_and]

/-- After every history, on a host on which nothing fails, a collection of jobs succeeds and shows
what it should of a job that is alone of its name, not suppressed and not skipped, exactly if no
metric tells the build that it describes from the newest completed one. -/
theorem last_group_correct_iff (active : ActiveSettings) (host : Host) (events : List Event)
    (now : Int64) {j : Job} :
    let e := (Exporter.start active host).run events
    let s := e.active.load
    s.config.countsAnyBuild → j.Reported s e.host.jobs →
      ∃ families, (e.collectJobs now).2 = .ok families ∧
        (LastGroupCorrect s families j ↔ LooksBackFarEnough s now j) := by
  intro e s hcounts hreported
  have hkept := ((Exporter.remembers_run active host events).collectJobs now).wellKept
  refine ⟨_, Exporter.collectJobs_of_nameable hreported.nameable now hcounts, ?_⟩
  exact lastGroupCorrect_jobFamilies_iff now hkept hreported

/-- A build that is still running. -/
def Build.running (number : UInt64) : Build :=
  ⟨{ (Build.plain number).info with building := true, result := none, start := 5000 }, [], 0⟩

/-- A host with the job `a` alone. -/
def hostOfBuilds (builds : List Build) : Host := ⟨[⟨0, .plain "a" builds⟩], [], .initial⟩

/-- While only the newest build is running, the one before it is described. -/
theorem last_group_correct_while_one_runs :
    ∃ families, ((Exporter.start (.empty none)
        (hostOfBuilds [.plain 1, .running 2])).collectJobs 0).2 = .ok families ∧
      familyValues families "default_jenkins_builds_last_build_result_ordinal" ["a", "NA", "true"] =
        [BuildResult.success.ordinal.toFloat] := by
  obtain ⟨families, hok, hiff⟩ := last_group_correct_iff (.empty none)
    (hostOfBuilds [.plain 1, .running 2]) [] 0 (j := .plain "a" [.plain 1, .running 2])
    (by decide) ⟨by decide, by decide, by decide, by decide⟩
  refine ⟨families, hok, ?_⟩
  have hbuilds : (Job.plain "a" [.plain 1, .running 2]).newestFirst = [.running 2, .plain 1] := rfl
  have hcorrect := hiff.mpr <| looksBackFarEnough_of_one_running fun b previous rest h _ => by
    rw [hbuilds] at h
    cases h
    rfl
  exact hcorrect.1 .resultOrdinal (by decide) (by decide) rfl [] rfl

/-- While two builds are running, the older of them is described although it has no result. -/
theorem last_group_describes_running_build :
    ∃ families, ((Exporter.start (.empty none)
        (hostOfBuilds [.plain 1, .running 2, .running 3])).collectJobs 0).2 = .ok families ∧
      ¬LastGroupCorrect (.initial none) families
        (.plain "a" [.plain 1, .running 2, .running 3]) := by
  let e := Exporter.start (.empty none) (hostOfBuilds [.plain 1, .running 2, .running 3])
  have hkept := ((Exporter.remembers_run (.empty none)
    (hostOfBuilds [.plain 1, .running 2, .running 3]) []).collectJobs 0).wellKept
  have hreported : (Job.plain "a" [.plain 1, .running 2, .running 3]).Reported (.initial none)
      e.host.jobs := ⟨by decide, by decide, by decide, by decide⟩
  refine ⟨_, Exporter.collectJobs_of_nameable hreported.nameable 0 (by decide), fun hcorrect => ?_⟩
  have hiff := lastGroupCorrect_jobFamilies_iff 0 hkept hreported
  -- the newest build that has completed has a result, the one that is described has none
  have hresult := hiff.mp hcorrect .resultOrdinal (by decide) (by decide) rfl [] rfl
  cases hresult

end BuildTelemetry
