import Mathlib.Data.List.Forall2
import BuildTelemetry.Proofs.LastBuild

/-!
# The builds that count

A scrape walks over the builds of each job that it does not skip, from the newest to the oldest, and
takes those that are finished with a result that counts. `includedBuilds` is the list of these
builds with their jobs, computed from what the host knows and without any reading.

1. On a host on which nothing fails, what a scrape records for a metric of every build is what it
   records for the included builds, in their order (`recordingsFor_recordJobs`). A job is also
   skipped if its only build is running, but then none of its builds counts.
2. The summary of durations gets one observation for each included build
   (`recordingsFor_durations`), so it counts them under their label values
   (`familyCounts_durations`).
3. A gauge of every build shows the value of the last included build of some label values and number
   that has one (`familyValues_perBuild`).
4. `included_builds_accounted` puts both together and says that there is nothing else.
-/

namespace BuildTelemetry

open JobPlan (ids)

variable {s : Settings} {c : CounterCache} {now : Int64} {jobs : List Job} {j : Job} {b : Build}

/-! ## 1. Included builds -/

/-- The value of a slot of a build's labels, from what the host knows. -/
def slotValue (j : Job) (b : Build) : LabelSlot → String
  | .jobName => j.info.fullName
  | .repository => repository j.info.fullName
  | .buildable => truthText j.info.buildable
  | .parameters => parametersText b.info.parameters
  | .status =>
    if b.info.building then runningStatus
    else (b.info.result.map BuildResult.text).getD undefinedValue
  | .parameter name => parameterValue b.info.parameters name

namespace Config

/-- The label values of a build, from what the host knows. -/
def valuesOf (c : Config) (j : Job) (b : Build) : List String := c.buildSlots.map (slotValue j b)

/-- The label values of a build among the metrics of every build: its number comes last. -/
def numberedValuesOf (c : Config) (j : Job) (b : Build) : List String :=
  c.valuesOf j b ++ [toString b.info.number]

/-- The build is finished, with a result that counts or with none. -/
def includes (c : Config) (b : Build) : Bool := !b.info.building && c.counts b.info.result

theorem buildLabelValues_of_healthy (hj : j.Healthy) (hb : b.Healthy) (c : Config) :
    c.buildLabelValues j b = .ok (c.valuesOf j b) := by
  refine buildLabelValues_eq_ok.mpr ⟨hb.not_mem _, ?_⟩
  rw [valuesOf, List.forall₂_map_right_iff, List.forall₂_same]
  intro slot _
  have hname : j.fullName = .ok j.info.fullName := hj.nameable.fullName
  have hbuildable : j.isBuildable = .ok j.info.buildable := hj.read ..
  have hresult : b.result = .ok b.info.result := hb.read ..
  cases slot with
  | jobName => exact hname
  | repository =>
    rw [readBuildSlot, readBaseSlot, hname]
    · rfl
    all_goals simp
  | buildable =>
    rw [readBuildSlot, readBaseSlot, hbuildable]
    · rfl
    all_goals simp
  | parameters => rfl
  | status =>
    rw [readBuildSlot, readStatus, hb.isBuilding, slotValue]
    cases b.info.building with
    | true => rfl
    | false =>
      rw [hresult]
      rfl
  | parameter name => rfl

theorem length_valuesOf (c : Config) (j : Job) (b : Build) :
    (c.valuesOf j b).length = c.buildLabelNames.length := by
  rw [valuesOf, buildLabelNames, List.length_map, List.length_map]

end Config

theorem isIncluded_eq (hb : b.Healthy) (c : Config) : isIncluded c b = .ok (c.includes b) := by
  have hresult : b.result = .ok b.info.result := hb.read ..
  rw [isIncluded, hb.isBuilding, Config.includes]
  cases b.info.building with
  | true => rfl
  | false =>
    rw [hresult]
    rfl

/-- A job that is not suppressed and can be built, unless jobs that cannot be built are reported as
well. -/
def Settings.visits (s : Settings) (j : Job) : Bool :=
  s.policy.allowsJob j.info.fullName && (j.info.buildable || s.config.includeDisabledJobs)

/-- The builds that count with their jobs: the jobs in the order of the host, the builds of each
from the newest to the oldest. -/
def includedBuilds (s : Settings) (jobs : List Job) : List (Job × Build) :=
  (jobs.filter s.visits).flatMap fun j =>
    (j.newestFirst.filter s.config.includes).map fun b => (j, b)

theorem mem_includedBuilds {p : Job × Build} :
    p ∈ includedBuilds s jobs ↔ p.1 ∈ jobs ∧ s.visits p.1 ∧ p.2 ∈ p.1.newestFirst ∧
      s.config.includes p.2 := by
  obtain ⟨j, b⟩ := p
  simp only [includedBuilds, List.mem_flatMap, List.mem_filter, List.mem_map, Prod.mk.injEq]
  constructor
  · rintro ⟨_, ⟨hj, hvisits⟩, _, ⟨hb, hincluded⟩, rfl, rfl⟩
    exact ⟨hj, hvisits, hb, hincluded⟩
  · rintro ⟨hj, hvisits, hb, hincluded⟩
    exact ⟨j, ⟨hj, hvisits⟩, b, ⟨hb, hincluded⟩, rfl, rfl⟩

/-- A job that is skipped because no build describes it has no build that counts. -/
theorem includes_eq_nil_of_not_described (h : j.described? = none) (c : Config) :
    j.newestFirst.filter c.includes = [] := by
  unfold Job.described? at h
  split at h
  · next hnil => rw [hnil, List.filter_nil]
  · next newest older hbuilds =>
    split at h
    · next hrunning =>
      rw [List.head?_eq_none_iff.mp h] at hbuilds
      rw [hbuilds, List.filter_eq_nil_iff]
      simp [Config.includes, hrunning]
    · cases h

/-! ### Recordings -/

theorem result_durations (hb : b.Healthy) {meter : MeterId}
    (h : meter ∈ ids (JobPlan.of s).durations) :
    (meter.kind.measure now (.build b)).result = .ok () := by
  obtain ⟨_, rfl⟩ := mem_durations.mp h
  exact BuildMetric.result_measure hb .durations

theorem result_perBuild (hb : b.Healthy) {meter : MeterId}
    (h : meter ∈ ids (JobPlan.of s).perBuild) :
    (meter.kind.measure now (.build b)).result = .ok () := by
  obtain ⟨_, m, _, _, rfl⟩ := mem_ids_perBuild.mp h
  exact BuildMetric.result_measure hb m

/-- A build on which nothing fails records its duration under its label values, and its metrics, if
there are any for every build, with its number behind them. -/
theorem recordBuild_eq (now : Int64) (hj : j.Healthy) (hb : b.Healthy) :
    recordBuild (.of s) now j b =
      ⟨(recordEntity now (ids (JobPlan.of s).durations) (.build b) (s.config.valuesOf j b)).notes ++
        (recordEntity now (ids (JobPlan.of s).perBuild) (.build b)
          (s.config.numberedValuesOf j b)).notes, .ok ()⟩ := by
  have hvalues : (JobPlan.of s).config.buildLabelValues j b = .ok (s.config.valuesOf j b) :=
    Config.buildLabelValues_of_healthy hj hb s.config
  have hnumber : b.number = .ok b.info.number := hb.read ..
  have hdurations : (recordEntity now (ids (JobPlan.of s).durations) (.build b)
      (s.config.valuesOf j b)).result = .ok () :=
    congrArg Journal.result (recordEntity_eq fun _ => result_durations hb)
  have hperBuild : (recordEntity now (ids (JobPlan.of s).perBuild) (.build b)
      (s.config.numberedValuesOf j b)).result = .ok () :=
    congrArg Journal.result (recordEntity_eq fun _ => result_perBuild hb)
  simp only [recordBuild, Journal.liftM_eq, hvalues, hnumber, Journal.ofExcept_ok_bind]
  rw [Journal.bind_of_ok hdurations]
  by_cases hon : s.config.perBuild
  · have hconfig : (JobPlan.of s).config.perBuild = true := hon
    rw [if_pos hconfig]
    exact Journal.eq_of_parts rfl hperBuild
  · have hconfig : (JobPlan.of s).config.perBuild = false := Bool.eq_false_iff.mpr hon
    have hplan : (JobPlan.of s).perBuild = [] := if_neg hon
    rw [hconfig, hplan]
    rfl

/-- The walk takes the builds that count and goes on to the oldest. -/
theorem recordBuilds_eq (now : Int64) (hj : j.Healthy) {builds : List Build}
    (hbuilds : ∀ b ∈ builds, b.Healthy) :
    recordBuilds (.of s) now j builds =
      ⟨(builds.filter s.config.includes).flatMap fun b => (recordBuild (.of s) now j b).notes,
        .ok ()⟩ := by
  induction builds with
  | nil => rfl
  | cons b older ih =>
    obtain ⟨hb, hrest⟩ := List.forall_mem_cons.mp hbuilds
    have hincluded : isIncluded (JobPlan.of s).config b = .ok (s.config.includes b) :=
      isIncluded_eq hb s.config
    simp only [recordBuilds, Journal.liftM_eq, hincluded, hb.previous, Journal.ofExcept_ok_bind,
      ih hrest]
    cases hcounts : s.config.includes b with
    | false =>
      rw [List.filter_cons_of_neg (by simp [hcounts])]
      rfl
    | true =>
      rw [List.filter_cons_of_pos hcounts, List.flatMap_cons]
      simp only [if_true]
      rw [Journal.bind_of_ok (a := ()) (by rw [recordBuild_eq now hj hb])]

/-- A job that is not visited records nothing. -/
theorem notes_recordJob_of_not_visits (now : Int64) (hj : j.Healthy) (h : s.visits j = false) :
    (recordJob (.of s) now j).notes = [] := by
  have hread : j.isBuildable = .ok j.info.buildable := hj.read ..
  have hpolicy : (JobPlan.of s).settings.policy = s.policy := rfl
  have hconfig : (JobPlan.of s).config = s.config := rfl
  simp only [recordJob, Journal.liftM_eq, hj.nameable.fullName, Journal.ofExcept_ok_bind, hpolicy,
    hread, hconfig]
  rcases Bool.and_eq_false_iff.mp h with hdenied | hdisabled
  · simp [hdenied]
  · simp only [Bool.or_eq_false_iff] at hdisabled
    simp only [hdisabled.1, hdisabled.2, Bool.not_false, Bool.and_self, if_true]
    split <;> rfl

/-- Of a job on which nothing fails, a metric of every build gets what its builds that count leave,
if the job is visited. -/
theorem recordingsFor_recordJob_build (now : Int64) (hj : j.Healthy) (m : BuildMetric) :
    recordingsFor ⟨.build m, none⟩ (recordJob (.of s) now j).notes =
      if s.visits j then (j.newestFirst.filter s.config.includes).flatMap fun b =>
        recordingsFor ⟨.build m, none⟩ (recordBuild (.of s) now j b).notes
      else [] := by
  split
  · next hvisits =>
    obtain ⟨hallowed, hbuildable⟩ := Bool.and_eq_true_iff.mp hvisits
    rw [notes_recordJob hj hallowed (by simpa using hbuildable)]
    cases hdescribed : j.described? with
    | none =>
      rw [includes_eq_nil_of_not_described hdescribed]
      rfl
    | some shown =>
      -- the last group has the same metrics, but not the same meters
      have hlast : recordingsFor ⟨.build m, none⟩ (recordEntity now (ids (JobPlan.of s).lastBuild)
          (.build shown) j.labelValues).notes = [] := by
        refine recordingsFor_eq_nil fun r hr heq => ?_
        obtain ⟨_, _, _, hmeter⟩ := mem_lastBuild.mp (mem_recordEntity hr).1
        cases heq.symm.trans hmeter
      rw [recordingsFor_append, recordingsFor_append, recordingsFor_gauges_eq_nil, hlast,
        List.nil_append, List.nil_append, recordBuilds_eq now hj fun b => hj.build,
        recordingsFor_flatMap]
  · next hskipped =>
    rw [notes_recordJob_of_not_visits now hj (by simpa using hskipped)]
    rfl

/-- What a metric of every build gets is what the included builds leave, in their order. -/
theorem recordingsFor_recordJobs (now : Int64) (hjobs : ∀ j ∈ jobs, j.Healthy) (m : BuildMetric) :
    recordingsFor ⟨.build m, none⟩ (recordJobs (.of s) now jobs).notes =
      (includedBuilds s jobs).flatMap fun p =>
        recordingsFor ⟨.build m, none⟩ (recordBuild (.of s) now p.1 p.2).notes := by
  rw [recordJobs_eq fun j hj => (hjobs j hj).nameable, recordingsFor_flatMap, includedBuilds,
    List.flatMap_assoc, flatMap_filter]
  refine List.flatMap_congr fun j hj => ?_
  rw [recordingsFor_recordJob_build now (hjobs j hj) m]
  simp only [List.flatMap_map]

/-! ## 2. Durations -/

/-- A build that counts leaves its duration under its label values. -/
theorem recordingsFor_durations_recordBuild (now : Int64) (hj : j.Healthy) (hb : b.Healthy)
    (hallows : s.allows (.build .durations)) (hincluded : s.config.includes b) :
    recordingsFor ⟨.build .durations, none⟩ (recordBuild (.of s) now j b).notes =
      [⟨⟨.build .durations, none⟩, s.config.valuesOf j b, ⟨[], some b.info.duration.toFloat⟩⟩] := by
  have hmem : ⟨.build .durations, none⟩ ∈ ids (JobPlan.of s).durations :=
    mem_durations.mpr ⟨hallows, rfl⟩
  have hother : recordingsFor ⟨.build .durations, none⟩
      (recordEntity now (ids (JobPlan.of s).perBuild) (.build b)
        (s.config.numberedValuesOf j b)).notes = [] := by
    refine recordingsFor_eq_nil fun r hr heq => ?_
    obtain ⟨_, m, hm, _, hmeter⟩ := mem_ids_perBuild.mp (mem_recordEntity hr).1
    cases heq.symm.trans hmeter
    exact absurd hm (by decide)
  have hfinished : b.info.building = false := by
    simpa using (Bool.and_eq_true_iff.mp hincluded).1
  have hmeasure : (MetricKind.build .durations).measure now (.build b) =
      ⟨[⟨[], some b.info.duration.toFloat⟩], .ok ()⟩ := by
    have hduration : b.duration = .ok b.info.duration := hb.read ..
    have hread : b.readDuration = .ok (some b.info.duration.toFloat) := by
      rw [Build.readDuration, Build.readFinished, hb.isBuilding, hfinished, hduration]
      rfl
    show BuildMetric.measure b .durations = _
    rw [BuildMetric.measure, hread, Measurement.ofReading_ok_some]
  rw [recordBuild_eq now hj hb, recordingsFor_append, hother, List.append_nil,
    recordingsFor_recordEntity (nodup_ids_groups s).1 hmem fun _ => result_durations hb]
  simp only [hmeasure, List.map_cons, List.map_nil]

/-- The name of the summary of durations. -/
def Settings.durationsName (s : Settings) : String :=
  (MetricKind.build .durations).exposedName s.nameSpace none

/-- The durations that are recorded are those of the included builds. -/
theorem recordingsFor_durations (now : Int64) (hjobs : ∀ j ∈ jobs, j.Healthy)
    (hallows : s.allows (.build .durations)) :
    recordingsFor ⟨.build .durations, none⟩ (recordJobs (.of s) now jobs).notes =
      (includedBuilds s jobs).map fun p => ⟨⟨.build .durations, none⟩, s.config.valuesOf p.1 p.2,
        ⟨[], some p.2.info.duration.toFloat⟩⟩ := by
  rw [recordingsFor_recordJobs now hjobs, List.map_eq_flatMap]
  refine List.flatMap_congr fun p hp => ?_
  obtain ⟨hj, _, hb, hincluded⟩ := mem_includedBuilds.mp hp
  have hhealthy := hjobs p.1 hj
  exact recordingsFor_durations_recordBuild now hhealthy (hhealthy.build hb) hallows hincluded

theorem durations_mem_all (hallows : s.allows (.build .durations)) :
    ⟨⟨.build .durations, none⟩, s.config.buildLabelNames⟩ ∈ (JobPlan.of s).all :=
  List.mem_append_left _ (mem_planFor.mpr ⟨_, List.mem_singleton_self _, hallows, rfl⟩)

/-- The summary of durations counts the included builds under their label values. -/
theorem familyCounts_durations (hc : c.WellKept) (hjobs : ∀ j ∈ jobs, j.Healthy)
    (hallows : s.allows (.build .durations)) (values : List String) :
    familyCounts (jobFamilies s c now jobs) s.durationsName values =
      let n := (includedBuilds s jobs).countP fun p => s.config.valuesOf p.1 p.2 == values
      if n = 0 then [] else [(UInt64.ofNat n).toFloat] := by
  let planned : PlannedMeter := ⟨⟨.build .durations, none⟩, s.config.buildLabelNames⟩
  have hplanned : planned ∈ (JobPlan.of s).all := durations_mem_all hallows
  have hunder : Recording.under values (recordingsFor planned.meter
      (recordJobs (.of s) now jobs).notes) =
      ((includedBuilds s jobs).filter fun p => s.config.valuesOf p.1 p.2 == values).map fun p =>
        ⟨planned.meter, s.config.valuesOf p.1 p.2, ⟨[], some p.2.info.duration.toFloat⟩⟩ := by
    rw [recordingsFor_durations now hjobs hallows, Recording.under, List.filter_map]
    congr 1
    refine List.filter_congr fun p _ => ?_
    simp [Recording.key]
  have hempty : Recording.under values (recordingsFor planned.meter
      (recordJobs (.of s) now jobs).notes) = [] ↔
      ((includedBuilds s jobs).countP fun p => s.config.valuesOf p.1 p.2 == values) = 0 := by
    rw [hunder, List.map_eq_nil_iff, List.countP_eq_length_filter, List.length_eq_zero_iff]
  have hlength : (Recording.valuesUnder values (recordingsFor planned.meter
      (recordJobs (.of s) now jobs).notes)).length =
      (includedBuilds s jobs).countP fun p => s.config.valuesOf p.1 p.2 == values := by
    rw [Recording.valuesUnder, hunder, List.filterMap_map, List.countP_eq_length_filter]
    simp
  have hcounts : familyCounts (jobFamilies s c now jobs) s.durationsName values = _ :=
    familyCounts_summary hc hplanned rfl values
  rw [hcounts]
  simp only [hempty, hlength]

/-! ## 3. Metrics of every build -/

/-- A build leaves for a metric of every build what the metric measures, with its number behind its
label values. -/
theorem recordingsFor_perBuild_recordBuild (now : Int64) (hj : j.Healthy) (hb : b.Healthy)
    (hon : s.config.perBuild) {m : BuildMetric} (hm : m ∈ buildMetrics)
    (hallows : s.allows (.build m)) :
    recordingsFor ⟨.build m, none⟩ (recordBuild (.of s) now j b).notes =
      (m.measure b).notes.map fun mark =>
        ⟨⟨.build m, none⟩, s.config.numberedValuesOf j b, mark⟩ := by
  have hmem : ⟨.build m, none⟩ ∈ ids (JobPlan.of s).perBuild :=
    mem_ids_perBuild.mpr ⟨hon, m, hm, hallows, rfl⟩
  have hother : recordingsFor ⟨.build m, none⟩
      (recordEntity now (ids (JobPlan.of s).durations) (.build b)
        (s.config.valuesOf j b)).notes = [] := by
    refine recordingsFor_eq_nil fun r hr heq => ?_
    obtain ⟨_, hmeter⟩ := mem_durations.mp (mem_recordEntity hr).1
    cases heq.symm.trans hmeter
    exact absurd hm (by decide)
  rw [recordBuild_eq now hj hb, recordingsFor_append, hother, List.nil_append,
    recordingsFor_recordEntity (nodup_ids_groups s).2.2.2 hmem
      fun _ => result_perBuild hb]
  rfl

/-- The last value of a list of lists is the last of their last values. -/
theorem getLast?_flatMap_eq {α β : Type} (f : α → List β) (as : List α) :
    (as.flatMap f).getLast? = (as.filterMap fun a => (f a).getLast?).getLast? := by
  rw [List.getLast?_flatMap, List.getLast?_filterMap]

/-- The last value that a metric of every build gets under some label values is that of the last
included build with these label values and this number that has one. -/
theorem getLast?_valuesUnder_perBuild (now : Int64) (hjobs : ∀ j ∈ jobs, j.Healthy)
    (hon : s.config.perBuild) {m : BuildMetric} (hm : m ∈ buildMetrics)
    (hallows : s.allows (.build m)) (values : List String) {stage : List String}
    (hstage : stage.length = (MetricKind.build m).extraLabels) :
    (Recording.valuesUnder (values ++ stage) (recordingsFor ⟨.build m, none⟩
        (recordJobs (.of s) now jobs).notes)).getLast? =
      (((includedBuilds s jobs).filter fun p =>
        s.config.numberedValuesOf p.1 p.2 == values).filterMap
          fun p => m.valueAt? p.2 stage).getLast? := by
  have hbuild : ∀ p ∈ includedBuilds s jobs, Recording.valuesUnder (values ++ stage)
      (recordingsFor ⟨.build m, none⟩ (recordBuild (.of s) now p.1 p.2).notes) =
      if s.config.numberedValuesOf p.1 p.2 == values then
        ((m.measure p.2).notes.filter fun mark => mark.extra == stage).filterMap Mark.value
      else [] := by
    intro p hp
    obtain ⟨hj, _, hb, _⟩ := mem_includedBuilds.mp hp
    have hhealthy := (hjobs p.1 hj).build hb
    rw [recordingsFor_perBuild_recordBuild now (hjobs p.1 hj) hhealthy hon hm hallows,
      Recording.valuesUnder_map_of_length fun mark hmark =>
        (BuildMetric.extra_of_mem_measure hmark).trans hstage.symm]
    simp only [beq_iff_eq]
  rw [recordingsFor_recordJobs now hjobs, Recording.valuesUnder_flatMap, List.flatMap_congr hbuild,
    ← flatMap_filter, getLast?_flatMap_eq]
  rfl

/-- A gauge of every build shows one value, that of the last included build with these label values
and this number that has one, and nothing if there is none. -/
theorem familyValues_perBuild (hc : c.WellKept) (hjobs : ∀ j ∈ jobs, j.Healthy)
    (hon : s.config.perBuild) {m : BuildMetric} (hm : m ∈ buildMetrics)
    (hallows : s.allows (.build m)) (hgauge : (MetricKind.build m).type = .gauge)
    (values : List String) {stage : List String}
    (hstage : stage.length = (MetricKind.build m).extraLabels) :
    familyValues (jobFamilies s c now jobs) ((MetricKind.build m).exposedName s.nameSpace none)
        (values ++ stage) =
      (((includedBuilds s jobs).filter fun p =>
        s.config.numberedValuesOf p.1 p.2 == values).filterMap
          fun p => m.valueAt? p.2 stage).getLast?.toList := by
  let planned : PlannedMeter := ⟨⟨.build m, none⟩,
    buildMetricLabels (s.config.buildLabelNames ++ [numberLabel]) (.build m)⟩
  have hplanned : planned ∈ (JobPlan.of s).all := by
    have hmem : planned ∈ (JobPlan.of s).perBuild := by
      have hplan : (JobPlan.of s).perBuild =
          s.planBuilds (s.config.buildLabelNames ++ [numberLabel]) none := if_pos hon
      rw [hplan]
      exact mem_planBuilds.mpr ⟨m, hm, hallows, rfl⟩
    exact List.mem_append_right _ (List.mem_append_right _ hmem)
  have hlabels : planned.labelNames.length =
      s.config.buildLabelNames.length + 1 + (MetricKind.build m).extraLabels :=
    (length_buildMetricLabels _ m).trans (by rw [List.length_append]; rfl)
  have hlast := getLast?_valuesUnder_perBuild now hjobs hon hm hallows values hstage
  by_cases hlength : (values ++ stage).length = planned.labelNames.length
  · exact (familyValues_gauge hc hplanned hgauge hlength).trans (congrArg Option.toList hlast)
  · refine (familyValues_gauge_of_length_ne hc hplanned hgauge hlength).trans ?_
    -- no build has label values of another number
    have hnone : (includedBuilds s jobs).filter
        (fun p => s.config.numberedValuesOf p.1 p.2 == values) = [] := by
      refine List.filter_eq_nil_iff.mpr fun p _ heq => hlength ?_
      rw [← beq_iff_eq.mp heq, hlabels, List.length_append, hstage, Config.numberedValuesOf,
        List.length_append, Config.length_valuesOf]
      rfl
    rw [hnone]
    rfl

/-! ## 4. The whole scrape -/

/-- The families of a scrape account for the included builds and for nothing else. -/
structure AccountsFor (s : Settings) (families : List MetricFamily)
    (included : List (Job × Build)) : Prop where
  /-- The summary of durations has one count for each list of label values of an included build, the
  number of included builds with these label values, modulo `2 ^ 64`. -/
  durations : s.allows (.build .durations) → ∀ values,
    familyCounts families s.durationsName values =
      let n := included.countP fun p => s.config.valuesOf p.1 p.2 == values
      if n = 0 then [] else [(UInt64.ofNat n).toFloat]
  /-- The summary is not there if it is suppressed. All its samples have the labels of an included
  build, those of quantiles one more. -/
  durations_only : ∀ f ∈ families, f.name = s.durationsName →
    s.allows (.build .durations) ∧ ∀ x ∈ f.samples, ∃ p ∈ included,
      x.labels = s.config.buildLabelNames.zip (s.config.valuesOf p.1 p.2) ∨
      ∃ q, x.labels = s.config.buildLabelNames.zip (s.config.valuesOf p.1 p.2) ++ [("quantile", q)]
  /-- A gauge of every build has a sample for label values and a number, and for the metrics of
  stages a stage, if it has a value on an included build of these. The last of them is shown. -/
  perBuild : s.config.perBuild → ∀ m ∈ buildMetrics, s.allows (.build m) →
    (MetricKind.build m).type = .gauge → ∀ values stage : List String,
      stage.length = (MetricKind.build m).extraLabels →
      familyValues families ((MetricKind.build m).exposedName s.nameSpace none) (values ++ stage) =
        ((included.filter fun p => s.config.numberedValuesOf p.1 p.2 == values).filterMap
          fun p => m.valueAt? p.2 stage).getLast?.toList
  /-- The metrics of every build are there only if they are asked for and not suppressed. -/
  perBuild_only : ∀ m ∈ buildMetrics, ∀ f ∈ families,
    f.name = (MetricKind.build m).exposedName s.nameSpace none →
      s.config.perBuild ∧ s.allows (.build m)

/-- A family of the name of a metric of builds is that of its planned meter, unless the metric is a
counter. -/
theorem meter_of_name (hc : c.WellKept) {m : BuildMetric} (hm : m ∉ buildCounters)
    {f : MetricFamily} (hf : f ∈ jobFamilies s c now jobs)
    (hname : f.name = (MetricKind.build m).exposedName s.nameSpace none) :
    ∃ planned ∈ (JobPlan.of s).all, planned.meter = ⟨.build m, none⟩ ∧
      f = ((s.freshMeter planned).record
        (recordingsFor planned.meter (recordJobs (.of s) now jobs).notes)).family := by
  obtain ⟨⟨meter, hmeter, rfl⟩, _⟩ := mem_familiesOf.mp hf
  rcases mem_meters.mp hmeter with ⟨planned, hplanned, rfl⟩ | ⟨kind, hkind, hkept⟩
  · have hid : planned.meter.name s.nameSpace = (⟨.build m, none⟩ : MeterId).name s.nameSpace :=
      (name_planned s planned _).symm.trans hname
    have heq := MeterId.name_injective s.nameSpace (mem_exposedIds_of_mem_all hplanned)
      (MeterId.mem_exposedIds (.build m)) hid
    exact ⟨planned, hplanned, heq, rfl⟩
  · have hdescriptor : meter.descriptor.name = (⟨kind, none⟩ : MeterId).name s.nameSpace := by
      rw [(hc.fits hkept).descriptor]
      rfl
    have heq := MeterId.name_injective s.nameSpace (MeterId.mem_exposedIds kind)
      (MeterId.mem_exposedIds (.build m)) (hdescriptor.symm.trans hname)
    obtain ⟨counter, hcounter, rfl⟩ := List.mem_map.mp (mem_counters.mp hkind).1
    cases heq
    exact absurd hcounter hm

/-- A scrape of jobs on which nothing fails accounts for the included builds. -/
theorem accountsFor_jobFamilies (now : Int64) (hc : c.WellKept) (hjobs : ∀ j ∈ jobs, j.Healthy) :
    AccountsFor s (jobFamilies s c now jobs) (includedBuilds s jobs) where
  durations := familyCounts_durations hc hjobs
  durations_only := by
    intro f hf hname
    obtain ⟨planned, hplanned, hid, rfl⟩ := meter_of_name hc (by decide) hf hname
    have hallows : s.allows (.build .durations) := by
      have hshown := (planned_of_mem_all hplanned).2.1
      rwa [hid] at hshown
    have hlabels : planned.labelNames = s.config.buildLabelNames := by
      have hdurations : ⟨⟨.build .durations, none⟩, s.config.buildLabelNames⟩ ∈
          (JobPlan.of s).all := durations_mem_all hallows
      rw [List.inj_on_of_nodup_map (nodup_ids_all s) hplanned hdurations hid]
    refine ⟨hallows, fun x hx => ?_⟩
    obtain ⟨r, hr, i, hsample⟩ := mem_samples_record (m := s.freshMeter planned) rfl hx
    rw [hid, recordingsFor_durations now hjobs hallows] at hr
    obtain ⟨p, hp, rfl⟩ := List.mem_map.mp hr
    refine ⟨p, hp, ?_⟩
    have hnames : (s.freshMeter planned).series.labelNames = s.config.buildLabelNames := hlabels
    rw [hnames, Recording.key, List.append_nil] at hsample
    rcases labels_of_mem_samples hsample with hplain | ⟨_, q, _, hquantile⟩
    · exact .inl hplain
    · exact .inr ⟨q, hquantile⟩
  perBuild := fun hon m hm hallows hgauge values stage hstage =>
    familyValues_perBuild hc hjobs hon hm hallows hgauge values hstage
  perBuild_only := by
    intro m hm f hf hname
    have hdisjoint : ∀ m ∈ buildMetrics, m ∉ buildCounters := by decide
    obtain ⟨planned, hplanned, hid, rfl⟩ := meter_of_name hc (hdisjoint m hm) hf hname
    have hgroup : (⟨.build m, none⟩ : MeterId) ∈ ids (JobPlan.of s).all :=
      hid ▸ List.mem_map_of_mem hplanned
    simp only [ids, JobPlan.all, List.map_append, List.mem_append] at hgroup
    rcases hgroup with hdurations | (hgauges | hlast) | hperBuild
    · obtain ⟨_, heq⟩ := mem_durations.mp hdurations
      cases heq
      exact absurd hm (by decide)
    · obtain ⟨_, _, _, heq⟩ := mem_gauges.mp hgauges
      cases heq
    · obtain ⟨_, _, _, heq⟩ := mem_lastBuild.mp hlast
      cases heq
    · obtain ⟨hon, _, _, hallows, heq⟩ := mem_ids_perBuild.mp hperBuild
      cases heq
      exact ⟨hon, hallows⟩

/-- After every history, on a host on which nothing fails, a collection of jobs succeeds and
accounts for the builds that count: the summary of durations counts each of them under its label
values, the gauges of every build, if they are asked for, show the last value under each list of
label values and number, and neither shows anything else. -/
theorem included_builds_accounted (active : ActiveSettings) (host : Host) (events : List Event)
    (now : Int64) :
    let e := (Exporter.start active host).run events
    let s := e.active.load
    s.config.countsAnyBuild → e.host.Healthy →
      ∃ families, (e.collectJobs now).2 = .ok families ∧
        AccountsFor s families (includedBuilds s e.host.jobs) := by
  intro e s hcounts hhealthy
  have hkept := ((Exporter.remembers_run active host events).collectJobs now).wellKept
  refine ⟨_, Exporter.collectJobs_of_nameable hhealthy.nameable now hcounts, ?_⟩
  exact accountsFor_jobFamilies now hkept hhealthy

/-- Two jobs of one name with finished builds of one number, one of which failed, and a build that
is still running. -/
def hostOfNamesakes : Host :=
  let failed : Build := ⟨{ (Build.plain 1).info with result := some .failure }, [], 1⟩
  ⟨[⟨0, .plain "a" [.plain 1, .running 2]⟩, ⟨1, .plain "a" [failed]⟩], [], .initial⟩

/-- Reports every build. -/
def everyBuild : Settings :=
  let s := Settings.initial none
  { s with config := { s.config with perBuild := true } }

/-- The two finished builds are counted together, and the result of the second one is shown. -/
theorem included_builds_accounted_of_namesakes :
    ∃ families, ((Exporter.start ⟨none, some everyBuild⟩ hostOfNamesakes).collectJobs 0).2 =
        .ok families ∧
      familyCounts families "default_jenkins_builds_duration_milliseconds_summary"
        ["a", "NA", "true"] = [UInt64.toFloat 2] ∧
      familyValues families "default_jenkins_builds_build_result_ordinal"
        ["a", "NA", "true", "1"] = [BuildResult.failure.ordinal.toFloat] := by
  obtain ⟨families, hok, haccounts⟩ := included_builds_accounted ⟨none, some everyBuild⟩
    hostOfNamesakes [] 0 (by decide) (by decide)
  refine ⟨families, hok, ?_, ?_⟩
  · exact haccounts.durations (by decide) ["a", "NA", "true"]
  · exact haccounts.perBuild rfl .resultOrdinal (by decide) (by decide) rfl ["a", "NA", "true", "1"]
      [] rfl

end BuildTelemetry
