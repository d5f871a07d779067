import BuildTelemetry.Proofs.Clock
import BuildTelemetry.Proofs.Containment
import BuildTelemetry.Proofs.Floats
import BuildTelemetry.Proofs.LastBuild

/-!
# Coverage of the last build

A scrape of coverage reports looks at the last build of each job. It takes the report of that build
as a whole, or nothing of it.

1. What the figures of a scope show (`CoverageFigure.Shows`): whole numbers as floats, and a share
   that is `-1` only where there is nothing to cover.
2. The counts that a job publishes, from its last build alone (`Settings.Publishes`), and that all
   figures of a scope record them (`mem_recordingsFor_coverage`).
3. The families show each publishing job once, all figures of a scope the same jobs, and no job on
   which the host fails (`coverage_all_or_nothing`).
-/

namespace BuildTelemetry

/-! ## 1. Figures -/

/-- What a figure says of covered and missed items. -/
def CoverageFigure.Shows (counts : CoverageCounts) (value : Float) : CoverageFigure → Prop
  | covered => value = counts.covered.toFloat
  | missed => value = counts.missed.toFloat
  | total => ∃ sum : UInt64,
      sum.toNat = min (counts.covered.toNat + counts.missed.toNat) (UInt64.size - 1) ∧
        value = sum.toFloat
  | percent => value = -1.0 ↔ counts.covered = 0 ∧ counts.missed = 0

theorem CoverageCounts.toNat_total (c : CoverageCounts) :
    c.total.toNat = min (c.covered.toNat + c.missed.toNat) (UInt64.size - 1) := by
  refine UInt64.toNat_ofNat_of_lt' ?_
  exact lt_of_le_of_lt (Nat.min_le_right ..) (by decide)

theorem CoverageCounts.total_eq_zero_iff {c : CoverageCounts} :
    c.total = 0 ↔ c.covered = 0 ∧ c.missed = 0 := by
  simp only [← UInt64.toNat_inj, c.toNat_total, UInt64.toNat_zero, UInt64.size]
  omega

/-- A share of something is not negative, so it is not what stands for a share of nothing. -/
theorem CoverageCounts.percent_eq_iff {c : CoverageCounts} :
    c.percent = -1.0 ↔ c.covered = 0 ∧ c.missed = 0 := by
  rw [← total_eq_zero_iff]
  constructor
  · intro h
    by_contra hne
    have hhundred : NotNegative 100.0 := rfl
    have hshare : NotNegative c.percent := by
      rw [percent, if_neg hne]
      exact ((notNegative_toFloat _).mul hhundred).div (notNegative_toFloat _)
    rw [h] at hshare
    cases hshare
  · exact fun h => if_pos h

theorem CoverageFigure.shows_value (figure : CoverageFigure) (counts : CoverageCounts) :
    figure.Shows counts (figure.value counts) := by
  cases figure with
  | covered | missed => rfl
  | total => exact ⟨_, counts.toNat_total, rfl⟩
  | percent => exact CoverageCounts.percent_eq_iff

/-! ## 2. Published counts -/

/-- A build that can be read, is finished and has a report. -/
structure Build.Covered (b : Build) (report : Coverage) : Prop where
  readable : BuildAccessor.isBuilding ∉ b.failing ∧ BuildAccessor.coverage ∉ b.failing
  finished : b.info.building = false
  report : b.info.coverage = some report

/-- A scrape takes the report of the last build of a job that is not suppressed. -/
structure Settings.Takes (s : Settings) (j : Job) (last : Build) (report : Coverage) : Prop where
  allowed : s.policy.allowsJob j.info.fullName
  readable : JobAccessor.lastBuild ∉ j.failing
  isLast : j.builds.getLast? = some last
  covered : last.Covered report

/-- A job publishes the counts of a scope that the report of its last build has. -/
def Settings.Publishes (s : Settings) (j : Job) (scope : CoverageScope)
    (counts : CoverageCounts) : Prop :=
  ∃ last report, s.Takes j last report ∧ report.counts scope = some counts

theorem Build.Covered.readCoverage {b : Build} {report : Coverage} (h : b.Covered report)
    (scope : CoverageScope) (figure : CoverageFigure) :
    b.readCoverage scope figure = .ok ((report.counts scope).map figure.value) := by
  have hread : b.coverage = .ok (some report) :=
    (readThrough_of_not_mem h.readable.2 _).trans (congrArg Except.ok h.report)
  rw [Build.readCoverage, hread]
  rfl

theorem Job.lastBuild_eq_ok {j : Job} {found : Option (Build × List Build)}
    (h : j.lastBuild = .ok found) :
    JobAccessor.lastBuild ∉ j.failing ∧ found.map Prod.fst = j.builds.getLast? := by
  obtain ⟨hreadable, rfl⟩ := readThrough_eq_ok.mp h
  refine ⟨hreadable, ?_⟩
  rw [← List.head?_reverse, Job.newestFirst]
  cases j.builds.reverse <;> rfl

section

variable {s : Settings} {meters : List MeterId} {jobs : List Job} {j : Job} {last : Build}
  {report : Coverage} {scope : CoverageScope} {figure : CoverageFigure} {counts : CoverageCounts}

theorem notes_recordCoverage_of_allowed (hj : j.Nameable)
    (hallowed : s.policy.allowsJob j.info.fullName) :
    (recordCoverage s meters j).notes = (recordReport meters j).notes := by
  rw [recordCoverage, Journal.liftM_eq, hj.fullName, Journal.ofExcept_ok_bind, if_pos hallowed,
    Journal.notes_recover fun _ => rfl]

/-- Whatever is recorded for a job comes from a report that the scrape takes. -/
theorem takes_of_mem_recordCoverage {r : Recording} (h : r ∈ (recordCoverage s meters j).notes) :
    ∃ last report, s.Takes j last report ∧
      r ∈ (recordEntity 0 meters (.build last) [j.info.fullName]).notes := by
  obtain ⟨hj, hallowed, -⟩ := mem_recordCoverage h
  rw [notes_recordCoverage_of_allowed hj hallowed, recordReport] at h
  obtain ⟨found, hfound, h⟩ := Journal.mem_notes_read.mp h
  obtain ⟨hreadable, hlast⟩ := Job.lastBuild_eq_ok hfound
  cases found with
  | none => cases h
  | some found =>
    obtain ⟨last, older⟩ := found
    obtain ⟨building, hbuilding, h⟩ := Journal.mem_notes_read.mp h
    split at h
    · cases h
    next hfinished =>
    obtain ⟨coverage, hcoverage, h⟩ := Journal.mem_notes_read.mp h
    split at h
    · cases h
    next hreport =>
    obtain ⟨name, hname, h⟩ := Journal.mem_notes_read.mp h
    obtain ⟨-, rfl⟩ := Job.fullName_eq_ok.mp hname
    obtain ⟨hnotBuilding, rfl⟩ := readThrough_eq_ok.mp hbuilding
    obtain ⟨hnotCoverage, rfl⟩ := readThrough_eq_ok.mp hcoverage
    obtain ⟨report, hsome⟩ :=
      Option.ne_none_iff_exists'.mp (mt Option.isNone_iff_eq_none.mpr hreport)
    exact ⟨last, report, ⟨hallowed, hreadable, hlast.symm, ⟨hnotBuilding, hnotCoverage⟩,
      Bool.eq_false_of_not_eq_true hfinished, hsome⟩, h⟩

/-- A report that a scrape takes is measured for all metrics. -/
theorem notes_recordCoverage_of_takes (hj : j.Nameable) (h : s.Takes j last report) :
    (recordCoverage s meters j).notes =
      (recordEntity 0 meters (.build last) [j.info.fullName]).notes := by
  obtain ⟨older, hfound⟩ : ∃ older, j.lastBuild = .ok (some (last, older)) := by
    have hread : j.lastBuild = .ok _ := readThrough_of_not_mem h.readable _
    have hlast := (Job.lastBuild_eq_ok hread).2
    rw [h.isLast] at hlast
    obtain ⟨⟨b, older⟩, hsome, rfl⟩ := Option.map_eq_some_iff.mp hlast
    exact ⟨older, hread.trans (congrArg Except.ok hsome)⟩
  have hbuilding : last.isBuilding = .ok false :=
    (readThrough_of_not_mem h.covered.readable.1 _).trans (congrArg Except.ok h.covered.finished)
  have hcoverage : last.coverage = .ok (some report) :=
    (readThrough_of_not_mem h.covered.readable.2 _).trans (congrArg Except.ok h.covered.report)
  rw [notes_recordCoverage_of_allowed hj h.allowed, recordReport]
  simp only [Journal.liftM_eq, hfound, hbuilding, hcoverage, hj.fullName, Journal.ofExcept_ok_bind]
  rfl

/-- The metric for a figure of a scope. -/
def coverageId (scope : CoverageScope) (figure : CoverageFigure) : MeterId :=
  ⟨.coverage scope figure, none⟩

theorem mem_coverageMetrics (scope : CoverageScope) (figure : CoverageFigure) :
    (scope, figure) ∈ coverageMetrics := by
  cases scope <;> cases figure <;> decide

theorem mem_coveragePlan {planned : PlannedMeter} :
    planned ∈ coveragePlan s ↔ ∃ scope figure, s.allows (.coverage scope figure) ∧
      planned = ⟨coverageId scope figure, [s.config.jobLabel]⟩ := by
  simp only [coveragePlan, mem_planFor, List.mem_map, Prod.exists]
  constructor
  · rintro ⟨_, ⟨scope, figure, -, rfl⟩, hallows, rfl⟩
    exact ⟨scope, figure, hallows, rfl⟩
  · rintro ⟨scope, figure, hallows, rfl⟩
    exact ⟨_, ⟨scope, figure, mem_coverageMetrics scope figure, rfl⟩, hallows, rfl⟩

/-- The metrics of a plan of coverage reports. -/
def coverageIds (s : Settings) : List MeterId := (coveragePlan s).map PlannedMeter.meter

theorem coverageIds_sublist (s : Settings) :
    (coverageIds s).Sublist (coverageMetrics.map fun m => coverageId m.1 m.2) := by
  rw [coverageIds, coveragePlan, Settings.planFor, List.map_map, List.filter_map, List.map_map]
  exact List.filter_sublist.map _

theorem nodup_coverageIds (s : Settings) : (coverageIds s).Nodup :=
  (coverageIds_sublist s).nodup (by decide)

theorem mem_coverageIds {meter : MeterId} :
    meter ∈ coverageIds s ↔
      ∃ scope figure, s.allows (.coverage scope figure) ∧ meter = coverageId scope figure := by
  simp only [coverageIds, List.mem_map, mem_coveragePlan]
  constructor
  · rintro ⟨_, ⟨scope, figure, hallows, rfl⟩, rfl⟩
    exact ⟨scope, figure, hallows, rfl⟩
  · rintro ⟨scope, figure, hallows, rfl⟩
    exact ⟨_, ⟨scope, figure, hallows, rfl⟩, rfl⟩

theorem Build.Covered.measure (h : last.Covered report) :
    (coverageId scope figure).kind.measure 0 (.build last) =
      .ofReading (.ok ((report.counts scope).map figure.value)) := by
  rw [← h.readCoverage]
  rfl

/-- What is recorded for a figure of a scope: one value for each publishing job. -/
def publishedRecording (scope : CoverageScope) (figure : CoverageFigure) (j : Job)
    (counts : CoverageCounts) : Recording :=
  ⟨coverageId scope figure, [j.info.fullName], ⟨[], some (figure.value counts)⟩⟩

theorem recordingsFor_of_publishes (hallows : s.allows (.coverage scope figure))
    (hj : j.Nameable) (h : s.Publishes j scope counts) :
    recordingsFor (coverageId scope figure) (recordCoverage s (coverageIds s) j).notes =
      [publishedRecording scope figure j counts] := by
  obtain ⟨last, report, htakes, hcounts⟩ := h
  have hmem : coverageId scope figure ∈ coverageIds s :=
    mem_coverageIds.mpr ⟨scope, figure, hallows, rfl⟩
  have hresult : ∀ meter ∈ coverageIds s, (meter.kind.measure 0 (.build last)).result = .ok () := by
    intro meter hmeter
    obtain ⟨_, _, _, rfl⟩ := mem_coverageIds.mp hmeter
    rw [htakes.covered.measure, Measurement.result_ofReading]
    rfl
  rw [notes_recordCoverage_of_takes hj htakes,
    recordingsFor_recordEntity (nodup_coverageIds s) hmem hresult, htakes.covered.measure, hcounts]
  rfl

theorem publishes_of_mem {r : Recording}
    (h : r ∈ recordingsFor (coverageId scope figure) (recordCoverage s (coverageIds s) j).notes) :
    ∃ counts, s.Publishes j scope counts := by
  obtain ⟨hrecorded, hmeter⟩ := List.mem_filter.mp h
  obtain ⟨last, report, htakes, hentity⟩ := takes_of_mem_recordCoverage hrecorded
  have hmark := (mem_recordEntity hentity).2.2
  rw [beq_iff_eq.mp hmeter, htakes.covered.measure] at hmark
  obtain ⟨value, hvalue, -⟩ := Measurement.mem_ofReading.mp hmark
  obtain ⟨counts, hcounts, -⟩ := Option.map_eq_some_iff.mp (Except.ok.inj hvalue)
  exact ⟨counts, last, report, htakes, hcounts⟩

/-- All figures of a scope record the counts that the jobs publish, and nothing else. -/
theorem mem_recordingsFor_coverage (hallows : s.allows (.coverage scope figure))
    (hjobs : ∀ j ∈ jobs, j.Nameable) {r : Recording} :
    r ∈ recordingsFor (coverageId scope figure) (coverageRecordings s jobs) ↔
      ∃ j ∈ jobs, ∃ counts, s.Publishes j scope counts ∧
        r = publishedRecording scope figure j counts := by
  rw [coverageRecordings, recordingsFor_flatMap, List.mem_flatMap]
  refine exists_congr fun j => and_congr_right fun hj => ?_
  constructor
  · intro h
    obtain ⟨counts, hpublishes⟩ := publishes_of_mem h
    have hrecords := recordingsFor_of_publishes hallows (hjobs j hj) hpublishes
    exact ⟨counts, hpublishes, List.mem_singleton.mp (hrecords ▸ h)⟩
  · rintro ⟨counts, hpublishes, rfl⟩
    have hrecords := recordingsFor_of_publishes hallows (hjobs j hj) hpublishes
    exact hrecords ▸ List.mem_singleton_self _

/-- Of jobs with different names only one leaves values under its name. -/
theorem valuesUnder_coverage (hnames : (jobs.map fun j => j.info.fullName).Nodup) (hj : j ∈ jobs) :
    Recording.valuesUnder [j.info.fullName]
        (recordingsFor (coverageId scope figure) (coverageRecordings s jobs)) =
      Recording.valuesUnder [j.info.fullName]
        (recordingsFor (coverageId scope figure)
          (recordCoverage s (coverageIds s) j).notes) := by
  rw [coverageRecordings, recordingsFor_flatMap, Recording.valuesUnder_flatMap,
    flatMap_eq_of_nodup hnames.of_map hj]
  · rfl
  · intro other hother hne
    have hnone : Recording.under [j.info.fullName] (recordingsFor (coverageId scope figure)
        (recordCoverage s (coverageIds s) other).notes) = [] := by
      refine List.filter_eq_nil_iff.mpr fun r hr hkey => hne ?_
      have hvalues := values_of_mem_recordCoverage (List.mem_filter.mp hr).1
      rw [beq_iff_eq, Recording.key, hvalues, List.singleton_append, List.cons.injEq] at hkey
      exact List.inj_on_of_nodup_map hnames hother hj hkey.1
    exact congrArg (List.filterMap _) hnone

/-! ## 3. Families -/

/-- The meter of a figure of a scope, after a scrape. -/
def coverageMeter (s : Settings) (jobs : List Job) (scope : CoverageScope)
    (figure : CoverageFigure) : Meter :=
  (s.freshMeter ⟨coverageId scope figure, [s.config.jobLabel]⟩).record
    (recordingsFor (coverageId scope figure) (coverageRecordings s jobs))

theorem name_coverageMeter :
    (coverageMeter s jobs scope figure).descriptor.name =
      (coverageId scope figure).name s.nameSpace := by
  rw [coverageMeter, Meter.descriptor_record]
  rfl

theorem mem_coverageFamilies {f : MetricFamily} :
    f ∈ (s.meters (coveragePlan s) (coverageRecordings s jobs)).map Meter.family ↔
      ∃ scope figure, s.allows (.coverage scope figure) ∧
        f = (coverageMeter s jobs scope figure).family := by
  simp only [Settings.meters, List.mem_map, exists_exists_and_eq_and, mem_coveragePlan]
  constructor
  · rintro ⟨_, ⟨scope, figure, hallows, rfl⟩, rfl⟩
    exact ⟨scope, figure, hallows, rfl⟩
  · rintro ⟨scope, figure, hallows, rfl⟩
    exact ⟨_, ⟨scope, figure, hallows, rfl⟩, rfl⟩

/-- A family of the name of a figure is that of its meter. -/
theorem eq_coverageMeter_of_name {f : MetricFamily}
    (hf : f ∈ (s.meters (coveragePlan s) (coverageRecordings s jobs)).map Meter.family)
    (hname : f.name = (coverageId scope figure).name s.nameSpace) :
    s.allows (.coverage scope figure) ∧ f = (coverageMeter s jobs scope figure).family := by
  obtain ⟨scope', figure', hallows, rfl⟩ := mem_coverageFamilies.mp hf
  have hsame : coverageId scope' figure' = coverageId scope figure :=
    MeterId.name_injective s.nameSpace (MeterId.mem_exposedIds _) (MeterId.mem_exposedIds _)
      (name_coverageMeter.symm.trans hname)
  cases hsame
  exact ⟨hallows, rfl⟩

/-- One family for each metric that is not suppressed, in order. -/
theorem names_coverageFamilies :
    ((s.meters (coveragePlan s) (coverageRecordings s jobs)).map Meter.family).map
        MetricFamily.name =
      (coverageIds s).map fun id => id.name s.nameSpace := by
  rw [Settings.meters, coverageIds, List.map_map, List.map_map, List.map_map]
  refine List.map_congr_left fun planned _ => ?_
  change ((s.freshMeter planned).record _).descriptor.name = _
  rw [Meter.descriptor_record]
  rfl

theorem familyValues_coverage (hallows : s.allows (.coverage scope figure))
    (values : List String) :
    familyValues ((s.meters (coveragePlan s) (coverageRecordings s jobs)).map Meter.family)
        ((coverageId scope figure).name s.nameSpace) values =
      (coverageMeter s jobs scope figure).family.valuesAt values := by
  have hnames : (((s.meters (coveragePlan s) (coverageRecordings s jobs)).map Meter.family).map
      MetricFamily.name).Nodup := by
    rw [names_coverageFamilies]
    refine (nodup_coverageIds s).map_on fun a ha b hb heq => ?_
    obtain ⟨_, _, _, rfl⟩ := mem_coverageIds.mp ha
    obtain ⟨_, _, _, rfl⟩ := mem_coverageIds.mp hb
    exact MeterId.name_injective s.nameSpace (MeterId.mem_exposedIds _) (MeterId.mem_exposedIds _)
      heq
  have hmem : (coverageMeter s jobs scope figure).family ∈
      (s.meters (coveragePlan s) (coverageRecordings s jobs)).map Meter.family :=
    mem_coverageFamilies.mpr ⟨scope, figure, hallows, rfl⟩
  rw [familyValues, flatMap_eq_of_nodup hnames.of_map hmem]
  · exact if_pos name_coverageMeter
  · intro f hf hne
    refine if_neg fun heq => hne (List.inj_on_of_nodup_map hnames hf hmem ?_)
    exact heq.trans name_coverageMeter.symm

/-- The samples of a gauge are labelled with its label sets. -/
theorem labels_coverageMeter :
    (coverageMeter s jobs scope figure).family.samples.map Sample.labels =
      ((coverageMeter s jobs scope figure).series.cells.map Prod.fst).map
        fun values => [s.config.jobLabel].zip values := by
  have hshown := congrArg (List.map Sample.labels) (@samples_valueless
    (s.freshMeter ⟨coverageId scope figure, [s.config.jobLabel]⟩) .zero
    (recordingsFor (coverageId scope figure) (coverageRecordings s jobs)) rfl rfl)
  rw [List.map_map, List.map_map] at hshown
  exact hshown

/-- The label sets of all figures of a scope are the names of the publishing jobs. -/
theorem isSome_get?_coverageMeter (hallows : s.allows (.coverage scope figure))
    (hjobs : ∀ j ∈ jobs, j.Nameable) (values : List String) :
    ((coverageMeter s jobs scope figure).series.get? values).isSome ↔
      ∃ j ∈ jobs, ∃ counts, s.Publishes j scope counts ∧ [j.info.fullName] = values := by
  rw [coverageMeter, Settings.freshMeter, Meter.isSome_get?_record_new]
  constructor
  · rintro ⟨r, hr, rfl⟩
    obtain ⟨j, hj, counts, hpublishes, rfl⟩ := (mem_recordingsFor_coverage hallows hjobs).mp hr
    exact ⟨j, hj, counts, hpublishes, rfl⟩
  · rintro ⟨j, hj, counts, hpublishes, rfl⟩
    exact ⟨_, (mem_recordingsFor_coverage hallows hjobs).mpr ⟨j, hj, counts, hpublishes, rfl⟩, rfl⟩

/-- A gauge of coverage shows what was recorded last. -/
theorem valuesAt_coverageMeter (hallows : s.allows (.coverage scope figure))
    (hjobs : ∀ j ∈ jobs, j.Nameable) (name : String) :
    (coverageMeter s jobs scope figure).family.valuesAt [name] =
      (Recording.valuesUnder [name]
        (recordingsFor (coverageId scope figure) (coverageRecordings s jobs))).getLast?.toList := by
  refine Meter.valuesAt_gauge ?_ rfl rfl rfl fun r hr => ?_
  · exact sized_of_mem_coveragePlan (mem_coveragePlan.mpr ⟨scope, figure, hallows, rfl⟩) jobs
  · obtain ⟨_, _, _, _, rfl⟩ := (mem_recordingsFor_coverage hallows hjobs).mp hr
    rfl

end

/-- The families report, for each scope, the jobs that publish its counts. -/
structure ReportsCoverage (s : Settings) (jobs : List Job) (families : List MetricFamily) :
    Prop where
  /-- One family for each figure that is not suppressed, in order. -/
  names : families.map MetricFamily.name =
    (coverageMetrics.filter fun m => s.allows (.coverage m.1 m.2)).map
      fun m => (coverageId m.1 m.2).name s.nameSpace
  /-- A job that publishes counts has one sample, with the figure of these counts. -/
  reported : ∀ scope figure, s.allows (.coverage scope figure) → ∀ j ∈ jobs, ∀ counts,
    s.Publishes j scope counts →
      familyValues families ((coverageId scope figure).name s.nameSpace) [j.info.fullName] =
        [figure.value counts]
  /-- Any other job has none. -/
  unreported : ∀ scope figure, s.allows (.coverage scope figure) → ∀ j ∈ jobs,
    (∀ counts, ¬s.Publishes j scope counts) →
      familyValues families ((coverageId scope figure).name s.nameSpace) [j.info.fullName] = []
  /-- All samples are those of publishing jobs. -/
  labelled : ∀ f ∈ families, ∃ scope figure, f.name = (coverageId scope figure).name s.nameSpace ∧
    s.allows (.coverage scope figure) ∧ ∀ x ∈ f.samples, ∃ j ∈ jobs, ∃ counts,
      s.Publishes j scope counts ∧ x.labels = [(s.config.jobLabel, j.info.fullName)]
  /-- The figures of one scope list the same jobs. -/
  aligned : ∀ f ∈ families, ∀ g ∈ families, ∀ scope figure figure',
    f.name = (coverageId scope figure).name s.nameSpace →
      g.name = (coverageId scope figure').name s.nameSpace →
        f.samples.map Sample.labels = g.samples.map Sample.labels
  /-- A job on which one of the three readings fails is in no family. -/
  absent : ∀ j ∈ jobs, (JobAccessor.lastBuild ∈ j.failing ∨ ∃ last,
      j.builds.getLast? = some last ∧
        (BuildAccessor.isBuilding ∈ last.failing ∨ BuildAccessor.coverage ∈ last.failing)) →
    ∀ f ∈ families, ∀ x ∈ f.samples, x.labelValues ≠ [j.info.fullName]

theorem Settings.not_publishes_of_failing {s : Settings} {j : Job}
    (h : JobAccessor.lastBuild ∈ j.failing ∨ ∃ last, j.builds.getLast? = some last ∧
      (BuildAccessor.isBuilding ∈ last.failing ∨ BuildAccessor.coverage ∈ last.failing))
    (scope : CoverageScope) (counts : CoverageCounts) : ¬s.Publishes j scope counts := by
  rintro ⟨last, report, htakes, -⟩
  rcases h with hjob | ⟨last', hlast, hbuild⟩
  · exact htakes.readable hjob
  · rw [htakes.isLast, Option.some.injEq] at hlast
    subst hlast
    exact hbuild.elim htakes.covered.readable.1 htakes.covered.readable.2

section

variable {s : Settings} {jobs : List Job} (hjobs : ∀ j ∈ jobs, j.Nameable)
  (hnames : (jobs.map fun j => j.info.fullName).Nodup)
include hjobs

/-- The labels of a sample tell the publishing job that it comes from. -/
theorem labels_of_mem_coverageMeter {scope : CoverageScope} {figure : CoverageFigure}
    (hallows : s.allows (.coverage scope figure)) {x : Sample}
    (hx : x ∈ (coverageMeter s jobs scope figure).family.samples) :
    ∃ j ∈ jobs, ∃ counts, s.Publishes j scope counts ∧
      x.labels = [(s.config.jobLabel, j.info.fullName)] := by
  have hlabels := List.mem_map_of_mem (f := Sample.labels) hx
  rw [labels_coverageMeter] at hlabels
  obtain ⟨values, hvalues, hlabel⟩ := List.mem_map.mp hlabels
  obtain ⟨⟨_, i⟩, hcell, rfl⟩ := List.mem_map.mp hvalues
  have hsome := Option.isSome_iff_exists.mpr ⟨i, Series.mem_cells.mp hcell⟩
  obtain ⟨j, hj, counts, hpublishes, hname⟩ := (isSome_get?_coverageMeter hallows hjobs _).mp hsome
  refine ⟨j, hj, counts, hpublishes, ?_⟩
  rw [← hlabel, ← hname]
  rfl

/-- All figures of a scope have the same label sets, in the same order. -/
theorem labels_coverageMeter_eq {scope : CoverageScope} {figure figure' : CoverageFigure}
    (h : s.allows (.coverage scope figure)) (h' : s.allows (.coverage scope figure')) :
    (coverageMeter s jobs scope figure).family.samples.map Sample.labels =
      (coverageMeter s jobs scope figure').family.samples.map Sample.labels := by
  rw [labels_coverageMeter, labels_coverageMeter, Series.map_fst_cells_eq fun values => ?_]
  rw [Bool.eq_iff_iff, isSome_get?_coverageMeter h hjobs, isSome_get?_coverageMeter h' hjobs]

/-- Every family is that of a figure, and its samples are those of publishing jobs. -/
theorem exists_labelled_coverage {f : MetricFamily}
    (hf : f ∈ (s.meters (coveragePlan s) (coverageRecordings s jobs)).map Meter.family) :
    ∃ scope figure, f.name = (coverageId scope figure).name s.nameSpace ∧
      s.allows (.coverage scope figure) ∧ ∀ x ∈ f.samples, ∃ j ∈ jobs, ∃ counts,
        s.Publishes j scope counts ∧ x.labels = [(s.config.jobLabel, j.info.fullName)] := by
  obtain ⟨scope, figure, hallows, rfl⟩ := mem_coverageFamilies.mp hf
  exact ⟨scope, figure, name_coverageMeter, hallows,
    fun x hx => labels_of_mem_coverageMeter hjobs hallows hx⟩

include hnames

theorem familyValues_of_publishes {scope : CoverageScope} {figure : CoverageFigure}
    (hallows : s.allows (.coverage scope figure)) {j : Job} (hj : j ∈ jobs)
    {counts : CoverageCounts} (hpublishes : s.Publishes j scope counts) :
    familyValues ((s.meters (coveragePlan s) (coverageRecordings s jobs)).map Meter.family)
      ((coverageId scope figure).name s.nameSpace) [j.info.fullName] = [figure.value counts] := by
  rw [familyValues_coverage hallows, valuesAt_coverageMeter hallows hjobs,
    valuesUnder_coverage hnames hj, recordingsFor_of_publishes hallows (hjobs j hj) hpublishes]
  simp [Recording.valuesUnder, Recording.under, Recording.key, publishedRecording]

theorem familyValues_of_not_publishes {scope : CoverageScope} {figure : CoverageFigure}
    (hallows : s.allows (.coverage scope figure)) {j : Job} (hj : j ∈ jobs)
    (hnot : ∀ counts, ¬s.Publishes j scope counts) :
    familyValues ((s.meters (coveragePlan s) (coverageRecordings s jobs)).map Meter.family)
      ((coverageId scope figure).name s.nameSpace) [j.info.fullName] = [] := by
  have hnone : recordingsFor (coverageId scope figure)
      (recordCoverage s (coverageIds s) j).notes = [] :=
    List.eq_nil_iff_forall_not_mem.mpr fun r hr => (publishes_of_mem hr).elim hnot
  rw [familyValues_coverage hallows, valuesAt_coverageMeter hallows hjobs,
    valuesUnder_coverage hnames hj, hnone]
  rfl

theorem reportsCoverage : ReportsCoverage s jobs
    ((s.meters (coveragePlan s) (coverageRecordings s jobs)).map Meter.family) where
  names := by
    rw [names_coverageFamilies, coverageIds, coveragePlan, Settings.planFor, List.map_map,
      List.map_map, List.filter_map, List.map_map]
    rfl
  reported scope figure hallows j hj counts hpublishes :=
    familyValues_of_publishes hjobs hnames hallows hj hpublishes
  unreported scope figure hallows j hj hnot :=
    familyValues_of_not_publishes hjobs hnames hallows hj hnot
  labelled f hf := exists_labelled_coverage hjobs hf
  aligned f hf g hg scope figure figure' hfname hgname := by
    obtain ⟨hallows, rfl⟩ := eq_coverageMeter_of_name hf hfname
    obtain ⟨hallows', rfl⟩ := eq_coverageMeter_of_name hg hgname
    exact labels_coverageMeter_eq hjobs hallows hallows'
  absent j hj hfailing f hf x hx hvalues := by
    obtain ⟨scope, figure, -, -, hsamples⟩ := exists_labelled_coverage hjobs hf
    obtain ⟨other, hother, counts, hpublishes, hlabels⟩ := hsamples x hx
    rw [Sample.labelValues, hlabels, List.map_singleton, List.singleton_inj] at hvalues
    rw [List.inj_on_of_nodup_map hnames hother hj hvalues] at hpublishes
    exact Settings.not_publishes_of_failing hfailing scope counts hpublishes

end

/-- While coverage is collected, a scrape of jobs with different names that can be read succeeds.
Its families report each job whose last build is finished and has the counts of a scope, whatever
its earlier builds are, all figures of a scope the same jobs, and no job on which the host fails. -/
theorem coverage_all_or_nothing {s : Settings} (hon : s.config.collectCoverage) {jobs : List Job}
    (hjobs : ∀ j ∈ jobs, j.Nameable) (hnames : (jobs.map fun j => j.info.fullName).Nodup) :
    (∃ families, coverageFamilies s jobs = .ok families ∧ ReportsCoverage s jobs families) ∧
      ∀ (figure : CoverageFigure) (counts : CoverageCounts),
        figure.Shows counts (figure.value counts) := by
  refine ⟨⟨_, ?_, reportsCoverage hjobs hnames⟩, CoverageFigure.shows_value⟩
  rw [coverageFamilies_eq hjobs, if_pos hon]

/-- A finished build that covers three of four lines. -/
def Build.ofLines (number : UInt64) : Build :=
  { Build.plain number with
    info := { (Build.plain number).info with
      coverage := some ⟨none, none, none, none, some ⟨3, 1⟩⟩ } }

/-- One job is reported, and one whose newest build is running is not, though it has a report of an
earlier one. -/
theorem coverage_all_or_nothing_of_two :
    let a := Job.plain "a" [.ofLines 1]
    let b := Job.plain "b" [.ofLines 1, .running 2]
    collectingCoverage.config.collectCoverage ∧ (∀ j ∈ [a, b], j.Nameable) ∧
      ([a, b].map fun j => j.info.fullName).Nodup ∧
      ∃ families, coverageFamilies collectingCoverage [a, b] = .ok families ∧
        familyValues families "default_jenkins_coverage_line_missed" ["a"] =
          [(1 : UInt64).toFloat] ∧
        familyValues families "default_jenkins_coverage_line_missed" ["b"] = [] := by
  intro a b
  have hjobs : ∀ j ∈ [a, b], j.Nameable := by decide
  have hnames : ([a, b].map fun j => j.info.fullName).Nodup := by decide
  obtain ⟨⟨families, hfamilies, hreports⟩, -⟩ :=
    coverage_all_or_nothing (s := collectingCoverage) rfl hjobs hnames
  have hname : (coverageId .lines .missed).name collectingCoverage.nameSpace =
      "default_jenkins_coverage_line_missed" := by decide
  refine ⟨rfl, hjobs, hnames, families, hfamilies, ?_, ?_⟩
  · rw [← hname]
    refine hreports.reported .lines .missed rfl a (by simp) ⟨3, 1⟩ ?_
    exact ⟨.ofLines 1, _, ⟨rfl, List.not_mem_nil, rfl, by decide, rfl, rfl⟩, rfl⟩
  · rw [← hname]
    refine hreports.unreported .lines .missed rfl b (by simp) fun counts => ?_
    rintro ⟨last, report, htakes, -⟩
    have hlast : last = .running 2 := (Option.some.inj htakes.isLast).symm
    have hfinished := htakes.covered.finished
    rw [hlast] at hfinished
    cases hfinished

end BuildTelemetry
