import Mathlib
import BuildTelemetry.Proofs.Identity
import BuildTelemetry.Proofs.Quantiles

/-!
# Repeated labels

The names of labels come from the configuration: the label of the job, fixed names, the parameters,
and the label of a quantile. Nothing checks that they differ, and nothing checks that no quantile is
configured twice.

1. A sample has the label names of its metric, and one of a quantile has the label of the quantile
   besides. So a family that has samples repeats a label exactly if the label names of its metric do
   (`Settings.Reports.labelsDistinct_iff`).
2. Samples of different label sets have different labels, so a family shows a series twice exactly
   if it is a summary and a quantile is configured twice (`Settings.Reports.seriesDistinct_iff`).
3. So the configuration tells what a scrape repeats, on every host (`labels_distinct_iff`).
-/

namespace BuildTelemetry

/-- No sample has two labels of one name. -/
def MetricFamily.LabelsDistinct (f : MetricFamily) : Prop := ∀ x ∈ f.samples, x.labelNames.Nodup

/-- No two samples belong to one series. -/
def MetricFamily.SeriesDistinct (f : MetricFamily) : Prop :=
  f.samples.Pairwise fun x y => ¬x.SameSeries y

/-- The label names of a metric differ, also from the label of a quantile if it has quantiles. -/
def Config.LabelsDistinct (c : Config) (id : MeterId) : Prop :=
  (c.labelNames id).Nodup ∧
    (id.kind.type = .summary → c.quantiles ≠ [] → "quantile" ∉ c.labelNames id)

/-- No two quantiles are written alike. -/
def Config.QuantilesDistinct (c : Config) : Prop := (c.quantiles.map Decimal.floating).Nodup

/-! ## 1. Samples of an instrument -/

/-- Every instrument has a sample with nothing but the labels of its label set. -/
theorem exists_plain_sample (i : Instrument) (name : String) (labels : List LabelPair) :
    ∃ x ∈ Exposable.samples i name labels, x.labels = labels := by
  cases i with
  | counter c => exact ⟨_, List.mem_singleton_self _, rfl⟩
  | gauge g => exact ⟨_, List.mem_singleton_self _, rfl⟩
  | summary t => exact ⟨_, List.mem_cons_self, rfl⟩

theorem mem_samples_summary {t : Summary} {name : String} {labels : List LabelPair} {x : Sample} :
    x ∈ Exposable.samples (Instrument.summary t) name labels ↔
      x ∈ [(⟨name ++ "_count", labels, t.count.toFloat⟩ : Sample),
        ⟨name ++ "_sum", labels, t.sum⟩] ∨
      ∃ qv ∈ t.quantileValues, x = Summary.quantileSample name labels qv := by
  refine List.mem_append.trans (or_congr_right (List.mem_map.trans ?_))
  exact exists_congr fun qv => and_congr_right fun _ => eq_comm

/-- The samples of a summary belong to different series exactly if no quantile is there twice. -/
theorem pairwise_summary_iff (t : Summary) (name : String) (labels : List LabelPair) :
    (Exposable.samples (Instrument.summary t) name labels).Pairwise (fun x y => ¬x.SameSeries y) ↔
      (t.quantileValues.map fun qv => Decimal.floating qv.1).Nodup := by
  have hquantiles : (t.quantileValues.map (Summary.quantileSample name labels)).Pairwise
      (fun x y => ¬x.SameSeries y) ↔
      (t.quantileValues.map fun qv => Decimal.floating qv.1).Nodup := by
    rw [List.Nodup, List.pairwise_map, List.pairwise_map]
    refine List.Pairwise.iff fun p q => not_congr ?_
    simp [Sample.SameSeries, Summary.quantileSample]
  rw [← hquantiles]
  refine List.pairwise_append.trans ⟨fun h => h.2.1, fun h => ⟨?_, h, ?_⟩⟩
  · exact List.pairwise_pair.mpr fun hsame => count_ne_sum name hsame.1
  · intro x hx y hy hsame
    obtain ⟨q, _, rfl⟩ := List.mem_map.mp hy
    rcases List.mem_pair.mp hx with rfl | rfl
    · exact append_ne_self (by decide) hsame.1
    · exact append_ne_self (by decide) hsame.1

namespace Settings.Reports

variable {s : Settings} {m : Meter} {id : MeterId} {values : List String} {i : Instrument}
  {t : Summary}

theorem type_eq (h : s.Reports m id) (hget : m.series.get? values = some i) :
    Exposable.type i = id.kind.type := by
  rw [h.typed.get values i hget, h.descriptor]
  rfl

/-- The label names of a label set are those of the metric. -/
theorem map_fst_zip (h : s.Reports m id) (hget : m.series.get? values = some i) :
    (m.series.labelNames.zip values).map Prod.fst = s.config.labelNames id := by
  have hlength := h.sized _ (Series.mem_cells.mpr hget)
  rw [List.map_fst_zip hlength.ge, h.labelNames]

/-- A summary has a value for each configured quantile. -/
theorem quantiles_eq (h : s.Reports m id) (hvalid : firstOutOfRange? s.config.quantiles = none)
    (hget : m.series.get? values = some (.summary t)) :
    t.quantileValues.map Prod.fst = s.config.quantiles := by
  obtain ⟨vs, hvs, rfl⟩ := h.observed values t hget
  exact Summary.quantiles_of_observed hvalid hvs

/-! ## 2. Families -/

/-- A family that has samples repeats a label name exactly if those of its metric are repeated. -/
theorem labelsDistinct_iff (h : s.Reports m id)
    (hvalid : firstOutOfRange? s.config.quantiles = none) (hne : m.family.samples ≠ []) :
    m.family.LabelsDistinct ↔ s.config.LabelsDistinct id := by
  constructor
  · intro hdistinct
    obtain ⟨x, hx⟩ := List.exists_mem_of_ne_nil _ hne
    obtain ⟨values, i, hget, _⟩ := mem_samples.mp hx
    refine ⟨?_, fun hsummary hquantiles => ?_⟩
    · obtain ⟨plain, hplain, hlabels⟩ := exists_plain_sample i m.descriptor.name
        (m.series.labelNames.zip values)
      have hnodup := hdistinct plain (mem_samples.mpr ⟨values, i, hget, hplain⟩)
      rwa [Sample.labelNames, hlabels, h.map_fst_zip hget] at hnodup
    · have htype := (h.type_eq hget).trans hsummary
      cases i with
      | counter c => cases htype
      | gauge g => cases htype
      | summary t =>
        rw [← h.quantiles_eq hvalid hget, ne_eq, List.map_eq_nil_iff] at hquantiles
        obtain ⟨qv, hqv⟩ := List.exists_mem_of_ne_nil _ hquantiles
        have hnodup := hdistinct _
          (mem_samples.mpr ⟨values, _, hget, mem_samples_summary.mpr (.inr ⟨qv, hqv, rfl⟩)⟩)
        rw [Sample.labelNames, Summary.quantileSample, List.map_append,
          h.map_fst_zip hget] at hnodup
        exact fun hmem => List.disjoint_of_nodup_append hnodup hmem (List.mem_singleton_self _)
  · intro hdistinct x hx
    obtain ⟨values, i, hget, hsample⟩ := mem_samples.mp hx
    rcases labels_of_mem_samples hsample with hlabels | ⟨t, q, rfl, hlabels⟩
    · rw [Sample.labelNames, hlabels, h.map_fst_zip hget]
      exact hdistinct.1
    · have hquantiles : s.config.quantiles ≠ [] := by
        rcases mem_samples_summary.mp hsample with hplain | ⟨qv, hqv, _⟩
        · rcases List.mem_pair.mp hplain with rfl | rfl <;> exact absurd hlabels (by simp)
        · rw [← h.quantiles_eq hvalid hget]
          exact List.ne_nil_of_mem (List.mem_map_of_mem hqv)
      have hfresh := hdistinct.2 (h.type_eq hget).symm hquantiles
      rw [Sample.labelNames, hlabels, List.map_append, h.map_fst_zip hget]
      refine List.nodup_append.mpr ⟨hdistinct.1, List.nodup_singleton _, fun a ha b hb heq => ?_⟩
      rw [heq, List.mem_singleton.mp hb] at ha
      exact hfresh ha

/-- A family that has samples shows a series twice exactly if it has a quantile twice. -/
theorem seriesDistinct_iff (h : s.Reports m id)
    (hvalid : firstOutOfRange? s.config.quantiles = none) (hne : m.family.samples ≠ []) :
    m.family.SeriesDistinct ↔ (id.kind.type = .summary → s.config.QuantilesDistinct) := by
  have hcells : m.family.SeriesDistinct ↔ ∀ cell ∈ m.series.cells,
      (Exposable.samples cell.2 m.descriptor.name (m.series.labelNames.zip cell.1)).Pairwise
        fun x y => ¬x.SameSeries y := by
    refine List.pairwise_flatMap.trans (and_iff_left (m.series.sorted.imp_of_mem ?_))
    intro a b ha hb hlt x hx y hy hsame
    have hne : a.1 ≠ b.1 := fun heq => List.lt_irrefl _ (heq ▸ hlt)
    exact Meter.labels_ne h.sized ha hb hne hx hy hsame.2
  have hquantiles {values : List String} {t : Summary}
      (hget : m.series.get? values = some (.summary t)) :
      (Exposable.samples (Instrument.summary t) m.descriptor.name
        (m.series.labelNames.zip values)).Pairwise (fun x y => ¬x.SameSeries y) ↔
      s.config.QuantilesDistinct := by
    rw [pairwise_summary_iff, Config.QuantilesDistinct, ← h.quantiles_eq hvalid hget, List.map_map]
    rfl
  rw [hcells]
  constructor
  · intro hdistinct hsummary
    obtain ⟨x, hx⟩ := List.exists_mem_of_ne_nil _ hne
    obtain ⟨values, i, hget, _⟩ := mem_samples.mp hx
    have htype := (h.type_eq hget).trans hsummary
    cases i with
    | counter c => cases htype
    | gauge g => cases htype
    | summary t => exact (hquantiles hget).mp (hdistinct _ (Series.mem_cells.mpr hget))
  · rintro hdistinct ⟨values, i⟩ hcell
    have hget := Series.mem_cells.mp hcell
    have htype := h.type_eq hget
    cases i with
    | counter c => exact List.pairwise_singleton _ _
    | gauge g => exact List.pairwise_singleton _ _
    | summary t => exact (hquantiles hget).mpr (hdistinct htype.symm)

end Settings.Reports

/-! ## 3. Scrapes -/

theorem jobLabelNames_sublist (c : Config) : c.jobLabelNames.Sublist c.buildLabelNames := by
  refine List.Sublist.map c.slotName ?_
  rw [Config.buildSlots, List.append_assoc, List.append_assoc]
  exact List.sublist_append_left ..

theorem buildMetricLabels_sublist (names : List String) (kind : MetricKind) :
    (buildMetricLabels names kind).Sublist (names ++ [stageLabel]) := by
  unfold buildMetricLabels
  split
  · exact List.sublist_append_left ..
  · exact .refl _

/-- A metric of builds has some of all labels that builds can have. -/
theorem labelNames_build_sublist (c : Config) (m : BuildMetric) (qualifier : Option String) :
    (c.labelNames ⟨.build m, qualifier⟩).Sublist
      (c.buildLabelNames ++ [numberLabel, stageLabel]) := by
  have hjob := jobLabelNames_sublist c
  unfold Config.labelNames
  split
  · exact List.sublist_append_left ..
  · split
    · exact hjob.trans (List.sublist_append_left ..)
    · split
      · exact (buildMetricLabels_sublist ..).trans (hjob.append (by decide))
      · refine (buildMetricLabels_sublist ..).trans ?_
        rw [List.append_assoc]
        exact .refl _
  all_goals contradiction

/-- It suffices that all labels that builds can have differ, that of a quantile included. -/
theorem labelsDistinct_of_nodup {c : Config}
    (h : (c.buildLabelNames ++ [numberLabel, stageLabel] ++ ["quantile"]).Nodup) (id : MeterId) :
    c.LabelsDistinct id := by
  have hsublist {names : List String}
      (hnames : names.Sublist (c.buildLabelNames ++ [numberLabel, stageLabel])) :
      names.Nodup ∧ "quantile" ∉ names := by
    have hnodup := h.sublist (hnames.append_right ["quantile"])
    exact ⟨hnodup.of_append_left, fun hmem =>
      List.disjoint_of_nodup_append hnodup hmem (List.mem_singleton_self _)⟩
  obtain ⟨kind, qualifier⟩ := id
  cases kind with
  | build m =>
    obtain ⟨hnodup, hquantile⟩ := hsublist (labelNames_build_sublist c m qualifier)
    exact ⟨hnodup, fun _ _ => hquantile⟩
  | job m =>
    obtain ⟨hnodup, hquantile⟩ :=
      hsublist ((jobLabelNames_sublist c).trans (List.sublist_append_left ..))
    exact ⟨hnodup, fun _ _ => hquantile⟩
  | executor m => exact ⟨List.nodup_singleton _, by cases m <;> exact nofun⟩
  | directory m =>
    exact ⟨(by decide : [storeLabel, directoryLabel].Nodup), by cases m <;> exact nofun⟩
  | jobUsage => exact ⟨(by decide : [storeLabel, diskJobLabel, urlLabel].Nodup), nofun⟩
  | fileStore size => exact ⟨List.nodup_singleton _, by cases size <;> exact nofun⟩
  | host m => cases m <;> exact ⟨by simp [Config.labelNames], nofun⟩
  | coverage scope figure => exact ⟨List.nodup_singleton _, nofun⟩

/-- In a scrape by all collectors that succeeds, under any configuration that was accepted, a family
repeats a label name exactly if the label names of its metric are repeated, and it shows a series
twice exactly if it is a summary and a quantile is configured twice. -/
theorem labels_distinct_iff {environment : Option String} {config : Config} {e : Exporter}
    (haccepted : Settings.of environment config = .ok e.active.load) (hc : e.counters.Reachable)
    {now : Int64} {collectors : List Collector} (hcomplete : Complete collectors)
    {families : List MetricFamily} (hscrape : (e.scrape collectors now).2 = .ok families) :
    (∀ f ∈ families, f.samples ≠ [] → ∃ id ∈ exposedIds,
      f.name = id.name e.active.load.nameSpace ∧
      (f.LabelsDistinct ↔ config.LabelsDistinct id) ∧
      (f.SeriesDistinct ↔ (id.kind.type = .summary → config.QuantilesDistinct))) ∧
    ((config.buildLabelNames ++ [numberLabel, stageLabel] ++ ["quantile"]).Nodup →
      ∀ f ∈ families, f.LabelsDistinct) ∧
    (config.QuantilesDistinct → ∀ f ∈ families, f.SeriesDistinct) := by
  obtain ⟨rfl, _, hvalid⟩ := Settings.of_eq_ok haccepted
  obtain ⟨hok, rfl⟩ := (Exporter.scrape_eq_ok hcomplete.nodup).mp hscrape
  have hexact : ∀ f ∈ exposed (some e.active.load) (collectors.flatMap (e.familiesFrom now)),
      f.samples ≠ [] → ∃ id ∈ exposedIds, f.name = id.name e.active.load.nameSpace ∧
        (f.LabelsDistinct ↔ e.active.load.config.LabelsDistinct id) ∧
        (f.SeriesDistinct ↔
          (id.kind.type = .summary → e.active.load.config.QuantilesDistinct)) := by
    intro f hf hne
    obtain ⟨c, hmem, hfrom⟩ := List.mem_flatMap.mp (List.mem_filter.mp hf).1
    obtain ⟨id, m, hreports, rfl⟩ := exists_reports_of_mem_familiesFrom hc (hok c hmem) hfrom
    exact ⟨id, hreports.known, congrArg Descriptor.name hreports.descriptor,
      hreports.labelsDistinct_iff hvalid hne, hreports.seriesDistinct_iff hvalid hne⟩
  refine ⟨hexact, fun hnames f hf x hx => ?_, fun hquantiles f hf => ?_⟩
  · obtain ⟨id, _, _, hlabels, _⟩ := hexact f hf (List.ne_nil_of_mem hx)
    exact hlabels.mpr (labelsDistinct_of_nodup hnames id) x hx
  · by_cases hne : f.samples = []
    · rw [MetricFamily.SeriesDistinct, hne]
      exact .nil
    · obtain ⟨id, _, _, _, hseries⟩ := hexact f hf hne
      exact hseries.mpr fun _ => hquantiles

/-- The settings of an operator who reports every build with all labels that there are. -/
def labelledBuilds : Settings :=
  let s := Settings.initial none
  { s with config := { s.config with
      perBuild := true, parametersLabel := true, statusLabel := true
      labelledParameters := ["BRANCH", " REGION "] } }

/-- The same with quantiles. -/
def labelledQuantiles : Settings :=
  { labelledBuilds with config := { labelledBuilds.config with quantiles := [0.5, 0.9, 0.99] } }

/-- A build of a branch. -/
def Build.onBranch (number : UInt64) (branch : String) : Build :=
  { Build.plain number with
    info := { (Build.plain number).info with
      parameters := [("BRANCH", branch)], duration := 1000 * number } }

/-- A host with builds of two branches in one job, and of one branch in another. -/
def hostOfBranches : Host :=
  ⟨[⟨0, .plain "org/repo/main" [.onBranch 1 "main", .onBranch 2 "next", .onBranch 3 "main"]⟩,
    ⟨1, .plain "a" [.ofJob 1 (.onBranch 1 "main")]⟩], [], .initial⟩

/-- A build of each job has completed since the last collection. -/
def scrapedBranches : Exporter :=
  ((Exporter.start ⟨none, some labelledQuantiles⟩ hostOfBranches).collectJobs 0).1.run
    [.complete (.onBranch 3 "main"), .complete (.ofJob 1 (.onBranch 1 "main"))]

theorem reachable_scrapedBranches : scrapedBranches.counters.Reachable :=
  Exporter.reachable_collectJobs .empty 0

/-- The labels of the builds of the branch that has two. -/
def mainBranchValues : List String :=
  ["org/repo/main", "repo", "true", "BRANCH=main", "SUCCESS", "main", "UNDEFINED"]

/-- Two builds have the same labels. -/
theorem familyCounts_scrapedBranches {families : List MetricFamily}
    (hfamilies : (scrapedBranches.collectJobs 0).2 = .ok families) :
    familyCounts families labelledQuantiles.durationsName mainBranchValues =
      [UInt64.toFloat 2] := by
  have hkept := (Exporter.reachable_collectJobs reachable_scrapedBranches 0).wellKept
  have hhealthy : scrapedBranches.host.Healthy := by decide
  have hjobs := Exporter.collectJobs_of_nameable hhealthy.nameable 0 rfl
  obtain rfl := Except.ok.inj (hfamilies.symm.trans hjobs)
  have hincluded : ((includedBuilds labelledQuantiles hostOfBranches.jobs).countP fun p =>
      labelledQuantiles.config.valuesOf p.1 p.2 == mainBranchValues) = 2 := by
    -- the quantiles do not matter to the labels of builds
    change ((includedBuilds labelledBuilds hostOfBranches.jobs).countP fun p =>
      labelledBuilds.config.valuesOf p.1 p.2 == mainBranchValues) = 2
    cbv
  have hcount := (accountsFor_jobFamilies (s := labelledQuantiles) 0 hkept hhealthy).durations
    (by decide) mainBranchValues
  have hjobsOf : scrapedBranches.host.jobs = hostOfBranches.jobs := rfl
  simp only [hjobsOf, hincluded] at hcount
  exact hcount

/-- Nothing is repeated where all labels and all quantiles differ. -/
theorem labels_distinct_of_branches :
    Settings.of none labelledQuantiles.config = .ok scrapedBranches.active.load ∧
      scrapedBranches.counters.Reachable ∧ Complete everyCollector ∧
      ∃ families, (scrapedBranches.scrape everyCollector 0).2 = .ok families ∧
        (∀ f ∈ families, f.LabelsDistinct ∧ f.SeriesDistinct) ∧
        UInt64.toFloat 2 ∈
          familyCounts families labelledQuantiles.durationsName mainBranchValues := by
  have haccepted : Settings.of none labelledQuantiles.config =
      .ok scrapedBranches.active.load := rfl
  have hcomplete : Complete everyCollector := .refl everyCollector
  obtain ⟨families, hscrape⟩ :=
    Exporter.scrape_of_nameable (e := scrapedBranches) (by decide) 0 (Complete.nodup hcomplete)
  obtain ⟨_, hlabels, hseries⟩ :=
    labels_distinct_iff haccepted reachable_scrapedBranches hcomplete hscrape
  have hnames : (labelledQuantiles.config.buildLabelNames ++ [numberLabel, stageLabel] ++
      ["quantile"]).Nodup := by
    have hbuilds : labelledQuantiles.config.buildLabelNames =
        labelledBuilds.config.buildLabelNames := rfl
    have hwritten : labelledBuilds.config.buildLabelNames =
        ["jenkins_job", "repo", "buildable", "parameters", "status", "BRANCH", "REGION"] := by cbv
    rw [hbuilds, hwritten]
    decide
  have hquantiles : labelledQuantiles.config.QuantilesDistinct := by
    have hwritten : labelledQuantiles.config.quantiles.map Decimal.floating =
        ["0.5", "0.9", "0.99"] := by decide +kernel
    rw [Config.QuantilesDistinct, hwritten]
    decide
  refine ⟨haccepted, reachable_scrapedBranches, hcomplete, families, hscrape,
    fun f hf => ⟨hlabels hnames f hf, hseries hquantiles f hf⟩, ?_⟩
  obtain ⟨hok, rfl⟩ := (Exporter.scrape_eq_ok hcomplete.nodup).mp hscrape
  have hcount := familyCounts_scrapedBranches (hok .jobs (hcomplete.mem .jobs))
  obtain ⟨f, hf, hname, x, hx, hsample⟩ :=
    mem_familyCounts.mp (hcount ▸ List.mem_singleton_self (UInt64.toFloat 2))
  have hexposed : isExposed (some scrapedBranches.active.load) f :=
    isExposed_iff.mpr ⟨List.ne_nil_of_mem hx, rfl⟩
  have hmem := List.mem_flatMap.mpr ⟨Collector.jobs, hcomplete.mem .jobs, hf⟩
  exact mem_familyCounts.mpr ⟨f, List.mem_filter.mpr ⟨hmem, hexposed⟩, hname, x, hx, hsample⟩

/-- The settings of an operator who names the label of the job like that of the repository. -/
def repoNamed : Settings :=
  { Settings.initial none with config := { Config.initial with jobLabel := "repo" } }

/-- The configuration is accepted, and a sample has two labels of one name. -/
theorem exists_repeated_label :
    let e := Exporter.start ⟨none, some repoNamed⟩ hostOfJobA
    Settings.of none repoNamed.config = .ok e.active.load ∧
      ∃ families, (e.scrape everyCollector 0).2 = .ok families ∧
        ∃ f ∈ families, ¬f.LabelsDistinct := by
  intro e
  obtain ⟨families, hscrape⟩ :=
    Exporter.scrape_of_nameable (e := e) (by decide) 0 (Complete.nodup (.refl everyCollector))
  have hrepeated : ((e.scrape everyCollector 0).2.toOption.getD []).any
      (fun f => f.samples.any fun x => !decide x.labelNames.Nodup) := by decide +kernel
  rw [hscrape] at hrepeated
  obtain ⟨f, hf, hany⟩ := List.any_eq_true.mp hrepeated
  obtain ⟨x, hx, hnot⟩ := List.any_eq_true.mp hany
  refine ⟨rfl, families, hscrape, f, hf, fun hdistinct => ?_⟩
  simp [hdistinct x hx] at hnot

end BuildTelemetry
