import Mathlib.Data.List.Flatten
import Mathlib.Data.List.Pairwise
import BuildTelemetry.Proofs.IncludedBuilds
import BuildTelemetry.Proofs.Reports
import BuildTelemetry.Proofs.Suppression

/-!
# Series have different identities

A series is known by the name and the labels of its samples, and one that comes twice spoils the
whole exposition. Only the samples of a summary's quantiles may agree in both, where a quantile is
configured twice.

1. Samples are named after their family with a suffix that depends on its type. The names that come
   about differ for different metrics, whatever the namespace (`sampleNames_injective`).
2. All instruments of a meter have the type of its metric, so the samples of one family differ in
   their names or in their labels (`Meter.identified`).
3. Each collector gives families of its own metrics, at most one of each
   (`identified_of_mem_familiesFrom`, `names_familiesFrom_sublist`).
4. So no series comes twice in a scrape (`series_identities_unique`).
-/

namespace BuildTelemetry

open JobPlan (ids)

/-! ## 1. Names of samples -/

/-- Two samples belong to one series. -/
def Sample.SameSeries (x y : Sample) : Prop := x.name = y.name ∧ x.labels = y.labels

/-- What a sample of a type may add to the name of its family. -/
def MetricType.suffixes : MetricType → List String
  | .counter => ["_total"]
  | .summary => ["_count", "_sum", ""]
  | _ => [""]

namespace MeterId

/-- The names of the samples of a metric. -/
def sampleNames (id : MeterId) (nameSpace : String) : List String :=
  id.kind.type.suffixes.map (id.name nameSpace ++ ·)

theorem nodup_sampleTails :
    (exposedIds.flatMap fun id => id.kind.type.suffixes.map (id.tail ++ ·)).Nodup := by
  decide +kernel

/-- No two metrics of a scrape have a sample of one name, whatever the namespace. -/
theorem sampleNames_injective (nameSpace : String) {a b : MeterId} (ha : a ∈ exposedIds)
    (hb : b ∈ exposedIds) {name : String} (hname : name ∈ a.sampleNames nameSpace)
    (hname' : name ∈ b.sampleNames nameSpace) : a = b := by
  obtain ⟨suffix, hsuffix, rfl⟩ := List.mem_map.mp hname
  obtain ⟨other, hother, heq⟩ := List.mem_map.mp hname'
  rw [name_eq, name_eq] at heq
  simp only [String.append_assoc, String.append_right_inj] at heq
  by_contra hne
  have hdisjoint := (List.nodup_flatMap.mp nodup_sampleTails).2
  have hsymm : Std.Symm (Function.onFun List.Disjoint fun id : MeterId =>
      id.kind.type.suffixes.map (id.tail ++ ·)) := ⟨fun _ _ h _ ha hb => h hb ha⟩
  refine hdisjoint.forall ha hb hne (List.mem_map_of_mem hsuffix) ?_
  rw [← heq]
  exact List.mem_map_of_mem hother

end MeterId

/-! ## 2. Samples of one family -/

/-- A sample of a quantile. Unlike the others of its summary it has the name of its family. -/
def MetricFamily.IsQuantile (f : MetricFamily) (x : Sample) : Prop :=
  f.type = .summary ∧ x.name = f.name

/-- The samples of a family are named after a metric, and they belong to different series unless
they are quantiles. -/
structure MetricFamily.IdentifiedBy (f : MetricFamily) (id : MeterId) (nameSpace : String) :
    Prop where
  name : f.name = id.name nameSpace
  names : ∀ x ∈ f.samples, x.name ∈ id.sampleNames nameSpace
  apart : f.samples.Pairwise fun x y => x.SameSeries y → f.IsQuantile x ∧ f.IsQuantile y

/-- A sample of an instrument is named after its family with a suffix of its type. -/
theorem name_of_mem_samples {i : Instrument} {name : String} {labels : List LabelPair} {x : Sample}
    (h : x ∈ Exposable.samples i name labels) :
    ∃ suffix ∈ (Exposable.type i).suffixes, x.name = name ++ suffix := by
  cases i with
  | counter c =>
    obtain rfl := List.mem_singleton.mp h
    exact ⟨_, List.mem_singleton_self _, rfl⟩
  | gauge g =>
    obtain rfl := List.mem_singleton.mp h
    exact ⟨_, List.mem_singleton_self _, String.append_empty.symm⟩
  | summary s =>
    have hsuffixes :
        (Exposable.type (Instrument.summary s)).suffixes = ["_count", "_sum", ""] := rfl
    rw [hsuffixes]
    rcases List.mem_append.mp h with hbase | hquantile
    · rcases List.mem_pair.mp hbase with rfl | rfl
      · exact ⟨"_count", by decide, rfl⟩
      · exact ⟨"_sum", by decide, rfl⟩
    · obtain ⟨q, _, rfl⟩ := List.mem_map.mp hquantile
      exact ⟨"", by decide, String.append_empty.symm⟩

/-- A sample with a suffix is not named like its family. -/
theorem append_ne_self {name suffix : String} (h : suffix ≠ "") : name ++ suffix ≠ name := by
  intro heq
  rw [String.append_eq_left_iff] at heq
  exact h heq

theorem count_ne_sum (name : String) : name ++ "_count" ≠ name ++ "_sum" := by
  rw [ne_eq, String.append_right_inj]
  decide

/-- The samples of one instrument have different names, those of quantiles apart. -/
theorem pairwise_samples (i : Instrument) (name : String) (labels : List LabelPair) :
    (Exposable.samples i name labels).Pairwise fun x y =>
      x.name = y.name → Exposable.type i = .summary ∧ x.name = name ∧ y.name = name := by
  cases i with
  | counter c => exact List.pairwise_singleton _ _
  | gauge g => exact List.pairwise_singleton _ _
  | summary s =>
    refine List.pairwise_append.mpr ⟨?_, ?_, ?_⟩
    · refine List.pairwise_pair.mpr fun heq => ?_
      exact absurd heq (count_ne_sum name)
    · refine List.pairwise_map.mpr (List.pairwise_of_forall fun _ _ _ => ?_)
      exact ⟨rfl, rfl, rfl⟩
    · intro x hx y hy heq
      obtain ⟨q, _, rfl⟩ := List.mem_map.mp hy
      rcases List.mem_pair.mp hx with rfl | rfl
      · exact absurd heq (append_ne_self (by decide))
      · exact absurd heq (append_ne_self (by decide))

/-- Label values with one for each label name are known from the label pairs. -/
theorem eq_of_zip_eq {labelNames a b : List String} (ha : a.length = labelNames.length)
    (hb : b.length = labelNames.length) (h : labelNames.zip a = labelNames.zip b) : a = b := by
  have hvalues := congrArg (List.map Prod.snd) h
  rwa [List.map_snd_zip ha.le, List.map_snd_zip hb.le] at hvalues

/-- The label pairs of a quantile are one more than those of a cell. -/
theorem zip_ne_append {labelNames a b : List String} (ha : a.length = labelNames.length)
    (hb : b.length = labelNames.length) (pair : LabelPair) :
    labelNames.zip a ≠ labelNames.zip b ++ [pair] := by
  intro h
  have hlength := congrArg List.length h
  rw [List.length_append, List.length_zip, List.length_zip, ha, hb] at hlength
  exact absurd hlength (by simp)

/-- Different cells have different label values, so their samples have different labels. -/
theorem Meter.labels_ne {m : Meter} (hsized : m.Sized) {a b : List String × Instrument}
    (ha : a ∈ m.series.cells) (hb : b ∈ m.series.cells) (hne : a.1 ≠ b.1) {name : String}
    {x y : Sample} (hx : x ∈ Exposable.samples a.2 name (m.series.labelNames.zip a.1))
    (hy : y ∈ Exposable.samples b.2 name (m.series.labelNames.zip b.1)) : x.labels ≠ y.labels := by
  have hsizes := And.intro (hsized a ha) (hsized b hb)
  intro hsame
  rcases labels_of_mem_samples hx with hx | ⟨_, p, _, hx⟩
  · rcases labels_of_mem_samples hy with hy | ⟨_, q, _, hy⟩
    · exact hne (eq_of_zip_eq hsizes.1 hsizes.2 (hx.symm.trans (hsame.trans hy)))
    · exact zip_ne_append hsizes.1 hsizes.2 _ (hx.symm.trans (hsame.trans hy))
  · rcases labels_of_mem_samples hy with hy | ⟨_, q, _, hy⟩
    · exact zip_ne_append hsizes.2 hsizes.1 _ (hy.symm.trans (hsame.symm.trans hx))
    · have heq := List.append_inj_left' (hx.symm.trans (hsame.trans hy)) rfl
      exact hne (eq_of_zip_eq hsizes.1 hsizes.2 heq)

/-- The samples of a meter whose instruments all have its type belong to different series, those of
quantiles apart. -/
theorem Meter.identified {m : Meter} {id : MeterId} {nameSpace : String}
    (hdescriptor : m.descriptor = .of id.kind nameSpace id.qualifier) (hsized : m.Sized)
    (htyped : m.Typed) : m.family.IdentifiedBy id nameSpace where
  name := congrArg Descriptor.name hdescriptor
  names := by
    intro x hx
    obtain ⟨values, i, hget, hsample⟩ := mem_samples.mp hx
    obtain ⟨suffix, hsuffix, hname⟩ := name_of_mem_samples hsample
    rw [htyped.get values i hget, hdescriptor] at hsuffix
    rw [hdescriptor] at hname
    exact List.mem_map.mpr ⟨suffix, hsuffix, hname.symm⟩
  apart := by
    refine List.pairwise_flatMap.mpr ⟨?_, ?_⟩
    · intro cell hcell
      refine (pairwise_samples cell.2 m.descriptor.name _).imp fun h hsame => ?_
      obtain ⟨hsummary, hx, hy⟩ := h hsame.1
      rw [htyped.get cell.1 cell.2 (Series.mem_cells.mp hcell)] at hsummary
      exact ⟨⟨hsummary, hx⟩, hsummary, hy⟩
    · refine m.series.sorted.imp_of_mem ?_
      intro a b ha hb hlt x hx y hy hsame
      have hne : a.1 ≠ b.1 := fun heq => List.lt_irrefl _ (heq ▸ hlt)
      exact absurd hsame.2 (Meter.labels_ne hsized ha hb hne hx hy)

/-! ## 3. Families of the collectors -/

/-- The families that a collector gives are those of metrics. -/
theorem identified_of_mem_familiesFrom {e : Exporter} {now : Int64} (hc : e.counters.Reachable)
    {c : Collector} (hok : (e.collectFrom now c).2 = .ok (e.familiesFrom now c))
    {f : MetricFamily} (hf : f ∈ e.familiesFrom now c) :
    ∃ id ∈ exposedIds, f.IdentifiedBy id e.active.load.nameSpace := by
  obtain ⟨id, m, hreports, rfl⟩ := exists_reports_of_mem_familiesFrom hc hok hf
  exact ⟨id, hreports.known, Meter.identified hreports.descriptor hreports.sized hreports.typed⟩

/-- The metrics that a collector gives families of, in their order. -/
def Collector.ids : Collector → List MeterId
  | .jobs => scrapeIds
  | .coverage => (coverageMetrics.map fun m => MetricKind.coverage m.1 m.2).map (⟨·, none⟩)
  | .executors => (executorMetrics.map MetricKind.executor).map (⟨·, none⟩)
  | .storage =>
    (directoryMetrics.map MetricKind.directory).map (⟨·, none⟩) ++
      [MetricKind.jobUsage].map (⟨·, none⟩) ++ (storeSizes.map MetricKind.fileStore).map (⟨·, none⟩)
  | .status =>
    (plainHostMetrics.map MetricKind.host).map (⟨·, none⟩) ++
      [MetricKind.host .version].map (⟨·, none⟩)

/-- No metric is given by two collectors, or twice by one. -/
theorem nodup_collectorIds : (everyCollector.flatMap Collector.ids).Nodup := by decide +kernel

theorem names_planFor_sublist (s : Settings) (kinds : List MetricKind) (names : List String)
    (rs : List Recording) :
    (((s.meters (s.planFor kinds names) rs).map Meter.family).map (·.name)).Sublist
      ((kinds.map fun kind => (⟨kind, none⟩ : MeterId)).map (·.name s.nameSpace)) := by
  have hnames := names_meters s (s.planFor kinds names) rs
  rw [List.map_map]
  exact hnames ▸ (ids_planFor_sublist s kinds names).map _

/-- The families of jobs are those of the metrics that the configuration asks for, in their
order. -/
theorem names_jobs_sublist {e : Exporter} {now : Int64} (hc : e.counters.Reachable)
    (hok : (e.collectFrom now .jobs).2 = .ok (e.familiesFrom now .jobs)) :
    ((e.familiesFrom now .jobs).map (·.name)).Sublist
      (e.active.load.config.outputIds.map (·.name e.active.load.nameSpace)) := by
  rw [Exporter.familiesFrom_jobs hok]
  split
  · refine (List.filter_sublist.map _).trans ?_
    rw [List.map_map]
    exact names_output_sublist e.active.load (Exporter.reachable_collectJobs hc now).wellKept _
  · exact List.nil_sublist _

/-- A collector gives families of its metrics in their order, at most one of each. -/
theorem names_familiesFrom_sublist {e : Exporter} {now : Int64} (hc : e.counters.Reachable)
    {c : Collector} (hok : (e.collectFrom now c).2 = .ok (e.familiesFrom now c)) :
    ((e.familiesFrom now c).map (·.name)).Sublist
      (c.ids.map (·.name e.active.load.nameSpace)) := by
  cases c with
  | jobs => exact (names_jobs_sublist hc hok).trans ((Config.outputIds_sublist _).map _)
  | coverage =>
    change coverageFamilies _ _ = _ at hok
    unfold coverageFamilies at hok
    split at hok
    · rw [← Except.ok.inj hok]
      exact List.nil_sublist _
    · obtain ⟨_, _, heq⟩ := reading_map_eq_ok.mp hok
      rw [← heq]
      exact names_planFor_sublist ..
  | executors => exact names_planFor_sublist ..
  | storage =>
    show ((storageFamilies e.active.load e.host.report.disk).map _).Sublist _
    unfold storageFamilies
    split
    · exact List.nil_sublist _
    · split
      · exact List.nil_sublist _
      · rw [Collector.ids, List.map_append, List.map_append, List.map_append, List.map_append]
        exact ((names_planFor_sublist ..).append (names_planFor_sublist ..)).append
          (names_planFor_sublist ..)
  | status =>
    show ((statusFamilies e.active.load e.host.report.status).map _).Sublist _
    rw [statusFamilies, Settings.meters, statusPlan, List.map_append, List.map_append,
      List.map_append, Collector.ids, List.map_append]
    exact (names_planFor_sublist ..).append (names_planFor_sublist ..)

/-! ## 4. Scrapes -/

theorem mem_exposedIds_of_mem_collectorIds {c : Collector} {id : MeterId} (h : id ∈ c.ids) :
    id ∈ exposedIds := by
  cases c with
  | jobs => exact mem_exposedIds_of_mem_scrapeIds h
  | coverage =>
    obtain ⟨kind, _, rfl⟩ := List.mem_map.mp h
    exact MeterId.mem_exposedIds kind
  | executors =>
    obtain ⟨kind, _, rfl⟩ := List.mem_map.mp h
    exact MeterId.mem_exposedIds kind
  | storage =>
    rw [Collector.ids, ← List.map_append, ← List.map_append] at h
    obtain ⟨kind, _, rfl⟩ := List.mem_map.mp h
    exact MeterId.mem_exposedIds kind
  | status =>
    rw [Collector.ids, ← List.map_append] at h
    obtain ⟨kind, _, rfl⟩ := List.mem_map.mp h
    exact MeterId.mem_exposedIds kind

/-- The samples of some families, each with its family. -/
def ownedSamples (families : List MetricFamily) : List (MetricFamily × Sample) :=
  families.flatMap fun f => f.samples.map fun x => (f, x)

/-- No two families have one name, and no two samples belong to one series, unless both are samples
of quantiles. -/
def SeriesUnique (families : List MetricFamily) : Prop :=
  (families.map (·.name)).Nodup ∧ (ownedSamples families).Pairwise fun a b =>
    a.2.SameSeries b.2 → a.1.IsQuantile a.2 ∧ b.1.IsQuantile b.2

/-- Families of different names, each of a metric, have no series in common. -/
theorem seriesUnique_of_identified {families : List MetricFamily} (nameSpace : String)
    (hnames : (families.map (·.name)).Nodup)
    (hids : ∀ f ∈ families, ∃ id ∈ exposedIds, f.IdentifiedBy id nameSpace) :
    SeriesUnique families := by
  refine ⟨hnames, List.pairwise_flatMap.mpr ⟨?_, ?_⟩⟩
  · intro f hf
    obtain ⟨_, _, hidentified⟩ := hids f hf
    exact List.pairwise_map.mpr hidentified.apart
  · refine (List.pairwise_map.mp hnames).imp_of_mem ?_
    intro f g hf hg hne a ha b hb hsame
    obtain ⟨x, hx, rfl⟩ := List.mem_map.mp ha
    obtain ⟨y, hy, rfl⟩ := List.mem_map.mp hb
    obtain ⟨id, hid, hf⟩ := hids f hf
    obtain ⟨other, hother, hg⟩ := hids g hg
    -- samples of one name would make the two families those of one metric
    have hshared : x.name ∈ other.sampleNames nameSpace := by
      rw [hsame.1]
      exact hg.names y hy
    have heq := MeterId.sampleNames_injective nameSpace hid hother (hf.names x hx) hshared
    exact absurd (hf.name.trans (heq ▸ hg.name.symm)) hne

/-- In a scrape by all collectors that succeeds no series comes twice, whatever the namespace, the
host and the kept counters are. -/
theorem series_identities_unique {e : Exporter} (hc : e.counters.Reachable) {now : Int64}
    {collectors : List Collector} (hcomplete : Complete collectors)
    {families : List MetricFamily} (hscrape : (e.scrape collectors now).2 = .ok families) :
    SeriesUnique families := by
  obtain ⟨hok, rfl⟩ := (Exporter.scrape_eq_ok hcomplete.nodup).mp hscrape
  refine seriesUnique_of_identified e.active.load.nameSpace ?_ ?_
  · have hids : (collectors.flatMap Collector.ids).Nodup :=
      (hcomplete.flatMap_right _).nodup_iff.mpr nodup_collectorIds
    have hnames : ((collectors.flatMap Collector.ids).map
        (·.name e.active.load.nameSpace)).Nodup := by
      refine hids.map_on fun a ha b hb hab => ?_
      obtain ⟨_, _, ha⟩ := List.mem_flatMap.mp ha
      obtain ⟨_, _, hb⟩ := List.mem_flatMap.mp hb
      exact MeterId.name_injective _ (mem_exposedIds_of_mem_collectorIds ha)
        (mem_exposedIds_of_mem_collectorIds hb) hab
    refine hnames.sublist ((List.filter_sublist.map _).trans ?_)
    rw [List.map_flatMap, List.map_flatMap]
    exact List.Sublist.flatMap_right _ fun c hmem => names_familiesFrom_sublist hc (hok c hmem)
  · intro f hf
    obtain ⟨c, hmem, hfrom⟩ := List.mem_flatMap.mp (List.mem_filter.mp hf).1
    exact identified_of_mem_familiesFrom hc (hok c hmem) hfrom

/-- The two jobs of one name, on a host that reports a node label, a directory, a job's usage and a
file store twice each. -/
def hostOfDuplicates : Host :=
  let load : ExecutorLoad := ⟨"linux", 1, 0, 0, 1, 1, 1, 0⟩
  let directory : DirectoryUsage := ⟨"disk", "/home", some 1, some 1⟩
  let usage : JobUsage := ⟨"disk", "a", "job/a", some 1⟩
  let store : FileStore := ⟨"disk", some 1, none⟩
  { hostOfNamesakes with
    report := ⟨⟨false, 0, some "1.0", 1⟩, [load, load],
      some ⟨[directory, directory], [usage, usage], [store, store]⟩⟩ }

/-- Whatever the host reports twice, the second of two scrapes shows it once. -/
theorem series_identities_unique_of_duplicates :
    let before := (Exporter.start ⟨none, some everyBuild⟩ hostOfDuplicates).run
      [.complete (.plain 1), .complete (.ofJob 1 (.plain 1))]
    let e := (before.collectJobs 0).1
    ∃ families, (e.scrape everyCollector 0).2 = .ok families ∧ SeriesUnique families := by
  intro before e
  have hhost : e.host = hostOfDuplicates := Exporter.host_collectJobs before 0
  obtain ⟨families, hscrape⟩ := Exporter.scrape_of_nameable (e := e) (by rw [hhost]; decide) 0
    (Complete.nodup (.refl everyCollector))
  have hreachable : e.counters.Reachable := Exporter.reachable_collectJobs .empty 0
  exact ⟨families, hscrape, series_identities_unique hreachable (.refl everyCollector) hscrape⟩

end BuildTelemetry
