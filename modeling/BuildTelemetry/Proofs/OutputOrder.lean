import BuildTelemetry.Proofs.ByteOrder
import BuildTelemetry.Proofs.Containment
import BuildTelemetry.Proofs.LabelSets

/-!
# The order of a scrape of jobs

1. The names of the families that a scrape of jobs can have, in their order (`outputNames`).
2. A family lists its label sets one after the other, in the order of their bytes. Each has the
   samples of the type, those of a summary's quantiles in the order of the configuration
   (`MetricType.rows`, `Settings.Reports.lists`).
3. So all label values of the samples are in order exactly if the quantiles of summaries are
   (`MetricFamily.Lists.ordered_iff`).
4. Every scrape of jobs has families of these names, in this order and laid out in this way
   (`job_output_order`). With quantiles that are not in order label values are not either
   (`exists_unordered_values`).
-/

namespace BuildTelemetry

/-! ## 1. Names -/

/-- The names of the metrics of a build, behind the prefix of its group. -/
def buildOutputNames : List String :=
  ["build_result_ordinal", "build_result", "build_duration_milliseconds",
    "build_start_time_milliseconds", "build_waiting_milliseconds", "build_logfile_size_bytes",
    "build_tests_total", "build_tests_failing", "build_tests_skipped", "likely_stuck",
    "stage_duration_milliseconds_summary", "stage_result_ordinal"]

/-- The names of the families of a scrape of jobs, behind the namespace and the subsystem, in their
order. -/
def outputNames (perBuild : Bool) : List String :=
  ["duration_milliseconds_summary"] ++
    ["success_build_count", "failed_build_count", "aborted_build_count", "unstable_build_count",
      "total_build_count"] ++
    ["health_score", "available_builds_count", "discard_active",
      "running_build_duration_milliseconds", "job_log_updated"] ++
    buildOutputNames.map ("last_" ++ ·) ++ if perBuild then buildOutputNames else []

/-- The name of a family under a namespace. -/
def jobFamilyName (nameSpace name : String) : String := nameSpace ++ "_jenkins_builds_" ++ name

theorem names_outputIds (c : Config) (nameSpace : String) :
    c.outputIds.map (·.name nameSpace) =
      (outputNames c.perBuild).map (jobFamilyName nameSpace) := by
  have htails : c.outputIds.map MeterId.tail =
      (outputNames c.perBuild).map ("_builds_" ++ ·) := by
    unfold Config.outputIds outputNames
    cases c.perBuild <;> decide +kernel
  have hmeter (id : MeterId) :
      id.name nameSpace = nameSpace ++ ("_" ++ (subsystem ++ id.tail)) := id.name_eq nameSpace
  have hprefix : "_jenkins_builds_" = "_" ++ (subsystem ++ "_builds_") := by decide
  have hfamily (name : String) :
      jobFamilyName nameSpace name = nameSpace ++ ("_" ++ (subsystem ++ ("_builds_" ++ name))) := by
    simp only [jobFamilyName, hprefix, String.append_assoc]
  have hplaced := congrArg (List.map fun tail => nameSpace ++ ("_" ++ (subsystem ++ tail))) htails
  simp only [List.map_map, Function.comp_def, ← hmeter, ← hfamily] at hplaced
  exact hplaced

/-! ## 2. Samples of a family -/

/-- What a sample shows besides its value. -/
def Sample.row (x : Sample) : String × List LabelPair := (x.name, x.labels)

/-- The texts that stand for the configured quantiles in labels. -/
def Config.quantileTexts (c : Config) : List String := c.quantiles.map Decimal.floating

/-- The samples of a metric of a type under one label set: those of the quantiles come last. -/
def MetricType.rows (type : MetricType) (name : String) (labels : List LabelPair)
    (quantiles : List String) : List (String × List LabelPair) :=
  match type with
  | .counter => [(name ++ "_total", labels)]
  | .summary =>
    [(name ++ "_count", labels), (name ++ "_sum", labels)] ++
      quantiles.map fun q => (name, labels ++ [("quantile", q)])
  | _ => [(name, labels)]

/-- A family lists label sets in the order of their bytes, and for each of them the samples of the
type. -/
structure MetricFamily.Lists (f : MetricFamily) (c : Config) (id : MeterId)
    (sets : List (List String)) : Prop where
  nonempty : sets ≠ []
  sized : ∀ values ∈ sets, values.length = (c.labelNames id).length
  ordered : sets.Pairwise BytesBefore
  rows : f.samples.map Sample.row = sets.flatMap fun values =>
    f.type.rows f.name ((c.labelNames id).zip values) c.quantileTexts

/-- A family is announced as a metric is. -/
structure MetricFamily.AnnouncedAs (f : MetricFamily) (id : MeterId) (nameSpace : String) :
    Prop where
  name : f.name = id.name nameSpace
  help : f.help = id.kind.help ++ "."
  type : f.type = id.kind.type
  unit : f.unit = id.kind.unit

namespace Settings.Reports

variable {s : Settings} {m : Meter} {id : MeterId}

theorem announcedAs (h : s.Reports m id) : m.family.AnnouncedAs id s.nameSpace where
  name := congrArg Descriptor.name h.descriptor
  help := congrArg Descriptor.help h.descriptor
  type := congrArg Descriptor.type h.descriptor
  unit := congrArg Descriptor.unit h.descriptor

theorem rows_samples (h : s.Reports m id) (hvalid : firstOutOfRange? s.config.quantiles = none)
    {values : List String} {i : Instrument} (hget : m.series.get? values = some i) (name : String)
    (labels : List LabelPair) :
    (Exposable.samples i name labels).map Sample.row =
      id.kind.type.rows name labels s.config.quantileTexts := by
  rw [← h.type_eq hget]
  cases i with
  | counter c => rfl
  | gauge g => rfl
  | summary t =>
    have htexts : s.config.quantileTexts =
        t.quantileValues.map fun qv => Decimal.floating qv.1 := by
      rw [Config.quantileTexts, ← h.quantiles_eq hvalid hget, List.map_map]
      rfl
    rw [htexts]
    change [_, _] ++ (t.quantileValues.map _).map _ = [_, _] ++ (t.quantileValues.map _).map _
    rw [List.map_map, List.map_map]
    rfl

/-- A family that has samples lists the label sets of its meter. -/
theorem lists (h : s.Reports m id) (hvalid : firstOutOfRange? s.config.quantiles = none)
    (hne : m.family.samples ≠ []) :
    m.family.Lists s.config id (m.series.cells.map Prod.fst) where
  nonempty := by
    intro hnil
    rw [List.map_eq_nil_iff] at hnil
    refine hne ?_
    change m.series.cells.flatMap _ = []
    rw [hnil]
    rfl
  sized values hvalues := by
    obtain ⟨cell, hcell, rfl⟩ := List.mem_map.mp hvalues
    rw [h.sized cell hcell, h.labelNames]
  ordered := List.pairwise_map.mpr (m.series.sorted.imp lt_iff_bytesBefore.mp)
  rows := by
    change (m.series.cells.flatMap _).map _ = _
    rw [List.map_flatMap, List.flatMap_map, ← h.labelNames]
    refine List.flatMap_congr fun cell hcell => ?_
    rw [h.rows_samples hvalid (Series.mem_cells.mp hcell), h.announcedAs.type]
    rfl

end Settings.Reports

/-! ## 3. Label values -/

/-- Texts in the order of their bytes, perhaps with repetitions. -/
def TextsOrdered (texts : List String) : Prop := texts.Pairwise fun a b => ¬bytesOf b < bytesOf a

/-- The label values of the samples are in the lexicographic order of their bytes. -/
def MetricFamily.ValuesOrdered (f : MetricFamily) : Prop :=
  (f.samples.map Sample.labelValues).Pairwise fun a b => ¬BytesBefore b a

theorem append_lt_append {as bs : List String} (h : as < bs) (hlength : as.length = bs.length)
    (x y : List String) : as ++ x < bs ++ y := by
  induction as generalizing bs with
  | nil =>
    rw [List.length_eq_zero_iff.mp hlength.symm] at h
    exact absurd h (List.lt_irrefl _)
  | cons a as ih =>
    cases bs with
    | nil => exact absurd h (List.not_lt_nil _)
    | cons b bs =>
      refine List.cons_lt_cons_iff.mpr ((List.cons_lt_cons_iff.mp h).imp_right fun hrest => ?_)
      exact ⟨hrest.1, ih hrest.2 (Nat.succ.inj hlength)⟩

/-- Behind the same label values the last one decides. -/
theorem append_singleton_lt_iff {values : List String} {a b : String} :
    values ++ [a] < values ++ [b] ↔ a < b := by
  induction values with
  | nil =>
    rw [List.nil_append, List.nil_append, List.cons_lt_cons_iff]
    exact or_iff_left fun h => List.lt_irrefl _ h.2
  | cons v values ih =>
    rw [List.cons_append, List.cons_append, List.cons_lt_cons_iff, ih]
    simp

/-- The label values of a metric of a type under one label set. -/
def MetricType.rowValues (type : MetricType) (values : List String) (quantiles : List String) :
    List (List String) :=
  match type with
  | .summary => [values, values] ++ quantiles.map fun q => values ++ [q]
  | _ => [values]

theorem values_rows (type : MetricType) (name : String) {names values : List String}
    (hlength : values.length = names.length) (quantiles : List String) :
    (type.rows name (names.zip values) quantiles).map (fun row => row.2.map Prod.snd) =
      type.rowValues values quantiles := by
  have hvalues : (names.zip values).map Prod.snd = values := List.map_snd_zip hlength.le
  cases type with
  | summary => simp [MetricType.rows, MetricType.rowValues, hvalues, Function.comp_def]
  | _ => simp [MetricType.rows, MetricType.rowValues, hvalues]

/-- The label values under one label set begin with it. -/
theorem exists_append_of_mem_rowValues {type : MetricType} {values quantiles row : List String}
    (h : row ∈ type.rowValues values quantiles) : ∃ tail, row = values ++ tail := by
  cases type with
  | summary =>
    rcases List.mem_append.mp h with hpair | hquantile
    · refine ⟨[], ?_⟩
      rcases List.mem_pair.mp hpair with rfl | rfl <;> exact (List.append_nil _).symm
    · obtain ⟨q, _, rfl⟩ := List.mem_map.mp hquantile
      exact ⟨[q], rfl⟩
  | _ => exact ⟨[], (List.mem_singleton.mp h).trans (List.append_nil _).symm⟩

/-- Under one label set all label values are in order exactly if quantiles are. -/
theorem pairwise_rowValues_iff (type : MetricType) (values quantiles : List String) :
    (type.rowValues values quantiles).Pairwise (fun a b => ¬BytesBefore b a) ↔
      (type = .summary → TextsOrdered quantiles) := by
  have hbefore : (fun a b => ¬BytesBefore b a) = fun a b : List String => ¬b < a :=
    funext fun _ => funext fun _ => congrArg Not (propext lt_iff_bytesBefore.symm)
  rw [hbefore]
  cases type with
  | summary =>
    have hquantiles : (quantiles.map fun q => values ++ [q]).Pairwise (fun a b => ¬b < a) ↔
        TextsOrdered quantiles := by
      rw [TextsOrdered, List.pairwise_map]
      exact List.Pairwise.iff fun a b => not_congr (append_singleton_lt_iff.trans lt_iff_bytes_lt)
    rw [← hquantiles]
    refine List.pairwise_append.trans ⟨fun h _ => h.2.1, fun h => ⟨?_, h rfl, ?_⟩⟩
    · exact List.pairwise_pair.mpr (List.lt_irrefl _)
    · intro a ha b hb
      obtain ⟨q, _, rfl⟩ := List.mem_map.mp hb
      -- the label set alone is the beginning of all that follows
      rcases List.mem_pair.mp ha with rfl | rfl <;> exact List.le_append_left
  | _ => exact iff_of_true (List.pairwise_singleton _ _) nofun

/-- All label values of the samples of a family are in order exactly if it has no quantiles or the
quantiles are in order. -/
theorem MetricFamily.Lists.ordered_iff {f : MetricFamily} {c : Config} {id : MeterId}
    {sets : List (List String)} (h : f.Lists c id sets) :
    f.ValuesOrdered ↔ (f.type = .summary → TextsOrdered c.quantileTexts) := by
  have hvalues : f.samples.map Sample.labelValues =
      sets.flatMap fun values => f.type.rowValues values c.quantileTexts := by
    have hrows := congrArg (List.map fun row => row.2.map Prod.snd) h.rows
    rw [List.map_map, List.map_flatMap] at hrows
    refine hrows.trans (List.flatMap_congr fun values hmem => ?_)
    exact values_rows _ _ (h.sized values hmem) _
  have hsets : sets.Pairwise fun as bs => ∀ a ∈ f.type.rowValues as c.quantileTexts,
      ∀ b ∈ f.type.rowValues bs c.quantileTexts, ¬BytesBefore b a := by
    refine h.ordered.imp_of_mem fun {as bs} has hbs hbefore a ha b hb => ?_
    obtain ⟨x, rfl⟩ := exists_append_of_mem_rowValues ha
    obtain ⟨y, rfl⟩ := exists_append_of_mem_rowValues hb
    have hlt := append_lt_append (lt_iff_bytesBefore.mpr hbefore)
      ((h.sized _ has).trans (h.sized _ hbs).symm) x y
    exact fun hafter => List.lt_asymm hlt (lt_iff_bytesBefore.mpr hafter)
  obtain ⟨first, hfirst⟩ := List.exists_mem_of_ne_nil _ h.nonempty
  rw [ValuesOrdered, hvalues, List.pairwise_flatMap, and_iff_left hsets]
  simp only [pairwise_rowValues_iff]
  exact ⟨fun hall => hall first hfirst, fun hordered _ _ => hordered⟩

/-! ## 4. Scrapes of jobs -/

theorem nodup_outputNames (perBuild : Bool) (nameSpace : String) :
    ((outputNames perBuild).map (jobFamilyName nameSpace)).Nodup := by
  have hnodup : (outputNames perBuild).Nodup := by cases perBuild <;> decide +kernel
  exact hnodup.map fun _ _ h => (String.append_right_inj _).mp h

/-- What a scrape of jobs gives under a configuration and a namespace. -/
structure JobOutput (config : Config) (nameSpace : String) (families : List MetricFamily) :
    Prop where
  names : (families.map (·.name)).Sublist
    ((outputNames config.perBuild).map (jobFamilyName nameSpace))
  distinct : (families.map (·.name)).Nodup
  nonempty : ∀ f ∈ families, f.samples ≠ []
  lists : ∀ f ∈ families, ∃ id ∈ config.outputIds, f.AnnouncedAs id nameSpace ∧
    ∃ sets, f.Lists config id sets
  ordered : ∀ f ∈ families,
    f.ValuesOrdered ↔ (f.type = .summary → TextsOrdered config.quantileTexts)

variable {environment : Option String} {config : Config} {e : Exporter} {now : Int64}
  {families : List MetricFamily}

/-- No family of a scrape of jobs is without samples. -/
theorem samples_ne_nil_of_mem_familiesFrom
    (hok : (e.collectFrom now .jobs).2 = .ok (e.familiesFrom now .jobs)) {f : MetricFamily}
    (hf : f ∈ e.familiesFrom now .jobs) : f.samples ≠ [] := by
  rw [Exporter.familiesFrom_jobs hok] at hf
  split at hf
  · exact (mem_familiesOf.mp hf).2
  · cases hf

theorem jobOutput_of_collectJobs
    (haccepted : Settings.of environment config = .ok e.active.load) (hc : e.counters.Reachable)
    (hfamilies : (e.collectJobs now).2 = .ok families) :
    JobOutput config e.active.load.nameSpace families := by
  obtain ⟨rfl, _, hvalid⟩ := Settings.of_eq_ok haccepted
  obtain rfl : e.familiesFrom now .jobs = families := Exporter.familiesFrom_eq hfamilies
  have hok : (e.collectFrom now .jobs).2 = .ok (e.familiesFrom now .jobs) := hfamilies
  have hsublist := names_jobs_sublist hc hok
  have hlists : ∀ f ∈ e.familiesFrom now .jobs, ∃ id ∈ e.active.load.config.outputIds,
      f.AnnouncedAs id e.active.load.nameSpace ∧
        ∃ sets, f.Lists e.active.load.config id sets := by
    intro f hf
    have hne := samples_ne_nil_of_mem_familiesFrom hok hf
    obtain ⟨id, m, hreports, rfl⟩ := exists_reports_of_mem_familiesFrom hc hok hf
    have hannounced := hreports.announcedAs
    -- names tell metrics apart, so the one that is reported is among those of the output
    obtain ⟨listed, hlisted, hname⟩ :=
      List.mem_map.mp (hsublist.subset (List.mem_map_of_mem (f := (·.name)) hf))
    have hknown := mem_exposedIds_of_mem_scrapeIds
      ((Config.outputIds_sublist _).subset hlisted)
    rw [hannounced.name] at hname
    obtain rfl := MeterId.name_injective _ hknown hreports.known hname
    exact ⟨listed, hlisted, hannounced, _, hreports.lists hvalid hne⟩
  rw [names_outputIds] at hsublist
  exact
    { names := hsublist
      distinct := (nodup_outputNames _ _).sublist hsublist
      nonempty := fun f hf => samples_ne_nil_of_mem_familiesFrom hok hf
      lists := hlists
      ordered := fun f hf => by
        obtain ⟨_, _, _, _, hrows⟩ := hlists f hf
        exact hrows.ordered_iff }

/-- Under any configuration that was accepted a scrape of jobs succeeds if every job that it looks at
can be named, and whatever the host and the kept counters are, its families have the names of the
list in this order, at most one of each, with samples that are laid out by label sets. All label
values of a family are in order exactly if it has no quantiles or these are in order. -/
theorem job_output_order (haccepted : Settings.of environment config = .ok e.active.load)
    (hc : e.counters.Reachable) (now : Int64) :
    ((config.countsAnyBuild → ∀ j ∈ e.host.jobs, j.Nameable) →
      ∃ families, (e.collectJobs now).2 = .ok families) ∧
    ∀ families, (e.collectJobs now).2 = .ok families →
      JobOutput config e.active.load.nameSpace families := by
  refine ⟨fun hnameable => ?_, fun families => jobOutput_of_collectJobs haccepted hc⟩
  rw [← (Settings.of_eq_ok haccepted).1] at hnameable
  exact (collectJobs_succeeds_iff e now).mpr hnameable

/-- Several label sets, with quantiles that are configured in order. -/
theorem job_output_order_of_branches :
    Settings.of none labelledQuantiles.config = .ok scrapedBranches.active.load ∧
      scrapedBranches.counters.Reachable ∧
      ∃ families, (scrapedBranches.collectJobs 0).2 = .ok families ∧
        JobOutput labelledQuantiles.config scrapedBranches.active.load.nameSpace families ∧
        (∀ f ∈ families, f.ValuesOrdered) ∧
        familyCounts families labelledQuantiles.durationsName mainBranchValues =
          [UInt64.toFloat 2] := by
  have haccepted : Settings.of none labelledQuantiles.config =
      .ok scrapedBranches.active.load := rfl
  obtain ⟨hsucceeds, houtput⟩ := job_output_order haccepted reachable_scrapedBranches 0
  obtain ⟨families, hfamilies⟩ := hsucceeds fun _ => by decide
  have hjob := houtput families hfamilies
  have htexts : TextsOrdered labelledQuantiles.config.quantileTexts := by
    have hwritten : labelledQuantiles.config.quantileTexts = ["0.5", "0.9", "0.99"] := by
      decide +kernel
    rw [hwritten, TextsOrdered]
    decide +kernel
  exact ⟨haccepted, reachable_scrapedBranches, families, hfamilies, hjob,
    fun f hf => (hjob.ordered f hf).mpr fun _ => htexts, familyCounts_scrapedBranches hfamilies⟩

/-- The settings of an operator who configures the greater quantile in front. -/
def descendingQuantiles : Settings :=
  { Settings.initial none with config := { Config.initial with quantiles := [0.9, 0.5] } }

/-- The configuration is accepted, and the label values of a summary are not in order. -/
theorem exists_unordered_values :
    let e := Exporter.start ⟨none, some descendingQuantiles⟩ hostOfJobA
    Settings.of none descendingQuantiles.config = .ok e.active.load ∧ e.counters.Reachable ∧
      ∃ families, (e.collectJobs 0).2 = .ok families ∧ ∃ f ∈ families, ¬f.ValuesOrdered := by
  intro e
  have haccepted : Settings.of none descendingQuantiles.config = .ok e.active.load := rfl
  obtain ⟨families, hfamilies⟩ := (collectJobs_succeeds_iff e 0).mpr fun _ => by decide
  have hsummary : ((e.collectJobs 0).2.toOption.getD []).any
      (fun f => decide (f.type = .summary)) := by decide +kernel
  rw [hfamilies] at hsummary
  obtain ⟨f, hf, htype⟩ := List.any_eq_true.mp hsummary
  refine ⟨haccepted, .empty, families, hfamilies, f, hf, fun hordered => ?_⟩
  have htexts := ((jobOutput_of_collectJobs haccepted .empty hfamilies).ordered f hf).mp hordered
    (of_decide_eq_true htype)
  have hunordered : ¬[("0.9" : String), "0.5"].Pairwise fun a b => ¬bytesOf b < bytesOf a := by
    decide +kernel
  have hwritten : descendingQuantiles.config.quantileTexts = ["0.9", "0.5"] := by decide +kernel
  rw [hwritten] at htexts
  exact hunordered htexts

end BuildTelemetry
