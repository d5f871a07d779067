import BuildTelemetry.Proofs.Coverage
import BuildTelemetry.Proofs.History
import BuildTelemetry.Proofs.Jobs

/-!
# What a scrape shows

1. A scrape shows the families of its collectors that have samples and are not suppressed
   (`scrape_eq_ok`). Only the collection of jobs changes the exporter, so each collector gives what
   it would give alone.
2. A sample belongs to a cell of its meter, and every cell of a meter that a scrape makes goes back
   to a recording (`mem_samples_record`). This is how a label value is traced to where it was read.
-/

namespace BuildTelemetry

/-! ## 1. Collectors -/

/-- The families that a collection of jobs makes of kept counters and of what the jobs record. -/
def jobFamilies (s : Settings) (c : CounterCache) (now : Int64) (jobs : List Job) :
    List MetricFamily :=
  familiesOf ((JobPlan.of s).meters (counterMeters c s) (recordJobs (.of s) now jobs).notes)

/-- Nothing fails on the jobs of a host. -/
def Host.Healthy (h : Host) : Prop := ∀ j ∈ h.jobs, j.Healthy

instance (h : Host) : Decidable h.Healthy := inferInstanceAs (Decidable (∀ _ ∈ _, _))

theorem Host.Healthy.nameable {h : Host} (hhealthy : h.Healthy) : ∀ j ∈ h.jobs, j.Nameable :=
  fun j hj => (hhealthy j hj).nameable

namespace Exporter

variable {e e' : Exporter} {now : Int64}

theorem active_collectFrom (e : Exporter) (now : Int64) (c : Collector) :
    (e.collectFrom now c).1.active = e.active := by
  cases c with
  | jobs => exact active_collectJobs e now
  | _ => rfl

theorem host_collectFrom (e : Exporter) (now : Int64) (c : Collector) :
    (e.collectFrom now c).1.host = e.host := by
  cases c with
  | jobs => exact host_collectJobs e now
  | _ => rfl

/-- Only the collection of jobs depends on more than the settings and the host. -/
theorem collectFrom_congr {c : Collector} (hactive : e'.active = e.active)
    (hhost : e'.host = e.host) (hjobs : c = .jobs → e' = e) :
    (e'.collectFrom now c).2 = (e.collectFrom now c).2 := by
  cases c with
  | jobs => rw [hjobs rfl]
  | _ => simp only [collectFrom, hactive, hhost]

/-- The families that a collector gives, none if the host fails on it. -/
def familiesFrom (e : Exporter) (now : Int64) (c : Collector) : List MetricFamily :=
  match (e.collectFrom now c).2 with
  | .ok families => families
  | .error _ => []

theorem familiesFrom_eq {c : Collector} {families : List MetricFamily}
    (h : (e.collectFrom now c).2 = .ok families) : e.familiesFrom now c = families := by
  rw [familiesFrom, h]

/-- Collectors each of which is asked once give what they would give alone, one after the other. -/
theorem collectAll_eq_ok {collectors : List Collector} (hnodup : collectors.Nodup)
    {families : List MetricFamily} :
    (e.collectAll now collectors).2 = .ok families ↔
      (∀ c ∈ collectors, (e.collectFrom now c).2 = .ok (e.familiesFrom now c)) ∧
        collectors.flatMap (e.familiesFrom now) = families := by
  -- the induction runs over states that the collectors asked so far may have changed
  suffices hgeneral : ∀ e', e'.active = e.active → e'.host = e.host →
      (.jobs ∈ collectors → e' = e) →
      ((e'.collectAll now collectors).2 = .ok families ↔
        (∀ c ∈ collectors, (e.collectFrom now c).2 = .ok (e.familiesFrom now c)) ∧
          collectors.flatMap (e.familiesFrom now) = families) from
    hgeneral e rfl rfl fun _ => rfl
  induction collectors generalizing families with
  | nil =>
    intro e' _ _ _
    simp [collectAll]
  | cons c cs ih =>
    intro e' hactive hhost hjobs
    obtain ⟨hc, hcs⟩ := List.nodup_cons.mp hnodup
    have hsame : (e'.collectFrom now c).2 = (e.collectFrom now c).2 :=
      collectFrom_congr hactive hhost fun heq => hjobs (heq ▸ List.mem_cons_self)
    -- until the jobs are collected nothing has changed
    have hkept : .jobs ∈ cs → (e'.collectFrom now c).1 = e := by
      intro hmem
      rw [← hjobs (List.mem_cons_of_mem _ hmem)]
      cases c with
      | jobs => exact absurd hmem hc
      | _ => rfl
    have hrest (rest : List MetricFamily) :
        ((e'.collectFrom now c).1.collectAll now cs).2 = .ok rest ↔
          (∀ c ∈ cs, (e.collectFrom now c).2 = .ok (e.familiesFrom now c)) ∧
            cs.flatMap (e.familiesFrom now) = rest :=
      ih hcs _ (active_collectFrom e' now c ▸ hactive) (host_collectFrom e' now c ▸ hhost) hkept
    rw [collectAll, List.forall_mem_cons, List.flatMap_cons]
    split
    · next after fault hfrom =>
      rw [hfrom] at hsame
      simp [← hsame]
    · next after gs hfrom =>
      rw [hfrom] at hsame hrest
      rw [← hsame, familiesFrom_eq hsame.symm]
      split
      · next hall =>
        have hnone := fun rest => (hrest rest).not.mp (by rw [hall]; simp)
        simp only [reduceCtorEq, true_and, false_iff, not_and]
        exact fun hok _ => hnone _ ⟨hok, rfl⟩
      · next rest hall =>
        obtain ⟨hok, hflat⟩ := (hrest rest).mp (by rw [hall])
        rw [hflat, Except.ok.injEq]
        exact ⟨fun heq => ⟨⟨rfl, hok⟩, heq⟩, fun h => h.2⟩

/-- A scrape shows the families of its collectors that have samples and are not suppressed. -/
theorem scrape_eq_ok {collectors : List Collector} (hnodup : collectors.Nodup)
    {families : List MetricFamily} :
    (e.scrape collectors now).2 = .ok families ↔
      (∀ c ∈ collectors, (e.collectFrom now c).2 = .ok (e.familiesFrom now c)) ∧
        exposed (some e.active.load) (collectors.flatMap (e.familiesFrom now)) = families := by
  have hscrape : (e.scrape collectors now).2 =
      (e.collectAll now collectors).2.map (exposed (some e.active.load)) := rfl
  rw [hscrape]
  cases hall : (e.collectAll now collectors).2 with
  | error fault =>
    simp only [Except.map, reduceCtorEq, false_iff, not_and]
    intro hok _
    rw [(collectAll_eq_ok hnodup).mpr ⟨hok, rfl⟩] at hall
    cases hall
  | ok collected =>
    obtain ⟨hok, hflat⟩ := (collectAll_eq_ok hnodup).mp hall
    rw [hflat, Except.map, Except.ok.injEq]
    exact ⟨fun heq => ⟨hok, heq⟩, fun h => h.2⟩

/-- A host whose jobs can be named lets a collection of jobs succeed. -/
theorem collectJobs_of_nameable (h : ∀ j ∈ e.host.jobs, j.Nameable) (now : Int64)
    (hcounts : e.active.load.config.countsAnyBuild) :
    (e.collectJobs now).2 =
      .ok (jobFamilies e.active.load (e.collectJobs now).1.counters now e.host.jobs) := by
  rw [result_collectJobs now hcounts, recordJobs_eq h, jobFamilies, recordJobs_eq h]
  rfl

theorem result_collectJobs_of_nameable (h : ∀ j ∈ e.host.jobs, j.Nameable) (now : Int64) :
    (e.collectJobs now).2 =
      .ok (if e.active.load.config.countsAnyBuild then
        jobFamilies e.active.load (e.collectJobs now).1.counters now e.host.jobs
      else []) := by
  split
  · next hcounts => exact collectJobs_of_nameable h now hcounts
  · next hcounts => exact result_collectJobs_of_not_counts now hcounts

/-- The families that a collection of jobs gives, if it succeeds. -/
theorem familiesFrom_jobs (hok : (e.collectFrom now .jobs).2 = .ok (e.familiesFrom now .jobs)) :
    e.familiesFrom now .jobs =
      if e.active.load.config.countsAnyBuild then
        jobFamilies e.active.load (e.collectJobs now).1.counters now e.host.jobs
      else [] := by
  change (e.collectJobs now).2 = _ at hok
  by_cases hcounts : e.active.load.config.countsAnyBuild
  · rw [if_pos hcounts]
    rw [result_collectJobs now hcounts] at hok
    obtain ⟨_, _, heq⟩ := reading_map_eq_ok.mp hok
    exact heq.symm
  · rw [if_neg hcounts]
    rw [result_collectJobs_of_not_counts now hcounts] at hok
    exact (Except.ok.inj hok).symm

/-- A collection of jobs leaves a reachable cache behind. -/
theorem reachable_collectJobs (hc : e.counters.Reachable) (now : Int64) :
    (e.collectJobs now).1.counters.Reachable := by
  rw [counters_collectJobs]
  split
  · exact .count _ _ hc
  · exact hc

/-- A host whose jobs can be named lets every collector succeed. -/
theorem collectFrom_of_nameable (h : ∀ j ∈ e.host.jobs, j.Nameable) (now : Int64)
    (c : Collector) : (e.collectFrom now c).2 = .ok (e.familiesFrom now c) := by
  suffices hok : ∃ families, (e.collectFrom now c).2 = .ok families by
    obtain ⟨families, hfamilies⟩ := hok
    rw [hfamilies, familiesFrom_eq hfamilies]
  cases c with
  | jobs =>
    change ∃ families, (e.collectJobs now).2 = .ok families
    by_cases hcounts : e.active.load.config.countsAnyBuild
    · exact ⟨_, collectJobs_of_nameable h now hcounts⟩
    · exact ⟨_, result_collectJobs_of_not_counts now hcounts⟩
  | coverage => exact ⟨_, coverageFamilies_eq h⟩
  | _ => exact ⟨_, rfl⟩

theorem scrape_of_nameable (h : ∀ j ∈ e.host.jobs, j.Nameable) (now : Int64)
    {collectors : List Collector} (hnodup : collectors.Nodup) :
    ∃ families, (e.scrape collectors now).2 = .ok families :=
  ⟨_, (scrape_eq_ok hnodup).mpr ⟨fun c _ => collectFrom_of_nameable h now c, rfl⟩⟩

end Exporter

/-! ## 2. Samples -/

theorem isExposed_iff {s : Settings} {f : MetricFamily} :
    isExposed (some s) f ↔ f.samples ≠ [] ∧ s.policy.allowsMetric f.name := by
  simp [isExposed, MetricFamily.isEmpty]

/-- Every instrument has a sample. -/
theorem exists_mem_samples (i : Instrument) (name : String) (labels : List LabelPair) :
    ∃ x, x ∈ Exposable.samples i name labels := by
  cases i with
  | counter c => exact ⟨_, List.mem_singleton_self _⟩
  | gauge g => exact ⟨_, List.mem_singleton_self _⟩
  | summary s => exact ⟨_, List.mem_append_left _ List.mem_cons_self⟩

/-- A label of a cell is a label of its samples. -/
theorem label?_of_mem_samples {i : Instrument} {name : String} {labels : List LabelPair}
    {x : Sample} (h : x ∈ Exposable.samples i name labels) {label value : String}
    (hlabel : (labels.find? fun pair => pair.1 == label).map Prod.snd = some value) :
    x.label? label = some value := by
  obtain ⟨pair, hfind, rfl⟩ := Option.map_eq_some_iff.mp hlabel
  rcases labels_of_mem_samples h with hlabels | ⟨_, q, _, hlabels⟩
  · rw [Sample.label?, hlabels, hfind]
    rfl
  · rw [Sample.label?, hlabels, List.find?_append, hfind]
    rfl

/-- A sample of a meter that began without label sets goes back to a recording. -/
theorem mem_samples_record {m : Meter} {rs : List Recording} (hm : m.series.cells = [])
    {x : Sample} (h : x ∈ (m.record rs).family.samples) :
    ∃ r ∈ rs, ∃ i : Instrument,
      x ∈ Exposable.samples i m.descriptor.name (m.series.labelNames.zip r.key) := by
  obtain ⟨values, i, hget, hx⟩ := mem_samples.mp h
  rw [Meter.descriptor_record, Meter.labelNames_record] at hx
  rcases Meter.key_of_mem_cells_record (Series.mem_cells.mpr hget) with ⟨_, hmem⟩ | ⟨r, hr, hkey⟩
  · rw [hm] at hmem
    cases hmem
  · exact ⟨r, hr, i, hkey ▸ hx⟩

/-- Each recording for a meter shows up in its samples. -/
theorem exists_mem_samples_record (m : Meter) {rs : List Recording} {r : Recording}
    (hr : r ∈ rs) :
    ∃ x ∈ (m.record rs).family.samples, ∃ i : Instrument,
      x ∈ Exposable.samples i m.descriptor.name (m.series.labelNames.zip r.key) := by
  have hunder : (Recording.under r.key rs).isEmpty = false := by
    rw [List.isEmpty_eq_false_iff_exists_mem]
    exact ⟨r, List.mem_filter.mpr ⟨hr, beq_self_eq_true _⟩⟩
  have hget := Meter.get?_record m rs r.key
  rw [hunder] at hget
  obtain ⟨x, hx⟩ := exists_mem_samples _ m.descriptor.name (m.series.labelNames.zip r.key)
  refine ⟨x, mem_samples.mpr ⟨r.key, _, hget, ?_⟩, _, hx⟩
  rwa [Meter.descriptor_record, Meter.labelNames_record]

/-- The values of a label in the samples of a meter are those in its recordings. -/
theorem exists_label?_iff {m : Meter} {rs : List Recording} (read : Recording → Option String)
    (hm : m.series.cells = []) {label : String}
    (hread : ∀ r ∈ rs, (read r).isSome ∧
      ((m.series.labelNames.zip r.key).find? fun pair => pair.1 == label).map Prod.snd = read r)
    {value : String} :
    (∃ x ∈ (m.record rs).family.samples, x.label? label = some value) ↔
      ∃ r ∈ rs, read r = some value := by
  constructor
  · rintro ⟨x, hx, hvalue⟩
    obtain ⟨r, hr, i, hsample⟩ := mem_samples_record hm hx
    obtain ⟨hsome, hlabel⟩ := hread r hr
    obtain ⟨shown, hshown⟩ := Option.isSome_iff_exists.mp hsome
    rw [label?_of_mem_samples hsample (hlabel.trans hshown)] at hvalue
    exact ⟨r, hr, hshown.trans hvalue⟩
  · rintro ⟨r, hr, hvalue⟩
    obtain ⟨x, hx, i, hsample⟩ := exists_mem_samples_record m hr
    exact ⟨x, hx, label?_of_mem_samples hsample ((hread r hr).2.trans hvalue)⟩

/-- The values of the first label are the first ones of the recordings. -/
theorem exists_label?_head_iff {m : Meter} {rs : List Recording} (hm : m.series.cells = [])
    {label : String} (hlabel : m.series.labelNames.head? = some label)
    (hrs : ∀ r ∈ rs, r.values.head?.isSome) {value : String} :
    (∃ x ∈ (m.record rs).family.samples, x.label? label = some value) ↔
      ∃ r ∈ rs, r.values.head? = some value := by
  refine exists_label?_iff (fun r => r.values.head?) hm fun r hr => ⟨hrs r hr, ?_⟩
  obtain ⟨names, hnames⟩ := List.head?_eq_some_iff.mp hlabel
  obtain ⟨first, hfirst⟩ := Option.isSome_iff_exists.mp (hrs r hr)
  obtain ⟨values, hvalues⟩ := List.head?_eq_some_iff.mp hfirst
  simp [hnames, Recording.key, hvalues]

end BuildTelemetry
