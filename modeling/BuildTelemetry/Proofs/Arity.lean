import BuildTelemetry.Proofs.Feeder
import BuildTelemetry.Proofs.Scrape

/-!
# Label values always fit

Every collector is written out as the feedings that it makes. What it does about a failure is
written out as well: a job and a coverage report are given up, and a completed build, an executor, a
part of the storage and the status go on with the next meter.

1. The feeders of all collectors follow their recorders (`follows_feedJobs`,
   `follows_feedCompletions`, `follows_feedCoverage`, `follows_feedStatus`). The label values that
   are read for an entity are as many as the plan has label names for it.
2. Every counter that is not suppressed is kept with the labels of a job (`exists_kept`), so kept
   counters take the label values like new meters do.
3. No collection meets a meter that its label values do not fit, and it gives what the recorders
   give (`label_values_always_fit`).
-/

namespace BuildTelemetry

namespace Feeder

variable {widths : List (MeterId × Nat)}

/-! ## 1. Jobs and builds -/

/-- Feeds the meters of a build that counts. A failure gives the job up. -/
def feedBuild (p : JobPlan) (now : Int64) (j : Job) (b : Build) : Feeder Unit := do
  let values ← read (p.config.buildLabelValues j b)
  feedEntity now (JobPlan.ids p.durations) (.build b) values
  if p.config.perBuild then
    let number ← read b.number
    feedEntity now (JobPlan.ids p.perBuild) (.build b) (values ++ [toString number])

def feedBuilds (p : JobPlan) (now : Int64) (j : Job) : List Build → Feeder Unit
  | [] => pure ()
  | b :: older => do
    if ← read (isIncluded p.config b) then feedBuild p now j b
    let _ ← read (b.previous older)
    feedBuilds p now j older

def feedJob (p : JobPlan) (now : Int64) (j : Job) : Feeder Unit := do
  let name ← read j.fullName
  if !p.settings.policy.allowsJob name then return
  let buildable ← read j.isBuildable
  if !buildable && !p.config.includeDisabledJobs then return
  match ← read j.lastBuild with
  | none => return
  | some (last, older) =>
    match ← read (lastCompleted last older) with
    | none => return
    | some completed =>
      let values ← read (p.config.jobLabelValues j)
      feedEntity now (JobPlan.ids p.gauges) (.job j) values
      feedEntity now (JobPlan.ids p.lastBuild) (.build completed) values
      feedBuilds p now j (last :: older)

/-- Feeds the meters of a job. Any failure is reported under the name of the job. -/
def feedGuarded (p : JobPlan) (now : Int64) (j : Job) : Feeder Unit :=
  tryCatch (feedJob p now j) fun _ => do let _ ← read j.fullName

def feedJobs (p : JobPlan) (now : Int64) (jobs : List Job) : Feeder Unit :=
  jobs.forM (feedGuarded p now)

section Jobs

variable {s : Settings}
  (hplan : ∀ planned ∈ (JobPlan.of s).all, (planned.meter, planned.labelNames.length) ∈ widths)
include hplan

/-- The meters of a part of the plan take as many label values as each of them has labels of its
own. -/
theorem takes_of_subset {part : List PlannedMeter} (hpart : part ⊆ (JobPlan.of s).all) {count : Nat}
    (hcount : ∀ planned ∈ part,
      count + planned.meter.kind.extraLabels = planned.labelNames.length) :
    Bench.Takes widths (JobPlan.ids part) count := by
  intro id hid
  obtain ⟨planned, hplanned, rfl⟩ := List.mem_map.mp hid
  rw [hcount planned hplanned]
  exact hplan planned (hpart hplanned)

theorem follows_feedBuild (now : Int64) (j : Job) (b : Build) :
    Follows widths (feedBuild (.of s) now j b) (recordBuild (.of s) now j b) := by
  refine follows_read fun values hvalues => ?_
  have hlength := Config.length_buildLabelValues hvalues
  refine (follows_feedEntity ?_ now (.build b)).bind fun _ _ => ?_
  · rw [hlength]
    exact takes_of_subset hplan JobPlan.durations_subset fun _ => JobPlan.width_of_mem_durations
  · split
    · refine follows_read fun number _ => follows_feedEntity ?_ now (.build b)
      rw [List.length_append, hlength]
      exact takes_of_subset hplan JobPlan.perBuild_subset fun _ => JobPlan.width_of_mem_perBuild
    · exact follows_pure ()

theorem follows_feedBuilds (now : Int64) (j : Job) (builds : List Build) :
    Follows widths (feedBuilds (.of s) now j builds) (recordBuilds (.of s) now j builds) := by
  induction builds with
  | nil => exact follows_pure ()
  | cons b older ih =>
    refine follows_read fun included _ => ?_
    have hrest : Follows widths (do let _ ← read (b.previous older); feedBuilds (.of s) now j older)
        (do let _ ← liftM (b.previous older); recordBuilds (.of s) now j older) :=
      follows_read fun _ _ => ih
    cases included with
    | false => exact hrest
    | true => exact (follows_feedBuild hplan now j b).bind fun _ _ => hrest

theorem follows_feedJob (now : Int64) (j : Job) :
    Follows widths (feedJob (.of s) now j) (recordJob (.of s) now j) := by
  refine follows_read fun name _ => ?_
  split
  · exact follows_pure ()
  refine follows_read fun buildable _ => ?_
  split
  · exact follows_pure ()
  refine follows_read fun found _ => ?_
  cases found with
  | none => exact follows_pure ()
  | some found =>
    refine follows_read fun completed _ => ?_
    cases completed with
    | none => exact follows_pure ()
    | some completed =>
      refine follows_read fun values hvalues => ?_
      obtain ⟨_, _, rfl⟩ := Config.jobLabelValues_eq_ok.mp hvalues
      refine (follows_feedEntity ?_ now (.job j)).bind fun _ _ =>
        (follows_feedEntity ?_ now (.build completed)).bind fun _ _ =>
          follows_feedBuilds hplan now j _
      · exact takes_of_subset hplan JobPlan.gauges_subset fun _ => JobPlan.width_of_mem_gauges
      · exact takes_of_subset hplan JobPlan.lastBuild_subset fun _ => JobPlan.width_of_mem_lastBuild

theorem follows_feedJobs (now : Int64) (jobs : List Job) :
    Follows widths (feedJobs (.of s) now jobs) (recordJobs (.of s) now jobs) :=
  Follows.each fun j _ => (follows_feedJob hplan now j).recover fun _ =>
    follows_read fun _ _ => follows_pure ()

end Jobs

/-! ## 2. Completed builds -/

/-- Feeds the counters a completed build. A counter that the label values do not fit is left out. -/
def feedCompletion (s : Settings) (counters : List MetricKind) (c : Completion) : Feeder Unit := do
  match ← read c.parent with
  | none => return
  | some j =>
    let name ← read j.fullName
    if !s.policy.allowsJob name then return
    let values ← read (s.config.jobLabelValues j)
    feedFitting 0 (counters.map fun kind => ⟨kind, none⟩) (.build c.build) values

/-- Feeds the counters all completed builds. A failure costs the counting of one build. -/
def feedCompletions (s : Settings) (completions : List Completion) : Feeder Unit :=
  completions.forM fun c => tryCatch (feedCompletion s s.counters c) fun _ => pure ()

theorem follows_feedCompletion {s : Settings}
    (hcounters : ∀ kind ∈ s.counters, (⟨kind, none⟩, s.config.jobLabelNames.length) ∈ widths)
    (c : Completion) :
    Follows widths (feedCompletion s s.counters c) (countCompletion s s.counters c) := by
  refine follows_read fun found _ => ?_
  cases found with
  | none => exact follows_pure ()
  | some j =>
    refine follows_read fun name _ => ?_
    split
    · exact follows_pure ()
    refine follows_read fun values hvalues => ?_
    obtain ⟨_, _, rfl⟩ := Config.jobLabelValues_eq_ok.mp hvalues
    refine follows_feedFitting (fun id hid => ?_) 0 (.build c.build)
    obtain ⟨kind, hkind, rfl⟩ := List.mem_map.mp hid
    obtain ⟨m, hm, rfl⟩ := List.mem_map.mp (mem_counters.mp hkind).1
    rw [extraLabels_counter m hm]
    exact hcounters _ hkind

theorem follows_feedCompletions {s : Settings}
    (hcounters : ∀ kind ∈ s.counters, (⟨kind, none⟩, s.config.jobLabelNames.length) ∈ widths)
    (completions : List Completion) :
    Follows widths (feedCompletions s completions)
      ⟨countCompletions s s.counters completions, .ok ()⟩ := by
  have heach : Journal.each (fun c => (countCompletion s s.counters c).recover fun _ => pure ())
      completions = ⟨countCompletions s s.counters completions, .ok ()⟩ := by
    rw [Journal.each_eq fun c _ => Journal.result_recover fun _ => rfl]
    simp only [Journal.notes_recover fun _ => Journal.notes_pure (), countCompletions]
  rw [← heach]
  exact Follows.each fun c _ =>
    (follows_feedCompletion hcounters c).recover fun _ => follows_pure ()

/-! ## 3. Coverage reports and the status -/

/-- Feeds the meters the report of a job's last build. A failure gives the report up. -/
def feedReport (ids : List MeterId) (j : Job) : Feeder Unit := do
  match ← read j.lastBuild with
  | none => pure ()
  | some (last, _) =>
    if ← read last.isBuilding then pure ()
    else if (← read last.coverage).isNone then pure ()
    else
      let name ← read j.fullName
      feedEntity 0 ids (.build last) [name]

def feedCoverage (s : Settings) (ids : List MeterId) (j : Job) : Feeder Unit := do
  let name ← read j.fullName
  if s.policy.allowsJob name then
    tryCatch (feedReport ids j) fun _ => do let _ ← read j.fullName
  else pure ()

def feedStatus (s : Settings) (status : HostStatus) : Feeder Unit := do
  let metersOf (kinds : List MetricKind) := (s.planFor kinds []).map PlannedMeter.meter
  feedFitting 0 (metersOf (plainHostMetrics.map .host)) (.host status) []
  match status.version with
  | some version => feedFitting 0 (metersOf [.host .version]) (.host status) [version]
  | none => pure ()

theorem follows_feedReport {ids : List MeterId} (hids : Bench.Takes widths ids 1) (j : Job) :
    Follows widths (feedReport ids j) (recordReport ids j) := by
  refine follows_read fun found _ => ?_
  cases found with
  | none => exact follows_pure ()
  | some found =>
    refine follows_read fun building _ => ?_
    split
    · exact follows_pure ()
    refine follows_read fun coverage _ => ?_
    split
    · exact follows_pure ()
    exact follows_read fun name _ => follows_feedEntity hids 0 (.build found.1)

theorem follows_feedCoverage {s : Settings} {ids : List MeterId} (hids : Bench.Takes widths ids 1)
    (j : Job) : Follows widths (feedCoverage s ids j) (recordCoverage s ids j) := by
  refine follows_read fun name _ => ?_
  split
  · exact (follows_feedReport hids j).recover fun _ => follows_read fun _ _ => follows_pure ()
  · exact follows_pure ()

theorem follows_feedStatus {s : Settings} (status : HostStatus)
    (hplain : Bench.Takes widths (JobPlan.ids (s.planFor (plainHostMetrics.map .host) [])) 0)
    (hversion : Bench.Takes widths (JobPlan.ids (s.planFor [.host .version] [])) 1) :
    Follows widths (feedStatus s status) (recordStatus s status) := by
  refine (follows_feedFitting hplain 0 (.host status)).bind fun _ _ => ?_
  cases status.version with
  | none => exact follows_pure ()
  | some version => exact follows_feedFitting hversion 0 (.host status)

/-! ## 4. Collections -/

/-- The new meters of a plan. -/
def laid (s : Settings) (plan : List PlannedMeter) : List (MeterId × Meter) :=
  plan.map fun planned => (planned.meter, s.freshMeter planned)

/-- The kept counters. -/
def kept (c : CounterCache) (s : Settings) : List (MeterId × Meter) :=
  s.counters.filterMap fun kind => (c.meter? (s.counterKey kind)).map fun m => (⟨kind, none⟩, m)

end Feeder

/-- The collection of a part of the host, as the feedings that it makes. -/
def Exporter.feedFrom (e : Exporter) (now : Int64) : Collector → Feeder (List MetricFamily)
  | .jobs => do
    let s := e.active.load
    if !s.config.countsAnyBuild then return []
    let plan := JobPlan.of s
    let meters := Feeder.laid s plan.durations ++ Feeder.kept (e.counters.obtainAll s) s ++
      Feeder.laid s (plan.gauges ++ plan.lastBuild ++ plan.perBuild)
    let families ← Feeder.families meters do
      Feeder.feedCompletions s (e.buffer.register.drain.1.items.map e.host.completion)
      Feeder.feedJobs plan now e.host.jobs
    return families.filter fun f => !f.isEmpty
  | .executors =>
    let s := e.active.load
    let plan := s.planFor (executorMetrics.map .executor) [nodeLabel]
    Feeder.families (Feeder.laid s plan) <| e.host.report.executors.forM fun load =>
      Feeder.feedFitting 0 (plan.map PlannedMeter.meter) (.executor load) [load.label]
  | .storage => do
    let s := e.active.load
    if !s.config.collectDiskUsage then return []
    match e.host.report.disk with
    | none => return []
    | some usage =>
      let plan := s.planFor (directoryMetrics.map .directory) [storeLabel, directoryLabel]
      let directories ← Feeder.families (Feeder.laid s plan) <| usage.directories.forM fun item =>
        Feeder.feedFitting 0 (plan.map PlannedMeter.meter) (.directory item)
          [item.fileStore, item.directory]
      let plan := s.planFor [.jobUsage] [storeLabel, diskJobLabel, urlLabel]
      let jobs ← Feeder.families (Feeder.laid s plan) <| usage.jobs.forM fun item =>
        Feeder.feedFitting 0 (plan.map PlannedMeter.meter) (.jobUsage item)
          [item.fileStore, item.jobName, item.url]
      let plan := s.planFor (storeSizes.map .fileStore) [storeLabel]
      let stores ← Feeder.families (Feeder.laid s plan) <| usage.stores.forM fun store =>
        Feeder.feedFitting 0 (plan.map PlannedMeter.meter) (.fileStore store) [store.name]
      return directories ++ jobs ++ stores
  | .status =>
    let s := e.active.load
    Feeder.families (Feeder.laid s (statusPlan s)) (Feeder.feedStatus s e.host.report.status)
  | .coverage => do
    let s := e.active.load
    if !s.config.collectCoverage then return []
    let plan := coveragePlan s
    Feeder.families (Feeder.laid s plan) <| e.host.jobs.forM fun j =>
      Feeder.feedCoverage s (plan.map PlannedMeter.meter) j

namespace Feeder

variable {widths : List (MeterId × Nat)} {s : Settings}

/-! ## 5. What collections give -/

theorem collects_pure (families : List MetricFamily) : Collects (pure families) (.ok families) :=
  fun _ hb => ⟨rfl, hb⟩

theorem Collects.bind {f : Feeder (List MetricFamily)}
    {g : List MetricFamily → Feeder (List MetricFamily)} {r : Reading (List MetricFamily)}
    {k : List MetricFamily → Reading (List MetricFamily)}
    (hf : Collects f r) (hg : ∀ families, Collects (g families) (k families)) :
    Collects (f >>= g) (r >>= k) := by
  intro b hb
  obtain ⟨hresult, hclean⟩ := hf b hb
  rw [on_bind]
  cases hon : f.on b with
  | mk _ c =>
    rw [hon] at hresult hclean
    cases hresult
    cases r with
    | error fault => exact ⟨rfl, hclean⟩
    | ok families => exact hg families c hclean

/-- The meters of a plan have as many labels as the plan says. -/
def widthsOf (plan : List PlannedMeter) : List (MeterId × Nat) :=
  plan.map fun planned => (planned.meter, planned.labelNames.length)

theorem map_fst_widthsOf (plan : List PlannedMeter) :
    (widthsOf plan).map Prod.fst = JobPlan.ids plan := by
  rw [widthsOf, JobPlan.ids, List.map_map]
  rfl

theorem widths_laid (s : Settings) (plan : List PlannedMeter) :
    (laid s plan).map (fun e => (e.1, e.2.series.labelNames.length)) = widthsOf plan := by
  rw [laid, widthsOf, List.map_map]
  rfl

theorem kinds_laid (s : Settings) (plan : List PlannedMeter) :
    ∀ e ∈ laid s plan, e.2.kind = e.1.kind := by
  intro e he
  obtain ⟨planned, _, rfl⟩ := List.mem_map.mp he
  rfl

theorem families_laid (s : Settings) (plan : List PlannedMeter) (rs : List Recording) :
    (Bench.record (laid s plan) rs).map (fun e => e.2.family) =
      (s.meters plan rs).map Meter.family := by
  rw [Bench.record, laid, Settings.meters, List.map_map, List.map_map, List.map_map]
  rfl

/-- A part of a collection with a plan of its own gives what is recorded for the plan. -/
theorem Follows.collects_laid {plan : List PlannedMeter} {f : Feeder Unit} {j : Recorder}
    (h : Follows (widthsOf plan) f j) (hnodup : (JobPlan.ids plan).Nodup) :
    Collects (families (laid s plan) f)
      (j.result.map fun _ => (s.meters plan j.notes).map Meter.family) := by
  rw [← families_laid]
  exact h.collects (widths_laid s plan) (kinds_laid s plan)
    (by rwa [map_fst_widthsOf])

/-- The meters of a part of a plan take as many label values as they have labels, if their marks add
none. -/
theorem takes_planFor {kinds : List MetricKind} {names : List String} {plan : List PlannedMeter}
    (hkinds : ∀ kind ∈ kinds, kind.extraLabels = 0) (hplan : s.planFor kinds names ⊆ plan) :
    Bench.Takes (widthsOf plan) (JobPlan.ids (s.planFor kinds names)) names.length := by
  intro id hid
  obtain ⟨planned, hplanned, rfl⟩ := List.mem_map.mp hid
  refine List.mem_map.mpr ⟨planned, hplan hplanned, ?_⟩
  obtain ⟨kind, hkind, _, rfl⟩ := mem_planFor.mp hplanned
  rw [hkinds kind hkind]
  rfl

theorem nodup_ids_planFor {kinds : List MetricKind} (names : List String) (hnodup : kinds.Nodup) :
    (JobPlan.ids (s.planFor kinds names)).Nodup :=
  (hnodup.map fun _ _ h => congrArg MeterId.kind h).sublist (ids_planFor_sublist s kinds names)

/-- Things on which the host cannot fail, one after the other. -/
theorem collects_items {α : Type} (s : Settings) (kinds : List MetricKind) (hnodup : kinds.Nodup)
    (hkinds : ∀ kind ∈ kinds, kind.extraLabels = 0) (names : List String) (entity : α → Entity)
    (hhealthy : ∀ a, (entity a).Healthy) (values : α → List String)
    (hvalues : ∀ a, (values a).length = names.length) (items : List α) :
    let plan := s.planFor kinds names
    Collects
      (families (laid s plan) (items.forM fun a =>
        feedFitting 0 (plan.map PlannedMeter.meter) (entity a) (values a)))
      (.ok (storagePartFamilies s plan
        (fun ids a => recordEntity 0 ids (entity a) (values a)) items)) := by
  intro plan
  have htakes (a : α) : Bench.Takes (widthsOf plan) (JobPlan.ids plan) (values a).length := by
    rw [hvalues]
    exact takes_planFor hkinds (List.Subset.refl _)
  have hfollows : Follows (widthsOf plan)
      (items.forM fun a => feedFitting 0 (JobPlan.ids plan) (entity a) (values a))
      (Journal.each (fun a => recordEntity 0 (JobPlan.ids plan) (entity a) (values a)) items) :=
    Follows.each fun a _ => follows_feedFitting (htakes a) 0 (entity a)
  have hresult : (Journal.each (fun a => recordEntity 0 (JobPlan.ids plan) (entity a) (values a))
      items).result = .ok () := by
    refine Journal.result_each fun a _ => ?_
    rw [recordEntity_eq fun id _ => (hhealthy a).result_measure 0 id.kind]
  have hcollects := hfollows.collects_laid (s := s) (nodup_ids_planFor names hnodup)
  rw [hresult] at hcollects
  exact hcollects

/-! ### Jobs -/

/-- Every counter that is not suppressed is kept, with the labels of a job, once the cache was asked
for it. -/
theorem exists_kept {c : CounterCache} (hc : c.Reachable) {kind : MetricKind}
    (hkind : kind ∈ s.counters) :
    ∃ m, (c.obtainAll s).meter? (s.counterKey kind) = some m ∧ m.kind = kind ∧
      m.series.labelNames = s.config.jobLabelNames := by
  have hkey : (s.counterKey kind).kind ∈ s.counters ∧
      s.counterKey (s.counterKey kind).kind = s.counterKey kind := ⟨hkind, rfl⟩
  rw [CounterCache.meter?_eq, CounterCache.find?_obtainAll, if_pos hkey, Option.join_some]
  cases hfound : c.find? (s.counterKey kind) with
  | none => exact ⟨_, rfl, rfl, rfl⟩
  | some meter =>
    cases meter with
    | none =>
      obtain ⟨m, _, rfl⟩ := List.mem_map.mp (mem_counters.mp hkind).1
      exact absurd hfound (hc.measured rfl)
    | some m =>
      have hfits := hc.wellKept _ m hfound
      exact ⟨m, rfl, hfits.kind, hfits.labelNames⟩

/-- The meters of a scrape of jobs and their numbers of labels. -/
def jobMeters (c : CounterCache) (s : Settings) : List (MeterId × Meter) :=
  laid s (JobPlan.of s).durations ++ kept (c.obtainAll s) s ++
    laid s ((JobPlan.of s).gauges ++ (JobPlan.of s).lastBuild ++ (JobPlan.of s).perBuild)

def jobWidths (s : Settings) : List (MeterId × Nat) :=
  widthsOf (JobPlan.of s).durations ++
    s.counters.map (fun kind => (⟨kind, none⟩, s.config.jobLabelNames.length)) ++
      widthsOf ((JobPlan.of s).gauges ++ (JobPlan.of s).lastBuild ++ (JobPlan.of s).perBuild)

theorem widths_jobMeters {c : CounterCache} (hc : c.Reachable) :
    (jobMeters c s).map (fun e => (e.1, e.2.series.labelNames.length)) = jobWidths s := by
  have hkept : (kept (c.obtainAll s) s).map (fun e => (e.1, e.2.series.labelNames.length)) =
      s.counters.map fun kind => (⟨kind, none⟩, s.config.jobLabelNames.length) := by
    rw [kept, List.map_filterMap, ← List.filterMap_eq_map]
    refine List.filterMap_congr fun kind hkind => ?_
    obtain ⟨m, hm, _, hnames⟩ := exists_kept hc hkind
    rw [hm, Option.map_some, Option.map_some, hnames]
    rfl
  rw [jobMeters, List.map_append, List.map_append, widths_laid, widths_laid, hkept, jobWidths]

theorem kinds_jobMeters {c : CounterCache} (hc : c.Reachable) :
    ∀ e ∈ jobMeters c s, e.2.kind = e.1.kind := by
  intro e he
  rw [jobMeters, List.mem_append, List.mem_append] at he
  rcases he with (he | he) | he
  · exact kinds_laid s _ e he
  · obtain ⟨kind, hkind, hmap⟩ := List.mem_filterMap.mp he
    obtain ⟨m, hm, hmkind, _⟩ := exists_kept hc hkind
    rw [hm] at hmap
    cases hmap
    exact hmkind
  · exact kinds_laid s _ e he

theorem nodup_jobWidths (s : Settings) : ((jobWidths s).map Prod.fst).Nodup := by
  refine nodup_scrapeIds.sublist (.trans ?_ s.config.outputIds_sublist)
  rw [jobWidths, List.map_append, List.map_append, map_fst_widthsOf, map_fst_widthsOf,
    List.map_map, Config.outputIds]
  refine ((ids_planFor_sublist s _ _).append ?_).append (ids_sublist s)
  have hcounters : (s.counters.map fun kind => (⟨kind, none⟩ : MeterId)).Sublist
      ((buildCounters.map MetricKind.build).map (⟨·, none⟩)) := List.filter_sublist.map _
  rwa [List.map_map] at hcounters

theorem mem_jobWidths_of_planned {planned : PlannedMeter} (h : planned ∈ (JobPlan.of s).all) :
    (planned.meter, planned.labelNames.length) ∈ jobWidths s := by
  rw [JobPlan.all, List.mem_append] at h
  rw [jobWidths, List.mem_append, List.mem_append]
  rcases h with h | h
  · exact .inl (.inl (List.mem_map.mpr ⟨planned, h, rfl⟩))
  · exact .inr (List.mem_map.mpr ⟨planned, h, rfl⟩)

theorem mem_jobWidths_of_counter {kind : MetricKind} (h : kind ∈ s.counters) :
    (⟨kind, none⟩, s.config.jobLabelNames.length) ∈ jobWidths s := by
  rw [jobWidths, List.mem_append, List.mem_append]
  exact .inl (.inr (List.mem_map.mpr ⟨kind, h, rfl⟩))

/-- No meter of the plan is a counter. -/
theorem planned_ne_counter {planned : PlannedMeter} (h : planned ∈ (JobPlan.of s).all)
    {kind : MetricKind} (hkind : kind ∈ s.counters) : planned.meter ≠ ⟨kind, none⟩ := by
  have hdisjoint : ∀ kind ∈ plannedKinds, kind ∉ buildCounters.map MetricKind.build := by decide
  intro heq
  exact hdisjoint _ (planned_of_mem_all h).1 (heq ▸ (mem_counters.mp hkind).1)

/-- Completed builds record nothing for the plan. -/
theorem recordingsFor_countCompletions {planned : PlannedMeter} (h : planned ∈ (JobPlan.of s).all)
    (completions : List Completion) :
    recordingsFor planned.meter (countCompletions s s.counters completions) = [] := by
  refine recordingsFor_eq_nil fun r hr heq => ?_
  obtain ⟨c, _, j, _, hmem⟩ := mem_countCompletions.mp hr
  obtain ⟨kind, hkind, hid⟩ := List.mem_map.mp (mem_recordEntity hmem).1
  exact planned_ne_counter h hkind (hid.trans heq).symm

/-- Jobs record nothing for the counters. -/
theorem recordingsFor_recordJobs_counter {kind : MetricKind} (hkind : kind ∈ s.counters)
    (now : Int64) (jobs : List Job) :
    recordingsFor ⟨kind, none⟩ (recordJobs (.of s) now jobs).notes = [] := by
  refine recordingsFor_eq_nil fun r hr heq => ?_
  obtain ⟨j, _, hj⟩ := mem_recordJobs hr
  obtain ⟨planned, hplanned, hid, _⟩ := length_of_mem_recordJob hj
  exact planned_ne_counter hplanned hkind (hid.trans heq)

theorem record_congr {meters : List (MeterId × Meter)} {rs ts : List Recording}
    (h : ∀ e ∈ meters, recordingsFor e.1 rs = recordingsFor e.1 ts) :
    Bench.record meters rs = Bench.record meters ts :=
  List.map_congr_left fun e he => by rw [h e he]

/-- What completed builds and jobs have recorded for the meters of a scrape. -/
theorem families_jobMeters (c : CounterCache) (s : Settings) (completions : List Completion)
    (now : Int64) (jobs : List Job) :
    (Bench.record (jobMeters c s)
        (countCompletions s s.counters completions ++ (recordJobs (.of s) now jobs).notes)).map
        (fun e => e.2.family) =
      ((JobPlan.of s).meters (counterMeters (c.count s completions) s)
        (recordJobs (.of s) now jobs).notes).map Meter.family := by
  set counted := countCompletions s s.counters completions with hcounted
  set recorded := (recordJobs (.of s) now jobs).notes with hrecorded
  have hplan {plan : List PlannedMeter} (hall : plan ⊆ (JobPlan.of s).all) :
      Bench.record (laid s plan) (counted ++ recorded) = Bench.record (laid s plan) recorded := by
    refine record_congr fun e he => ?_
    obtain ⟨planned, hplanned, rfl⟩ := List.mem_map.mp he
    rw [recordingsFor_append, recordingsFor_countCompletions (hall hplanned), List.nil_append]
  have hkept : (Bench.record (kept (c.obtainAll s) s) (counted ++ recorded)).map
      (fun e => e.2.family) = (counterMeters (c.count s completions) s).map Meter.family := by
    rw [Bench.record, kept, List.map_map, List.map_filterMap, counterMeters, List.map_filterMap]
    refine List.filterMap_congr fun kind hkind => ?_
    have hkey : (s.counterKey kind).kind ∈ s.counters ∧
        s.counterKey (s.counterKey kind).kind = s.counterKey kind := ⟨hkind, rfl⟩
    rw [CounterCache.meter?_count c hkind, CounterCache.meter?_eq, CounterCache.find?_obtainAll,
      if_pos hkey, Option.join_some, Option.map_map, Option.map_map]
    refine congrArg (Option.map · _) (funext fun m => ?_)
    simp only [Function.comp_apply]
    rw [recordingsFor_append, recordingsFor_recordJobs_counter hkind, List.append_nil]
  have hrest : (JobPlan.of s).gauges ++ (JobPlan.of s).lastBuild ++ (JobPlan.of s).perBuild ⊆
      (JobPlan.of s).all := List.subset_append_right ..
  have happend (xs ys : List (MeterId × Meter)) (rs : List Recording) :
      Bench.record (xs ++ ys) rs = Bench.record xs rs ++ Bench.record ys rs := List.map_append
  rw [jobMeters, happend, happend, hplan JobPlan.durations_subset, hplan hrest, List.map_append,
    List.map_append, hkept, families_laid, families_laid, JobPlan.meters, List.map_append,
    List.map_append]
  rfl

/-! ### All collectors -/

theorem collects_jobs {e : Exporter} (h : e.counters.Reachable) (now : Int64) :
    Collects (e.feedFrom now .jobs) (e.collectFrom now .jobs).2 := by
  have hplan (planned : PlannedMeter) (hplanned : planned ∈ (JobPlan.of e.active.load).all) :=
    mem_jobWidths_of_planned hplanned
  simp only [Exporter.feedFrom, Exporter.collectFrom, Exporter.collectJobs]
  split
  · exact collects_pure []
  · have hfollows := (follows_feedCompletions (fun _ => mem_jobWidths_of_counter)
      (e.buffer.register.drain.1.items.map e.host.completion)).bind fun _ _ =>
        follows_feedJobs hplan now e.host.jobs
    have hcollects := hfollows.collects (widths_jobMeters h) (kinds_jobMeters h)
      (nodup_jobWidths e.active.load)
    rw [Journal.bind_of_ok rfl] at hcollects
    simp only [families_jobMeters] at hcollects
    have hshown := hcollects.bind fun families =>
      collects_pure (families.filter fun f => !f.isEmpty)
    cases hresult : (recordJobs (.of e.active.load) now e.host.jobs).result with
    | error fault =>
      rw [hresult] at hshown
      exact hshown
    | ok _ =>
      rw [hresult] at hshown
      exact hshown

theorem collects_executors (e : Exporter) (now : Int64) :
    Collects (e.feedFrom now .executors) (e.collectFrom now .executors).2 :=
  collects_items e.active.load (executorMetrics.map .executor) (by decide) (by decide) [nodeLabel]
    .executor (fun _ => trivial) (fun load => [load.label]) (fun _ => rfl) e.host.report.executors

theorem collects_storage (e : Exporter) (now : Int64) :
    Collects (e.feedFrom now .storage) (e.collectFrom now .storage).2 := by
  simp only [Exporter.feedFrom, Exporter.collectFrom, storageFamilies]
  split
  · exact collects_pure []
  cases e.host.report.disk with
  | none => exact collects_pure []
  | some usage =>
    have hdirectories := collects_items e.active.load (directoryMetrics.map .directory) (by decide)
      (by decide) [storeLabel, directoryLabel] .directory (fun _ => trivial)
      (fun item => [item.fileStore, item.directory]) (fun _ => rfl) usage.directories
    have hjobs := collects_items e.active.load [.jobUsage] (by decide) (by decide)
      [storeLabel, diskJobLabel, urlLabel] .jobUsage (fun _ => trivial)
      (fun item => [item.fileStore, item.jobName, item.url]) (fun _ => rfl) usage.jobs
    have hstores := collects_items e.active.load (storeSizes.map .fileStore) (by decide) (by decide)
      [storeLabel] .fileStore (fun _ => trivial) (fun store => [store.name]) (fun _ => rfl)
      usage.stores
    exact hdirectories.bind fun _ => hjobs.bind fun _ => hstores.bind fun _ => collects_pure _

theorem nodup_ids_statusPlan (s : Settings) : (JobPlan.ids (statusPlan s)).Nodup := by
  have hnodup : ((plainHostMetrics.map MetricKind.host).map (⟨·, none⟩) ++
      [MetricKind.host .version].map (⟨·, none⟩) : List MeterId).Nodup := by decide
  rw [statusPlan, JobPlan.ids, List.map_append]
  exact hnodup.sublist ((ids_planFor_sublist s _ _).append (ids_planFor_sublist s _ _))

theorem result_recordStatus (s : Settings) (status : HostStatus) :
    (recordStatus s status).result = .ok () := by
  have hhealthy : (Entity.host status).Healthy := trivial
  have hentity (ids : List MeterId) (values : List String) :
      (recordEntity 0 ids (.host status) values).result = .ok () := by
    rw [recordEntity_eq fun id _ => hhealthy.result_measure 0 id.kind]
  simp only [recordStatus]
  rw [Journal.bind_of_ok (hentity _ _)]
  cases status.version with
  | none => rfl
  | some version => exact hentity _ _

/-- The meters of a plan are the same under all label names. -/
theorem ids_planFor_eq (s : Settings) (kinds : List MetricKind) (names : List String) :
    JobPlan.ids (s.planFor kinds names) = JobPlan.ids (s.planFor kinds []) := by
  rw [JobPlan.ids, Settings.planFor, JobPlan.ids, Settings.planFor, List.map_map, List.map_map]
  rfl

theorem collects_status (e : Exporter) (now : Int64) :
    Collects (e.feedFrom now .status) (e.collectFrom now .status).2 := by
  have hplain : Bench.Takes (widthsOf (statusPlan e.active.load))
      (JobPlan.ids (e.active.load.planFor (plainHostMetrics.map .host) [])) 0 :=
    takes_planFor (by decide) (List.subset_append_left ..)
  have hversion : Bench.Takes (widthsOf (statusPlan e.active.load))
      (JobPlan.ids (e.active.load.planFor [.host .version] [versionLabel])) 1 :=
    takes_planFor (by decide) (List.subset_append_right ..)
  rw [ids_planFor_eq] at hversion
  have hcollects := (follows_feedStatus e.host.report.status hplain hversion).collects_laid
    (s := e.active.load) (nodup_ids_statusPlan e.active.load)
  rw [result_recordStatus] at hcollects
  exact hcollects

theorem collects_coverage (e : Exporter) (now : Int64) :
    Collects (e.feedFrom now .coverage) (e.collectFrom now .coverage).2 := by
  simp only [Exporter.feedFrom, Exporter.collectFrom, coverageFamilies]
  split
  · exact collects_pure []
  · refine Follows.collects_laid (Follows.each fun j _ => follows_feedCoverage ?_ j) ?_
    · exact takes_planFor (by decide) (List.Subset.refl _)
    · exact nodup_ids_planFor _ (by decide)

/-- The feedings of a collection give what the recorders give, and none of them fails for its label
values. -/
theorem collects_feedFrom {e : Exporter} (h : e.counters.Reachable) (now : Int64) (c : Collector) :
    Collects (e.feedFrom now c) (e.collectFrom now c).2 := by
  cases c with
  | jobs => exact collects_jobs h now
  | executors => exact collects_executors e now
  | storage => exact collects_storage e now
  | status => exact collects_status e now
  | coverage => exact collects_coverage e now

end Feeder

/-- No collector ever gives a meter a wrong number of label values, under whatever settings and on
whatever host, as long as the kept counters come from earlier scrapes: among all outcomes of the
feedings of a collection there is none that fails for the label values, neither those of the entity
nor those of its marks. And with the feedings written out the collection gives what it gives. -/
theorem label_values_always_fit {e : Exporter} (h : e.counters.Reachable) (now : Int64)
    (c : Collector) :
    let fed := (e.feedFrom now c).on ⟨[], []⟩
    fed.1 = (e.collectFrom now c).2.mapError .host ∧
      ∀ outcome ∈ fed.2.outcomes, ∀ error, outcome ≠ .error (.arity error) :=
  Feeder.collects_feedFrom h now c ⟨[], []⟩ fun _ houtcome => absurd houtcome List.not_mem_nil

/-- Every build is reported, with its parameters and its status. -/
def everyLabel : Settings :=
  let s := Settings.initial none
  { s with config :=
    { s.config with perBuild := true, parametersLabel := true, statusLabel := true } }

/-- A host with a build of two stages was scraped once, and a build has completed since. -/
def scrapedOnce : Exporter :=
  let stages : List Stage := [⟨"compile", .success, 1⟩, ⟨"test", .failed, 2⟩]
  let staged : Build := ⟨{ (Build.plain 1).info with stages := some stages }, [], 0⟩
  let host : Host := ⟨[⟨0, .plain "a" [staged, .plain 2]⟩], [], .initial⟩
  ((Exporter.start ⟨none, some everyLabel⟩ host).collectJobs 0).1.complete (.plain 2)

/-- The next scrape makes 48 feedings. -/
theorem label_values_always_fit_of_stages :
    scrapedOnce.counters.Reachable ∧
      let fed := (scrapedOnce.feedFrom 0 .jobs).on ⟨[], []⟩
      fed.2.outcomes.length = 48 ∧
        ∀ outcome ∈ fed.2.outcomes, ∀ error, outcome ≠ .error (.arity error) := by
  have hreachable : scrapedOnce.counters.Reachable := Exporter.reachable_collectJobs .empty 0
  exact ⟨hreachable, by decide +kernel, (label_values_always_fit hreachable 0 .jobs).2⟩

end BuildTelemetry
