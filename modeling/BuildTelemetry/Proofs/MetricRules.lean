import BuildTelemetry.Proofs.Identity

/-!
# Rules about metrics only remove families

Rules about metrics are asked twice: a metric whose qualified name is suppressed has no meter, and a
family whose exposed name is suppressed is not shown. Whatever the rules are, all other families are
the same as without them.

1. A configuration is as valid without its rules about metrics, and what it says about jobs stays
   (`Settings.of_withAllMetrics`).
2. While nothing fails on the host, what is recorded under the rules is what is recorded without
   them for the metrics that they allow (`notes_recordJobs_filter`, `countCompletions_filter`).
3. So the meters under the rules are those without them that measure such a metric
   (`meters_filter`, `counterMeters_filter`).
4. So a scrape shows what it would show without the rules, except for the families that they
   suppress (`metric_rules_only_remove`).
-/

namespace BuildTelemetry

open JobPlan (ids)

/-! ## 1. Rules -/

/-- The rule suppresses jobs, not metrics. -/
def Rule.isAboutJobs : Rule → Bool
  | .jobPattern _ => true
  | _ => false

/-- The same for a rule whose pattern was read. -/
def CompiledRule.isAboutJobs : CompiledRule → Bool
  | .jobPattern _ => true
  | _ => false

/-- The configuration without its rules about metrics. -/
def Config.withAllMetrics (c : Config) : Config :=
  { c with rules := c.rules.filter Rule.isAboutJobs }

/-- The policy without its rules about metrics. -/
def Policy.withAllMetrics (p : Policy) : Policy := ⟨p.rules.filter CompiledRule.isAboutJobs⟩

namespace Settings

/-- The settings without their rules about metrics. -/
def withAllMetrics (s : Settings) : Settings :=
  { s with config := s.config.withAllMetrics, policy := s.policy.withAllMetrics }

/-- The qualified name of the metric that a family is of is suppressed. -/
def deniesMetricOf (s : Settings) (f : MetricFamily) : Bool :=
  exposedIds.any fun id => f.name == id.name s.nameSpace && !s.allows id.kind

/-- The family is not to be shown: its exposed name is suppressed, or the qualified name of its
metric. -/
def suppresses (s : Settings) (f : MetricFamily) : Bool :=
  !s.policy.allowsMetric f.name || s.deniesMetricOf f

end Settings

/-- Reading its pattern does not change what a rule is about. -/
theorem isAboutJobs_of_compile {rule : Rule} {compiled : CompiledRule}
    (h : rule.compile = .ok compiled) : compiled.isAboutJobs = rule.isAboutJobs := by
  cases rule with
  | metricName name =>
    cases h
    rfl
  | metricPattern pattern =>
    obtain ⟨node, _, hnode⟩ := reading_bind_eq_ok.mp h
    cases hnode
    rfl
  | jobPattern pattern =>
    obtain ⟨node, _, hnode⟩ := reading_bind_eq_ok.mp h
    cases hnode
    rfl

/-- If the patterns of all rules can be read, so can those of the rules about jobs. -/
theorem mapM_compile_filter {rules : List Rule} {compiled : List CompiledRule}
    (h : rules.mapM Rule.compile = .ok compiled) :
    (rules.filter Rule.isAboutJobs).mapM Rule.compile =
      .ok (compiled.filter CompiledRule.isAboutJobs) := by
  rw [mapM_eq_ok] at h ⊢
  induction h with
  | nil => exact .nil
  | cons hrule _ ih =>
    have hsame := isAboutJobs_of_compile hrule
    rw [List.filter_cons, List.filter_cons, hsame]
    split
    · exact .cons hrule ih
    · exact ih

/-- A configuration stays valid without its rules about metrics. -/
theorem Settings.of_withAllMetrics {environment : Option String} {c : Config} {s : Settings}
    (h : Settings.of environment c = .ok s) :
    Settings.of environment c.withAllMetrics = .ok s.withAllMetrics := by
  unfold Settings.of at h ⊢
  split at h
  · cases h
  next hperiod =>
  rw [if_neg (show c.withAllMetrics.period ≠ 0 from hperiod)]
  have hquantiles : c.withAllMetrics.quantiles = c.quantiles := rfl
  rw [hquantiles]
  split at h
  · cases h
  split at h
  · cases h
  next policy hpolicy =>
  cases h
  obtain ⟨compiled, hrules, rfl⟩ := reading_map_eq_ok.mp hpolicy
  have hkept : Policy.compile c.withAllMetrics.rules =
      .ok ⟨compiled.filter CompiledRule.isAboutJobs⟩ :=
    reading_map_eq_ok.mpr ⟨_, mapM_compile_filter hrules, rfl⟩
  rw [hkept]
  rfl

variable {s : Settings}

@[simp] theorem allowsJob_withAllMetrics (p : Policy) (name : String) :
    p.withAllMetrics.allowsJob name = p.allowsJob name := by
  unfold Policy.allowsJob Policy.withAllMetrics
  rw [List.any_filter]
  refine congrArg _ (List.any_congr rfl fun rule => ?_)
  cases rule <;> rfl

@[simp] theorem allowsMetric_withAllMetrics (p : Policy) (name : String) :
    p.withAllMetrics.allowsMetric name = true := by
  unfold Policy.allowsMetric Policy.withAllMetrics
  rw [Bool.not_eq_true', List.any_eq_false]
  intro rule hrule
  have hjobs := (List.mem_filter.mp hrule).2
  cases rule with
  | jobPattern pattern => exact Bool.false_ne_true
  | metricName name => cases hjobs
  | metricPattern pattern => cases hjobs

@[simp] theorem allows_withAllMetrics (s : Settings) (kind : MetricKind) :
    s.withAllMetrics.allows kind = true :=
  allowsMetric_withAllMetrics s.policy _

/-! ## 2. Recordings -/

/-! ### Plans -/

theorem filter_allows_withAllMetrics (s : Settings) (kinds : List MetricKind) :
    kinds.filter s.withAllMetrics.allows = kinds :=
  List.filter_eq_self.mpr fun kind _ => allows_withAllMetrics s kind

/-- The plan for some metrics under the rules is the one without them for those that are allowed. -/
theorem plan_filter (s : Settings) (kinds : List MetricKind) {plan : MetricKind → PlannedMeter}
    (hplan : ∀ kind, (plan kind).meter.kind = kind) :
    (kinds.filter s.allows).map plan = ((kinds.filter s.withAllMetrics.allows).map plan).filter
      fun planned => s.allows planned.meter.kind := by
  rw [filter_allows_withAllMetrics, List.filter_map]
  refine congrArg (List.map plan) (List.filter_congr fun kind _ => ?_)
  rw [Function.comp_apply, hplan]

theorem planFor_filter (s : Settings) (kinds : List MetricKind) (names : List String) :
    s.planFor kinds names = (s.withAllMetrics.planFor kinds names).filter
      fun planned => s.allows planned.meter.kind :=
  plan_filter s kinds fun _ => rfl

theorem planBuilds_filter (s : Settings) (names : List String) (qualifier : Option String) :
    s.planBuilds names qualifier = (s.withAllMetrics.planBuilds names qualifier).filter
      fun planned => s.allows planned.meter.kind :=
  plan_filter s _ fun _ => rfl

theorem durations_filter (s : Settings) :
    (JobPlan.of s).durations = (JobPlan.of s.withAllMetrics).durations.filter
      fun planned => s.allows planned.meter.kind :=
  planFor_filter ..

theorem gauges_filter (s : Settings) :
    (JobPlan.of s).gauges = (JobPlan.of s.withAllMetrics).gauges.filter
      fun planned => s.allows planned.meter.kind :=
  planFor_filter ..

theorem lastBuild_filter (s : Settings) :
    (JobPlan.of s).lastBuild = (JobPlan.of s.withAllMetrics).lastBuild.filter
      fun planned => s.allows planned.meter.kind :=
  planBuilds_filter ..

theorem perBuild_filter (s : Settings) :
    (JobPlan.of s).perBuild = (JobPlan.of s.withAllMetrics).perBuild.filter
      fun planned => s.allows planned.meter.kind := by
  have hsame : s.withAllMetrics.config.perBuild = s.config.perBuild := rfl
  unfold JobPlan.of
  dsimp only
  rw [hsame]
  split
  · exact planBuilds_filter ..
  · rfl

theorem ids_filter (p : MetricKind → Bool) (plan : List PlannedMeter) :
    ids (plan.filter fun planned => p planned.meter.kind) =
      (ids plan).filter fun id => p id.kind := by
  rw [ids, ids, List.filter_map]
  rfl

/-- The meters that are asked for under the rules. -/
theorem meters_planFor_filter (s : Settings) (kinds : List MetricKind) (names : List String) :
    (s.planFor kinds names).map PlannedMeter.meter =
      ((s.withAllMetrics.planFor kinds names).map PlannedMeter.meter).filter
        fun id => s.allows id.kind := by
  rw [planFor_filter]
  exact ids_filter ..

/-! ### Entities, jobs and completed builds -/

/-- Fewer metrics record less of an entity, and the same for each of them. -/
theorem notes_recordEntity_filter (p : MetricKind → Bool) {entity : Entity} (h : entity.Healthy)
    (now : Int64) (meters : List MeterId) (values : List String) :
    (recordEntity now (meters.filter fun id => p id.kind) entity values).notes =
      (recordEntity now meters entity values).notes.filter fun r => p r.meter.kind := by
  rw [recordEntity_eq fun meter _ => h.result_measure now meter.kind,
    recordEntity_eq fun meter _ => h.result_measure now meter.kind, flatMap_filter,
    List.filter_flatMap]
  refine List.flatMap_congr fun meter _ => ?_
  rw [List.filter_map]
  cases hp : p meter.kind with
  | true => simp [Function.comp_def, hp]
  | false => simp [Function.comp_def, hp]

/-- The same for some entities, one after the other. -/
theorem notes_each_filter {α : Type} (p : MetricKind → Bool) {entity : α → Entity} {items : List α}
    (h : ∀ item ∈ items, (entity item).Healthy) (now : Int64) (meters : List MeterId)
    (values : α → List String) :
    (Journal.each (fun item => recordEntity now (meters.filter fun id => p id.kind) (entity item)
        (values item)) items).notes =
      (Journal.each (fun item => recordEntity now meters (entity item) (values item))
        items).notes.filter fun r => p r.meter.kind := by
  have hresult (meters : List MeterId) : ∀ item ∈ items,
      (recordEntity now meters (entity item) (values item)).result = .ok () := by
    intro item hitem
    rw [recordEntity_eq fun meter _ => (h item hitem).result_measure now meter.kind]
  rw [Journal.notes_each (hresult _), Journal.notes_each (hresult _), List.filter_flatMap]
  exact List.flatMap_congr fun item hitem => notes_recordEntity_filter p (h item hitem) now _ _

variable {now : Int64} {j : Job} {b : Build}

theorem notes_recordBuild_filter (now : Int64) (hj : j.Healthy) (hb : b.Healthy) :
    (recordBuild (.of s) now j b).notes = (recordBuild (.of s.withAllMetrics) now j b).notes.filter
      fun r => s.allows r.meter.kind := by
  have hentity : (Entity.build b).Healthy := hb
  rw [recordBuild_eq now hj hb, recordBuild_eq now hj hb, durations_filter, perBuild_filter,
    ids_filter, ids_filter, notes_recordEntity_filter _ hentity,
    notes_recordEntity_filter _ hentity, List.filter_append]
  rfl

theorem notes_recordJob_filter (now : Int64) (hj : j.Healthy) :
    (recordJob (.of s) now j).notes = (recordJob (.of s.withAllMetrics) now j).notes.filter
      fun r => s.allows r.meter.kind := by
  -- rules about metrics have no say in whether a job is visited, or which of its builds count
  have hvisits : s.withAllMetrics.visits j = s.visits j := by
    unfold Settings.visits
    exact congrArg₂ _ (allowsJob_withAllMetrics s.policy _) rfl
  cases hv : s.visits j with
  | false =>
    rw [notes_recordJob_of_not_visits now hj hv,
      notes_recordJob_of_not_visits now hj (hvisits.trans hv)]
    rfl
  | true =>
    have hincludes : s.withAllMetrics.config.includes = s.config.includes := rfl
    have hbuilds : ∀ b ∈ j.newestFirst, b.Healthy := fun b hb => hj.build hb
    obtain ⟨hallowed, hbuildable⟩ := Bool.and_eq_true_iff.mp hv
    rw [notes_recordJob hj hallowed (Bool.or_eq_true_iff.mp hbuildable), notes_recordJob
      (s := s.withAllMetrics) hj ((allowsJob_withAllMetrics s.policy _).trans hallowed)
      (Bool.or_eq_true_iff.mp hbuildable)]
    cases hshown : j.described? with
    | none => rfl
    | some shown =>
      have hjob : (Entity.job j).Healthy := hj
      have hbuild : (Entity.build shown).Healthy :=
        hj.build (Job.mem_newestFirst_of_described? hshown)
      dsimp only
      rw [gauges_filter, lastBuild_filter, ids_filter, ids_filter,
        notes_recordEntity_filter _ hjob, notes_recordEntity_filter _ hbuild,
        recordBuilds_eq now hj hbuilds, recordBuilds_eq now hj hbuilds, List.filter_append,
        List.filter_append, List.filter_flatMap, hincludes]
      refine congrArg _ (congrArg _ (List.flatMap_congr fun b hb => ?_))
      exact notes_recordBuild_filter now hj (hbuilds b (List.mem_filter.mp hb).1)

variable {jobs : List Job}

theorem notes_recordJobs_filter (now : Int64) (hjobs : ∀ j ∈ jobs, j.Healthy) :
    (recordJobs (.of s) now jobs).notes = (recordJobs (.of s.withAllMetrics) now jobs).notes.filter
      fun r => s.allows r.meter.kind := by
  have hnameable : ∀ j ∈ jobs, j.Nameable := fun j hj => (hjobs j hj).nameable
  rw [recordJobs_eq hnameable, recordJobs_eq hnameable, List.filter_flatMap]
  exact List.flatMap_congr fun j hj => notes_recordJob_filter now (hjobs j hj)

/-- A job on which nothing fails records the report of its newest build, unless that one is running
or has no report. -/
theorem notes_recordReport (hj : j.Healthy) (meters : List MeterId) :
    (recordReport meters j).notes = match j.newestFirst with
      | [] => []
      | last :: _ =>
        if last.info.building || last.info.coverage.isNone then []
        else (recordEntity 0 meters (.build last) [j.info.fullName]).notes := by
  simp only [recordReport, Journal.liftM_eq, hj.lastBuild, Journal.ofExcept_ok_bind]
  cases hbuilds : j.newestFirst with
  | nil => rfl
  | cons last older =>
    have hlast : last.Healthy := hj.build (hbuilds ▸ List.mem_cons_self)
    have hcoverage : last.coverage = .ok last.info.coverage := hlast.read ..
    simp only [hlast.isBuilding, Journal.ofExcept_ok_bind, hcoverage, hj.nameable.fullName]
    cases last.info.building with
    | true => rfl
    | false =>
      cases last.info.coverage with
      | none => rfl
      | some report => rfl

theorem notes_recordCoverage_filter (hj : j.Healthy) (meters : List MeterId) :
    (recordCoverage s (meters.filter fun id => s.allows id.kind) j).notes =
      (recordCoverage s.withAllMetrics meters j).notes.filter fun r => s.allows r.meter.kind := by
  have hpolicy : s.withAllMetrics.policy.allowsJob j.info.fullName =
      s.policy.allowsJob j.info.fullName := allowsJob_withAllMetrics ..
  simp only [recordCoverage, Journal.liftM_eq, hj.nameable.fullName, Journal.ofExcept_ok_bind,
    hpolicy]
  split
  · rw [Journal.notes_recover fun _ => rfl, Journal.notes_recover fun _ => rfl,
      notes_recordReport hj, notes_recordReport hj]
    cases hbuilds : j.newestFirst with
    | nil => rfl
    | cons last older =>
      have hlast : (Entity.build last).Healthy := hj.build (hbuilds ▸ List.mem_cons_self)
      dsimp only
      split
      · rfl
      · exact notes_recordEntity_filter _ hlast ..
  · rfl

theorem countsFor_withAllMetrics {c : Completion} :
    c.CountsFor s.withAllMetrics j ↔ c.CountsFor s j := by
  have hpolicy : s.withAllMetrics.policy.allowsJob j.info.fullName =
      s.policy.allowsJob j.info.fullName := allowsJob_withAllMetrics ..
  constructor
  · rintro ⟨hparent, hnameable, hallowed, hbuildable⟩
    exact ⟨hparent, hnameable, hpolicy ▸ hallowed, hbuildable⟩
  · rintro ⟨hparent, hnameable, hallowed, hbuildable⟩
    exact ⟨hparent, hnameable, hpolicy ▸ hallowed, hbuildable⟩

theorem counters_filter (s : Settings) :
    s.counters = s.withAllMetrics.counters.filter s.allows := by
  rw [Settings.counters, Settings.counters, filter_allows_withAllMetrics]

theorem countCompletions_filter {completions : List Completion}
    (h : ∀ c ∈ completions, c.build.Healthy) :
    countCompletions s s.counters completions =
      (countCompletions s.withAllMetrics s.withAllMetrics.counters completions).filter
        fun r => s.allows r.meter.kind := by
  rw [countCompletions, countCompletions, List.filter_flatMap]
  refine List.flatMap_congr fun c hc => ?_
  by_cases hcounts : ∃ j, c.CountsFor s j
  · obtain ⟨j, hj⟩ := hcounts
    have hbuild : (Entity.build c.build).Healthy := h c hc
    rw [countCompletion_eq hj, countCompletion_eq (countsFor_withAllMetrics.mpr hj),
      ← notes_recordEntity_filter _ hbuild, counters_filter, List.filter_map]
    rfl
  · have hnone := not_exists.mp hcounts
    rw [notes_countCompletion hnone, notes_countCompletion fun j hj =>
      hnone j (countsFor_withAllMetrics.mp hj)]
    rfl

/-! ## 3. Meters -/

theorem recordingsFor_filter {p : MetricKind → Bool} (id : MeterId) (h : p id.kind)
    (rs : List Recording) :
    recordingsFor id (rs.filter fun r => p r.meter.kind) = recordingsFor id rs := by
  rw [recordingsFor, recordingsFor, List.filter_filter]
  refine List.filter_congr fun r _ => ?_
  rw [Bool.and_eq_left_iff_imp]
  intro hmeter
  rw [beq_iff_eq.mp hmeter]
  exact h

/-- The meters under the rules are those without them whose metric is allowed. -/
theorem meters_filter (plan : List PlannedMeter) (rs : List Recording) :
    s.meters (plan.filter fun planned => s.allows planned.meter.kind)
        (rs.filter fun r => s.allows r.meter.kind) =
      (s.withAllMetrics.meters plan rs).filter fun m => s.allows m.kind := by
  rw [Settings.meters, Settings.meters, List.filter_map]
  have hkind : (fun m : Meter => s.allows m.kind) ∘ (fun planned : PlannedMeter =>
        (s.withAllMetrics.freshMeter planned).record (recordingsFor planned.meter rs)) =
      fun planned => s.allows planned.meter.kind := by
    funext planned
    rw [Function.comp_apply, Meter.kind_record]
    rfl
  rw [hkind]
  refine List.map_congr_left fun planned hplanned => ?_
  rw [recordingsFor_filter planned.meter (List.mem_filter.mp hplanned).2]
  rfl

/-- Looking up only what is kept gives what is kept of all that is found. -/
theorem filterMap_filter_eq {α β : Type} {keeps : α → Bool} {shows : β → Bool}
    {find find' : α → Option β} {as : List α} (hsame : ∀ a ∈ as, keeps a → find a = find' a)
    (hshows : ∀ a ∈ as, ∀ b, find' a = some b → shows b = keeps a) :
    (as.filter keeps).filterMap find = (as.filterMap find').filter shows := by
  rw [List.filterMap_filter, List.filter_filterMap]
  refine List.filterMap_congr fun a ha => ?_
  have hfilter : (find' a).filter shows = if keeps a then find' a else none := by
    cases hfound : find' a with
    | none => rw [ite_self, Option.filter_none]
    | some b => rw [Option.filter_some, hshows a ha b hfound]
  rw [hfilter]
  split
  · next hkeeps => exact hsame a ha hkeeps
  · rfl

/-- A counter that is allowed counts the same with and without the rules. -/
theorem meter?_count_filter {c : CounterCache} {kind : MetricKind} (hkind : kind ∈ s.counters)
    {completions : List Completion} (h : ∀ c ∈ completions, c.build.Healthy) :
    (c.count s completions).meter? (s.counterKey kind) =
      (c.count s.withAllMetrics completions).meter? (s.withAllMetrics.counterKey kind) := by
  have hkey : s.withAllMetrics.counterKey kind = s.counterKey kind := rfl
  have hallows : s.allows kind := (mem_counters.mp hkind).2
  have hcounter : kind ∈ s.withAllMetrics.counters := by
    rw [counters_filter] at hkind
    exact (List.mem_filter.mp hkind).1
  rw [CounterCache.meter?_count c hkind, CounterCache.meter?_count c hcounter, hkey,
    countCompletions_filter h, recordingsFor_filter (p := s.allows) ⟨kind, none⟩ hallows]

/-- The kept counters that a scrape shows under the rules are those without them whose metric is
allowed. -/
theorem counterMeters_filter {c : CounterCache} (hc : c.WellKept) {completions : List Completion}
    (h : ∀ c ∈ completions, c.build.Healthy) :
    counterMeters (c.count s completions) s =
      (counterMeters (c.count s.withAllMetrics completions) s.withAllMetrics).filter
        fun m => s.allows m.kind := by
  have hkept := hc.count s.withAllMetrics completions
  rw [counterMeters, counterMeters, counters_filter]
  refine filterMap_filter_eq ?_ ?_
  · intro kind hkind hallows
    refine meter?_count_filter ?_ h
    rw [counters_filter]
    exact List.mem_filter.mpr ⟨hkind, hallows⟩
  · intro kind _ m hfound
    rw [(hkept.fits hfound).kind]
    rfl

/-- The meters of a scrape of jobs. -/
theorem jobMeters_filter {c : CounterCache} (hc : c.WellKept) {completions : List Completion}
    (h : ∀ c ∈ completions, c.build.Healthy) (rs : List Recording) :
    (JobPlan.of s).meters (counterMeters (c.count s completions) s)
        (rs.filter fun r => s.allows r.meter.kind) =
      ((JobPlan.of s.withAllMetrics).meters
        (counterMeters (c.count s.withAllMetrics completions) s.withAllMetrics) rs).filter
          fun m => s.allows m.kind := by
  have hsettings (s : Settings) : (JobPlan.of s).settings = s := rfl
  rw [JobPlan.meters, JobPlan.meters, hsettings, hsettings, counterMeters_filter hc h,
    durations_filter, gauges_filter, lastBuild_filter, perBuild_filter, ← List.filter_append,
    ← List.filter_append, meters_filter, meters_filter, ← List.filter_append,
    ← List.filter_append]

/-! ## 4. Scrapes -/

/-! ### Families -/

/-- A family is denied for its metric exactly if its meter is. -/
theorem deniesMetricOf_family {m : Meter} {id : MeterId} (hid : id ∈ exposedIds)
    (hname : m.descriptor.name = id.name s.nameSpace) (hkind : m.kind = id.kind) :
    s.deniesMetricOf m.family = !s.allows m.kind := by
  unfold Settings.deniesMetricOf
  rw [Bool.eq_iff_iff, List.any_eq_true]
  constructor
  · rintro ⟨other, hother, hdenied⟩
    obtain ⟨hsame, hdenied⟩ := Bool.and_eq_true_iff.mp hdenied
    have hnames : other.name s.nameSpace = id.name s.nameSpace :=
      (beq_iff_eq.mp hsame).symm.trans hname
    rw [hkind, ← MeterId.name_injective s.nameSpace hother hid hnames]
    exact hdenied
  · intro hdenied
    refine ⟨id, hid, Bool.and_eq_true_iff.mpr ⟨beq_iff_eq.mpr hname, ?_⟩⟩
    rw [← hkind]
    exact hdenied

/-- Meters that are left out for their metric are left out as families. -/
theorem families_filter {meters : List Meter}
    (h : ∀ m ∈ meters, ∃ id ∈ exposedIds,
      m.descriptor.name = id.name s.nameSpace ∧ m.kind = id.kind) :
    (meters.filter fun m => s.allows m.kind).map Meter.family =
      (meters.map Meter.family).filter fun f => !s.deniesMetricOf f := by
  rw [List.filter_map]
  refine congrArg (List.map Meter.family) (List.filter_congr fun m hm => ?_)
  obtain ⟨id, hid, hname, hkind⟩ := h m hm
  rw [Function.comp_apply, deniesMetricOf_family hid hname hkind, Bool.not_not]

/-- The families of a plan for some metrics. -/
theorem planFamilies_filter (kinds : List MetricKind) (names : List String)
    {rs rs' : List Recording} (hrs : rs' = rs.filter fun r => s.allows r.meter.kind) :
    (s.meters (s.planFor kinds names) rs').map Meter.family =
      ((s.withAllMetrics.meters (s.withAllMetrics.planFor kinds names) rs).map
        Meter.family).filter fun f => !s.deniesMetricOf f := by
  rw [hrs, planFor_filter, meters_filter]
  refine families_filter fun m hm => ?_
  obtain ⟨planned, hplanned, rfl⟩ := List.mem_map.mp hm
  obtain ⟨kind, _, _, rfl⟩ := mem_planFor.mp hplanned
  exact ⟨_, MeterId.mem_exposedIds kind, name_planned s.withAllMetrics _ _,
    Meter.kind_record _ _⟩

theorem jobFamilies_filter {c : CounterCache} (hc : c.WellKept) {completions : List Completion}
    (h : ∀ c ∈ completions, c.build.Healthy) (now : Int64) (hjobs : ∀ j ∈ jobs, j.Healthy) :
    jobFamilies s (c.count s completions) now jobs =
      (jobFamilies s.withAllMetrics (c.count s.withAllMetrics completions) now jobs).filter
        fun f => !s.deniesMetricOf f := by
  have hkept := hc.count s.withAllMetrics completions
  rw [jobFamilies, jobFamilies, familiesOf, familiesOf, notes_recordJobs_filter now hjobs,
    jobMeters_filter hc h, families_filter, List.filter_comm]
  intro m hm
  rcases mem_meters.mp hm with ⟨planned, hplanned, rfl⟩ | ⟨kind, _, hfound⟩
  · exact ⟨_, mem_exposedIds_of_mem_all hplanned, name_planned s.withAllMetrics _ _,
      Meter.kind_record _ _⟩
  · have hfits := hkept.fits hfound
    exact ⟨_, MeterId.mem_exposedIds kind, congrArg Descriptor.name hfits.descriptor, hfits.kind⟩

theorem coverageRecordings_filter (hjobs : ∀ j ∈ jobs, j.Healthy) :
    coverageRecordings s jobs =
      (coverageRecordings s.withAllMetrics jobs).filter fun r => s.allows r.meter.kind := by
  have hplan : (coveragePlan s).map PlannedMeter.meter =
      ((coveragePlan s.withAllMetrics).map PlannedMeter.meter).filter
        fun id => s.allows id.kind := meters_planFor_filter ..
  rw [coverageRecordings, coverageRecordings, List.filter_flatMap, hplan]
  exact List.flatMap_congr fun j hj => notes_recordCoverage_filter (hjobs j hj) _

/-- The families of a report that measures one entity for each of its items. -/
theorem reportFamilies_filter {α : Type} (kinds : List MetricKind) (names : List String)
    (record : List MeterId → α → Recorder) (entity : α → Entity) {values : α → List String}
    (hrecord : ∀ meters item,
      record meters item = recordEntity 0 meters (entity item) (values item))
    {items : List α} (hitems : ∀ item ∈ items, (entity item).Healthy) :
    storagePartFamilies s (s.planFor kinds names) record items =
      (storagePartFamilies s.withAllMetrics (s.withAllMetrics.planFor kinds names) record
        items).filter fun f => !s.deniesMetricOf f := by
  have hlambda (meters : List MeterId) :
      record meters = fun item => recordEntity 0 meters (entity item) (values item) :=
    funext (hrecord meters)
  refine planFamilies_filter kinds names ?_
  rw [meters_planFor_filter, hlambda, hlambda]
  exact notes_each_filter _ hitems ..

theorem executorFamilies_filter (loads : List ExecutorLoad) :
    executorFamilies s loads =
      (executorFamilies s.withAllMetrics loads).filter fun f => !s.deniesMetricOf f :=
  reportFamilies_filter _ _ recordLoad .executor (fun _ _ => rfl) fun _ _ => trivial

theorem storageFamilies_filter (disk : Option DiskUsage) :
    storageFamilies s disk =
      (storageFamilies s.withAllMetrics disk).filter fun f => !s.deniesMetricOf f := by
  have hcollect : s.withAllMetrics.config.collectDiskUsage = s.config.collectDiskUsage := rfl
  unfold storageFamilies
  rw [hcollect]
  split
  · rfl
  cases disk with
  | none => rfl
  | some usage =>
    dsimp only
    rw [List.filter_append, List.filter_append]
    refine congrArg₂ _ (congrArg₂ _ ?_ ?_) ?_
    · exact reportFamilies_filter _ _ _ .directory (fun _ _ => rfl) fun _ _ => trivial
    · exact reportFamilies_filter _ _ _ .jobUsage (fun _ _ => rfl) fun _ _ => trivial
    · exact reportFamilies_filter _ _ _ .fileStore (fun _ _ => rfl) fun _ _ => trivial

theorem notes_recordStatus_filter (status : HostStatus) :
    (recordStatus s status).notes =
      (recordStatus s.withAllMetrics status).notes.filter fun r => s.allows r.meter.kind := by
  have hstatus : (Entity.host status).Healthy := trivial
  have hplain (meters : List MeterId) :
      (recordEntity 0 meters (.host status) []).result = .ok () := by
    rw [recordEntity_eq fun meter _ => hstatus.result_measure 0 meter.kind]
  simp only [recordStatus]
  rw [Journal.bind_of_ok (hplain _), Journal.bind_of_ok (hplain _)]
  dsimp only
  rw [List.filter_append]
  refine congrArg₂ _ ?_ ?_
  · rw [meters_planFor_filter, notes_recordEntity_filter _ hstatus]
  · cases status.version with
    | none => rfl
    | some version =>
      dsimp only
      rw [meters_planFor_filter, notes_recordEntity_filter _ hstatus]

theorem statusFamilies_filter (status : HostStatus) :
    statusFamilies s status =
      (statusFamilies s.withAllMetrics status).filter fun f => !s.deniesMetricOf f := by
  simp only [statusFamilies, statusPlan, Settings.meters, List.map_append, List.filter_append]
  exact congrArg₂ _ (planFamilies_filter _ _ (notes_recordStatus_filter status))
    (planFamilies_filter _ _ (notes_recordStatus_filter status))

/-! ### Collectors -/

namespace Exporter

/-- The exporter without the rules of its settings about metrics. -/
def withAllMetrics (e : Exporter) : Exporter :=
  { e with active := e.active.store e.active.load.withAllMetrics }

variable {e e' : Exporter}

/-- Without its rules about metrics a configuration leads to the same exporter without these
rules. -/
theorem apply_withAllMetrics {config : Config} (h : e.apply config = .ok e') :
    e.apply config.withAllMetrics = .ok e'.withAllMetrics := by
  obtain ⟨active, hactive, rfl⟩ := reading_map_eq_ok.mp h
  obtain ⟨s, hsettings, rfl⟩ := reading_map_eq_ok.mp hactive
  exact reading_map_eq_ok.mpr ⟨_, reading_map_eq_ok.mpr
    ⟨_, Settings.of_withAllMetrics hsettings, rfl⟩, rfl⟩

/-- What a collector gives under the rules is what it gives without them for the metrics that they
allow. -/
theorem familiesFrom_filter (hc : e.counters.Reachable) (hhealthy : e.host.Healthy)
    (hwaiting : ∀ b ∈ e.buffer.waiting, b.Healthy) (now : Int64) (c : Collector) :
    e.familiesFrom now c =
      (e.withAllMetrics.familiesFrom now c).filter fun f => !e.active.load.deniesMetricOf f := by
  have hnameable := hhealthy.nameable
  have hnameable' : ∀ j ∈ e.withAllMetrics.host.jobs, j.Nameable := hnameable
  cases c with
  | jobs =>
    have hcounts : e.withAllMetrics.active.load.config.countsAnyBuild =
        e.active.load.config.countsAnyBuild := rfl
    rw [familiesFrom_jobs (collectFrom_of_nameable hnameable now .jobs),
      familiesFrom_jobs (collectFrom_of_nameable hnameable' now .jobs), hcounts]
    split
    · next hcounts' =>
      rw [counters_collectJobs, counters_collectJobs, hcounts, if_pos hcounts', if_pos hcounts']
      refine jobFamilies_filter hc.wellKept ?_ now hhealthy
      intro completion hcompletion
      obtain ⟨c, hc, rfl⟩ := List.mem_map.mp hcompletion
      exact hwaiting c hc
    · rfl
  | coverage =>
    have hcollect : e.withAllMetrics.active.load.config.collectCoverage =
        e.active.load.config.collectCoverage := rfl
    have hown : e.familiesFrom now .coverage = _ := familiesFrom_eq (coverageFamilies_eq hnameable)
    have hother : e.withAllMetrics.familiesFrom now .coverage = _ :=
      familiesFrom_eq (coverageFamilies_eq hnameable')
    rw [hown, hother, hcollect]
    split
    · exact planFamilies_filter _ _ (coverageRecordings_filter hhealthy)
    · rfl
  | executors => exact executorFamilies_filter e.host.report.executors
  | storage => exact storageFamilies_filter e.host.report.disk
  | status => exact statusFamilies_filter e.host.report.status

end Exporter

/-- While nothing fails on the host and on the builds that wait, rules about metrics only remove
families from a scrape by all collectors: those that they suppress by their exposed name or by the
qualified name of their metric. All others stay in their order, with the same samples. -/
theorem metric_rules_only_remove {e e' : Exporter} {config : Config}
    (happly : e.apply config = .ok e') (hc : e.counters.Reachable) (hhealthy : e.host.Healthy)
    (hwaiting : ∀ b ∈ e.buffer.waiting, b.Healthy) (now : Int64)
    {collectors : List Collector} (hcomplete : Complete collectors) :
    ∃ e₀ families families₀, e.apply config.withAllMetrics = .ok e₀ ∧
      (e'.scrape collectors now).2 = .ok families ∧
      (e₀.scrape collectors now).2 = .ok families₀ ∧
      families = families₀.filter (fun f => !e'.active.load.suppresses f) ∧
      ∀ f ∈ families₀, ∃ id ∈ exposedIds, f.name = id.name e'.active.load.nameSpace := by
  have happly₀ := Exporter.apply_withAllMetrics happly
  obtain ⟨active, _, rfl⟩ := reading_map_eq_ok.mp happly
  let e' : Exporter := { e with active }
  have hnameable : ∀ j ∈ e'.host.jobs, j.Nameable := hhealthy.nameable
  have hok (c : Collector) := Exporter.collectFrom_of_nameable hnameable now c
  have hok₀ (c : Collector) :=
    Exporter.collectFrom_of_nameable (e := e'.withAllMetrics) hnameable now c
  have hscrape := (Exporter.scrape_eq_ok hcomplete.nodup).mpr ⟨fun c _ => hok c, rfl⟩
  have hscrape₀ := (Exporter.scrape_eq_ok hcomplete.nodup).mpr ⟨fun c _ => hok₀ c, rfl⟩
  refine ⟨_, _, _, happly₀, hscrape, hscrape₀, ?_, ?_⟩
  · have hcollected : collectors.flatMap (e'.familiesFrom now) =
        (collectors.flatMap (e'.withAllMetrics.familiesFrom now)).filter
          fun f => !e'.active.load.deniesMetricOf f := by
      rw [List.filter_flatMap]
      exact List.flatMap_congr fun c _ =>
        Exporter.familiesFrom_filter (e := e') hc hhealthy hwaiting now c
    rw [hcollected, exposed, exposed, List.filter_filter, List.filter_filter]
    refine List.filter_congr fun f _ => ?_
    -- the rules that are left deny no exposed name
    have hall : e'.withAllMetrics.active.load.policy.allowsMetric f.name = true :=
      allowsMetric_withAllMetrics e'.active.load.policy f.name
    show (!f.isEmpty && e'.active.load.policy.allowsMetric f.name &&
        !e'.active.load.deniesMetricOf f) =
      (!(!e'.active.load.policy.allowsMetric f.name || e'.active.load.deniesMetricOf f) &&
        (!f.isEmpty && e'.withAllMetrics.active.load.policy.allowsMetric f.name))
    rw [hall, Bool.not_or, Bool.not_not, Bool.and_true, Bool.and_assoc, Bool.and_comm]
  · intro f hf
    obtain ⟨c, _, hfrom⟩ := List.mem_flatMap.mp (List.mem_filter.mp hf).1
    obtain ⟨id, hid, hidentified⟩ :=
      identified_of_mem_familiesFrom (e := e'.withAllMetrics) hc (hok₀ c) hfrom
    exact ⟨id, hid, hidentified.name⟩

/-- The settings of an operator who suppresses the metric `up` and the job `a`. -/
def withoutUp : Settings where
  config := { Config.initial with
    rules := [.metricName "default_jenkins_up", .jobPattern "a"] }
  nameSpace := fallbackNameSpace
  policy := ⟨.metricName "default_jenkins_up" :: withoutJobA.policy.rules⟩

theorem of_withoutUp : Settings.of none withoutUp.config = .ok withoutUp := by
  have hcompile : Policy.compile withoutUp.config.rules = .ok withoutUp.policy := by
    decide +kernel
  have hperiod : withoutUp.config.period ≠ 0 := by decide
  have hquantiles : firstOutOfRange? withoutUp.config.quantiles = none := rfl
  rw [Settings.of, if_neg hperiod, hquantiles, hcompile]
  rfl

/-- Of a rule about a metric and one about a job only the first is taken away, and the metric is
shown then. -/
theorem metric_rules_only_remove_up :
    let e := (Exporter.start (.empty none)
      ⟨[⟨0, .plain "a" [.plain 1]⟩, ⟨1, .plain "b" [.ofJob 1 (.plain 1)]⟩], [], .initial⟩).run
        [.complete (.plain 1), .complete (.ofJob 1 (.plain 1))]
    ∃ e' e₀ families families₀, e.apply withoutUp.config = .ok e' ∧
      e.apply { Config.initial with rules := [.jobPattern "a"] } = .ok e₀ ∧
      (e'.scrape everyCollector 0).2 = .ok families ∧
      (e₀.scrape everyCollector 0).2 = .ok families₀ ∧
      families = families₀.filter (fun f => !withoutUp.suppresses f) ∧
      ∃ f ∈ families₀, withoutUp.suppresses f := by
  intro e
  have happly : e.apply withoutUp.config =
      .ok { e with active := e.active.store withoutUp } :=
    reading_map_eq_ok.mpr ⟨_, reading_map_eq_ok.mpr ⟨_, of_withoutUp, rfl⟩, rfl⟩
  obtain ⟨e₀, families, families₀, happly₀, hscrape, hscrape₀, hfamilies, _⟩ :=
    metric_rules_only_remove happly .empty (by decide) (by decide) 0 (.refl everyCollector)
  refine ⟨_, e₀, families, families₀, happly, happly₀, hscrape, hscrape₀, hfamilies, ?_⟩
  have he₀ := Except.ok.inj (happly₀.symm.trans (Exporter.apply_withAllMetrics happly))
  obtain ⟨_, rfl⟩ := (Exporter.scrape_eq_ok (by decide)).mp hscrape₀
  have hup : ∃ f ∈ statusFamilies withoutUp.withAllMetrics HostReport.initial.status,
      isExposed (some withoutUp.withAllMetrics) f ∧ withoutUp.suppresses f :=
    ⟨_, List.mem_cons_self, by decide +kernel, by decide +kernel⟩
  obtain ⟨f, hf, hexposed, hsuppressed⟩ := hup
  rw [he₀]
  exact ⟨f, List.mem_filter.mpr ⟨List.mem_flatMap.mpr ⟨.status, by decide, hf⟩, hexposed⟩,
    hsuppressed⟩

end BuildTelemetry
