import BuildTelemetry.Proofs.Counters
import BuildTelemetry.Proofs.Families

/-!
# What a scrape of jobs records

1. Every recording of a job comes from its gauges, from its last completed build or from one of its
   builds that count. In all three cases its label values begin with the name of the job
   (`head_of_mem_recordJob`) and fit the meter that it goes to (`length_of_mem_recordJob`).
2. A failure of the host costs the job that it strikes and no other: a scrape of jobs that can be
   named succeeds (`recordJobs_eq`).
3. The meters of a scrape have different names (`nodup_names`), so a family is known by its name.
-/

namespace BuildTelemetry

open JobPlan (ids)

/-! ## 1. Recordings of a job -/

/-- Where a recording of a job comes from. -/
inductive RecordedBy (p : JobPlan) (now : Int64) (j : Job) (r : Recording) : Prop
  /-- From the gauges of the job. -/
  | gauge : r ∈ (recordEntity now (ids p.gauges) (.job j) j.labelValues).notes →
      RecordedBy p now j r
  /-- From the last completed build. -/
  | lastBuild (b : Build) :
      r ∈ (recordEntity now (ids p.lastBuild) (.build b) j.labelValues).notes →
      RecordedBy p now j r
  /-- From a build that counts. -/
  | build (b : Build) : r ∈ (recordBuild p now j b).notes → RecordedBy p now j r

theorem mem_recordBuilds {p : JobPlan} {now : Int64} {j : Job} {builds : List Build}
    {r : Recording} (h : r ∈ (recordBuilds p now j builds).notes) :
    ∃ b ∈ builds, r ∈ (recordBuild p now j b).notes := by
  induction builds with
  | nil => cases h
  | cons b older ih =>
    rw [recordBuilds] at h
    obtain ⟨included, _, h⟩ := Journal.mem_notes_read.mp h
    have hrest : r ∈ (do let _ ← liftM (b.previous older); recordBuilds p now j older :
        Recorder).notes → ∃ b' ∈ b :: older, r ∈ (recordBuild p now j b').notes := by
      intro h
      obtain ⟨_, _, h⟩ := Journal.mem_notes_read.mp h
      obtain ⟨b', hb', hr⟩ := ih h
      exact ⟨b', List.mem_cons_of_mem _ hb', hr⟩
    cases included with
    | true =>
      rcases Journal.mem_notes_bind.mp h with hbuild | ⟨_, _, h⟩
      · exact ⟨b, List.mem_cons_self, hbuild⟩
      · exact hrest h
    | false => exact hrest h

/-- The build that stands for the last completed one is a build of the job. -/
theorem mem_of_lastCompleted {last completed : Build} {older : List Build}
    (h : lastCompleted last older = .ok (some completed)) : completed ∈ last :: older := by
  rw [lastCompleted] at h
  obtain ⟨running, _, h⟩ := reading_bind_eq_ok.mp h
  cases running with
  | false =>
    cases reading_pure_eq_ok.mp h
    exact List.mem_cons_self
  | true =>
    obtain ⟨found, hfound, heq⟩ := reading_bind_eq_ok.mp h
    obtain ⟨_, rfl⟩ := readThrough_eq_ok.mp hfound
    cases older with
    | nil => cases reading_pure_eq_ok.mp heq
    | cons previous rest =>
      cases reading_pure_eq_ok.mp heq
      exact List.mem_cons_of_mem _ List.mem_cons_self

/-- A job that records anything can be named, is not suppressed, and its label values can be read.
It records its gauges, the build that stands for its last completed one, and its builds. -/
theorem mem_recordJob_parts {p : JobPlan} {now : Int64} {j : Job} {r : Recording}
    (h : r ∈ (recordJob p now j).notes) :
    j.Nameable ∧ p.settings.policy.allowsJob j.info.fullName ∧
      p.config.jobLabelValues j = .ok j.labelValues ∧
      (r ∈ (recordEntity now (ids p.gauges) (.job j) j.labelValues).notes ∨
        (∃ b ∈ j.newestFirst,
          r ∈ (recordEntity now (ids p.lastBuild) (.build b) j.labelValues).notes) ∨
        ∃ b ∈ j.newestFirst, r ∈ (recordBuild p now j b).notes) := by
  rw [recordJob] at h
  -- readings leave no note, so a note comes from one of the three recorders at the end
  obtain ⟨name, hname, h⟩ := Journal.mem_notes_read.mp h
  obtain ⟨hnameable, rfl⟩ := Job.fullName_eq_ok.mp hname
  split at h
  · cases h
  next hallowed =>
  refine ⟨hnameable, by simpa using hallowed, ?_⟩
  obtain ⟨buildable, _, h⟩ := Journal.mem_notes_read.mp h
  split at h
  · cases h
  obtain ⟨found, hfound, h⟩ := Journal.mem_notes_read.mp h
  cases found with
  | none => cases h
  | some found =>
    obtain ⟨last, older⟩ := found
    have hbuilds : j.newestFirst = last :: older := by
      obtain ⟨_, hlast⟩ := readThrough_eq_ok.mp hfound
      split at hlast
      · cases hlast
      · next hbuilds =>
        cases hlast
        exact hbuilds
    obtain ⟨completed, hcompleted, h⟩ := Journal.mem_notes_read.mp h
    cases completed with
    | none => cases h
    | some completed =>
      obtain ⟨values, hvalues, h⟩ := Journal.mem_notes_read.mp h
      obtain ⟨_, _, rfl⟩ := (Config.jobLabelValues_eq_ok (c := p.config)).mp hvalues
      refine ⟨hvalues, ?_⟩
      rcases Journal.mem_notes_bind.mp h with hgauge | ⟨_, _, h⟩
      · exact .inl hgauge
      rcases Journal.mem_notes_bind.mp h with hlast | ⟨_, _, h⟩
      · exact .inr (.inl ⟨completed, hbuilds ▸ mem_of_lastCompleted hcompleted, hlast⟩)
      · exact .inr (.inr (hbuilds ▸ mem_recordBuilds h))

/-- A job records nothing unless it can be named and is not suppressed. -/
theorem mem_recordJob {p : JobPlan} {now : Int64} {j : Job} {r : Recording}
    (h : r ∈ (recordJob p now j).notes) :
    j.Nameable ∧ p.settings.policy.allowsJob j.info.fullName ∧ RecordedBy p now j r := by
  obtain ⟨hnameable, hallowed, _, hgauge | ⟨b, _, hlast⟩ | ⟨b, _, hbuild⟩⟩ := mem_recordJob_parts h
  · exact ⟨hnameable, hallowed, .gauge hgauge⟩
  · exact ⟨hnameable, hallowed, .lastBuild b hlast⟩
  · exact ⟨hnameable, hallowed, .build b hbuild⟩

/-- The metrics of every build have its number behind its label values. -/
theorem mem_recordBuild_parts {p : JobPlan} {now : Int64} {j : Job} {b : Build} {r : Recording}
    (h : r ∈ (recordBuild p now j b).notes) :
    ∃ values, p.config.buildLabelValues j b = .ok values ∧
      (r ∈ (recordEntity now (ids p.durations) (.build b) values).notes ∨
        r ∈ (recordEntity now (ids p.perBuild) (.build b)
          (values ++ [toString b.info.number])).notes) := by
  rw [recordBuild] at h
  obtain ⟨values, hvalues, h⟩ := Journal.mem_notes_read.mp h
  refine ⟨values, hvalues, ?_⟩
  rcases Journal.mem_notes_bind.mp h with hduration | ⟨_, _, h⟩
  · exact .inl hduration
  split at h
  · obtain ⟨number, hnumber, h⟩ := Journal.mem_notes_read.mp h
    obtain ⟨_, rfl⟩ := readThrough_eq_ok.mp hnumber
    exact .inr h
  · cases h

/-- The recordings of a build are those of its duration, and those of its metrics with its number as
one more label value. -/
theorem mem_recordBuild {p : JobPlan} {now : Int64} {j : Job} {b : Build} {r : Recording}
    (h : r ∈ (recordBuild p now j b).notes) :
    ∃ values, p.config.buildLabelValues j b = .ok values ∧
      (r ∈ (recordEntity now (ids p.durations) (.build b) values).notes ∨
        ∃ number, r ∈ (recordEntity now (ids p.perBuild) (.build b)
          (values ++ [number])).notes) := by
  obtain ⟨values, hvalues, hduration | hnumbered⟩ := mem_recordBuild_parts h
  · exact ⟨values, hvalues, .inl hduration⟩
  · exact ⟨values, hvalues, .inr ⟨_, hnumbered⟩⟩

/-- The label values of every recording of a job begin with its name. -/
theorem head_of_mem_recordJob {p : JobPlan} {now : Int64} {j : Job} {r : Recording}
    (h : r ∈ (recordJob p now j).notes) : r.values.head? = some j.info.fullName := by
  obtain ⟨_, _, hby⟩ := mem_recordJob h
  cases hby with
  | gauge h =>
    rw [(mem_recordEntity h).2.1]
    rfl
  | lastBuild b h =>
    rw [(mem_recordEntity h).2.1]
    rfl
  | build b h =>
    obtain ⟨values, hvalues, h | ⟨number, h⟩⟩ := mem_recordBuild h
    · rw [(mem_recordEntity h).2.1]
      exact Config.head_buildLabelValues hvalues
    · rw [(mem_recordEntity h).2.1, List.head?_append, Config.head_buildLabelValues hvalues]
      rfl

/-- Every recording of a job is a mark of its metric on some entity. -/
theorem mark_of_mem_recordJob {p : JobPlan} {now : Int64} {j : Job} {r : Recording}
    (h : r ∈ (recordJob p now j).notes) :
    ∃ entity, r.mark ∈ (r.meter.kind.measure now entity).notes := by
  obtain ⟨_, _, hby⟩ := mem_recordJob h
  cases hby with
  | gauge h => exact ⟨_, (mem_recordEntity h).2.2⟩
  | lastBuild b h => exact ⟨_, (mem_recordEntity h).2.2⟩
  | build b h =>
    obtain ⟨_, _, h | ⟨_, h⟩⟩ := mem_recordBuild h
    · exact ⟨_, (mem_recordEntity h).2.2⟩
    · exact ⟨_, (mem_recordEntity h).2.2⟩

/-- All planned meters of a scrape of jobs. -/
def JobPlan.all (p : JobPlan) : List PlannedMeter :=
  p.durations ++ (p.gauges ++ p.lastBuild ++ p.perBuild)

theorem mem_planBuilds {s : Settings} {names : List String} {qualifier : Option String}
    {planned : PlannedMeter} :
    planned ∈ s.planBuilds names qualifier ↔ ∃ m ∈ buildMetrics, s.allows (.build m) ∧
      planned = ⟨⟨.build m, qualifier⟩, buildMetricLabels names (.build m)⟩ := by
  simp only [Settings.planBuilds, List.mem_map, List.mem_filter]
  constructor
  · rintro ⟨_, ⟨⟨m, hm, rfl⟩, hallows⟩, rfl⟩
    exact ⟨m, hm, hallows, rfl⟩
  · rintro ⟨m, hm, hallows, rfl⟩
    exact ⟨_, ⟨⟨m, hm, rfl⟩, hallows⟩, rfl⟩

/-- The metrics of every build are those of builds that are not suppressed, if they are planned. -/
theorem mem_perBuild {s : Settings} {planned : PlannedMeter}
    (h : planned ∈ (JobPlan.of s).perBuild) :
    ∃ m ∈ buildMetrics, s.allows (.build m) ∧ planned =
      ⟨⟨.build m, none⟩,
        buildMetricLabels (s.config.buildLabelNames ++ [numberLabel]) (.build m)⟩ := by
  unfold JobPlan.of at h
  dsimp only at h
  split at h
  · exact mem_planBuilds.mp h
  · cases h

theorem length_buildMetricLabels (names : List String) (m : BuildMetric) :
    (buildMetricLabels names (.build m)).length =
      names.length + (MetricKind.build m).extraLabels := by
  cases m <;> simp [buildMetricLabels, MetricKind.extraLabels]

/-- A measured entity has one label value for each label name of a meter, if it has as many as the
meter has labels besides those of the marks. -/
theorem length_of_mem_recordEntity {now : Int64} {plan : List PlannedMeter} {entity : Entity}
    {values : List String} {r : Recording}
    (h : r ∈ (recordEntity now (ids plan) entity values).notes)
    (hplan : ∀ planned ∈ plan,
      values.length + planned.meter.kind.extraLabels = planned.labelNames.length) :
    ∃ planned ∈ plan, planned.meter = r.meter ∧ r.key.length = planned.labelNames.length := by
  obtain ⟨hmeter, hvalues, hmark⟩ := mem_recordEntity h
  obtain ⟨planned, hplanned, hid⟩ := List.mem_map.mp hmeter
  refine ⟨planned, hplanned, hid, ?_⟩
  rw [Recording.key, List.length_append, hvalues, extra_of_mem_measure hmark, ← hid]
  exact hplan planned hplanned

/-! The meters of each group have the labels of their entity and those that the marks add. -/

namespace JobPlan

variable {s : Settings} {planned : PlannedMeter}

theorem durations_subset : (of s).durations ⊆ (of s).all := fun _ h => by simp [all, h]

theorem gauges_subset : (of s).gauges ⊆ (of s).all := fun _ h => by simp [all, h]

theorem lastBuild_subset : (of s).lastBuild ⊆ (of s).all := fun _ h => by simp [all, h]

theorem perBuild_subset : (of s).perBuild ⊆ (of s).all := fun _ h => by simp [all, h]

theorem width_of_mem_durations (h : planned ∈ (of s).durations) :
    s.config.buildLabelNames.length + planned.meter.kind.extraLabels =
      planned.labelNames.length := by
  obtain ⟨kind, hkind, _, rfl⟩ := mem_planFor.mp h
  rw [List.mem_singleton.mp hkind]
  rfl

theorem width_of_mem_gauges (h : planned ∈ (of s).gauges) :
    s.config.jobLabelNames.length + planned.meter.kind.extraLabels = planned.labelNames.length := by
  obtain ⟨kind, hkind, _, rfl⟩ := mem_planFor.mp h
  obtain ⟨m, _, rfl⟩ := List.mem_map.mp hkind
  rfl

theorem width_of_mem_lastBuild (h : planned ∈ (of s).lastBuild) :
    s.config.jobLabelNames.length + planned.meter.kind.extraLabels = planned.labelNames.length := by
  obtain ⟨m, _, _, rfl⟩ := mem_planBuilds.mp h
  exact (length_buildMetricLabels s.config.jobLabelNames m).symm

/-- The metrics of every build have the number of the build as a label besides. -/
theorem width_of_mem_perBuild (h : planned ∈ (of s).perBuild) :
    s.config.buildLabelNames.length + 1 + planned.meter.kind.extraLabels =
      planned.labelNames.length := by
  obtain ⟨m, _, _, rfl⟩ := mem_perBuild h
  rw [length_buildMetricLabels, List.length_append]
  rfl

end JobPlan

/-- The label values of every recording of a job fit the meter that it goes to. -/
theorem length_of_mem_recordJob {s : Settings} {now : Int64} {j : Job} {r : Recording}
    (h : r ∈ (recordJob (.of s) now j).notes) :
    ∃ planned ∈ (JobPlan.of s).all, planned.meter = r.meter ∧
      r.key.length = planned.labelNames.length := by
  suffices hgroup : ∃ plan : List PlannedMeter, plan ⊆ (JobPlan.of s).all ∧ ∃ planned ∈ plan,
      planned.meter = r.meter ∧ r.key.length = planned.labelNames.length by
    obtain ⟨plan, hsubset, planned, hplanned, hfits⟩ := hgroup
    exact ⟨planned, hsubset hplanned, hfits⟩
  obtain ⟨_, _, hby⟩ := mem_recordJob h
  cases hby with
  | gauge h =>
    exact ⟨_, JobPlan.gauges_subset,
      length_of_mem_recordEntity h fun _ => JobPlan.width_of_mem_gauges⟩
  | lastBuild b h =>
    exact ⟨_, JobPlan.lastBuild_subset,
      length_of_mem_recordEntity h fun _ => JobPlan.width_of_mem_lastBuild⟩
  | build b h =>
    obtain ⟨values, hvalues, h | ⟨number, h⟩⟩ := mem_recordBuild h
    · refine ⟨_, JobPlan.durations_subset, length_of_mem_recordEntity h fun planned hplanned => ?_⟩
      rw [Config.length_buildLabelValues hvalues]
      exact JobPlan.width_of_mem_durations hplanned
    · refine ⟨_, JobPlan.perBuild_subset, length_of_mem_recordEntity h fun planned hplanned => ?_⟩
      rw [List.length_append, Config.length_buildLabelValues hvalues]
      exact JobPlan.width_of_mem_perBuild hplanned

theorem mem_recordJobs {p : JobPlan} {now : Int64} {jobs : List Job} {r : Recording}
    (h : r ∈ (recordJobs p now jobs).notes) : ∃ j ∈ jobs, r ∈ (recordJob p now j).notes := by
  obtain ⟨j, hj, hr⟩ := Journal.mem_notes_each h
  refine ⟨j, hj, ?_⟩
  rw [recordGuarded, Journal.notes_recover] at hr
  · exact hr
  · intro _
    cases hname : j.fullName <;> rfl

/-- The metrics that a scrape of jobs plans. -/
def plannedKinds : List MetricKind :=
  .build .durations :: (jobMetrics.map .job ++ buildMetrics.map .build)

/-- No suppressed metric is planned, and every planned one has the configured label for the job in
front. -/
theorem planned_of_mem_all {s : Settings} {planned : PlannedMeter}
    (h : planned ∈ (JobPlan.of s).all) :
    planned.meter.kind ∈ plannedKinds ∧ s.allows planned.meter.kind ∧
      planned.labelNames.head? = some s.config.jobLabel := by
  have hhead (names : List String) (hnames : names.head? = some s.config.jobLabel)
      (kind : MetricKind) : (buildMetricLabels names kind).head? = some s.config.jobLabel := by
    rw [buildMetricLabels]
    split
    · exact hnames
    · rw [List.head?_append, hnames]
      rfl
  have hbuild {m : BuildMetric} (hm : m ∈ buildMetrics) : .build m ∈ plannedKinds :=
    List.mem_cons_of_mem _ (List.mem_append_right _ (List.mem_map_of_mem hm))
  rw [JobPlan.all, List.mem_append, List.mem_append, List.mem_append] at h
  rcases h with h | (h | h) | h
  · obtain ⟨kind, hkind, hallows, rfl⟩ := mem_planFor.mp h
    rw [List.mem_singleton.mp hkind] at hallows ⊢
    exact ⟨List.mem_cons_self, hallows, rfl⟩
  · obtain ⟨kind, hkind, hallows, rfl⟩ := mem_planFor.mp h
    exact ⟨List.mem_cons_of_mem _ (List.mem_append_left _ hkind), hallows, rfl⟩
  · obtain ⟨m, hm, hallows, rfl⟩ := mem_planBuilds.mp h
    exact ⟨hbuild hm, hallows, hhead s.config.jobLabelNames rfl _⟩
  · obtain ⟨m, hm, hallows, rfl⟩ := mem_perBuild h
    exact ⟨hbuild hm, hallows, hhead (s.config.buildLabelNames ++ [numberLabel]) rfl _⟩

/-! ## 2. Failures of the host -/

/-- If the host fails on a job that can be named, what was recorded before stays, and the scrape
goes on. -/
theorem recordGuarded_eq {p : JobPlan} {now : Int64} {j : Job} (h : j.Nameable) :
    recordGuarded p now j = ⟨(recordJob p now j).notes, .ok ()⟩ := by
  have hname : (do let _ ← liftM j.fullName : Recorder) = ⟨[], .ok ()⟩ := by
    rw [h.fullName]
    rfl
  refine Journal.eq_of_parts ?_ ?_
  · refine Journal.notes_recover fun _ => ?_
    rw [hname]
  · refine Journal.result_recover fun _ => ?_
    rw [hname]

/-- A scrape of jobs that can be named records what each of them records, one after the other. -/
theorem recordJobs_eq {p : JobPlan} {now : Int64} {jobs : List Job} (h : ∀ j ∈ jobs, j.Nameable) :
    recordJobs p now jobs = ⟨jobs.flatMap fun j => (recordJob p now j).notes, .ok ()⟩ := by
  rw [recordJobs, Journal.each_eq fun j hj => by rw [recordGuarded_eq (h j hj)]]
  congr 1
  refine List.flatMap_congr fun j hj => ?_
  rw [recordGuarded_eq (h j hj)]

/-! ## 3. Names of the meters -/

/-- The metrics of a scrape of jobs, in the order of their exposition. -/
def scrapeIds : List MeterId :=
  [⟨.build .durations, none⟩] ++ buildCounters.map (⟨.build ·, none⟩) ++
    (jobMetrics.map (⟨.job ·, none⟩) ++ buildMetrics.map (⟨.build ·, some lastQualifier⟩) ++
      buildMetrics.map (⟨.build ·, none⟩))

theorem nodup_scrapeIds : scrapeIds.Nodup := by decide +kernel

/-- The metrics of a scrape of jobs under a configuration: those of every build only if it asks for
them. -/
def Config.outputIds (c : Config) : List MeterId :=
  [⟨.build .durations, none⟩] ++ buildCounters.map (⟨.build ·, none⟩) ++
    (jobMetrics.map (⟨.job ·, none⟩) ++ buildMetrics.map (⟨.build ·, some lastQualifier⟩) ++
      if c.perBuild then buildMetrics.map (⟨.build ·, none⟩) else [])

theorem Config.outputIds_sublist (c : Config) : c.outputIds.Sublist scrapeIds := by
  refine List.Sublist.append_left (List.Sublist.append_left ?_ _) _
  split
  · exact .refl _
  · exact List.nil_sublist _

theorem mem_exposedIds_of_mem_scrapeIds {id : MeterId} (h : id ∈ scrapeIds) : id ∈ exposedIds := by
  obtain ⟨kind, qualifier⟩ := id
  cases qualifier with
  | none => exact MeterId.mem_exposedIds kind
  | some qualifier =>
    simp only [scrapeIds, List.mem_append, List.mem_map, List.mem_singleton, MeterId.mk.injEq,
      reduceCtorEq, and_false, false_or, or_false, exists_false] at h
    obtain ⟨m, hm, rfl, hqualifier⟩ := h
    rw [← hqualifier]
    exact MeterId.last_mem_exposedIds hm

theorem name_planned (s : Settings) (planned : PlannedMeter) (rs : List Recording) :
    ((s.freshMeter planned).record rs).descriptor.name = planned.meter.name s.nameSpace := by
  rw [Meter.descriptor_record]
  rfl

/-- The names of a plan's meters. -/
theorem names_meters (s : Settings) (plan : List PlannedMeter) (rs : List Recording) :
    (s.meters plan rs).map (·.descriptor.name) = (ids plan).map (·.name s.nameSpace) := by
  simp only [Settings.meters, ids, List.map_map]
  exact List.map_congr_left fun planned _ => name_planned s planned _

theorem ids_planFor_sublist (s : Settings) (kinds : List MetricKind) (names : List String) :
    (ids (s.planFor kinds names)).Sublist (kinds.map (⟨·, none⟩)) := by
  rw [ids, Settings.planFor, List.map_map]
  exact List.filter_sublist.map _

theorem ids_planBuilds_sublist (s : Settings) (names : List String) (qualifier : Option String) :
    (ids (s.planBuilds names qualifier)).Sublist (buildMetrics.map (⟨.build ·, qualifier⟩)) := by
  rw [ids, Settings.planBuilds, List.map_map]
  have := (List.filter_sublist (p := s.allows) (l := buildMetrics.map MetricKind.build)).map
    (fun kind => (⟨kind, qualifier⟩ : MeterId))
  rwa [List.map_map] at this

/-- The metrics of gauges, of last builds and of every build that are not suppressed. -/
theorem ids_sublist (s : Settings) :
    (ids ((JobPlan.of s).gauges ++ (JobPlan.of s).lastBuild ++ (JobPlan.of s).perBuild)).Sublist
      (jobMetrics.map (⟨.job ·, none⟩) ++ buildMetrics.map (⟨.build ·, some lastQualifier⟩) ++
        if s.config.perBuild then buildMetrics.map (⟨.build ·, none⟩) else []) := by
  have hgauges := ids_planFor_sublist s (jobMetrics.map .job) s.config.jobLabelNames
  rw [List.map_map] at hgauges
  have hperBuild : (ids (JobPlan.of s).perBuild).Sublist
      (if s.config.perBuild then buildMetrics.map (⟨.build ·, none⟩) else []) := by
    unfold JobPlan.of
    dsimp only
    split
    · exact ids_planBuilds_sublist ..
    · exact List.nil_sublist _
  rw [ids, List.map_append, List.map_append]
  exact (hgauges.append (ids_planBuilds_sublist ..)).append hperBuild

theorem ids_all_sublist (s : Settings) : (ids (JobPlan.of s).all).Sublist scrapeIds := by
  have hsublist := (ids_planFor_sublist s [.build .durations] s.config.buildLabelNames).append
    (ids_sublist s)
  rw [ids, ids, ← List.map_append] at hsublist
  refine hsublist.trans (.trans ?_ s.config.outputIds_sublist)
  exact (List.sublist_append_left _ _).append_right _

theorem nodup_ids_all (s : Settings) : (ids (JobPlan.of s).all).Nodup :=
  nodup_scrapeIds.sublist (ids_all_sublist s)

theorem mem_exposedIds_of_mem_all {s : Settings} {planned : PlannedMeter}
    (h : planned ∈ (JobPlan.of s).all) : planned.meter ∈ exposedIds :=
  mem_exposedIds_of_mem_scrapeIds ((ids_all_sublist s).subset (List.mem_map_of_mem h))

/-- A recording of a planned meter has one label value for each label name of the plan. -/
theorem length_of_mem_recordJobs {s : Settings} {planned : PlannedMeter}
    (hplanned : planned ∈ (JobPlan.of s).all) {now : Int64} {jobs : List Job} {r : Recording}
    (hr : r ∈ (recordJobs (.of s) now jobs).notes) (hmeter : r.meter = planned.meter) :
    r.key.length = planned.labelNames.length := by
  obtain ⟨j, _, hmem⟩ := mem_recordJobs hr
  obtain ⟨fitting, hfitting, hsame, hlength⟩ := length_of_mem_recordJob hmem
  -- no other plan has the same meter
  have heq : fitting = planned :=
    List.inj_on_of_nodup_map (nodup_ids_all s) hfitting hplanned (hsame.trans hmeter)
  rw [hlength, heq]

/-- Every planned meter of a scrape of jobs has one label value for each label name. -/
theorem sized_of_mem_all {s : Settings} {planned : PlannedMeter}
    (hplanned : planned ∈ (JobPlan.of s).all) (now : Int64) (jobs : List Job) :
    ((s.freshMeter planned).record
      (recordingsFor planned.meter (recordJobs (.of s) now jobs).notes)).Sized :=
  sized_planned s fun _ hr hmeter => length_of_mem_recordJobs hplanned hr hmeter

theorem names_filterMap_sublist {α β γ : Type} {f : α → Option β} {g : β → γ} {h : α → γ}
    {as : List α} (hfg : ∀ a ∈ as, ∀ b, f a = some b → g b = h a) :
    ((as.filterMap f).map g).Sublist (as.map h) := by
  induction as with
  | nil => exact .slnil
  | cons a as ih =>
    have hrest := ih fun b hb => hfg b (List.mem_cons_of_mem _ hb)
    cases hfa : f a with
    | none =>
      rw [List.filterMap_cons_none hfa]
      exact hrest.trans (List.sublist_cons_self ..)
    | some b =>
      rw [List.filterMap_cons_some hfa, List.map_cons, List.map_cons,
        hfg a List.mem_cons_self b hfa]
      exact hrest.cons_cons _

theorem CounterCache.WellKept.fits {c : CounterCache} (h : c.WellKept) {key : CounterKey}
    {m : Meter} (hm : c.meter? key = some m) : m.Fits key := by
  rw [CounterCache.meter?_eq, Option.join_eq_some_iff] at hm
  exact h key m hm

theorem names_counterMeters_sublist {c : CounterCache} (s : Settings) (hc : c.WellKept) :
    ((counterMeters c s).map (·.descriptor.name)).Sublist
      (buildCounters.map fun m => (⟨.build m, none⟩ : MeterId).name s.nameSpace) := by
  have hkinds : (s.counters.map fun kind => (⟨kind, none⟩ : MeterId).name s.nameSpace).Sublist
      (buildCounters.map fun m => (⟨.build m, none⟩ : MeterId).name s.nameSpace) := by
    have := (List.filter_sublist (p := s.allows) (l := buildCounters.map MetricKind.build)).map
      (fun kind => (⟨kind, none⟩ : MeterId).name s.nameSpace)
    rwa [List.map_map] at this
  refine (names_filterMap_sublist fun kind _ m hm => ?_).trans hkinds
  rw [(hc.fits hm).descriptor]
  rfl

/-- The meters of a scrape of jobs are the planned ones and the kept counters. -/
theorem mem_meters {c : CounterCache} {s : Settings} {rs : List Recording} {m : Meter} :
    m ∈ (JobPlan.of s).meters (counterMeters c s) rs ↔
      (∃ planned ∈ (JobPlan.of s).all,
        m = (s.freshMeter planned).record (recordingsFor planned.meter rs)) ∨
      ∃ kind ∈ s.counters, c.meter? (s.counterKey kind) = some m := by
  have hplan (plan : List PlannedMeter) : m ∈ s.meters plan rs ↔ ∃ planned ∈ plan,
      m = (s.freshMeter planned).record (recordingsFor planned.meter rs) := by
    rw [Settings.meters, List.mem_map]
    exact exists_congr fun planned => and_congr_right fun _ => eq_comm
  have hsettings : (JobPlan.of s).settings = s := rfl
  rw [JobPlan.meters, hsettings, List.mem_append, List.mem_append, hplan, hplan, counterMeters,
    List.mem_filterMap, JobPlan.all]
  simp only [List.mem_append (s := (JobPlan.of s).durations), or_and_right, exists_or]
  exact or_right_comm

/-- No suppressed metric has a meter, so none is shown under its name. -/
theorem allows_of_mem_meters {c : CounterCache} {s : Settings} (hc : c.WellKept)
    {rs : List Recording} {m : Meter}
    (hm : m ∈ (JobPlan.of s).meters (counterMeters c s) rs) {id : MeterId} (hid : id ∈ exposedIds)
    (hname : m.descriptor.name = id.name s.nameSpace) : s.allows id.kind := by
  rcases mem_meters.mp hm with ⟨planned, hplanned, rfl⟩ | ⟨kind, hkind, hmeter⟩
  · rw [name_planned] at hname
    rw [← MeterId.name_injective s.nameSpace (mem_exposedIds_of_mem_all hplanned) hid hname]
    exact (planned_of_mem_all hplanned).2.1
  · rw [(hc.fits hmeter).descriptor] at hname
    rw [← MeterId.name_injective s.nameSpace (MeterId.mem_exposedIds kind) hid hname]
    exact (mem_counters.mp hkind).2

/-- The meters of a scrape of jobs have the names of the metrics that are asked for, in their
order. -/
theorem names_output_sublist {c : CounterCache} (s : Settings) (hc : c.WellKept)
    (rs : List Recording) :
    (((JobPlan.of s).meters (counterMeters c s) rs).map (·.descriptor.name)).Sublist
      (s.config.outputIds.map (·.name s.nameSpace)) := by
  rw [JobPlan.meters, List.map_append, List.map_append, names_meters, names_meters,
    Config.outputIds, List.map_append, List.map_append, List.map_map]
  refine List.Sublist.append (List.Sublist.append ?_ ?_) ?_
  · exact (ids_planFor_sublist s [.build .durations] s.config.buildLabelNames).map _
  · exact names_counterMeters_sublist s hc
  · exact (ids_sublist s).map _

theorem names_sublist {c : CounterCache} (s : Settings) (hc : c.WellKept) (rs : List Recording) :
    (((JobPlan.of s).meters (counterMeters c s) rs).map (·.descriptor.name)).Sublist
      (scrapeIds.map (·.name s.nameSpace)) :=
  (names_output_sublist s hc rs).trans (s.config.outputIds_sublist.map _)

/-- No two meters of a scrape of jobs have one name. -/
theorem nodup_names {c : CounterCache} (s : Settings) (hc : c.WellKept) (rs : List Recording) :
    (((JobPlan.of s).meters (counterMeters c s) rs).map (·.descriptor.name)).Nodup := by
  have hnames : (scrapeIds.map (·.name s.nameSpace)).Nodup := by
    refine nodup_scrapeIds.map_on fun a ha b hb hab => ?_
    exact MeterId.name_injective _ (mem_exposedIds_of_mem_scrapeIds ha)
      (mem_exposedIds_of_mem_scrapeIds hb) hab
  exact hnames.sublist (names_sublist s hc rs)

end BuildTelemetry
