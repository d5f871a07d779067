import BuildTelemetry.Proofs.IncludedBuilds

/-!
# Builds that are stuck

Whether a build is likely stuck is known while it runs. Two filters decide which builds the metrics
of builds get to see: the last group describes the newest build or, while that one is running, the
one before it; among the metrics of every build are finished builds only.

1. The metric takes a value from a running build that has an executor, and from no other
   (`BuildMetric.valueAt?_likelyStuck`).
2. So the metric of every build has nothing to show (`familyValues_likelyStuck_perBuild`), and the
   one of the last group nothing of a newest build that is running: it shows what is known of the
   build before (`familyValues_likelyStuck_last`).
3. A running build is therefore shown exactly if the build before it is running too and there is no
   difference between them (`stuck_build_reported_iff`).
-/

namespace BuildTelemetry

variable {s : Settings} {c : CounterCache} {now : Int64} {jobs : List Job} {j : Job}

/-! ## 1. The value of a build -/

/-- Whether the build is likely stuck. Only the executor of a running build knows. -/
def Build.stuck? (b : Build) : Option Bool := if b.info.building then b.info.likelyStuck else none

theorem truthNumber_injective : ∀ {a b : Bool}, truthNumber a = truthNumber b → a = b := by decide

theorem Build.Healthy.readStuck {b : Build} (h : b.Healthy) :
    b.readStuck = .ok (b.stuck?.map truthNumber) := by
  have hread : b.likelyStuck = .ok b.info.likelyStuck := h.read ..
  rw [Build.readStuck, h.isBuilding, Build.stuck?]
  cases b.info.building with
  | false => rfl
  | true =>
    rw [hread]
    rfl

/-- The metric takes the flag of the executor, from running builds alone. -/
theorem BuildMetric.valueAt?_likelyStuck {b : Build} (h : b.Healthy) :
    BuildMetric.likelyStuck.valueAt? b [] = b.stuck?.map truthNumber := by
  rw [BuildMetric.valueAt?, BuildMetric.measure, h.readStuck]
  cases b.stuck? <;> rfl

/-- A build that counts is finished, so that nothing is known of it. -/
theorem Config.stuck?_of_includes {c : Config} {b : Build} (h : c.includes b) :
    b.stuck? = none := by
  have hfinished : b.info.building = false := by
    rw [Config.includes, Bool.and_eq_true, Bool.not_eq_true'] at h
    exact h.1
  rw [Build.stuck?, hfinished]
  rfl

/-! ## 2. What the two families show -/

/-- The name of the metric in the group of a qualifier. -/
def Settings.stuckName (s : Settings) (qualifier : Option String) : String :=
  (MetricKind.build .likelyStuck).exposedName s.nameSpace qualifier

/-- The metric of every build shows nothing, under no label values. -/
theorem familyValues_likelyStuck_perBuild (now : Int64) (hc : c.WellKept)
    (hjobs : ∀ j ∈ jobs, j.Healthy) (values : List String) :
    familyValues (jobFamilies s c now jobs) (s.stuckName none) values = [] := by
  have haccounts : AccountsFor s (jobFamilies s c now jobs) (includedBuilds s jobs) :=
    accountsFor_jobFamilies now hc hjobs
  by_cases hshown : s.config.perBuild ∧ s.allows (.build .likelyStuck)
  · have hvalues := haccounts.perBuild hshown.1 .likelyStuck (by decide) hshown.2 rfl values [] rfl
    rw [List.append_nil] at hvalues
    refine hvalues.trans ?_
    -- each included build is finished
    have hnone : ((includedBuilds s jobs).filter fun p =>
        s.config.numberedValuesOf p.1 p.2 == values).filterMap
          (fun p => BuildMetric.likelyStuck.valueAt? p.2 []) = [] := by
      refine List.filterMap_eq_nil_iff.mpr fun p hp => ?_
      obtain ⟨hj, _, hb, hincludes⟩ := mem_includedBuilds.mp (List.mem_filter.mp hp).1
      rw [BuildMetric.valueAt?_likelyStuck ((hjobs _ hj).build hb),
        Config.stuck?_of_includes hincludes]
      rfl
    rw [hnone]
    rfl
  · refine List.flatMap_eq_nil_iff.mpr fun f hf => if_neg fun hname => hshown ?_
    exact haccounts.perBuild_only .likelyStuck (by decide) f hf hname

/-- The last group shows of a job with a running newest build what is known of the build before. -/
theorem familyValues_likelyStuck_last (hc : c.WellKept) (h : j.Reported s jobs)
    (hallows : s.allows (.build .likelyStuck)) {newest : Build} {older : List Build}
    (hbuilds : j.newestFirst = newest :: older) (hrunning : newest.info.building) :
    familyValues (jobFamilies s c now jobs) (s.stuckName (some lastQualifier)) j.labelValues =
      ((older.head?.bind Build.stuck?).map truthNumber).toList := by
  have hvalues : familyValues (jobFamilies s c now jobs) (s.stuckName (some lastQualifier))
      (j.labelValues ++ []) = _ :=
    familyValues_lastBuild hc h (m := .likelyStuck) (by decide) hallows rfl rfl
  rw [List.append_nil] at hvalues
  have hdescribed : j.described? = older.head? := by
    rw [Job.described?, hbuilds]
    exact if_pos hrunning
  refine hvalues.trans (congrArg Option.toList ?_)
  rw [hdescribed, Option.map_bind]
  cases hprevious : older.head? with
  | none => rfl
  | some previous =>
    have hmem : previous ∈ j.newestFirst := by
      rw [hbuilds]
      exact List.mem_cons_of_mem _ (List.mem_of_head? hprevious)
    exact BuildMetric.valueAt?_likelyStuck (h.self.build hmem)

/-- The last group shows nothing under more label values than those of a job. -/
theorem familyValues_likelyStuck_last_append (hc : c.WellKept)
    (hallows : s.allows (.build .likelyStuck)) {more : List String} (hmore : more ≠ []) :
    familyValues (jobFamilies s c now jobs) (s.stuckName (some lastQualifier))
      (j.labelValues ++ more) = [] := by
  let planned : PlannedMeter :=
    ⟨⟨.build .likelyStuck, some lastQualifier⟩, s.config.jobLabelNames⟩
  have hplanned : planned ∈ (JobPlan.of s).all := by
    have hmem : planned ∈ (JobPlan.of s).lastBuild :=
      mem_planBuilds.mpr ⟨.likelyStuck, by decide, hallows, rfl⟩
    simp [JobPlan.all, hmem]
  have hlength : (j.labelValues ++ more).length ≠ planned.labelNames.length := by
    have hpos : more.length ≠ 0 := mt List.length_eq_zero_iff.mp hmore
    have hvalues : j.labelValues.length = planned.labelNames.length := rfl
    rw [List.length_append, hvalues]
    omega
  exact familyValues_gauge_of_length_ne hc hplanned rfl hlength

/-! ## 3. The report of a running build -/

/-- A sample of the metric has the value for `stuck` under label values that begin with those of a
job, in the last group or among the metrics of every build. -/
def ShowsStuck (s : Settings) (families : List MetricFamily) (j : Job) (stuck : Bool) : Prop :=
  ∃ qualifier ∈ [none, some lastQualifier], ∃ more : List String,
    truthNumber stuck ∈ familyValues families (s.stuckName qualifier) (j.labelValues ++ more)

theorem showsStuck_jobFamilies_iff (now : Int64) (hc : c.WellKept) (h : j.Reported s jobs)
    (hallows : s.allows (.build .likelyStuck)) {newest : Build} {older : List Build}
    (hbuilds : j.newestFirst = newest :: older) (hrunning : newest.info.building) (stuck : Bool) :
    ShowsStuck s (jobFamilies s c now jobs) j stuck ↔
      ∃ previous, older.head? = some previous ∧ previous.stuck? = some stuck := by
  have hlast : familyValues (jobFamilies s c now jobs) (s.stuckName (some lastQualifier))
      j.labelValues = _ := familyValues_likelyStuck_last hc h hallows hbuilds hrunning
  rw [← Option.bind_eq_some_iff]
  constructor
  · rintro ⟨qualifier, hqualifier, more, hvalue⟩
    simp only [List.mem_cons, List.not_mem_nil, or_false] at hqualifier
    obtain rfl | rfl := hqualifier
    · rw [familyValues_likelyStuck_perBuild now hc h.healthy] at hvalue
      cases hvalue
    · by_cases hmore : more = []
      · rw [hmore, List.append_nil, hlast, Option.mem_toList, Option.map_eq_some_iff] at hvalue
        obtain ⟨shown, hshown, heq⟩ := hvalue
        rw [hshown, truthNumber_injective heq]
      · rw [familyValues_likelyStuck_last_append hc hallows hmore] at hvalue
        cases hvalue
  · intro hprevious
    refine ⟨some lastQualifier, by simp, [], ?_⟩
    rw [List.append_nil, hlast, hprevious]
    exact List.mem_singleton_self _

/-- After every history, on a host on which nothing fails, a collection of jobs succeeds and shows
of a job that is alone of its name, not suppressed and not skipped that its running newest build is
stuck, or that it is not, exactly if that is also true of the build before the newest, which has to
be running as well. -/
theorem stuck_build_reported_iff (active : ActiveSettings) (host : Host) (events : List Event)
    (now : Int64) {j : Job} {newest : Build} {older : List Build} {stuck : Bool} :
    let e := (Exporter.start active host).run events
    let s := e.active.load
    s.config.countsAnyBuild → s.allows (.build .likelyStuck) → j.Reported s e.host.jobs →
      j.newestFirst = newest :: older → newest.stuck? = some stuck →
        ∃ families, (e.collectJobs now).2 = .ok families ∧
          (ShowsStuck s families j stuck ↔
            ∃ previous, older.head? = some previous ∧ previous.stuck? = some stuck) := by
  intro e s hcounts hallows hreported hbuilds hstuck
  have hkept := ((Exporter.remembers_run active host events).collectJobs now).wellKept
  have hrunning : newest.info.building := by
    rw [Build.stuck?] at hstuck
    split at hstuck
    · assumption
    · cases hstuck
  refine ⟨_, Exporter.collectJobs_of_nameable hreported.nameable now hcounts, ?_⟩
  exact showsStuck_jobFamilies_iff now hkept hreported hallows hbuilds hrunning stuck

/-- A running build whose executor says whether it is stuck. -/
def Build.executed (number : UInt64) (stuck : Bool) : Build :=
  ⟨{ (Build.running number).info with likelyStuck := some stuck }, [], 0⟩

/-- While two stuck builds are running, the job is shown as stuck. -/
theorem stuck_build_reported_of_two :
    ∃ families, ((Exporter.start (.empty none) (hostOfBuilds
        [.plain 1, .executed 2 true, .executed 3 true])).collectJobs 0).2 = .ok families ∧
      ShowsStuck (.initial none) families
        (.plain "a" [.plain 1, .executed 2 true, .executed 3 true]) true := by
  have hbuilds : (Job.plain "a" [.plain 1, .executed 2 true, .executed 3 true]).newestFirst =
      [.executed 3 true, .executed 2 true, .plain 1] := rfl
  have hstuck : (Build.executed 3 true).stuck? = some true := rfl
  obtain ⟨families, hok, hiff⟩ := stuck_build_reported_iff (.empty none)
    (hostOfBuilds [.plain 1, .executed 2 true, .executed 3 true]) [] 0 (by decide) (by decide)
    ⟨by decide, by decide, by decide, by decide⟩ hbuilds hstuck
  exact ⟨families, hok, hiff.mpr ⟨.executed 2 true, rfl, rfl⟩⟩

/-- A stuck build is not shown while the build before it is finished. -/
theorem stuck_build_hidden_by_finished :
    ∃ families, ((Exporter.start (.empty none)
        (hostOfBuilds [.plain 1, .executed 2 true])).collectJobs 0).2 = .ok families ∧
      ¬ShowsStuck (.initial none) families (.plain "a" [.plain 1, .executed 2 true]) true := by
  have hkept := ((Exporter.remembers_run (.empty none)
    (hostOfBuilds [.plain 1, .executed 2 true]) []).collectJobs 0).wellKept
  have hreported : (Job.plain "a" [.plain 1, .executed 2 true]).Reported (.initial none)
      (hostOfBuilds [.plain 1, .executed 2 true]).jobs :=
    ⟨by decide, by decide, by decide, by decide⟩
  refine ⟨_, Exporter.collectJobs_of_nameable hreported.nameable 0 (by decide), fun hshows => ?_⟩
  have hbuilds : (Job.plain "a" [.plain 1, .executed 2 true]).newestFirst =
      [.executed 2 true, .plain 1] := rfl
  obtain ⟨previous, hprevious, hstuck⟩ := (showsStuck_jobFamilies_iff 0 hkept hreported (by decide)
    hbuilds rfl true).mp hshows
  cases hprevious
  cases hstuck

end BuildTelemetry
