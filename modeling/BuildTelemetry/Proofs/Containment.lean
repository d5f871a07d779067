import BuildTelemetry.Proofs.Scrape

/-!
# Where failures of the host are contained

The counting of each completed build, the recording of each job and the coverage report of each job
are guarded: whatever fails inside costs this build or this job. The name of a job is read outside
of its guard as well. A failure names the job that it struck, and a coverage report asks first
whether its job is suppressed.

1. Some steps succeed together exactly if each of them does (`Journal.result_each_iff`).
2. A job that cannot be named stops a collection, and no other job does
   (`result_recordGuarded_iff`, `result_recordCoverage_iff`).
3. So a collection succeeds exactly if all jobs that it looks at can be named, whatever else fails
   on them, on their builds and on the builds that wait to be counted (`collections_succeed_iff`).
-/

namespace BuildTelemetry

/-! ## 1. Steps -/

/-- Some steps succeed together exactly if each of them does. -/
theorem Journal.result_each_iff {ν ε α : Type} {f : α → Journal ν ε Unit} {as : List α} :
    (each f as).result = .ok () ↔ ∀ a ∈ as, (f a).result = .ok () := by
  refine ⟨fun h => ?_, result_each⟩
  induction as with
  | nil => exact fun a ha => absurd ha List.not_mem_nil
  | cons a as ih =>
    rw [each, result_bind] at h
    cases hfirst : (f a).result with
    | error e =>
      rw [hfirst] at h
      cases h
    | ok _ =>
      rw [hfirst] at h
      exact List.forall_mem_cons.mpr ⟨hfirst, ih h⟩

/-- A reading without a value of its own succeeds if what is made of it does. -/
theorem exists_map_eq_ok_iff {β : Type} {f : Unit → β} {r : Reading Unit} :
    (∃ b, r.map f = .ok b) ↔ r = .ok () := by
  cases r with
  | error fault => simp [Except.map]
  | ok a => simp [Except.map]

/-! ## 2. Jobs -/

theorem Job.fullName_of_not_nameable {j : Job} (h : ¬j.Nameable) :
    j.fullName = .error .failed :=
  readThrough_of_mem (Decidable.not_not.mp h) _

variable {s : Settings} {now : Int64} {jobs : List Job} {j : Job}

/-- The guard around a job holds unless the job cannot be named: the report on a failure reads the
name once more. -/
theorem result_recordGuarded_iff {p : JobPlan} :
    (recordGuarded p now j).result = .ok () ↔ j.Nameable := by
  constructor
  · intro h
    by_contra hname
    rw [recordGuarded, recordJob, Job.fullName_of_not_nameable hname] at h
    cases h
  · intro h
    rw [recordGuarded_eq h]

/-- A coverage report stops unless its job can be named, because the name is read before the
guard. -/
theorem result_recordCoverage_iff {meters : List MeterId} :
    (recordCoverage s meters j).result = .ok () ↔ j.Nameable := by
  refine ⟨fun h => ?_, result_recordCoverage⟩
  by_contra hname
  rw [recordCoverage, Job.fullName_of_not_nameable hname] at h
  cases h

theorem result_recordJobs_iff {p : JobPlan} :
    (recordJobs p now jobs).result = .ok () ↔ ∀ j ∈ jobs, j.Nameable := by
  rw [recordJobs, Journal.result_each_iff]
  exact forall₂_congr fun _ _ => result_recordGuarded_iff

/-! ## 3. Collections -/

theorem collectJobs_succeeds_iff (e : Exporter) (now : Int64) :
    (∃ families, (e.collectJobs now).2 = .ok families) ↔
      (e.active.load.config.countsAnyBuild → ∀ j ∈ e.host.jobs, j.Nameable) := by
  by_cases hcounts : e.active.load.config.countsAnyBuild
  · rw [Exporter.result_collectJobs now hcounts, exists_map_eq_ok_iff, result_recordJobs_iff]
    exact ⟨fun h _ => h, fun h => h hcounts⟩
  · refine iff_of_true ⟨_, Exporter.result_collectJobs_of_not_counts now hcounts⟩ ?_
    exact fun h => absurd h hcounts

theorem coverageFamilies_succeeds_iff :
    (∃ families, coverageFamilies s jobs = .ok families) ↔
      (s.config.collectCoverage → ∀ j ∈ jobs, j.Nameable) := by
  unfold coverageFamilies
  cases s.config.collectCoverage with
  | false => exact iff_of_true ⟨_, rfl⟩ (fun h => nomatch h)
  | true =>
    show (∃ families, Except.map _ _ = _) ↔ _
    rw [exists_map_eq_ok_iff, Journal.result_each_iff]
    simp only [result_recordCoverage_iff, forall_const]

/-- A collection of jobs succeeds exactly if every job can be named or no result is counted, and one
of coverage reports exactly if every job can be named or no coverage is collected. Which other
accessors of jobs and builds fail does not matter, nor what was counted before or waits to be
counted. -/
theorem collections_succeed_iff (e : Exporter) (now : Int64) :
    ((∃ families, (e.collectFrom now .jobs).2 = .ok families) ↔
      (e.active.load.config.countsAnyBuild → ∀ j ∈ e.host.jobs, j.Nameable)) ∧
    ((∃ families, (e.collectFrom now .coverage).2 = .ok families) ↔
      (e.active.load.config.collectCoverage → ∀ j ∈ e.host.jobs, j.Nameable)) :=
  ⟨collectJobs_succeeds_iff e now, coverageFamilies_succeeds_iff⟩

/-- The settings of an operator who collects coverage and configures nothing else. -/
def collectingCoverage : Settings where
  config := { Config.initial with collectCoverage := true }
  nameSpace := fallbackNameSpace
  policy := .allowAll

/-- One job that cannot be named stops the collections of all others. -/
theorem unnameable_job_stops_collections :
    let e := Exporter.start ⟨none, some collectingCoverage⟩
      ⟨[⟨0, .plain "a" [.plain 1]⟩,
        ⟨1, { Job.plain "b" [.ofJob 1 (.plain 1)] with failing := [.fullName] }⟩], [], .initial⟩
    Settings.of none collectingCoverage.config = .ok collectingCoverage ∧
      (¬∃ families, (e.collectFrom 0 .jobs).2 = .ok families) ∧
      ¬∃ families, (e.collectFrom 0 .coverage).2 = .ok families := by
  intro e
  have hunnameable : ¬∀ j ∈ e.host.jobs, j.Nameable := by decide
  refine ⟨rfl, fun hjobs => ?_, fun hcoverage => ?_⟩
  · exact hunnameable ((collectJobs_succeeds_iff e 0).mp hjobs rfl)
  · exact hunnameable ((coverageFamilies_succeeds_iff (s := collectingCoverage)).mp hcoverage rfl)

end BuildTelemetry
