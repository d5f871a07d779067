import BuildTelemetry.Proofs.Suppression

/-!
# Suppressed jobs might as well be absent

A scrape asks the rules about a job before it reads anything else of it and before it makes any
label set. So a suppressed job leaves nothing, whatever its builds are and whatever fails on it.

1. Jobs and completed builds that record nothing can be left out (`flatMap_filter_of_eq_nil`).
2. A suppressed job records nothing (`notes_recordJob_of_denied`, `notes_recordCoverage_of_denied`),
   and neither does a completed build of such a job (`notes_countCompletion_of_denied`).
3. So `Exporter.withoutDenied`, which has neither, collects the same and is left with the same
   counters (`denied_jobs_leave_nothing`).
-/

namespace BuildTelemetry

/-! ## 1. What can be left out -/

/-- Items that contribute nothing can be left out. -/
theorem flatMap_filter_of_eq_nil {α β : Type} {p : α → Bool} {f : α → List β} {as : List α}
    (h : ∀ a ∈ as, p a = false → f a = []) : (as.filter p).flatMap f = as.flatMap f := by
  rw [flatMap_filter]
  refine List.flatMap_congr fun a ha => ?_
  cases hp : p a with
  | true => rfl
  | false => exact (h a ha hp).symm

/-- The first item with a property stays the first one if it is kept. -/
theorem find?_filter_of_find? {α : Type} {p q : α → Bool} {as : List α} {a : α}
    (hfind : as.find? q = some a) (ha : p a) : (as.filter p).find? q = some a := by
  obtain ⟨hq, before, after, rfl, hbefore⟩ := List.find?_eq_some_iff_append.mp hfind
  refine List.find?_eq_some_iff_append.mpr ⟨hq, before.filter p, after.filter p, ?_, ?_⟩
  · rw [List.filter_append, List.filter_cons_of_pos ha]
  · intro b hb
    exact hbefore b (List.mem_filter.mp hb).1

namespace Host

/-- The host without the jobs that a policy suppresses, listed or not. -/
def withoutDenied (h : Host) (p : Policy) : Host :=
  { h with
    hosted := h.hosted.filter fun hosted => p.allowsJob hosted.job.info.fullName
    unlisted := h.unlisted.filter fun hosted => p.allowsJob hosted.job.info.fullName }

/-- A completed build has a job, and the policy does not suppress it. -/
def hasAllowedJob (h : Host) (p : Policy) (c : Build) : Bool :=
  (h.job? c.jobId).any fun j => p.allowsJob j.info.fullName

variable {h : Host} {p : Policy}

theorem jobs_withoutDenied (h : Host) (p : Policy) :
    (h.withoutDenied p).jobs = h.jobs.filter fun j => p.allowsJob j.info.fullName := by
  unfold jobs
  rw [List.filter_map]
  rfl

theorem nameable_withoutDenied (hjobs : ∀ j ∈ h.jobs, j.Nameable) :
    ∀ j ∈ (h.withoutDenied p).jobs, j.Nameable := by
  intro j hj
  rw [jobs_withoutDenied] at hj
  exact hjobs j (List.mem_filter.mp hj).1

/-- A job that is not suppressed is still found under its number. -/
theorem completion_withoutDenied {c : Build} (hc : h.hasAllowedJob p c) :
    (h.withoutDenied p).completion c = h.completion c := by
  obtain ⟨j, hj, hallowed⟩ := (Option.any_eq_true _ _).mp hc
  obtain ⟨hosted, hfind, rfl⟩ := Option.map_eq_some_iff.mp hj
  have hexisting : (h.withoutDenied p).existing =
      h.existing.filter fun hosted => p.allowsJob hosted.job.info.fullName :=
    (List.filter_append ..).symm
  have hkept : (h.withoutDenied p).job? c.jobId = some hosted.job := by
    rw [job?, hexisting, find?_filter_of_find? hfind hallowed]
    rfl
  rw [completion, completion, hkept, hj]

end Host

/-- The exporter as it would be without the jobs that its settings suppress: neither are they on the
host, nor do builds of theirs wait, nor builds of jobs that are gone. -/
def Exporter.withoutDenied (e : Exporter) : Exporter :=
  let p := e.active.load.policy
  { e with
    host := e.host.withoutDenied p
    buffer := { e.buffer with waiting := e.buffer.waiting.filter (e.host.hasAllowedJob p) } }

/-! ## 2. Suppressed jobs -/

variable {s : Settings} {now : Int64} {jobs : List Job} {j : Job}

theorem notes_recordJob_of_denied (now : Int64) (h : s.policy.allowsJob j.info.fullName = false) :
    (recordJob (.of s) now j).notes = [] := by
  refine List.eq_nil_iff_forall_not_mem.mpr fun r hr => ?_
  have hallowed : s.policy.allowsJob j.info.fullName := (mem_recordJob hr).2.1
  rw [h] at hallowed
  cases hallowed

theorem notes_recordCoverage_of_denied (meters : List MeterId)
    (h : s.policy.allowsJob j.info.fullName = false) : (recordCoverage s meters j).notes = [] := by
  refine List.eq_nil_iff_forall_not_mem.mpr fun r hr => ?_
  have hallowed : s.policy.allowsJob j.info.fullName := (mem_recordCoverage hr).2.1
  rw [h] at hallowed
  cases hallowed

/-- A completed build of a job that is suppressed or gone counts for no counter. -/
theorem notes_countCompletion_of_denied {host : Host} {c : Build}
    (h : host.hasAllowedJob s.policy c = false) (counters : List MetricKind) :
    (countCompletion s counters (host.completion c)).notes = [] := by
  refine notes_countCompletion (fun j hcounts => ?_) counters
  have hjob : host.job? c.jobId = some j := (readThrough_eq_ok.mp hcounts.parent).2
  have hallowed : s.policy.allowsJob j.info.fullName := hcounts.allowed
  rw [Host.hasAllowedJob, hjob, Option.any_some, hallowed] at h
  cases h

/-! ## 3. Collections -/

/-- Without the suppressed jobs a scrape of jobs records the same. -/
theorem recordJobs_withoutDenied {host : Host} (hjobs : ∀ j ∈ host.jobs, j.Nameable) :
    recordJobs (.of s) now (host.withoutDenied s.policy).jobs =
      recordJobs (.of s) now host.jobs := by
  rw [recordJobs_eq (Host.nameable_withoutDenied hjobs), recordJobs_eq hjobs,
    Host.jobs_withoutDenied, flatMap_filter_of_eq_nil fun _ _ => notes_recordJob_of_denied now]

/-- Without the suppressed jobs the coverage reports are the same. -/
theorem coverageFamilies_withoutDenied {host : Host} (hjobs : ∀ j ∈ host.jobs, j.Nameable) :
    coverageFamilies s (host.withoutDenied s.policy).jobs = coverageFamilies s host.jobs := by
  have hrecorded : coverageRecordings s (host.withoutDenied s.policy).jobs =
      coverageRecordings s host.jobs := by
    rw [coverageRecordings, Host.jobs_withoutDenied]
    exact flatMap_filter_of_eq_nil fun _ _ => notes_recordCoverage_of_denied _
  rw [coverageFamilies_eq (Host.nameable_withoutDenied hjobs), coverageFamilies_eq hjobs, hrecorded]

/-- Without the suppressed jobs and their completed builds the same is counted. -/
theorem countCompletions_withoutDenied (s : Settings) (counters : List MetricKind) (host : Host)
    (waiting : List Build) :
    countCompletions s counters
        ((waiting.filter (host.hasAllowedJob s.policy)).map
          (host.withoutDenied s.policy).completion) =
      countCompletions s counters (waiting.map host.completion) := by
  have hsame : (waiting.filter (host.hasAllowedJob s.policy)).map
        (host.withoutDenied s.policy).completion =
      (waiting.filter (host.hasAllowedJob s.policy)).map host.completion := by
    refine List.map_congr_left fun c hc => ?_
    exact Host.completion_withoutDenied (List.mem_filter.mp hc).2
  rw [hsame, countCompletions, countCompletions, List.flatMap_map, List.flatMap_map]
  exact flatMap_filter_of_eq_nil fun c _ hc => notes_countCompletion_of_denied hc counters

/-- The counters are left the same. -/
theorem counters_withoutDenied (e : Exporter) (now : Int64) :
    (e.withoutDenied.collectJobs now).1.counters = (e.collectJobs now).1.counters := by
  have hcount (c : CounterCache) :
      c.count e.active.load
          (e.withoutDenied.buffer.waiting.map e.withoutDenied.host.completion) =
        c.count e.active.load (e.buffer.waiting.map e.host.completion) := by
    rw [CounterCache.count, CounterCache.count]
    exact congrArg _ (countCompletions_withoutDenied e.active.load _ e.host e.buffer.waiting)
  have hactive : e.withoutDenied.active = e.active := rfl
  have hcounters : e.withoutDenied.counters = e.counters := rfl
  rw [Exporter.counters_collectJobs, Exporter.counters_collectJobs, hactive, hcounters, hcount]

/-- As long as every job can be named, collections of jobs and of coverage reports give the same as
they would without the suppressed jobs, the builds of such jobs that have completed and those of
jobs that are gone. They leave the same counters and the same empty buffer behind. -/
theorem denied_jobs_leave_nothing (e : Exporter) (hjobs : ∀ j ∈ e.host.jobs, j.Nameable)
    (now : Int64) :
    let e' := e.withoutDenied
    (∃ families, (e.collectFrom now .jobs).2 = .ok families ∧
      (e'.collectFrom now .jobs).2 = .ok families) ∧
    (e'.collectFrom now .jobs).1.counters = (e.collectFrom now .jobs).1.counters ∧
    (e'.collectFrom now .jobs).1.buffer = (e.collectFrom now .jobs).1.buffer ∧
    (e.collectFrom now .jobs).1.buffer.waiting = [] ∧
    ∃ families, (e.collectFrom now .coverage).2 = .ok families ∧
      (e'.collectFrom now .coverage).2 = .ok families := by
  intro e'
  have hcounters : (e'.collectJobs now).1.counters = (e.collectJobs now).1.counters :=
    counters_withoutDenied e now
  refine ⟨?_, hcounters, ?_, Exporter.waiting_collectJobs e now, ?_⟩
  · have hfamilies (c : CounterCache) : jobFamilies e.active.load c now e'.host.jobs =
        jobFamilies e.active.load c now e.host.jobs := by
      have hrecorded : recordJobs (.of e.active.load) now e'.host.jobs =
          recordJobs (.of e.active.load) now e.host.jobs := recordJobs_withoutDenied hjobs
      rw [jobFamilies, jobFamilies, hrecorded]
    have hactive : e'.active = e.active := rfl
    refine ⟨_, Exporter.result_collectJobs_of_nameable hjobs now, ?_⟩
    show (e'.collectJobs now).2 = _
    rw [Exporter.result_collectJobs_of_nameable (Host.nameable_withoutDenied hjobs) now, hactive,
      hcounters, hfamilies]
  · show (e'.collectJobs now).1.buffer = (e.collectJobs now).1.buffer
    rw [Exporter.buffer_collectJobs, Exporter.buffer_collectJobs]
    rfl
  · refine ⟨_, coverageFamilies_eq hjobs, ?_⟩
    show coverageFamilies e.active.load (e.host.withoutDenied e.active.load.policy).jobs = _
    rw [coverageFamilies_withoutDenied hjobs, coverageFamilies_eq hjobs]

/-- The job `a` is suppressed, the host fails on its builds, and one of them has completed. -/
theorem denied_jobs_leave_nothing_of_failing_job :
    let e : Exporter :=
      (Exporter.start ⟨none, some withoutJobA⟩
        ⟨[⟨0, { Job.plain "a" [.plain 1] with failing := [.lastBuild] }⟩,
          ⟨1, .plain "b" [.ofJob 1 (.plain 1)]⟩], [], .initial⟩).run
        [.complete (.plain 1), .complete (.ofJob 1 (.plain 1)), .complete (.ofJob 2 (.plain 1))]
    e.withoutDenied.host.hosted = [⟨1, .plain "b" [.ofJob 1 (.plain 1)]⟩] ∧
      e.withoutDenied.buffer.waiting = [.ofJob 1 (.plain 1)] ∧
      (e.withoutDenied.collectFrom 0 .jobs).1.counters = (e.collectFrom 0 .jobs).1.counters ∧
      ∃ families, (e.collectFrom 0 .jobs).2 = .ok families ∧
        (e.withoutDenied.collectFrom 0 .jobs).2 = .ok families := by
  intro e
  obtain ⟨hfamilies, hcounters, _⟩ := denied_jobs_leave_nothing e (by decide) 0
  exact ⟨by decide +kernel, by decide +kernel, hcounters, hfamilies⟩

end BuildTelemetry
