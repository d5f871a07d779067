import BuildTelemetry.Proofs.Families
import BuildTelemetry.Proofs.Measure
import BuildTelemetry.Report.Coverage

/-!
# What a scrape of coverage reports records

1. Every recording goes to the name of the job that it comes from, and that job is not suppressed
   (`mem_recordCoverage`).
2. A failure of the host costs the report of the job that it strikes and no other: a scrape of jobs
   that can be named succeeds (`coverageFamilies_eq`).
-/

namespace BuildTelemetry

/-! ## 1. Recordings of a job -/

theorem mem_recordReport {meters : List MeterId} {j : Job} {r : Recording}
    (h : r ∈ (recordReport meters j).notes) :
    j.Nameable ∧ ∃ b, r ∈ (recordEntity 0 meters (.build b) [j.info.fullName]).notes := by
  rw [recordReport] at h
  obtain ⟨found, _, h⟩ := Journal.mem_notes_read.mp h
  cases found with
  | none => cases h
  | some found =>
    obtain ⟨last, older⟩ := found
    obtain ⟨building, _, h⟩ := Journal.mem_notes_read.mp h
    split at h
    · cases h
    obtain ⟨coverage, _, h⟩ := Journal.mem_notes_read.mp h
    split at h
    · cases h
    obtain ⟨name, hname, h⟩ := Journal.mem_notes_read.mp h
    obtain ⟨hnameable, rfl⟩ := Job.fullName_eq_ok.mp hname
    exact ⟨hnameable, last, h⟩

theorem notes_fullName (j : Job) : (do let _ ← liftM j.fullName : Recorder).notes = [] := by
  cases hname : j.fullName <;> rfl

/-- A job records nothing unless it can be named and is not suppressed. -/
theorem mem_recordCoverage {s : Settings} {meters : List MeterId} {j : Job} {r : Recording}
    (h : r ∈ (recordCoverage s meters j).notes) :
    j.Nameable ∧ s.policy.allowsJob j.info.fullName ∧
      ∃ b, r ∈ (recordEntity 0 meters (.build b) [j.info.fullName]).notes := by
  rw [recordCoverage] at h
  obtain ⟨name, hname, h⟩ := Journal.mem_notes_read.mp h
  obtain ⟨hnameable, rfl⟩ := Job.fullName_eq_ok.mp hname
  split at h
  · next hallowed =>
    rw [Journal.notes_recover fun _ => notes_fullName j] at h
    exact ⟨hnameable, hallowed, (mem_recordReport h).2⟩
  · cases h

/-- The only label value of a coverage report is the name of its job. -/
theorem values_of_mem_recordCoverage {s : Settings} {meters : List MeterId} {j : Job}
    {r : Recording} (h : r ∈ (recordCoverage s meters j).notes) : r.values = [j.info.fullName] := by
  obtain ⟨_, _, b, hentity⟩ := mem_recordCoverage h
  exact (mem_recordEntity hentity).2.1

/-! ## 2. Failures of the host -/

/-- If the host fails on a job that can be named, what was recorded before stays, and the scrape
goes on. -/
theorem result_recordCoverage {s : Settings} {meters : List MeterId} {j : Job} (h : j.Nameable) :
    (recordCoverage s meters j).result = .ok () := by
  rw [recordCoverage, Journal.liftM_eq, h.fullName, Journal.ofExcept_ok_bind]
  split
  · refine Journal.result_recover fun _ => ?_
    rfl
  · rfl

/-- What some jobs record for the coverage meters, one after the other. -/
def coverageRecordings (s : Settings) (jobs : List Job) : List Recording :=
  jobs.flatMap fun j => (recordCoverage s ((coveragePlan s).map PlannedMeter.meter) j).notes

/-- Every meter of coverage reports has one label value. -/
theorem sized_of_mem_coveragePlan {s : Settings} {planned : PlannedMeter}
    (hplanned : planned ∈ coveragePlan s) (jobs : List Job) :
    ((s.freshMeter planned).record
      (recordingsFor planned.meter (coverageRecordings s jobs))).Sized := by
  refine sized_planned s fun r hr hmeter => ?_
  obtain ⟨j, _, hj⟩ := List.mem_flatMap.mp hr
  obtain ⟨_, _, b, hentity⟩ := mem_recordCoverage hj
  obtain ⟨_, hvalues, hmark⟩ := mem_recordEntity hentity
  obtain ⟨kind, hkind, _, rfl⟩ := mem_planFor.mp hplanned
  obtain ⟨_, _, rfl⟩ := List.mem_map.mp hkind
  rw [Recording.key, List.length_append, hvalues, extra_of_mem_measure hmark, hmeter]
  rfl

/-- The coverage reports of jobs that can be named. -/
theorem coverageFamilies_eq {s : Settings} {jobs : List Job} (h : ∀ j ∈ jobs, j.Nameable) :
    coverageFamilies s jobs = .ok (if s.config.collectCoverage then
      (s.meters (coveragePlan s) (coverageRecordings s jobs)).map Meter.family else []) := by
  have heach : Journal.each (recordCoverage s ((coveragePlan s).map PlannedMeter.meter)) jobs =
      ⟨coverageRecordings s jobs, .ok ()⟩ :=
    Journal.each_eq fun j hj => result_recordCoverage (h j hj)
  unfold coverageFamilies
  cases s.config.collectCoverage with
  | false => rfl
  | true =>
    simp only [heach]
    rfl

end BuildTelemetry
