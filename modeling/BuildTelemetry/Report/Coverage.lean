import BuildTelemetry.Report.Recording

/-!
# Coverage

The coverage report of the last build of every job. A job is skipped while its last build is running
or has no report; no earlier build is looked at. A job on which the host fails is skipped, too.

* `recordCoverage`: what is recorded for one job.
* `coverageFamilies`: the families of all jobs.
-/

namespace BuildTelemetry

def coveragePlan (s : Settings) : List PlannedMeter :=
  s.planFor (coverageMetrics.map fun m => .coverage m.1 m.2) [s.config.jobLabel]

/-- Records the report of a job's last build. -/
def recordReport (meters : List MeterId) (j : Job) : Recorder := do
  match ← j.lastBuild with
  | none => pure ()
  | some (last, _) =>
    if ← last.isBuilding then pure ()
    else if (← last.coverage).isNone then pure ()
    else
      let name ← j.fullName
      recordEntity 0 meters (.build last) [name]

/-- Records the report of a job that is not suppressed. If the host fails the job is named in the
failure, which only a job that cannot be named prevents. -/
def recordCoverage (s : Settings) (meters : List MeterId) (j : Job) : Recorder := do
  let name ← j.fullName
  if s.policy.allowsJob name then
    (recordReport meters j).recover fun _ => do let _ ← j.fullName
  else pure ()

/-- The families of all reports, while coverage is collected. -/
def coverageFamilies (s : Settings) (jobs : List Job) : Reading (List MetricFamily) :=
  if !s.config.collectCoverage then .ok []
  else
    let plan := coveragePlan s
    let recorded := Journal.each (recordCoverage s (plan.map PlannedMeter.meter)) jobs
    recorded.result.map fun _ => (s.meters plan recorded.notes).map Meter.family

end BuildTelemetry
