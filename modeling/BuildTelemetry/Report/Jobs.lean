import BuildTelemetry.Report.Recording
import BuildTelemetry.Label.Schema

/-!
# Jobs and builds

What a scrape records for a job: its gauges, the metrics of its last completed build, and for each
build that the configuration counts its duration and, if asked for, its metrics.

* `JobPlan`: the meters of a scrape of jobs, by group.
* `recordJob`: what is recorded for one job.
* `recordJobs`: what is recorded for all jobs. A job on which the host fails is skipped.
* `JobPlan.meters`: all meters in the order of their exposition.
-/

namespace BuildTelemetry

/-- The qualifier of the metrics of a job's last completed build. -/
def lastQualifier : String := "last"

/-! ## Plan -/

/-- The meters of a scrape of jobs that are not suppressed. -/
structure JobPlan where
  settings : Settings
  durations : List PlannedMeter
  gauges : List PlannedMeter
  lastBuild : List PlannedMeter
  perBuild : List PlannedMeter
deriving Repr

/-- The label names of a metric of builds: the metrics of stages have one more. -/
def buildMetricLabels (names : List String) (kind : MetricKind) : List String :=
  if kind.extraLabels = 0 then names else names ++ [stageLabel]

/-- The meters of the metrics of builds that are not suppressed. -/
def Settings.planBuilds (s : Settings) (names : List String) (qualifier : Option String) :
    List PlannedMeter :=
  ((buildMetrics.map MetricKind.build).filter s.allows).map fun kind =>
    ⟨⟨kind, qualifier⟩, buildMetricLabels names kind⟩

def JobPlan.of (s : Settings) : JobPlan where
  settings := s
  durations := s.planFor [.build .durations] s.config.buildLabelNames
  gauges := s.planFor (jobMetrics.map .job) s.config.jobLabelNames
  lastBuild := s.planBuilds s.config.jobLabelNames (some lastQualifier)
  perBuild :=
    if s.config.perBuild then s.planBuilds (s.config.buildLabelNames ++ [numberLabel]) none else []

namespace JobPlan

def config (p : JobPlan) : Config := p.settings.config

def ids (plan : List PlannedMeter) : List MeterId := plan.map PlannedMeter.meter

end JobPlan

/-! ## Recording -/

/-- Reads the last build that completed, where `last` may still be running. Only one build before it
is looked at. -/
def lastCompleted (last : Build) (older : List Build) : Reading (Option Build) := do
  if ← last.isBuilding then return (← last.previous older).map Prod.fst
  else return some last

/-- Reads whether a build is finished with a result that counts. -/
def isIncluded (c : Config) (b : Build) : Reading Bool := do
  if ← b.isBuilding then return false else return c.counts (← b.result)

/-- Records the duration of a build and, if every build is reported, its metrics. -/
def recordBuild (p : JobPlan) (now : Int64) (j : Job) (b : Build) : Recorder := do
  let values ← p.config.buildLabelValues j b
  recordEntity now (JobPlan.ids p.durations) (.build b) values
  if p.config.perBuild then
    let number ← b.number
    recordEntity now (JobPlan.ids p.perBuild) (.build b) (values ++ [toString number])

/-- Records the builds that count, from the newest back to the oldest. -/
def recordBuilds (p : JobPlan) (now : Int64) (j : Job) : List Build → Recorder
  | [] => pure ()
  | b :: older => do
    if ← isIncluded p.config b then recordBuild p now j b
    let _ ← b.previous older
    recordBuilds p now j older

/-- Records a job: its gauges, its last completed build and its builds that count. A job is skipped
if it is suppressed, if it cannot be built unless such jobs are included, and if neither its last
build nor the one before has completed. -/
def recordJob (p : JobPlan) (now : Int64) (j : Job) : Recorder := do
  let name ← j.fullName
  if !p.settings.policy.allowsJob name then return
  let buildable ← j.isBuildable
  if !buildable && !p.config.includeDisabledJobs then return
  match ← j.lastBuild with
  | none => return
  | some (last, older) =>
    match ← lastCompleted last older with
    | none => return
    | some completed =>
      let values ← p.config.jobLabelValues j
      recordEntity now (JobPlan.ids p.gauges) (.job j) values
      recordEntity now (JobPlan.ids p.lastBuild) (.build completed) values
      recordBuilds p now j (last :: older)

/-- Records a job. If the host fails the job is named in the failure, which only a job that cannot
be named prevents. -/
def recordGuarded (p : JobPlan) (now : Int64) (j : Job) : Recorder :=
  (recordJob p now j).recover fun _ => do let _ ← j.fullName

def recordJobs (p : JobPlan) (now : Int64) (jobs : List Job) : Recorder :=
  Journal.each (recordGuarded p now) jobs

/-! ## Families -/

/-- The meters of a scrape, with the given counters behind the durations. -/
def JobPlan.meters (p : JobPlan) (counters : List Meter) (recordings : List Recording) :
    List Meter :=
  p.settings.meters p.durations recordings ++ counters ++
    p.settings.meters (p.gauges ++ p.lastBuild ++ p.perBuild) recordings

end BuildTelemetry
