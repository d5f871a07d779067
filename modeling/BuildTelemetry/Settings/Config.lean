import BuildTelemetry.Host.Build
import BuildTelemetry.Text.Property.Lookup

/-!
# Configuration

What an operator configures. A configuration may still be invalid; only valid ones become settings.

* `Config.initial`: what holds where nothing is configured.
* `Config.counts`: whether builds with a result are counted.
* `Config.parameterNames`: the build parameters that have labels of their own.
-/

namespace BuildTelemetry

/-- A rule that suppresses metrics or jobs. -/
inductive Rule where
  /-- Suppresses the metric of this name, whatever its case. -/
  | metricName (name : String)
  /-- Suppresses every metric whose whole name matches. -/
  | metricPattern (pattern : String)
  /-- Suppresses every job whose whole name matches. -/
  | jobPattern (pattern : String)
deriving DecidableEq, Repr

/-- A configuration as it was written. -/
structure Config where
  /-- The first part of every metric name. -/
  nameSpace : Option String
  /-- The name of the label that holds a job's full name. -/
  jobLabel : String
  countSuccessful : Bool
  countUnstable : Bool
  countFailed : Bool
  countNotBuilt : Bool
  countAborted : Bool
  /-- Reports every build, not only the last one. -/
  perBuild : Bool
  /-- Adds a label with all parameters of a build. -/
  parametersLabel : Bool
  /-- Adds a label with the result of a build. -/
  statusLabel : Bool
  /-- Parameters that have labels of their own, as written. -/
  labelledParameters : List String
  /-- Reports jobs that cannot be built at the moment, too. -/
  includeDisabledJobs : Bool
  collectDiskUsage : Bool
  collectCoverage : Bool
  /-- The period of the background collection in seconds. -/
  period : UInt64
  quantiles : List Float
  rules : List Rule
deriving Repr

namespace Config

/-- The configuration of an operator who writes nothing. -/
def initial : Config where
  nameSpace := none
  jobLabel := "jenkins_job"
  countSuccessful := true
  countUnstable := true
  countFailed := true
  countNotBuilt := true
  countAborted := true
  perBuild := false
  parametersLabel := false
  statusLabel := false
  labelledParameters := []
  includeDisabledJobs := false
  collectDiskUsage := true
  collectCoverage := false
  period := 120
  quantiles := []
  rules := []

/-- Whether finished builds with a result are counted. Builds without a result always are. -/
def counts (c : Config) : Option BuildResult → Bool
  | some .success => c.countSuccessful
  | some .unstable => c.countUnstable
  | some .failure => c.countFailed
  | some .notBuilt => c.countNotBuilt
  | some .aborted => c.countAborted
  | none => true

def countsAnyBuild (c : Config) : Bool :=
  c.countSuccessful || c.countUnstable || c.countFailed || c.countNotBuilt || c.countAborted

/-- The parameters with labels of their own, without the white space around their names. Blank names
are left out. -/
def parameterNames (c : Config) : List String :=
  (c.labelledParameters.map Text.trimBlanks).filter fun name => !name.isEmpty

end Config

end BuildTelemetry
