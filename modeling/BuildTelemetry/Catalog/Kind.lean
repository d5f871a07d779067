import BuildTelemetry.Exposition.Basic
import BuildTelemetry.Host.Basic

/-!
# The catalogue of metrics

The closed set of metrics, by the kind of entity that they are computed from. Each has a short
name, a type, a help text and perhaps a unit.

* `MetricKind.name`, `type`, `help`, `unit`: the entry of a metric.
* `MetricKind.all`: every metric in the order of the catalogue.
* `buildMetrics`, `buildCounters`, `jobMetrics`, `coverageMetrics`: groups in the order of
  exposition.
-/

namespace BuildTelemetry

/-- Metrics of a single build. -/
inductive BuildMetric where
  | resultOrdinal
  | passed
  | duration
  | startTime
  | waiting
  | logSize
  | testsTotal
  | testsFailing
  | testsSkipped
  | likelyStuck
  | stageDurations
  | stageResult
  | durations
  | successes
  | failures
  | unstables
  | aborts
  | total
deriving DecidableEq, Repr

/-- Metrics of a job. -/
inductive JobMetric where
  | healthScore
  | availableBuilds
  | discardActive
  | runningDuration
  | logUpdated
deriving DecidableEq, Repr

/-- Metrics of the executors with one node label. -/
inductive ExecutorMetric where
  | available
  | busy
  | connecting
  | defined
  | idle
  | online
  | queueLength
deriving DecidableEq, Repr

/-- Metrics of a top level directory. -/
inductive DirectoryMetric where
  | usage
  | fileCount
deriving DecidableEq, Repr

/-- Metrics of the host itself. -/
inductive HostMetric where
  | up
  | uptime
  | quietDown
  | nodesOnline
  | version
deriving DecidableEq, Repr

/-- The figures that are reported for one scope of a coverage report. -/
inductive CoverageFigure where
  | covered
  | missed
  | total
  | percent
deriving DecidableEq, Repr

/-- A metric, by what it is computed from. -/
inductive MetricKind where
  | build (m : BuildMetric)
  | job (m : JobMetric)
  | executor (m : ExecutorMetric)
  | directory (m : DirectoryMetric)
  | jobUsage
  | fileStore (size : StoreSize)
  | host (m : HostMetric)
  | coverage (scope : CoverageScope) (figure : CoverageFigure)
deriving DecidableEq, Repr

/-- The entry of a metric. The help text has no full stop. -/
structure CatalogEntry where
  name : String
  type : MetricType
  help : String
  unit : Option MetricUnit
deriving DecidableEq, Repr

/-! ## Entries -/

def BuildMetric.entry : BuildMetric → CatalogEntry
  | resultOrdinal => ⟨"build_result_ordinal", .gauge, "Build status of a job", none⟩
  | passed => ⟨"build_result", .gauge, "Build status of a job as a boolean (0 or 1)", none⟩
  | duration =>
    ⟨"build_duration_milliseconds", .gauge, "Build times in milliseconds of last build",
      some .milliseconds⟩
  | startTime =>
    ⟨"build_start_time_milliseconds", .gauge, "Last build start timestamp in milliseconds",
      some .milliseconds⟩
  | waiting =>
    ⟨"build_waiting_milliseconds", .gauge,
      "Duration this build spent queued waiting to be executed", some .milliseconds⟩
  | logSize => ⟨"build_logfile_size_bytes", .gauge, "Build logfile size in bytes", some .bytes⟩
  | testsTotal =>
    ⟨"build_tests_total", .gauge, "Number of total tests during the build", none⟩
  | testsFailing =>
    ⟨"build_tests_failing", .gauge, "Number of failing tests during the build", none⟩
  | testsSkipped =>
    ⟨"build_tests_skipped", .gauge, "Number of skipped tests during the build", none⟩
  | likelyStuck => ⟨"likely_stuck", .gauge, "Provides a hint if a build is likely stuck", none⟩
  | stageDurations =>
    ⟨"stage_duration_milliseconds_summary", .summary, "Summary of build times by job and stage",
      some .milliseconds⟩
  | stageResult => ⟨"stage_result_ordinal", .gauge, "Build status of a stage", none⟩
  | durations =>
    ⟨"duration_milliseconds_summary", .summary, "Summary of build times in milliseconds by job",
      some .milliseconds⟩
  | successes => ⟨"success_build_count", .counter, "Successful build count", none⟩
  | failures => ⟨"failed_build_count", .counter, "Failed build count", none⟩
  | unstables => ⟨"unstable_build_count", .counter, "Unstable build count", none⟩
  | aborts => ⟨"aborted_build_count", .counter, "Aborted build count", none⟩
  | total =>
    ⟨"total_build_count", .counter, "Total build count excluding not built builds", none⟩

def JobMetric.entry : JobMetric → CatalogEntry
  | healthScore => ⟨"health_score", .gauge, "Health score of a job", none⟩
  | availableBuilds =>
    ⟨"available_builds_count", .gauge, "Number of builds available for this job", none⟩
  | discardActive =>
    ⟨"discard_active", .gauge, "Indicates if the build discarder is active for the given job",
      none⟩
  | runningDuration =>
    ⟨"running_build_duration_milliseconds", .gauge,
      "Runtime of the build currently running, if any", some .milliseconds⟩
  | logUpdated =>
    ⟨"job_log_updated", .gauge, "Timestamp in milliseconds of the last log update of a job",
      some .milliseconds⟩

def ExecutorMetric.entry : ExecutorMetric → CatalogEntry
  | available => ⟨"executors_available", .gauge, "Executors available", none⟩
  | busy => ⟨"executors_busy", .gauge, "Executors busy", none⟩
  | connecting => ⟨"executors_connecting", .gauge, "Executors connecting", none⟩
  | defined => ⟨"executors_defined", .gauge, "Executors defined", none⟩
  | idle => ⟨"executors_idle", .gauge, "Executors idle", none⟩
  | online => ⟨"executors_online", .gauge, "Executors online", none⟩
  | queueLength => ⟨"executors_queue_length", .gauge, "Executors queue length", none⟩

def DirectoryMetric.entry : DirectoryMetric → CatalogEntry
  | usage =>
    ⟨"disk_usage_bytes", .gauge,
      "Disk usage of first level folder in the home directory in bytes", some .bytes⟩
  | fileCount =>
    ⟨"disk_usage_file_count", .gauge,
      "Number of files in first level folder in the home directory", none⟩

def jobUsageEntry : CatalogEntry :=
  ⟨"job_usage_bytes", .gauge, "Amount of disk usage for each job in bytes", some .bytes⟩

def StoreSize.entry : StoreSize → CatalogEntry
  | usable =>
    ⟨"file_store_available_bytes", .gauge,
      "Estimated available space on the file stores used by the host", some .bytes⟩
  | total =>
    ⟨"file_store_capacity_bytes", .gauge,
      "Total size in bytes of the file stores used by the host", some .bytes⟩

def HostMetric.entry : HostMetric → CatalogEntry
  | up => ⟨"up", .gauge, "Is the host ready to receive requests", none⟩
  | uptime =>
    ⟨"uptime", .gauge, "Time since the host was initialized in milliseconds", some .milliseconds⟩
  | quietDown => ⟨"quietdown", .gauge, "Is the host in quiet mode", none⟩
  | nodesOnline => ⟨"nodes_online", .gauge, "Number of nodes online", none⟩
  | version => ⟨"version", .gauge, "Application version of the host", none⟩

/-- The scope as it appears in a metric name. -/
def CoverageScope.word : CoverageScope → String
  | classes => "class"
  | branches => "branch"
  | instructions => "instruction"
  | files => "file"
  | lines => "line"

/-- The scope as it appears in a help text. -/
def CoverageScope.plural : CoverageScope → String
  | classes => "classes"
  | branches => "branches"
  | instructions => "instructions"
  | files => "files"
  | lines => "lines"

/-- The figure as it appears in a metric name. -/
def CoverageFigure.word : CoverageFigure → String
  | covered => "covered"
  | missed => "missed"
  | total => "total"
  | percent => "percent"

def coverageEntry (scope : CoverageScope) (figure : CoverageFigure) : CatalogEntry :=
  let help := match figure with
    | .percent =>
      "Percentage of " ++ scope.plural ++ " covered, -1 when there is nothing to cover"
    | _ => "Number of " ++ scope.plural ++ " " ++ figure.word
  ⟨"coverage_" ++ scope.word ++ "_" ++ figure.word, .gauge, help, none⟩

namespace MetricKind

def entry : MetricKind → CatalogEntry
  | build m => m.entry
  | job m => m.entry
  | executor m => m.entry
  | directory m => m.entry
  | jobUsage => jobUsageEntry
  | fileStore size => size.entry
  | host m => m.entry
  | coverage scope figure => coverageEntry scope figure

def name (k : MetricKind) : String := k.entry.name

def type (k : MetricKind) : MetricType := k.entry.type

/-- The help text of a metric without its full stop. -/
def help (k : MetricKind) : String := k.entry.help

def unit (k : MetricKind) : Option MetricUnit := k.entry.unit

end MetricKind

/-! ## Groups -/

/-- Metrics of the last build of a job and, if asked for, of every build. -/
def buildMetrics : List BuildMetric :=
  [.resultOrdinal, .passed, .duration, .startTime, .waiting, .logSize, .testsTotal, .testsFailing,
    .testsSkipped, .likelyStuck, .stageDurations, .stageResult]

def buildCounters : List BuildMetric := [.successes, .failures, .aborts, .unstables, .total]

def jobMetrics : List JobMetric :=
  [.healthScore, .availableBuilds, .discardActive, .runningDuration, .logUpdated]

def executorMetrics : List ExecutorMetric :=
  [.available, .busy, .connecting, .defined, .idle, .online, .queueLength]

def directoryMetrics : List DirectoryMetric := [.usage, .fileCount]

def storeSizes : List StoreSize := [.usable, .total]

def hostMetrics : List HostMetric := [.up, .uptime, .quietDown, .nodesOnline, .version]

def coverageScopes : List CoverageScope := [.classes, .branches, .instructions, .files, .lines]

def coverageFigures : List CoverageFigure := [.covered, .missed, .total, .percent]

def coverageMetrics : List (CoverageScope × CoverageFigure) :=
  coverageScopes.flatMap fun scope => coverageFigures.map fun figure => (scope, figure)

/-- The counters in the order of the catalogue, which is not that of their exposition. -/
def catalogueCounters : List BuildMetric := [.successes, .failures, .unstables, .aborts, .total]

def MetricKind.all : List MetricKind :=
  buildMetrics.map .build ++ [.build .durations] ++ catalogueCounters.map .build ++
    jobMetrics.map .job ++ executorMetrics.map .executor ++ directoryMetrics.map .directory ++
    [.jobUsage] ++ storeSizes.map .fileStore ++ hostMetrics.map .host ++
    coverageMetrics.map fun m => .coverage m.1 m.2

end BuildTelemetry
