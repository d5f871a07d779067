import BuildTelemetry.Catalog.Kind

/-!
# Measures

What a metric takes from an entity. A measurement notes marks: each goes to one label set and
either records a value there or only makes sure that the label set exists. The host may fail while
it is read; marks noted before stay.

* `MetricKind.measure`: the measurement of a metric on an entity.
* `MetricKind.extraLabels`: the number of labels that the marks themselves add.
-/

namespace BuildTelemetry

/-- One thing that a measurement records. -/
structure Mark where
  /-- Label values that follow those of the entity. -/
  extra : List String
  /-- The recorded value, none to record nothing but the label set. -/
  value : Option Float
deriving Repr

/-- Marks, and whether the host failed. -/
abbrev Measurement := Journal Mark HostFault Unit

namespace Measurement

/-- Records a value if the reading gives one. -/
def ofReading (reading : Reading (Option Float)) : Measurement := do
  match ← Journal.ofExcept reading with
  | some value => Journal.note ⟨[], some value⟩
  | none => pure ()

def ofValue (value : Float) : Measurement := Journal.note ⟨[], some value⟩

/-- Makes sure that the label set exists, and counts if the reading is true. -/
def ofCondition (reading : Reading Bool) : Measurement := do
  Journal.note ⟨[], none⟩
  if ← Journal.ofExcept reading then Journal.note ⟨[], some 1.0⟩ else pure ()

end Measurement

def truthNumber (b : Bool) : Float := if b then 1.0 else 0.0

/-! ## Builds -/

/-- Which results a counter counts. -/
def BuildMetric.counts : BuildMetric → Option BuildResult → Bool
  | .successes, result => result == some .success
  | .failures, result => result == some .failure
  | .unstables, result => result == some .unstable
  | .aborts, result => result == some .aborted
  | .total, result => result != some .notBuilt
  | _, _ => false

namespace Build

/-- Reads a value that a build has once it is finished. -/
def readFinished {α : Type} (b : Build) (reading : Reading (Option α)) : Reading (Option α) := do
  if ← b.isBuilding then return none else reading

def readDuration (b : Build) : Reading (Option Float) :=
  b.readFinished do return some (← b.duration).toFloat

def readTests (b : Build) (count : TestCounts → UInt64) : Reading (Option Float) := do
  return (← b.tests).map fun counts => (count counts).toFloat

/-- Reads whether a running build is stuck. -/
def readStuck (b : Build) : Reading (Option Float) := do
  if ← b.isBuilding then return (← b.likelyStuck).map truthNumber else return none

def readStages (b : Build) : Reading (List Stage) := do
  return (← b.readFinished b.stages).getD []

def markStages (b : Build) (mark? : Stage → Option Float) : Measurement := do
  let stages ← Journal.ofExcept b.readStages
  Journal.each (fun stage => match mark? stage with
    | some value => Journal.note ⟨[stage.name], some value⟩
    | none => pure ()) stages

end Build

def BuildMetric.measure (b : Build) : BuildMetric → Measurement
  | resultOrdinal => .ofReading do return (← b.result).map fun r => r.ordinal.toFloat
  | passed => .ofReading do return (← b.result).map fun r => truthNumber r.passed
  | duration => .ofReading b.readDuration
  | startTime => .ofReading do return some (← b.start).toFloat
  | waiting => .ofReading do return (← b.readFinished b.queued).map UInt64.toFloat
  | logSize => .ofReading do return (← b.readFinished b.logSize).map UInt64.toFloat
  | testsTotal => .ofReading (b.readTests TestCounts.total)
  | testsFailing => .ofReading (b.readTests TestCounts.failed)
  | testsSkipped => .ofReading (b.readTests TestCounts.skipped)
  | likelyStuck => .ofReading b.readStuck
  | stageDurations => b.markStages fun stage =>
      if stage.status.countsTowardsDuration then some stage.duration.toFloat else none
  | stageResult => b.markStages fun stage => some stage.status.ordinal.toFloat
  | durations => .ofReading b.readDuration
  | counter => .ofCondition do return counter.counts (← b.result)

/-! ## Jobs -/

/-- The time from `start` to `now`, at most what 64 bits hold. -/
def elapsed (now start : Int64) : Int64 :=
  Int64.ofInt
    (max Int64.minValue.toInt (min Int64.maxValue.toInt (now.toInt - start.toInt)))

/-- Reads for how long the last build has been running at the time `now`. -/
def Job.readRunningDuration (j : Job) (now : Int64) : Reading (Option Float) := do
  match ← j.lastBuild with
  | none => return none
  | some (last, _) =>
    if ← last.isBuilding then return some (elapsed now (← last.start)).toFloat else return none

def JobMetric.measure (now : Int64) (j : Job) : JobMetric → Measurement
  | healthScore => .ofReading do return some (← j.healthScore).toFloat
  | availableBuilds => .ofReading do return some (← j.buildCount).toFloat
  | discardActive => .ofReading do return some (truthNumber (← j.hasDiscarder))
  | runningDuration => .ofReading (j.readRunningDuration now)
  | logUpdated => .ofReading do return (← j.logUpdated).map Int64.toFloat

/-! ## The rest of the host -/

def ExecutorMetric.count (load : ExecutorLoad) : ExecutorMetric → UInt64
  | available => load.available
  | busy => load.busy
  | connecting => load.connecting
  | defined => load.defined
  | idle => load.idle
  | online => load.online
  | queueLength => load.queueLength

def kibiBytes (kib : UInt64) : Float := kib.toFloat * 1024.0

def DirectoryMetric.value? (item : DirectoryUsage) : DirectoryMetric → Option Float
  | usage => item.usageKiB.map kibiBytes
  | fileCount => item.fileCount.map UInt64.toFloat

/-- The value for a size that cannot be read. -/
def notANumber : Float := 0.0 / 0.0

def FileStore.sizeValue (store : FileStore) (size : StoreSize) : Float :=
  match store.read size with
  | .ok bytes => bytes.toFloat
  | .error _ => notANumber

def HostMetric.value? (host : HostStatus) : HostMetric → Option Float
  | up => some 1.0
  | uptime => some host.uptime.toFloat
  | quietDown => some (truthNumber host.quietingDown)
  | nodesOnline => some host.nodesOnline.toFloat
  | version => host.version.map fun _ => 1.0

def CoverageFigure.value (counts : CoverageCounts) : CoverageFigure → Float
  | covered => counts.covered.toFloat
  | missed => counts.missed.toFloat
  | total => counts.total.toFloat
  | percent => counts.percent

/-- Reads a figure from the coverage report of a build. -/
def Build.readCoverage (b : Build) (scope : CoverageScope) (figure : CoverageFigure) :
    Reading (Option Float) := do
  return ((← b.coverage).bind (·.counts scope)).map figure.value

/-! ## Any entity -/

/-- What a metric can be computed from. -/
inductive Subject where
  | build
  | job
  | executor
  | directory
  | jobUsage
  | fileStore
  | host
  | coverage
deriving DecidableEq, Repr

/-- One thing that metrics are computed from. -/
inductive Entity where
  | build (b : Build)
  | job (j : Job)
  | executor (load : ExecutorLoad)
  | directory (item : DirectoryUsage)
  | jobUsage (item : JobUsage)
  | fileStore (store : FileStore)
  | host (status : HostStatus)
deriving Repr

namespace MetricKind

def subject : MetricKind → Subject
  | build _ => .build
  | job _ => .job
  | executor _ => .executor
  | directory _ => .directory
  | jobUsage => .jobUsage
  | fileStore _ => .fileStore
  | host _ => .host
  | coverage _ _ => .coverage

/-- The number of label values that marks add: the stage of the metrics of stages. -/
def extraLabels : MetricKind → Nat
  | build .stageDurations => 1
  | build .stageResult => 1
  | _ => 0

/-- The measurement of a metric on an entity at the time `now`. Nothing is recorded for an entity of
another sort. -/
def measure (now : Int64) : MetricKind → Entity → Measurement
  | build m, .build b => m.measure b
  | job m, .job j => m.measure now j
  | executor m, .executor load => .ofValue (m.count load).toFloat
  | directory m, .directory item => .ofReading (pure (m.value? item))
  | jobUsage, .jobUsage item => .ofReading (pure (item.usageKiB.map kibiBytes))
  | fileStore size, .fileStore store => .ofValue (store.sizeValue size)
  | host m, .host status => .ofReading (pure (m.value? status))
  | coverage scope figure, .build b => .ofReading (b.readCoverage scope figure)
  | _, _ => pure ()

end MetricKind

end BuildTelemetry
