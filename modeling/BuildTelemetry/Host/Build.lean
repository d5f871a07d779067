import BuildTelemetry.Journal

/-!
# Builds and jobs of the host

A job has builds, one after the other, and a build refers to its job. Everything about a job or a
build is read through an accessor of the host, and an accessor may fail; it then fails on every
reading.

* `Job.walk`: reads the chain of builds from the last one back to the first.
* `Completion`: a build that completed, with the job it belongs to while that job exists.
-/

namespace BuildTelemetry

/-! ## Results -/

/-- The outcome of a finished build. -/
inductive BuildResult where
  | success
  | unstable
  | failure
  | notBuilt
  | aborted
deriving DecidableEq, Repr

namespace BuildResult

/-- The name used in labels. -/
def text : BuildResult → String
  | success => "SUCCESS"
  | unstable => "UNSTABLE"
  | failure => "FAILURE"
  | notBuilt => "NOT_BUILT"
  | aborted => "ABORTED"

/-- The severity, the lower the better. -/
def ordinal : BuildResult → Nat
  | success => 0
  | unstable => 1
  | failure => 2
  | notBuilt => 3
  | aborted => 4

/-- The build passed, possibly with problems. -/
def passed : BuildResult → Bool
  | success => true
  | unstable => true
  | _ => false

end BuildResult

/-- The status of one stage of a build. -/
inductive StageStatus where
  | notExecuted
  | aborted
  | success
  | inProgress
  | pausedPendingInput
  | failed
  | unstable
deriving DecidableEq, Repr

namespace StageStatus

/-- The number that stands for the status. -/
def ordinal : StageStatus → Nat
  | notExecuted => 0
  | aborted => 1
  | success => 2
  | inProgress => 3
  | pausedPendingInput => 4
  | failed => 5
  | unstable => 6

/-- Only the duration of a stage that passed is summarised. -/
def countsTowardsDuration : StageStatus → Bool
  | success => true
  | unstable => true
  | _ => false

end StageStatus

/-- One stage of a build. -/
structure Stage where
  name : String
  status : StageStatus
  duration : UInt64
deriving DecidableEq, Repr

/-- The counts of a test report. -/
structure TestCounts where
  total : UInt64
  failed : UInt64
  skipped : UInt64
deriving DecidableEq, Repr

/-- Covered and missed items of one scope of a coverage report. -/
structure CoverageCounts where
  covered : UInt64
  missed : UInt64
deriving DecidableEq, Repr

namespace CoverageCounts

/-- Covered and missed items together, at most the largest 64-bit number. -/
def total (c : CoverageCounts) : UInt64 :=
  UInt64.ofNat (min (c.covered.toNat + c.missed.toNat) (UInt64.size - 1))

/-- The share of covered items in percent, `-1` when there is nothing to cover. -/
def percent (c : CoverageCounts) : Float :=
  if c.total = 0 then -1.0 else c.covered.toFloat * 100.0 / c.total.toFloat

end CoverageCounts

/-- What a coverage report counts. -/
inductive CoverageScope where
  | classes
  | branches
  | instructions
  | files
  | lines
deriving DecidableEq, Repr

/-- A coverage report: the counts of the scopes that it holds. -/
structure Coverage where
  classes : Option CoverageCounts
  branches : Option CoverageCounts
  instructions : Option CoverageCounts
  files : Option CoverageCounts
  lines : Option CoverageCounts
deriving DecidableEq, Repr

def Coverage.counts (c : Coverage) : CoverageScope → Option CoverageCounts
  | .classes => c.classes
  | .branches => c.branches
  | .instructions => c.instructions
  | .files => c.files
  | .lines => c.lines

/-! ## Readings -/

/-- The host failed while it was read. -/
inductive HostFault where
  | failed
deriving DecidableEq, Repr

/-- What a reading of the host gives. -/
abbrev Reading (α : Type) := Except HostFault α

/-- Reads `value` through an accessor that fails if it is one of `failing`. -/
def readThrough {κ α : Type} [BEq κ] (failing : List κ) (accessor : κ) (value : α) : Reading α :=
  if failing.contains accessor then .error .failed else .ok value

theorem map_readThrough {κ α β : Type} [BEq κ] (f : α → β) (failing : List κ) (accessor : κ)
    (value : α) :
    (readThrough failing accessor value).map f = readThrough failing accessor (f value) := by
  unfold readThrough
  split <;> rfl

/-! ## Builds -/

/-- The attributes of a build. -/
structure BuildInfo where
  number : UInt64
  building : Bool
  result : Option BuildResult
  start : Int64
  duration : UInt64
  parameters : List (String × String)
  queued : Option UInt64
  logSize : Option UInt64
  tests : Option TestCounts
  likelyStuck : Option Bool
  stages : Option (List Stage)
  coverage : Option Coverage
deriving DecidableEq, Repr

/-- The accessors of a build. -/
inductive BuildAccessor where
  | number
  | isBuilding
  | result
  | start
  | duration
  | parent
  | previous
  | parameters
  | queued
  | logSize
  | tests
  | likelyStuck
  | stages
  | coverage
deriving DecidableEq, Repr

/-- A build, the accessors that fail on it, and the number of the job that it was made for. The job
may be gone. -/
structure Build where
  info : BuildInfo
  failing : List BuildAccessor
  jobId : Nat
deriving DecidableEq, Repr

namespace Build

def number (b : Build) : Reading UInt64 := readThrough b.failing .number b.info.number
def isBuilding (b : Build) : Reading Bool := readThrough b.failing .isBuilding b.info.building
def result (b : Build) : Reading (Option BuildResult) := readThrough b.failing .result b.info.result
def start (b : Build) : Reading Int64 := readThrough b.failing .start b.info.start
def duration (b : Build) : Reading UInt64 := readThrough b.failing .duration b.info.duration

/-- The parameters in the order of their declaration. -/
def parameters (b : Build) : Reading (List (String × String)) :=
  readThrough b.failing .parameters b.info.parameters

/-- The time spent in the queue, none if the build was never queued. -/
def queued (b : Build) : Reading (Option UInt64) := readThrough b.failing .queued b.info.queued

def logSize (b : Build) : Reading (Option UInt64) := readThrough b.failing .logSize b.info.logSize
def tests (b : Build) : Reading (Option TestCounts) := readThrough b.failing .tests b.info.tests

/-- Whether the executor considers the build stuck, none without an executor. -/
def likelyStuck (b : Build) : Reading (Option Bool) :=
  readThrough b.failing .likelyStuck b.info.likelyStuck

/-- The stages in order, none without a stage graph. -/
def stages (b : Build) : Reading (Option (List Stage)) :=
  readThrough b.failing .stages b.info.stages

def coverage (b : Build) : Reading (Option Coverage) :=
  readThrough b.failing .coverage b.info.coverage

/-- The build before this one, where `older` are the builds before it, the newest first. It comes
with the builds before itself. -/
def previous (b : Build) (older : List Build) : Reading (Option (Build × List Build)) :=
  readThrough b.failing .previous <| match older with
    | [] => none
    | p :: rest => some (p, rest)

theorem length_lt_of_previous {b p : Build} {older rest : List Build}
    (h : b.previous older = .ok (some (p, rest))) : rest.length < older.length := by
  unfold previous readThrough at h
  split at h
  · cases h
  · cases older <;> simp_all

/-- Reads the builds from `b` back to the first, each through the one after it. -/
def walkBack (b : Build) (older : List Build) : Reading (List Build) :=
  match _h : b.previous older with
  | .error fault => .error fault
  | .ok none => .ok [b]
  | .ok (some (p, rest)) => (p.walkBack rest).map (b :: ·)
termination_by older.length
decreasing_by exact length_lt_of_previous _h

theorem walkBack_of_none {b : Build} {older : List Build} (h : b.previous older = .ok none) :
    b.walkBack older = .ok [b] := by
  rw [walkBack]
  split <;> simp_all

theorem walkBack_of_some {b p : Build} {older rest : List Build}
    (h : b.previous older = .ok (some (p, rest))) :
    b.walkBack older = (p.walkBack rest).map (b :: ·) := by
  rw [walkBack]
  split <;> simp_all

end Build

/-! ## Jobs -/

/-- The attributes of a job. -/
structure JobInfo where
  fullName : String
  buildable : Bool
  healthScore : Int64
  hasDiscarder : Bool
  logUpdated : Option Int64
deriving DecidableEq, Repr

/-- The accessors of a job. -/
inductive JobAccessor where
  | fullName
  | isBuildable
  | healthScore
  | buildCount
  | hasDiscarder
  | lastBuild
  | logUpdated
deriving DecidableEq, Repr

/-- A job with its builds, the oldest first, and the accessors that fail on it. -/
structure Job where
  info : JobInfo
  builds : List Build
  failing : List JobAccessor
deriving DecidableEq, Repr

namespace Job

/-- The builds from the last one back to the first. -/
def newestFirst (j : Job) : List Build := j.builds.reverse

/-- The path-like name of the job. -/
def fullName (j : Job) : Reading String := readThrough j.failing .fullName j.info.fullName

def isBuildable (j : Job) : Reading Bool := readThrough j.failing .isBuildable j.info.buildable
def healthScore (j : Job) : Reading Int64 := readThrough j.failing .healthScore j.info.healthScore
def buildCount (j : Job) : Reading Nat := readThrough j.failing .buildCount j.builds.length
def hasDiscarder (j : Job) : Reading Bool := readThrough j.failing .hasDiscarder j.info.hasDiscarder

/-- The newest build, running or not, with the builds before it. -/
def lastBuild (j : Job) : Reading (Option (Build × List Build)) :=
  readThrough j.failing .lastBuild <| match j.newestFirst with
    | [] => none
    | b :: older => some (b, older)

/-- Reads all builds, from the last one back to the first. -/
def walk (j : Job) : Reading (List Build) := do
  match ← j.lastBuild with
  | none => return []
  | some (last, older) => last.walkBack older

/-- The time of the last log update in milliseconds since the epoch. -/
def logUpdated (j : Job) : Reading (Option Int64) :=
  readThrough j.failing .logUpdated j.info.logUpdated

end Job

/-- A build that completed, and what its number of a job leads to: nothing once the job no longer
exists. -/
structure Completion where
  build : Build
  job : Option Job
deriving DecidableEq, Repr

def Completion.parent (c : Completion) : Reading (Option Job) :=
  readThrough c.build.failing .parent c.job

end BuildTelemetry
