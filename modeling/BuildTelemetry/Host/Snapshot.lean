import BuildTelemetry.Host.Build

/-!
# Jobs as they are made

A job is made from the attributes of its builds. It puts them in the order of their numbers and makes
a build of each, which refers to the job and to the build before it.

* `JobSnapshot.new`: a job with its linked builds.
* `JobSnapshot.job`: the job as it is read, with the builds that the links lead to. It reads as the
  links do (`LinkedBuild.previous_build`, `JobSnapshot.lastBuild_job`).
-/

namespace BuildTelemetry

/-- What a build is made from. -/
structure Run where
  info : BuildInfo
  failing : List BuildAccessor
deriving DecidableEq, Repr

/-- The build of a run. It refers to the job of the given number. -/
def Run.build (run : Run) (jobId : Nat) : Build := ⟨run.info, run.failing, jobId⟩

/-- A build that refers to the one before it. -/
inductive LinkedBuild where
  | first (build : Build)
  | after (build : Build) (previous : LinkedBuild)
deriving Repr

namespace LinkedBuild

def build : LinkedBuild → Build
  | first b => b
  | after b _ => b

def previous? : LinkedBuild → Option LinkedBuild
  | first _ => none
  | after _ p => some p

/-- The build before this one, as it is read. -/
def previous (b : LinkedBuild) : Reading (Option LinkedBuild) :=
  readThrough b.build.failing .previous b.previous?

/-- Puts the build of a run behind others, linked to the last of them. -/
def push (jobId : Nat) (linked : List LinkedBuild) (run : Run) : List LinkedBuild :=
  linked ++ [match linked.getLast? with
    | none => first (run.build jobId)
    | some previous => after (run.build jobId) previous]

/-- The builds of some runs, in their order. -/
def link (jobId : Nat) (runs : List Run) : List LinkedBuild := runs.foldl (push jobId) []

/-- The builds before this one along the links, the newest first. -/
def older : LinkedBuild → List Build
  | first _ => []
  | after _ p => p.build :: p.older

def visited (b : LinkedBuild) : List Build := b.build :: b.older

/-- A build with those before it reads as its link does. -/
theorem previous_build (b : LinkedBuild) :
    b.build.previous b.older = b.previous.map (Option.map fun p => (p.build, p.older)) := by
  rw [previous, map_readThrough]
  cases b <;> rfl

end LinkedBuild

/-- A job that owns its builds, the oldest first, and the accessors that fail on it. -/
structure JobSnapshot where
  info : JobInfo
  builds : List LinkedBuild
  failing : List JobAccessor
deriving Repr

namespace JobSnapshot

/-- Makes a job under a number. Builds are put in the order of their numbers, and those of one number
keep their order. -/
def new (id : Nat) (info : JobInfo) (runs : List Run) (failing : List JobAccessor) : JobSnapshot :=
  { info, failing
    builds := LinkedBuild.link id (runs.mergeSort fun a b => a.info.number ≤ b.info.number) }

/-- The first build of the given number. -/
def build? (s : JobSnapshot) (number : UInt64) : Option LinkedBuild :=
  s.builds.find? fun b => b.build.info.number == number

/-- The newest build. -/
def last? (s : JobSnapshot) : Option LinkedBuild := s.builds.getLast?

/-- The newest build, as it is read. -/
def lastBuild (s : JobSnapshot) : Reading (Option LinkedBuild) :=
  readThrough s.failing .lastBuild s.last?

/-- The job as it is read: its builds are those that the links of the newest one lead to. -/
def job (s : JobSnapshot) : Job :=
  ⟨s.info, ((s.last?.map LinkedBuild.visited).getD []).reverse, s.failing⟩

theorem newestFirst_job (s : JobSnapshot) :
    s.job.newestFirst = (s.last?.map LinkedBuild.visited).getD [] := List.reverse_reverse _

theorem lastBuild_job (s : JobSnapshot) :
    s.job.lastBuild = s.lastBuild.map (Option.map fun b => (b.build, b.older)) := by
  rw [lastBuild, map_readThrough, Job.lastBuild, newestFirst_job]
  cases s.last? <;> rfl

end JobSnapshot

end BuildTelemetry
