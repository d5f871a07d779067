import BuildTelemetry.Exposition.Basic
import BuildTelemetry.Settings.Config

/-!
# Label schemas

The labels of job and build metrics. Names and values come from one list of slots, so the two
always have the same length and order. The names are needed before any job is looked at.

* `baseSlots`, `buildSlots`: the slots of jobs and those of builds, which begin like them.
* `slotName`: the name of a slot's label.
* `jobLabelValues`, `buildLabelValues`: the values for a job and for one of its builds.
* `jobLabels`, `buildLabels`: the values with their names.
-/

namespace BuildTelemetry

/-- What one label tells about a build or its job. -/
inductive LabelSlot where
  | jobName
  | repository
  | buildable
  | parameters
  | status
  | parameter (name : String)
deriving DecidableEq, Repr

/-- The label of the build's number among the metrics of every build. -/
def numberLabel : String := "number"

/-- The label of the stage's name among the metrics of stages. -/
def stageLabel : String := "stage"

namespace Config

def baseSlots (_ : Config) : List LabelSlot := [.jobName, .repository, .buildable]

def buildSlots (c : Config) : List LabelSlot :=
  c.baseSlots ++ (if c.parametersLabel then [.parameters] else []) ++
    (if c.statusLabel then [.status] else []) ++ c.parameterNames.map .parameter

def slotName (c : Config) : LabelSlot → String
  | .jobName => c.jobLabel
  | .repository => "repo"
  | .buildable => "buildable"
  | .parameters => "parameters"
  | .status => "status"
  | .parameter name => name

def jobLabelNames (c : Config) : List String := c.baseSlots.map c.slotName

def buildLabelNames (c : Config) : List String := c.buildSlots.map c.slotName

end Config

/-! ## Values -/

/-- The value of a repository label without a repository. -/
def noRepository : String := "NA"

/-- The value of a status label while the build is running. -/
def runningStatus : String := "RUNNING"

/-- The value of a missing result or parameter. -/
def undefinedValue : String := "UNDEFINED"

/-- The part of a job's name between its first two slashes. -/
def repository (fullName : String) : String :=
  let behind := (fullName.toList.dropWhile (· != '/')).drop 1
  if behind.contains '/' then String.ofList (behind.takeWhile (· != '/')) else noRepository

def truthText (b : Bool) : String := if b then "true" else "false"

/-- Parameters with their values, separated by semicolons. -/
def parametersText (parameters : List (String × String)) : String :=
  ";".intercalate (parameters.map fun p => p.1 ++ "=" ++ p.2)

/-- The value of the first parameter of a name. -/
def parameterValue (parameters : List (String × String)) (name : String) : String :=
  ((parameters.find? fun p => p.1 == name).map Prod.snd).getD undefinedValue

/-- Reads the status of a build: its result unless it is running. -/
def readStatus (b : Build) : Reading String := do
  if ← b.isBuilding then return runningStatus
  return ((← b.result).map BuildResult.text).getD undefinedValue

def readBaseSlot (j : Job) : LabelSlot → Reading String
  | .jobName => j.fullName
  | .repository => return repository (← j.fullName)
  | .buildable => return truthText (← j.isBuildable)
  | _ => return undefinedValue

/-- Reads the value of a slot of a build with the given parameters. -/
def readBuildSlot (j : Job) (b : Build) (parameters : List (String × String)) :
    LabelSlot → Reading String
  | .parameters => return parametersText parameters
  | .status => readStatus b
  | .parameter name => return parameterValue parameters name
  | slot => readBaseSlot j slot

namespace Config

def jobLabelValues (c : Config) (j : Job) : Reading (List String) :=
  c.baseSlots.mapM (readBaseSlot j)

/-- Reads the label values of a build of a job. The parameters are read first. -/
def buildLabelValues (c : Config) (j : Job) (b : Build) : Reading (List String) := do
  let parameters ← b.parameters
  c.buildSlots.mapM (readBuildSlot j b parameters)

/-- Reads the value of each slot, which comes with the name of its label. -/
def labelsOf (c : Config) (slots : List LabelSlot) (read : LabelSlot → Reading String) :
    Reading (List LabelPair) :=
  slots.mapM fun slot => do return (c.slotName slot, ← read slot)

def jobLabels (c : Config) (j : Job) : Reading (List LabelPair) :=
  c.labelsOf c.baseSlots (readBaseSlot j)

def buildLabels (c : Config) (j : Job) (b : Build) : Reading (List LabelPair) := do
  let parameters ← b.parameters
  c.labelsOf c.buildSlots (readBuildSlot j b parameters)

end Config

end BuildTelemetry
