import BuildTelemetry.Host.Build

/-!
# The host

What the host reports apart from its jobs: the load of its executors, the storage it uses and its
own state.
-/

namespace BuildTelemetry

/-- The load of the executors that carry one node label. -/
structure ExecutorLoad where
  label : String
  available : UInt64
  busy : UInt64
  connecting : UInt64
  defined : UInt64
  idle : UInt64
  online : UInt64
  queueLength : UInt64
deriving DecidableEq, Repr

/-- A top level directory of the host's home. -/
structure DirectoryUsage where
  fileStore : String
  directory : String
  usageKiB : Option UInt64
  fileCount : Option UInt64
deriving DecidableEq, Repr

/-- The storage used by one job. -/
structure JobUsage where
  fileStore : String
  jobName : String
  url : String
  usageKiB : Option UInt64
deriving DecidableEq, Repr

/-- A file store. A size is missing if it cannot be read. -/
structure FileStore where
  name : String
  usable : Option UInt64
  total : Option UInt64
deriving DecidableEq, Repr

/-- The sizes of a file store that can be asked for. -/
inductive StoreSize where
  | usable
  | total
deriving DecidableEq, Repr

/-- Why a size of a file store could not be read. -/
structure StoreError where
  store : String
  size : StoreSize
deriving DecidableEq, Repr

def StoreError.message (e : StoreError) : String :=
  match e.size with
  | .usable => "usable space of " ++ e.store ++ " unavailable"
  | .total => "capacity of " ++ e.store ++ " unavailable"

def FileStore.read (s : FileStore) (size : StoreSize) : Except StoreError UInt64 :=
  match (match size with | .usable => s.usable | .total => s.total) with
  | some bytes => .ok bytes
  | none => .error ⟨s.name, size⟩

/-- The result of the last calculation of disk usage. -/
structure DiskUsage where
  directories : List DirectoryUsage
  jobs : List JobUsage
  stores : List FileStore
deriving DecidableEq, Repr

/-- The state of the host itself. -/
structure HostStatus where
  quietingDown : Bool
  uptime : UInt64
  version : Option String
  nodesOnline : Nat
deriving DecidableEq, Repr

/-- Everything that the host reports apart from its jobs. Disk usage is missing until it has been
calculated once. -/
structure HostReport where
  status : HostStatus
  executors : List ExecutorLoad
  disk : Option DiskUsage
deriving DecidableEq, Repr

def HostReport.initial : HostReport :=
  ⟨⟨false, 0, none, 0⟩, [], none⟩

end BuildTelemetry
