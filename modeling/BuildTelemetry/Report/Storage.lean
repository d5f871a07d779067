import BuildTelemetry.Report.Recording

/-!
# Storage

The last disk usage that the host calculated: its directories, its jobs and its file stores.
-/

namespace BuildTelemetry

/-- The label of the file store that a measurement belongs to. -/
def storeLabel : String := "file_store"

def directoryLabel : String := "directory"

/-- The label of a job in the disk usage of jobs. -/
def diskJobLabel : String := "jobName"

def urlLabel : String := "url"

def recordDirectory (meters : List MeterId) (item : DirectoryUsage) : Recorder :=
  recordEntity 0 meters (.directory item) [item.fileStore, item.directory]

def recordJobUsage (meters : List MeterId) (item : JobUsage) : Recorder :=
  recordEntity 0 meters (.jobUsage item) [item.fileStore, item.jobName, item.url]

def recordStore (meters : List MeterId) (store : FileStore) : Recorder :=
  recordEntity 0 meters (.fileStore store) [store.name]

def storagePartFamilies {α : Type} (s : Settings) (plan : List PlannedMeter)
    (record : List MeterId → α → Recorder) (items : List α) : List MetricFamily :=
  (s.meters plan (Journal.each (record (plan.map PlannedMeter.meter)) items).notes).map Meter.family

/-- The families of the disk usage. There are none while it is not collected, or not calculated. -/
def storageFamilies (s : Settings) (usage : Option DiskUsage) : List MetricFamily :=
  if !s.config.collectDiskUsage then []
  else match usage with
    | none => []
    | some usage =>
      storagePartFamilies s
          (s.planFor (directoryMetrics.map .directory) [storeLabel, directoryLabel])
          recordDirectory usage.directories ++
        storagePartFamilies s (s.planFor [.jobUsage] [storeLabel, diskJobLabel, urlLabel])
          recordJobUsage usage.jobs ++
        storagePartFamilies s (s.planFor (storeSizes.map .fileStore) [storeLabel])
          recordStore usage.stores

end BuildTelemetry
