import BuildTelemetry.Report.Recording

/-!
# Status of the host

Whether the host is up, since when, how many nodes are online, and its version as a label.
-/

namespace BuildTelemetry

def versionLabel : String := "version"

def plainHostMetrics : List HostMetric := [.up, .uptime, .quietDown, .nodesOnline]

def statusPlan (s : Settings) : List PlannedMeter :=
  s.planFor (plainHostMetrics.map .host) [] ++ s.planFor [.host .version] [versionLabel]

/-- Records the status. Without a version there is no label set for it. -/
def recordStatus (s : Settings) (status : HostStatus) : Recorder := do
  let metersOf (kinds : List MetricKind) := (s.planFor kinds []).map PlannedMeter.meter
  recordEntity 0 (metersOf (plainHostMetrics.map .host)) (.host status) []
  match status.version with
  | some version => recordEntity 0 (metersOf [.host .version]) (.host status) [version]
  | none => pure ()

def statusFamilies (s : Settings) (status : HostStatus) : List MetricFamily :=
  (s.meters (statusPlan s) (recordStatus s status).notes).map Meter.family

end BuildTelemetry
