import BuildTelemetry.Report.Recording

/-!
# Executors

The load of the executors, one label set for each node label.
-/

namespace BuildTelemetry

/-- The label of the node label that a load belongs to. -/
def nodeLabel : String := "label"

def recordLoad (meters : List MeterId) (load : ExecutorLoad) : Recorder :=
  recordEntity 0 meters (.executor load) [load.label]

def executorFamilies (s : Settings) (loads : List ExecutorLoad) : List MetricFamily :=
  let plan := s.planFor (executorMetrics.map .executor) [nodeLabel]
  let recorded := Journal.each (recordLoad (plan.map PlannedMeter.meter)) loads
  (s.meters plan recorded.notes).map Meter.family

end BuildTelemetry
