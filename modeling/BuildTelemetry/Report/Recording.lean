import BuildTelemetry.Metric.Meter

/-!
# Recordings

A report looks at the entities of the host one after the other and records marks. Each recording
names its meter and the label values of the entity, so the recordings of different meters and of
different entities can be told apart afterwards.

* `recordEntity`: measures an entity for several meters.
* `Settings.meters`: the meters of a plan with what was recorded for them.
-/

namespace BuildTelemetry

/-- What tells the meters of a report apart. -/
structure MeterId where
  kind : MetricKind
  qualifier : Option String
deriving DecidableEq, Repr

/-- A mark for a meter under the label values of an entity. -/
structure Recording where
  meter : MeterId
  values : List String
  mark : Mark
deriving Repr

/-- Recordings, and whether the host failed. -/
abbrev Recorder := Journal Recording HostFault Unit

def recordAs (meter : MeterId) (values : List String) (m : Measurement) : Recorder :=
  m.mapNotes fun mark => ⟨meter, values, mark⟩

/-- Measures an entity for each of some meters. -/
def recordEntity (now : Int64) (meters : List MeterId) (entity : Entity) (values : List String) :
    Recorder :=
  Journal.each (fun meter => recordAs meter values (meter.kind.measure now entity)) meters

def Meter.record (m : Meter) (recordings : List Recording) : Meter :=
  recordings.foldl (fun m r => m.mark r.values r.mark) m

def recordingsFor (meter : MeterId) (recordings : List Recording) : List Recording :=
  recordings.filter fun r => r.meter == meter

/-- A meter of a report and its label names. -/
structure PlannedMeter where
  meter : MeterId
  labelNames : List String
deriving DecidableEq, Repr

namespace Settings

/-- The meter that a plan begins with. -/
def freshMeter (s : Settings) (planned : PlannedMeter) : Meter :=
  .new planned.meter.kind (.of planned.meter.kind s.nameSpace planned.meter.qualifier)
    planned.labelNames s.config.quantiles

/-- The meters of a plan, in its order, with what was recorded for them. -/
def meters (s : Settings) (plan : List PlannedMeter) (recordings : List Recording) : List Meter :=
  plan.map fun planned =>
    (s.freshMeter planned).record (recordingsFor planned.meter recordings)

/-- The meters of some metrics that are not suppressed, all with the same label names. -/
def planFor (s : Settings) (kinds : List MetricKind) (labelNames : List String) :
    List PlannedMeter :=
  (kinds.filter s.allows).map fun kind => ⟨⟨kind, none⟩, labelNames⟩

end Settings

end BuildTelemetry
