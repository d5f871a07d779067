import BuildTelemetry.Metric.Measure
import BuildTelemetry.Metric.Series
import BuildTelemetry.Settings.Basic

/-!
# Meters

A meter computes one metric for the label sets of one schema. It is fed entities with their label
values and gives a family of samples. The meter of a suppressed metric does not exist; feeding it
has no effect.

* `Meter.feed`: measures an entity, and fails if the label values do not fit the schema.
* `Settings.meter?`: the meter of a metric under some settings.
* `feed?`, `families?`: the same for a meter that may not exist.
-/

namespace BuildTelemetry

/-- A metric with what has been recorded for it. -/
structure Meter where
  kind : MetricKind
  descriptor : Descriptor
  series : Series Instrument
deriving Repr

/-- Why a meter could not be fed. -/
inductive MeterError where
  | arity (error : ArityError)
  | host (fault : HostFault)
deriving DecidableEq, Repr

/-- The instrument that a label set of a metric starts with. -/
def MetricKind.freshInstrument (kind : MetricKind) (quantiles : List Float) : Instrument :=
  match kind.type with
  | .counter => .counter .zero
  | .summary => .summary (.forScrape quantiles)
  | _ => .gauge .zero

namespace Meter

/-- A meter without label sets. -/
def new (kind : MetricKind) (descriptor : Descriptor) (labelNames : List String)
    (quantiles : List Float) : Meter :=
  ⟨kind, descriptor, .empty labelNames (kind.freshInstrument quantiles)⟩

/-- Records a mark under the label values of its entity. -/
def mark (values : List String) (m : Meter) (mark : Mark) : Meter :=
  { m with series := m.series.touch (values ++ mark.extra) fun instrument =>
      match mark.value with
      | some value => instrument.record value
      | none => instrument }

def markAll (m : Meter) (values : List String) (marks : List Mark) : Meter :=
  marks.foldl (mark values) m

/-- Fails unless there is a value for each label that the entity has to give. -/
def checkArity (m : Meter) (values : List String) : Except ArityError Unit :=
  let names := m.series.labelNames.length
  if values.length + m.kind.extraLabels = names then .ok ()
  else .error ⟨names - m.kind.extraLabels, values.length⟩

/-- Measures an entity. Its label values are checked before anything is read. -/
def feed (m : Meter) (now : Int64) (entity : Entity) (values : List String) :
    Meter × Except MeterError Unit :=
  match m.checkArity values with
  | .error error => (m, .error (.arity error))
  | .ok () =>
    let measurement := m.kind.measure now entity
    (m.markAll values measurement.notes, measurement.result.mapError .host)

def family (m : Meter) : MetricFamily :=
  ⟨m.descriptor.name, m.descriptor.help, m.descriptor.type, m.descriptor.unit,
    m.series.samples m.descriptor.name⟩

end Meter

/-- The meter of a metric under some settings. There is none if the metric is suppressed. -/
def Settings.meter? (s : Settings) (kind : MetricKind) (labelNames : List String)
    (qualifier : Option String) : Option Meter :=
  if s.allows kind then
    some (.new kind (.of kind s.nameSpace qualifier) labelNames s.config.quantiles)
  else none

/-- The meter of a metric for one sort of entities. There is none either if the metric is computed
from another sort. -/
def Settings.meterFor? (s : Settings) (subject : Subject) (kind : MetricKind)
    (labelNames : List String) (qualifier : Option String) : Option Meter :=
  if kind.subject = subject then s.meter? kind labelNames qualifier else none

def feed? (m : Option Meter) (now : Int64) (entity : Entity) (values : List String) :
    Option Meter × Except MeterError Unit :=
  match m with
  | none => (none, .ok ())
  | some m => ((m.feed now entity values).1, (m.feed now entity values).2)

def families? (m : Option Meter) : List MetricFamily := m.toList.map Meter.family

end BuildTelemetry
