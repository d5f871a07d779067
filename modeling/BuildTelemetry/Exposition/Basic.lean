/-!
# Metric families and samples

What a scrape gives out: families of samples, each sample a name, its label pairs and a value.

* `Sample.label?`: the value of a label, the first of that name.
* `MetricFamily.isEmpty`: a family without samples.
-/

namespace BuildTelemetry

/-- The type that a metric family is announced with. -/
inductive MetricType where
  | counter
  | gauge
  | summary
  | unknown
deriving DecidableEq, Repr, Inhabited

def MetricType.text : MetricType → String
  | .counter => "counter"
  | .gauge => "gauge"
  | .summary => "summary"
  | .unknown => "unknown"

/-- The unit of a metric's values. -/
inductive MetricUnit where
  | bytes
  | milliseconds
deriving DecidableEq, Repr

def MetricUnit.text : MetricUnit → String
  | .bytes => "bytes"
  | .milliseconds => "milliseconds"

abbrev LabelPair := String × String

/-- One exposed value. The name carries the suffix of its type, such as `_total`. -/
structure Sample where
  name : String
  labels : List LabelPair
  value : Float
deriving Repr

namespace Sample

/-- The label names in schema order. -/
def labelNames (s : Sample) : List String := s.labels.map Prod.fst

/-- The label values in schema order. -/
def labelValues (s : Sample) : List String := s.labels.map Prod.snd

/-- The value of the first label called `name`. -/
def label? (s : Sample) (name : String) : Option String :=
  (s.labels.find? fun pair => pair.1 == name).map Prod.snd

/-- Equality of the exposed contents. A sample that holds no number differs from every sample,
itself included. -/
def same (a b : Sample) : Bool :=
  a.name == b.name && a.labels == b.labels && a.value == b.value

end Sample

/-- All samples of one metric with its description. -/
structure MetricFamily where
  name : String
  help : String
  type : MetricType
  unit : Option MetricUnit
  samples : List Sample
deriving Repr

def MetricFamily.isEmpty (f : MetricFamily) : Bool := f.samples.isEmpty

end BuildTelemetry
