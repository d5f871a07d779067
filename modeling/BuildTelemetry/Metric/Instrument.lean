import BuildTelemetry.Exposition.Basic
import BuildTelemetry.Decimal.Notation
import BuildTelemetry.Quantile.Sketch

/-!
# Instruments

What holds the state behind one label set: a counter, a gauge or a summary, and the samples that
each of them exposes.

* `Counter.add`: counters wrap at `2 ^ 64`.
* `Summary.observe`: sum, count and, with quantiles, a sketch of the observations.
* `Instrument.record`: a counter counts a value, a gauge takes it, a summary observes it.
-/

namespace BuildTelemetry

/-- An instrument with samples of its own. -/
class Exposable (M : Type) where
  /-- The type that a family of these instruments is announced with. -/
  type : M → MetricType
  /-- The samples of an instrument under a family name and label pairs. -/
  samples : M → String → List LabelPair → List Sample

/-! ## Counters and gauges -/

/-- A number of events modulo `2 ^ 64`. -/
structure Counter where
  value : UInt64
deriving DecidableEq, Repr

namespace Counter

def zero : Counter := ⟨0⟩

def add (c : Counter) (n : UInt64) : Counter := ⟨c.value + n⟩

instance : Exposable Counter where
  type _ := .counter
  samples c name labels := [⟨name ++ "_total", labels, c.value.toFloat⟩]

end Counter

/-- The last value that was set. -/
structure Gauge where
  value : Float
deriving Repr

namespace Gauge

def zero : Gauge := ⟨0.0⟩

instance : Exposable Gauge where
  type _ := .gauge
  samples g name labels := [⟨name, labels, g.value⟩]

end Gauge

/-! ## Summaries -/

def quantileInRange (q : Float) : Bool := 0.0 ≤ q && q ≤ 1.0

/-- The first quantile that lies outside of zero and one. -/
def firstOutOfRange? (quantiles : List Float) : Option Float :=
  quantiles.find? fun q => !quantileInRange q

/-- Sum and count of observations, with a sketch if quantiles are tracked. The count is that modulo
`2 ^ 64`. -/
structure Summary where
  quantiles : List Float
  sum : Float
  count : UInt64
  sketch : Option Quantile.Sketch
deriving Repr

namespace Summary

/-- A summary that tracks sum and count only. -/
def plain : Summary := ⟨[], 0.0, 0, none⟩

/-- A summary that tracks the given quantiles with the given rank error. It fails with the first
quantile that is out of range. -/
def withQuantiles (quantiles : List Float) (error : Float) : Except Float Summary :=
  match firstOutOfRange? quantiles with
  | some q => .error q
  | none =>
    .ok ⟨quantiles, 0.0, 0, if quantiles.isEmpty then none else some (.empty error)⟩

/-- The rank error of the summaries of a scrape. -/
def scrapeError : Float := 0.01

/-- A summary for a scrape: with the given quantiles if they are all in range, else plain. -/
def forScrape (quantiles : List Float) : Summary :=
  match withQuantiles quantiles scrapeError with
  | .ok s => s
  | .error _ => plain

def observe (s : Summary) (v : Float) : Summary :=
  { s with sum := s.sum + v, count := s.count + 1, sketch := s.sketch.map (·.insert v) }

/-- Whether observations can be added. A sketch has to know after how many of them it merges. -/
def isObservable (s : Summary) : Bool := s.sketch.all fun sketch => sketch.compressEvery != 0

/-- Adds some observations, none if that is impossible. -/
def observeAll? (s : Summary) (vs : List Float) : Option Summary :=
  if vs.isEmpty || s.isObservable then some (vs.foldl observe s) else none

/-- The tracked quantiles with their values, none before the first observation. -/
def quantileValues (s : Summary) : List (Float × Float) :=
  match s.sketch with
  | none => []
  | some sketch => s.quantiles.filterMap fun q => (sketch.quantile? q).map fun v => (q, v)

/-- The sample of one quantile. Its label comes last. -/
def quantileSample (name : String) (labels : List LabelPair) (qv : Float × Float) : Sample :=
  ⟨name, labels ++ [("quantile", Decimal.floating qv.1)], qv.2⟩

instance : Exposable Summary where
  type _ := .summary
  samples s name labels :=
    [⟨name ++ "_count", labels, s.count.toFloat⟩, ⟨name ++ "_sum", labels, s.sum⟩] ++
      s.quantileValues.map (quantileSample name labels)

end Summary

/-! ## Any instrument -/

/-- An instrument of any type. -/
inductive Instrument where
  | counter (c : Counter)
  | gauge (g : Gauge)
  | summary (s : Summary)
deriving Repr

namespace Instrument

/-- Records a value: a counter counts it, a gauge takes it and a summary observes it. -/
def record : Instrument → Float → Instrument
  | counter c, _ => counter (c.add 1)
  | gauge _, v => gauge ⟨v⟩
  | summary s, v => summary (s.observe v)

instance : Exposable Instrument where
  type
    | counter c => Exposable.type c
    | gauge g => Exposable.type g
    | summary s => Exposable.type s
  samples
    | counter c => Exposable.samples c
    | gauge g => Exposable.samples g
    | summary s => Exposable.samples s

end Instrument

end BuildTelemetry
