import BuildTelemetry.Metric.Meter

/-!
# Counters that outlive a scrape

Counters keep counting from one scrape to the next, so their meters are kept. A meter is identified
by its metric, its label names, its qualifier and the namespace; a change of any of them starts a
new one. A suppressed counter keeps its count, but counts nothing meanwhile.

* `CounterCache.obtain`: finds or creates the meter of an identity.
* `CounterCache.update`: changes the meter of an identity.
-/

namespace BuildTelemetry

/-- The identity of a kept meter. -/
structure CounterKey where
  kind : MetricKind
  labelNames : List String
  qualifier : Option String
  nameSpace : String
deriving DecidableEq, Repr

/-- The kept meters, each under its identity. A metric that is not computed from builds has none. -/
structure CounterCache where
  entries : List (CounterKey × Option Meter)
deriving Repr

namespace CounterCache

def empty : CounterCache := ⟨[]⟩

/-- The number of identities. -/
def size (c : CounterCache) : Nat := c.entries.length

def contains (c : CounterCache) (key : CounterKey) : Bool := c.entries.any fun e => e.1 == key

def meter? (c : CounterCache) (key : CounterKey) : Option Meter :=
  (c.entries.find? fun e => e.1 == key).bind Prod.snd

def update (c : CounterCache) (key : CounterKey) (f : Meter → Meter) : CounterCache :=
  ⟨c.entries.map fun e => if e.1 == key then (e.1, e.2.map f) else e⟩

def keyOf (s : Settings) (kind : MetricKind) (labelNames : List String)
    (qualifier : Option String) : CounterKey :=
  ⟨kind, labelNames, qualifier, s.nameSpace⟩

/-- Makes sure that the meter of a metric is kept. Nothing is kept for a suppressed metric. The
identity is none then. -/
def obtain (c : CounterCache) (s : Settings) (kind : MetricKind) (labelNames : List String)
    (qualifier : Option String) : Option CounterKey × CounterCache :=
  if s.allows kind then
    let key := keyOf s kind labelNames qualifier
    if c.contains key then (some key, c)
    else (some key, ⟨c.entries ++ [(key, s.meterFor? .build kind labelNames qualifier)]⟩)
  else (none, c)

def feed (c : CounterCache) (key : CounterKey) (now : Int64) (entity : Entity)
    (values : List String) : CounterCache × Except MeterError Unit :=
  match c.meter? key with
  | none => (c, .ok ())
  | some m => (c.update key fun _ => (m.feed now entity values).1, (m.feed now entity values).2)

end CounterCache

end BuildTelemetry
