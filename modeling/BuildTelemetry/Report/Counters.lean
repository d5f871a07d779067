import BuildTelemetry.Metric.CounterCache
import BuildTelemetry.Report.Recording
import BuildTelemetry.Label.Schema

/-!
# Counters of completed builds

Each build that completed is counted once, by all counters, under the labels of its job. A build is
not counted if its job is gone or suppressed. A build on which the host fails costs only its own
counting.

* `countCompletion`: what is recorded for one completed build.
* `CounterCache.count`: counts completed builds.
* `counterMeters`: the kept counters in the order of their exposition.
-/

namespace BuildTelemetry

/-- The counters that are not suppressed. -/
def Settings.counters (s : Settings) : List MetricKind :=
  (buildCounters.map MetricKind.build).filter s.allows

/-- The identity under which a counter is kept. -/
def Settings.counterKey (s : Settings) (kind : MetricKind) : CounterKey :=
  CounterCache.keyOf s kind s.config.jobLabelNames none

def countCompletion (s : Settings) (counters : List MetricKind) (c : Completion) : Recorder := do
  match ← c.parent with
  | none => return
  | some j =>
    let name ← j.fullName
    if !s.policy.allowsJob name then return
    let values ← s.config.jobLabelValues j
    recordEntity 0 (counters.map fun kind => ⟨kind, none⟩) (.build c.build) values

def countCompletions (s : Settings) (counters : List MetricKind) (completions : List Completion) :
    List Recording :=
  completions.flatMap fun c => (countCompletion s counters c).notes

namespace CounterCache

def obtainAll (c : CounterCache) (s : Settings) : CounterCache :=
  (buildCounters.map MetricKind.build).foldl
    (fun c kind => (c.obtain s kind s.config.jobLabelNames none).2) c

def recordAll (c : CounterCache) (s : Settings) (counters : List MetricKind)
    (recordings : List Recording) : CounterCache :=
  counters.foldl (fun c kind =>
    c.update (s.counterKey kind) fun m => m.record (recordingsFor ⟨kind, none⟩ recordings)) c

def count (c : CounterCache) (s : Settings) (completions : List Completion) : CounterCache :=
  let counters := s.counters
  (c.obtainAll s).recordAll s counters (countCompletions s counters completions)

end CounterCache

/-- The kept counters that are not suppressed, in the order of their exposition. -/
def counterMeters (c : CounterCache) (s : Settings) : List Meter :=
  s.counters.filterMap fun kind => c.meter? (s.counterKey kind)

end BuildTelemetry
