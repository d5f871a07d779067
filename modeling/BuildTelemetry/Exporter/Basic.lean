import BuildTelemetry.Completion.Buffer
import BuildTelemetry.Report.Jobs
import BuildTelemetry.Report.Counters
import BuildTelemetry.Report.Coverage
import BuildTelemetry.Report.Executors
import BuildTelemetry.Report.Storage
import BuildTelemetry.Report.Status
import BuildTelemetry.Host.Basic
import BuildTelemetry.Exporter.Registry

/-!
# The exporter

An exporter reads a host under the settings in force. It keeps the builds that completed since the
last scrape, the counters, and the text of the last collection.

* `Exporter.scrape`: asks collectors for their families, in order.
* `Exporter.collect`: scrapes and keeps the text.
* `Exporter.apply`: replaces the settings if they are valid.
-/

namespace BuildTelemetry

/-! ## The host -/

/-- A job of the host. Its number tells it apart from every other job, past and present. -/
structure HostedJob where
  id : Nat
  job : Job
deriving DecidableEq, Repr

/-- The jobs of the host and everything else that it reports. A job that is no longer listed exists
for as long as something else keeps it. -/
structure Host where
  hosted : List HostedJob
  unlisted : List HostedJob
  report : HostReport
deriving DecidableEq, Repr

namespace Host

/-- A host that has just started, without jobs. -/
def empty : Host := ⟨[], [], .initial⟩

/-- The jobs that the host lists. -/
def jobs (h : Host) : List Job := h.hosted.map HostedJob.job

/-- The jobs that exist, whether or not the host lists them. -/
def existing (h : Host) : List HostedJob := h.hosted ++ h.unlisted

/-- The job of a number, if it exists. -/
def job? (h : Host) (id : Nat) : Option Job :=
  (h.existing.find? fun hosted => hosted.id == id).map HostedJob.job

def addJob (h : Host) (id : Nat) (job : Job) : Host := { h with hosted := h.hosted ++ [⟨id, job⟩] }

/-- Removes a job, which nothing else keeps. -/
def removeJob (h : Host) (id : Nat) : Host :=
  { h with
    hosted := h.hosted.filter fun hosted => hosted.id != id
    unlisted := h.unlisted.filter fun hosted => hosted.id != id }

/-- No longer lists a job, which something else keeps. -/
def unlistJob (h : Host) (id : Nat) : Host :=
  { h with
    hosted := h.hosted.filter fun hosted => hosted.id != id
    unlisted := (h.hosted.filter fun hosted => hosted.id == id) ++ h.unlisted }

/-- A completed build with its job, if that still exists. -/
def completion (h : Host) (b : Build) : Completion := ⟨b, h.job? b.jobId⟩

end Host

/-! ## The exporter -/

/-- The parts of the host that families are collected from. -/
inductive Collector where
  | jobs
  | executors
  | storage
  | status
  | coverage
deriving DecidableEq, Repr

/-- The state of an exporter. -/
structure Exporter where
  active : ActiveSettings
  host : Host
  buffer : CompletionBuffer Build
  counters : CounterCache
  exposition : String
deriving Repr

namespace Exporter

def start (active : ActiveSettings) (host : Host) : Exporter :=
  ⟨active, host, .empty, .empty, ""⟩

def complete (e : Exporter) (b : Build) : Exporter :=
  { e with buffer := e.buffer.complete b }

/-- Collects jobs and builds at the time `now`. The builds that wait are counted first. While no
result is counted nothing is collected, and the builds that wait are forgotten. -/
def collectJobs (e : Exporter) (now : Int64) : Exporter × Reading (List MetricFamily) :=
  let s := e.active.load
  if !s.config.countsAnyBuild then ({ e with buffer := e.buffer.unregister }, .ok [])
  else
    let (drained, buffer) := e.buffer.register.drain
    let counters := e.counters.count s (drained.items.map e.host.completion)
    let plan := JobPlan.of s
    let recorded := recordJobs plan now e.host.jobs
    let meters := plan.meters (counterMeters counters s) recorded.notes
    ({ e with buffer, counters },
      recorded.result.map fun _ => (meters.map Meter.family).filter fun f => !f.isEmpty)

def collectFrom (e : Exporter) (now : Int64) :
    Collector → Exporter × Reading (List MetricFamily)
  | .jobs => e.collectJobs now
  | .executors => (e, .ok (executorFamilies e.active.load e.host.report.executors))
  | .storage => (e, .ok (storageFamilies e.active.load e.host.report.disk))
  | .status => (e, .ok (statusFamilies e.active.load e.host.report.status))
  | .coverage => (e, coverageFamilies e.active.load e.host.jobs)

/-- The families of several parts of the host, in order, up to the first on which the host fails. -/
def collectAll (e : Exporter) (now : Int64) :
    List Collector → Exporter × Reading (List MetricFamily)
  | [] => (e, .ok [])
  | c :: cs =>
    match e.collectFrom now c with
    | (e, .error fault) => (e, .error fault)
    | (e, .ok families) =>
      match e.collectAll now cs with
      | (e, .error fault) => (e, .error fault)
      | (e, .ok rest) => (e, .ok (families ++ rest))

/-- Collects the families that are exposed under the settings in force. -/
def scrape (e : Exporter) (collectors : List Collector) (now : Int64) :
    Exporter × Reading (List MetricFamily) :=
  let (after, collected) := e.collectAll now collectors
  (after, collected.map (exposed (some e.active.load)))

/-- Scrapes and keeps the text of the families. If the host fails the last text is kept. -/
def collect (e : Exporter) (collectors : List Collector) (now : Int64) :
    Exporter × Reading Unit :=
  match e.scrape collectors now with
  | (e, .ok families) => ({ e with exposition := Exposition.encode families }, .ok ())
  | (e, .error fault) => (e, .error fault)

/-- Puts a configuration into force if it is valid. -/
def apply (e : Exporter) (config : Config) : Except ConfigError Exporter :=
  (e.active.apply config).map fun active => { e with active }

/-- The period of the background collection in seconds. -/
def period (e : Exporter) : UInt64 := e.active.load.config.period

end Exporter

end BuildTelemetry
