import BuildTelemetry.Exporter.Basic
import BuildTelemetry.Proofs.Counters
import BuildTelemetry.Proofs.Families

/-!
# Histories of an exporter

Builds complete, settings are replaced, the host changes and scrapes run, in any order. The counters
are the only thing that a collection of jobs leaves behind, so a history is told by its collections
of jobs: the settings, the host and the waiting builds of each.

* `Event`, `Exporter.run`: what happens to an exporter, and where it leads.
* `Exporter.jobScrapes`: the collections of jobs of a history.
* `Exporter.history_induction`: what every event preserves holds after every history.
* `Exporter.remembers_run`: the kept counters after a history.
-/

namespace BuildTelemetry

/-- What happens to an exporter. -/
inductive Event where
  /-- A build completes. -/
  | complete (c : Build)
  /-- Other settings come into force. -/
  | store (s : Settings)
  /-- The host changes, its jobs included. -/
  | change (host : Host)
  /-- Some collectors are asked for their families at a time. -/
  | scrape (collectors : List Collector) (now : Int64)

/-- What a collection of jobs begins with. -/
structure JobScrape where
  settings : Settings
  host : Host
  waiting : List Build

namespace Exporter

/-! ## 1. Runs -/

/-- The state after an event. -/
def step (e : Exporter) : Event → Exporter
  | .complete c => e.complete c
  | .store s => { e with active := e.active.store s }
  | .change host => { e with host }
  | .scrape collectors now => (e.scrape collectors now).1

/-- The state after some events. -/
def run (e : Exporter) (events : List Event) : Exporter := events.foldl step e

/-- What a collection of jobs begins with in a state. -/
def jobScrape (e : Exporter) : JobScrape := ⟨e.active.load, e.host, e.buffer.waiting⟩

/-- The collections of jobs that a scrape makes before it ends. -/
def jobScrapesWithin (now : Int64) : Exporter → List Collector → List JobScrape
  | _, [] => []
  | e, c :: cs =>
    (if c = .jobs then [e.jobScrape] else []) ++
      match e.collectFrom now c with
      | (_, .error _) => []
      | (after, .ok _) => jobScrapesWithin now after cs

/-- The collections of jobs of some events. -/
def jobScrapes : Exporter → List Event → List JobScrape
  | _, [] => []
  | e, .scrape collectors now :: events =>
    jobScrapesWithin now e collectors ++ jobScrapes (e.step (.scrape collectors now)) events
  | e, event :: events => jobScrapes (e.step event) events

theorem jobScrapesWithin_of_not_mem {now : Int64} {collectors : List Collector}
    (h : .jobs ∉ collectors) (e : Exporter) : jobScrapesWithin now e collectors = [] := by
  induction collectors generalizing e with
  | nil => rfl
  | cons c cs ih =>
    rw [List.mem_cons, not_or] at h
    obtain ⟨hc, hcs⟩ := h
    rw [jobScrapesWithin, if_neg (Ne.symm hc)]
    split
    · rfl
    · exact ih hcs _

/-- Collectors that begin with the jobs collect them once. -/
theorem jobScrapesWithin_jobs {now : Int64} {collectors : List Collector}
    (h : .jobs ∉ collectors) (e : Exporter) :
    jobScrapesWithin now e (.jobs :: collectors) = [e.jobScrape] := by
  rw [jobScrapesWithin, if_pos rfl]
  split
  · rfl
  · rw [jobScrapesWithin_of_not_mem h]
    rfl

section Induction

variable {P : Exporter → List JobScrape → Prop}

/-- What a collection of jobs preserves, every scrape preserves. -/
theorem collectAll_induction (now : Int64)
    (hcollect : ∀ e log, P e log → P (e.collectJobs now).1 (log ++ [e.jobScrape]))
    (collectors : List Collector) (e : Exporter) (log : List JobScrape) (h : P e log) :
    P (e.collectAll now collectors).1 (log ++ e.jobScrapesWithin now collectors) := by
  induction collectors generalizing e log with
  | nil => simpa [collectAll, jobScrapesWithin] using h
  | cons c cs ih =>
    have hstep : P (e.collectFrom now c).1 (log ++ if c = .jobs then [e.jobScrape] else []) := by
      -- no other collector changes the exporter
      cases c with
      | jobs => exact hcollect e log h
      | _ => simpa [collectFrom] using h
    cases hfrom : e.collectFrom now c with
    | mk after result =>
      rw [hfrom] at hstep
      rw [collectAll, jobScrapesWithin, hfrom, ← List.append_assoc]
      cases result with
      | error fault =>
        -- the scrape ends here, and what was collected up to here stays in the history
        rw [List.append_nil]
        exact hstep
      | ok families =>
        have hrest := ih _ _ hstep
        cases hall : after.collectAll now cs with
        | mk final rest =>
          simp only [hall] at hrest ⊢
          cases rest <;> exact hrest

/-- What collections of jobs and all other events preserve holds after every history. -/
theorem run_induction (events : List Event) (e : Exporter) (log : List JobScrape)
    (hevent : ∀ e log, ∀ event ∈ events, (∀ collectors now, event ≠ .scrape collectors now) →
      P e log → P (e.step event) log)
    (hcollect : ∀ e log now, P e log → P (e.collectJobs now).1 (log ++ [e.jobScrape]))
    (h : P e log) : P (e.run events) (log ++ e.jobScrapes events) := by
  induction events generalizing e log with
  | nil => simpa [run, jobScrapes] using h
  | cons event events ih =>
    have hrest := fun e log h => ih e log
      (fun e log event hmem => hevent e log event (List.mem_cons_of_mem _ hmem)) h
    cases event with
    | scrape collectors now =>
      have hscrape := collectAll_induction now (fun e log => hcollect e log now) collectors e log h
      simpa [run, jobScrapes, step, scrape] using hrest _ _ hscrape
    | _ => exact hrest _ _ (hevent e log _ List.mem_cons_self (by simp) h)

/-- What an exporter has when it starts, and what collections of jobs and all other events preserve,
it has after every history. -/
theorem history_induction (active : ActiveSettings) (host : Host) (events : List Event)
    (hstart : P (start active host) [])
    (hevent : ∀ e log, ∀ event ∈ events, (∀ collectors now, event ≠ .scrape collectors now) →
      P e log → P (e.step event) log)
    (hcollect : ∀ e log now, P e log → P (e.collectJobs now).1 (log ++ [e.jobScrape])) :
    P ((start active host).run events) ((start active host).jobScrapes events) :=
  run_induction events _ _ hevent hcollect hstart

end Induction

/-! ## 2. Collections of jobs -/

variable {e : Exporter}

@[simp] theorem active_collectJobs (e : Exporter) (now : Int64) :
    (e.collectJobs now).1.active = e.active := by
  unfold collectJobs
  dsimp only
  split <;> rfl

@[simp] theorem host_collectJobs (e : Exporter) (now : Int64) :
    (e.collectJobs now).1.host = e.host := by
  unfold collectJobs
  dsimp only
  split <;> rfl

/-- After a collection of jobs no build waits, and the buffer is registered exactly if any result is
counted. -/
theorem buffer_collectJobs (e : Exporter) (now : Int64) :
    (e.collectJobs now).1.buffer = ⟨[], e.active.load.config.countsAnyBuild⟩ := by
  unfold collectJobs
  dsimp only
  cases e.active.load.config.countsAnyBuild with
  | false => rfl
  | true => rfl

@[simp] theorem waiting_collectJobs (e : Exporter) (now : Int64) :
    (e.collectJobs now).1.buffer.waiting = [] := by
  rw [buffer_collectJobs]

/-- A scrape changes neither the settings nor the host. -/
theorem active_host_scrape (e : Exporter) (collectors : List Collector) (now : Int64) :
    (e.scrape collectors now).1.active = e.active ∧ (e.scrape collectors now).1.host = e.host := by
  refine collectAll_induction (P := fun after _ => after.active = e.active ∧ after.host = e.host)
    now ?_ collectors e [] ⟨rfl, rfl⟩
  rintro after _ ⟨hactive, hhost⟩
  exact ⟨(active_collectJobs after now).trans hactive, (host_collectJobs after now).trans hhost⟩

/-- The counters that a collection of jobs leaves behind. -/
theorem counters_collectJobs (e : Exporter) (now : Int64) :
    (e.collectJobs now).1.counters =
      if e.active.load.config.countsAnyBuild then
        e.counters.count e.active.load (e.buffer.waiting.map e.host.completion)
      else e.counters := by
  unfold collectJobs
  cases h : e.active.load.config.countsAnyBuild
  · simp [h]
  · simp only [h, if_true]
    rfl

theorem result_collectJobs_of_not_counts (now : Int64)
    (h : ¬e.active.load.config.countsAnyBuild) : (e.collectJobs now).2 = .ok [] := by
  unfold collectJobs
  simp [h]

/-- The families that a collection of jobs gives while any result is counted. -/
theorem result_collectJobs (now : Int64) (h : e.active.load.config.countsAnyBuild) :
    (e.collectJobs now).2 =
      (recordJobs (.of e.active.load) now e.host.jobs).result.map fun _ =>
        familiesOf ((JobPlan.of e.active.load).meters
          (counterMeters (e.collectJobs now).1.counters e.active.load)
          (recordJobs (.of e.active.load) now e.host.jobs).notes) := by
  rw [counters_collectJobs, if_pos h]
  unfold collectJobs
  simp only [h]
  rfl

end Exporter

/-! ## 3. Kept counters -/

namespace JobScrape

/-- What a collection of jobs records for counters. -/
def recordings (x : JobScrape) : List Recording :=
  countCompletions x.settings x.settings.counters (x.waiting.map x.host.completion)

/-- Whether a collection of jobs feeds the counter of an identity. -/
def feeds (x : JobScrape) (key : CounterKey) : Bool :=
  x.settings.config.countsAnyBuild && x.settings.counters.contains key.kind &&
    x.settings.counterKey key.kind == key

theorem feeds_iff {x : JobScrape} {key : CounterKey} :
    x.feeds key ↔ x.settings.config.countsAnyBuild ∧
      key.kind ∈ x.settings.counters ∧ x.settings.counterKey key.kind = key := by
  simp [feeds, and_assoc]

/-- A collection of jobs feeds a counter as it is shown under some settings: it counts any builds,
it has the namespace and the job label of these settings, and it does not suppress the counter. -/
def FeedsAsShown (x : JobScrape) (s : Settings) (kind : MetricKind) : Prop :=
  x.settings.config.countsAnyBuild ∧ x.settings.nameSpace = s.nameSpace ∧
    x.settings.config.jobLabel = s.config.jobLabel ∧ x.settings.allows kind

instance (x : JobScrape) (s : Settings) (kind : MetricKind) : Decidable (x.FeedsAsShown s kind) :=
  inferInstanceAs (Decidable (_ ∧ _))

theorem feeds_counterKey_iff {x : JobScrape} {s : Settings} {m : BuildMetric}
    (hm : m ∈ buildCounters) :
    x.feeds (s.counterKey (.build m)) ↔ x.FeedsAsShown s (.build m) := by
  have hkey : x.settings.counterKey (.build m) = s.counterKey (.build m) ↔
      x.settings.config.jobLabel = s.config.jobLabel ∧ x.settings.nameSpace = s.nameSpace := by
    simp [Settings.counterKey, CounterCache.keyOf, Config.jobLabelNames_eq]
  have hkind : (s.counterKey (.build m)).kind = .build m := rfl
  rw [feeds_iff, hkind, hkey, mem_counters, FeedsAsShown]
  have hmem : MetricKind.build m ∈ buildCounters.map MetricKind.build := List.mem_map_of_mem hm
  tauto

/-- What some collections of jobs record for the counter of an identity. -/
def recordedFor (key : CounterKey) (log : List JobScrape) : List Recording :=
  (log.filter (·.feeds key)).flatMap fun x => recordingsFor ⟨key.kind, none⟩ x.recordings

/-- What is kept under an identity after some collections of jobs: a meter with all that they
recorded for it, once one of them has fed it. -/
def kept (key : CounterKey) (log : List JobScrape) : Option Meter :=
  if log.any (·.feeds key) then some ((counterMeter key).record (recordedFor key log)) else none

/-- A collection of jobs that feeds a counter adds to it. -/
theorem kept_append_of_feeds {key : CounterKey} {x : JobScrape} (log : List JobScrape)
    (h : x.feeds key) :
    kept key (log ++ [x]) = some (((kept key log).getD (counterMeter key)).record
      (recordingsFor ⟨key.kind, none⟩ x.recordings)) := by
  have hall : recordedFor key (log ++ [x]) =
      recordedFor key log ++ recordingsFor ⟨key.kind, none⟩ x.recordings := by
    simp [recordedFor, List.filter_append, h]
  rw [kept, if_pos (by simp [h]), hall, Meter.record_append, kept]
  split
  · rfl
  · next hnone =>
    have hnothing : recordedFor key log = [] := by
      rw [Bool.not_eq_true, List.any_eq_false] at hnone
      rw [recordedFor, List.filter_eq_nil_iff.mpr hnone, List.flatMap_nil]
    rw [hnothing]
    rfl

/-- A collection of jobs that does not feed a counter leaves it as it is. -/
theorem kept_append_of_not_feeds {key : CounterKey} {x : JobScrape} (log : List JobScrape)
    (h : ¬x.feeds key) : kept key (log ++ [x]) = kept key log := by
  simp [kept, recordedFor, List.filter_append, h]

/-- The meter of a counter as it is shown under some settings after some collections of jobs. -/
def shownMeter (log : List JobScrape) (s : Settings) (m : BuildMetric) : Meter :=
  (counterMeter (s.counterKey (.build m))).record (recordedFor (s.counterKey (.build m)) log)

theorem name_shownMeter (log : List JobScrape) (s : Settings) (m : BuildMetric) :
    (shownMeter log s m).descriptor.name = (⟨.build m, none⟩ : MeterId).name s.nameSpace := by
  rw [shownMeter, Meter.descriptor_record]
  rfl

end JobScrape

namespace Exporter

theorem feeds_jobScrape {e : Exporter} {key : CounterKey} :
    e.jobScrape.feeds key ↔ e.active.load.config.countsAnyBuild ∧
      key.kind ∈ e.active.load.counters ∧ e.active.load.counterKey key.kind = key :=
  JobScrape.feeds_iff

/-- The kept counters are those that some collections of jobs have left, and nothing else. -/
def Remembers (e : Exporter) (log : List JobScrape) : Prop :=
  ∀ key, e.counters.find? key = (JobScrape.kept key log).map some

/-- A collection of jobs adds to the kept counters what it records. -/
theorem Remembers.collectJobs {e : Exporter} {log : List JobScrape} (h : e.Remembers log)
    (now : Int64) : (e.collectJobs now).1.Remembers (log ++ [e.jobScrape]) := by
  intro key
  rw [counters_collectJobs]
  by_cases hfeeds : e.jobScrape.feeds key
  · obtain ⟨hcounts, hkind, hkey⟩ := feeds_jobScrape.mp hfeeds
    rw [if_pos hcounts, CounterCache.find?_count, if_pos ⟨hkind, hkey⟩, h,
      JobScrape.kept_append_of_feeds log hfeeds]
    cases JobScrape.kept key log <;> rfl
  · -- nothing is counted at all, or not for this identity
    rw [JobScrape.kept_append_of_not_feeds log hfeeds, ← h]
    split
    · next hcounts =>
      rw [CounterCache.find?_count, if_neg]
      exact fun hkey => hfeeds (feeds_jobScrape.mpr ⟨hcounts, hkey⟩)
    · rfl

/-- After every history the counter of each identity holds what the collections of jobs recorded for
it, in their order. -/
theorem remembers_run (active : ActiveSettings) (host : Host) (events : List Event) :
    ((start active host).run events).Remembers ((start active host).jobScrapes events) := by
  refine history_induction (P := Remembers) active host events ?_ ?_ ?_
  · exact fun key => rfl
  · intro e log event _ hother h key
    cases event with
    | scrape collectors now => exact absurd rfl (hother collectors now)
    | _ => exact h key
  · intro e log now h
    exact h.collectJobs now

/-- A counter that has been fed is kept. -/
theorem Remembers.meter? {e : Exporter} {log : List JobScrape} (h : e.Remembers log)
    {key : CounterKey} {x : JobScrape} (hx : x ∈ log) (hfeeds : x.feeds key) :
    e.counters.meter? key =
      some ((counterMeter key).record (JobScrape.recordedFor key log)) := by
  rw [CounterCache.meter?_eq, h, JobScrape.kept,
    if_pos (List.any_eq_true.mpr ⟨x, hx, hfeeds⟩)]
  rfl

/-- A collection of jobs shows each counter that is not suppressed, with all that was recorded for
it up to this collection. -/
theorem Remembers.meter?_collectJobs {e : Exporter} {log : List JobScrape} (h : e.Remembers log)
    (now : Int64) (hcounts : e.active.load.config.countsAnyBuild) {m : BuildMetric}
    (hm : .build m ∈ e.active.load.counters) :
    (e.collectJobs now).1.counters.meter? (e.active.load.counterKey (.build m)) =
      some (JobScrape.shownMeter (log ++ [e.jobScrape]) e.active.load m) :=
  (h.collectJobs now).meter? (List.mem_append_right _ (List.mem_singleton_self _))
    (feeds_jobScrape.mpr ⟨hcounts, hm, rfl⟩)

/-- All kept meters fit their identities. -/
theorem Remembers.wellKept {e : Exporter} {log : List JobScrape} (h : e.Remembers log) :
    e.counters.WellKept := by
  intro key m hfind
  rw [h, JobScrape.kept] at hfind
  split at hfind
  · cases hfind
    refine (fits_counterMeter key).record fun r hr => ?_
    obtain ⟨x, hx, hmem⟩ := List.mem_flatMap.mp hr
    obtain ⟨_, _, hkey⟩ := JobScrape.feeds_iff.mp (List.mem_filter.mp hx).2
    rw [length_of_mem_countCompletions (List.mem_filter.mp hmem).1, ← hkey]
    rfl
  · cases hfind

end Exporter

end BuildTelemetry
