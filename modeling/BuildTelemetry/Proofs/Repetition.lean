import BuildTelemetry.Proofs.Clock

/-!
# Scraping again

A scrape drains the completed builds, begins counters and perhaps registers the buffer. All of that
is done before it shows anything, so a scrape right after it finds nothing left to do.

1. Counting no builds leaves a cache as it is, once every counter that is not suppressed has been
   asked for (`count_nil`). Counting any builds leaves such a cache behind (`count_count_nil`).
2. A collection of jobs after another leaves the exporter as it is and gives what the first would
   have given at that time (`collectJobs_collectJobs`).
3. So does a scrape after another, and both show the same up to the running duration
   (`scrape_idempotent`).
-/

namespace BuildTelemetry

/-! ## 1. Counting nothing -/

namespace CounterCache

variable {c : CounterCache} {s : Settings}

/-- A change that leaves every meter as it is leaves the cache as it is. -/
theorem update_eq_self {f : Meter → Meter} (h : ∀ m, f m = m) (key : CounterKey) :
    c.update key f = c := by
  have hentries :
      c.entries.map (fun e => if e.1 == key then (e.1, e.2.map f) else e) = c.entries := by
    refine (List.map_congr_left fun e _ => ?_).trans (List.map_id _)
    rw [funext h]
    split <;> simp
  exact congrArg CounterCache.mk hentries

theorem recordAll_nil (c : CounterCache) (s : Settings) (kinds : List MetricKind) :
    c.recordAll s kinds [] = c := by
  unfold recordAll
  induction kinds with
  | nil => rfl
  | cons kind kinds ih =>
    have hstep : (c.update (s.counterKey kind) fun m =>
        m.record (recordingsFor ⟨kind, none⟩ [])) = c := update_eq_self (fun _ => rfl) _
    rw [List.foldl_cons, hstep, ih]

/-- A meter that is kept is found, and nothing is added for it. -/
theorem obtain_of_contains {kind : MetricKind} {labelNames : List String}
    {qualifier : Option String}
    (h : s.allows kind → c.contains (keyOf s kind labelNames qualifier)) :
    (c.obtain s kind labelNames qualifier).2 = c := by
  unfold CounterCache.obtain
  split
  · next hallows => rw [if_pos (h hallows)]
  · rfl

theorem obtainAll_of_contains (h : ∀ kind ∈ s.counters, c.contains (s.counterKey kind)) :
    c.obtainAll s = c := by
  have hkinds (kinds : List MetricKind)
      (hall : ∀ kind ∈ kinds, s.allows kind → c.contains (s.counterKey kind)) :
      kinds.foldl (fun c kind => (c.obtain s kind s.config.jobLabelNames none).2) c = c := by
    induction kinds with
    | nil => rfl
    | cons kind kinds ih =>
      rw [List.foldl_cons, obtain_of_contains (hall kind List.mem_cons_self)]
      exact ih fun k hk => hall k (List.mem_cons_of_mem _ hk)
  exact hkinds _ fun kind hkind hallows => h kind (mem_counters.mpr ⟨hkind, hallows⟩)

/-- Counting no builds adds only counters that have not been asked for. -/
theorem count_nil (h : ∀ kind ∈ s.counters, c.contains (s.counterKey kind)) :
    c.count s [] = c := by
  have hnothing : countCompletions s s.counters [] = [] := rfl
  rw [count, hnothing, recordAll_nil, obtainAll_of_contains h]

theorem count_count_nil (c : CounterCache) (s : Settings) (completions : List Completion) :
    (c.count s completions).count s [] = c.count s completions := by
  refine count_nil fun kind hkind => ?_
  have hkey : (s.counterKey kind).kind ∈ s.counters ∧
      s.counterKey (s.counterKey kind).kind = s.counterKey kind := ⟨hkind, rfl⟩
  rw [contains_eq, find?_count, if_pos hkey]
  rfl

end CounterCache

/-! ## 2. Collecting jobs again -/

namespace Exporter

variable {e : Exporter}

/-- A collection of jobs does not touch the last text. -/
theorem exposition_collectJobs (e : Exporter) (now : Int64) :
    (e.collectJobs now).1.exposition = e.exposition := by
  unfold collectJobs
  dsimp only
  split <;> rfl

/-- A collection of jobs finds nothing to do that another has left behind. -/
theorem collectJobs_collectJobs (e : Exporter) (now now' : Int64) :
    (e.collectJobs now).1.collectJobs now' = ((e.collectJobs now).1, (e.collectJobs now').2) := by
  have hactive := active_collectJobs e now
  have hhost := host_collectJobs e now
  have hcounters : ((e.collectJobs now).1.collectJobs now').1.counters =
      (e.collectJobs now).1.counters := by
    rw [counters_collectJobs, waiting_collectJobs, hactive]
    split
    · next hcounts =>
      rw [counters_collectJobs, if_pos hcounts, List.map_nil, CounterCache.count_count_nil]
    · rfl
  have hstate : ((e.collectJobs now).1.collectJobs now').1 = (e.collectJobs now).1 := by
    have hbuffer : ((e.collectJobs now).1.collectJobs now').1.buffer =
        (e.collectJobs now).1.buffer := by
      rw [buffer_collectJobs, buffer_collectJobs, hactive]
    have hactive' := active_collectJobs (e.collectJobs now).1 now'
    have hhost' := host_collectJobs (e.collectJobs now).1 now'
    have hexposition := exposition_collectJobs (e.collectJobs now).1 now'
    generalize ((e.collectJobs now).1.collectJobs now').1 = again at *
    generalize (e.collectJobs now).1 = first at *
    cases again
    cases first
    simp_all
  have hresult : ((e.collectJobs now).1.collectJobs now').2 = (e.collectJobs now').2 := by
    by_cases hcounts : e.active.load.config.countsAnyBuild
    · rw [result_collectJobs now' (hactive ▸ hcounts), result_collectJobs now' hcounts, hactive,
        hhost, hcounters, (collectJobs_timeless e now now').1]
    · rw [result_collectJobs_of_not_counts now' (hactive ▸ hcounts),
        result_collectJobs_of_not_counts now' hcounts]
  exact Prod.ext hstate hresult

/-! ## 3. Scraping again -/

/-- What a scrape leaves behind: the exporter as it was, or as a collection of jobs leaves it. -/
theorem collectAll_fst_cases (e : Exporter) (now : Int64) (collectors : List Collector) :
    (e.collectAll now collectors).1 = e ∨
      (e.collectAll now collectors).1 = (e.collectJobs now).1 := by
  induction collectors generalizing e with
  | nil => exact .inl rfl
  | cons c cs ih =>
    have hfirst :
        (e.collectFrom now c).1 = e ∨ (e.collectFrom now c).1 = (e.collectJobs now).1 := by
      cases c with
      | jobs => exact .inr rfl
      | _ => exact .inl rfl
    rw [collectAll_cons]
    split
    · exact hfirst
    · obtain hfirst | hfirst := hfirst
      · rw [hfirst]
        exact ih e
      · rw [hfirst]
        refine .inr ((ih _).elim id fun hrest => hrest.trans ?_)
        rw [collectJobs_collectJobs]

/-- After a collection of jobs a scrape leaves everything as it is, and shows what it would have
shown before. -/
theorem collectAll_collectJobs (e : Exporter) (now now' : Int64) (collectors : List Collector) :
    (e.collectJobs now).1.collectAll now' collectors =
      ((e.collectJobs now).1, (e.collectAll now' collectors).2) := by
  induction collectors with
  | nil => rfl
  | cons c cs ih =>
    have hfirst : (e.collectJobs now).1.collectFrom now' c =
        ((e.collectJobs now).1, (e.collectFrom now' c).2) := by
      cases c with
      | jobs => exact collectJobs_collectJobs e now now'
      | _ => simp only [collectFrom, active_collectJobs, host_collectJobs]
    -- what is left is shown alike, whether the jobs were collected just now or before
    have hrest : ((e.collectFrom now' c).1.collectAll now' cs).2 = (e.collectAll now' cs).2 := by
      cases c with
      | jobs =>
        show ((e.collectJobs now').1.collectAll now' cs).2 = _
        rw [(collectJobs_timeless e now' now).1, ih]
      | _ => rfl
    rw [collectAll_cons, collectAll_cons, hfirst]
    cases (e.collectFrom now' c).2 with
    | error _ => rfl
    | ok families => rw [ih, hrest]

/-- A scrape right after another leaves the exporter as it is, with every counter, every label set
and every waiting build, and shows what the first would have shown at that time. Whatever the time
is, both show the same up to the running duration. -/
theorem scrape_idempotent (e : Exporter) (collectors : List Collector) (now now' : Int64) :
    (e.scrape collectors now).1.scrape collectors now' =
      ((e.scrape collectors now).1, (e.scrape collectors now').2) ∧
    ((e.scrape collectors now).1.scrape collectors now').2.map
        (·.map (·.timeless e.active.load.nameSpace)) =
      (e.scrape collectors now).2.map (·.map (·.timeless e.active.load.nameSpace)) := by
  have hagain : (e.scrape collectors now).1.scrape collectors now' =
      ((e.scrape collectors now).1, (e.scrape collectors now').2) := by
    have hactive := (active_host_scrape e collectors now).1
    have hall : (e.collectAll now collectors).1.collectAll now' collectors =
        ((e.collectAll now collectors).1, (e.collectAll now' collectors).2) := by
      obtain hkept | hcollected := collectAll_fst_cases e now collectors
      · -- nothing was collected that changes the exporter, and nothing is now
        have hsame := (collectAll_timeless now now' collectors e).1
        rw [hkept] at hsame
        rw [hkept]
        exact Prod.ext hsame.symm rfl
      · rw [hcollected, collectAll_collectJobs]
    show (((e.collectAll now collectors).1.collectAll now' collectors).1,
      ((e.collectAll now collectors).1.collectAll now' collectors).2.map
        (exposed (some (e.scrape collectors now).1.active.load))) = _
    rw [hall, hactive]
    rfl
  refine ⟨hagain, ?_⟩
  rw [hagain]
  exact (scrape_timeless e collectors now' now).2

end Exporter

end BuildTelemetry
