import BuildTelemetry.Proofs.Scrape

/-!
# What counters count

A counter is shown under the settings in force, but it counts over the whole history: it is the one
meter of its identity, which every collection of jobs with the same namespace and job label feeds
unless the counter is suppressed at that time. While nothing fails on the host, its value under some
label values is the number of builds that these collections have found to count.

* `JobScrape.counted`: the builds that a collection of jobs counts under label values.
* `countedOver`: those of all collections that feed a counter as it is shown now.
* `valuesAt_shownMeter`: each counter shows their number.
-/

namespace BuildTelemetry

/-! ## 1. Healthy histories -/

/-- Nothing fails on the jobs that exist, whether or not the host lists them. -/
def Host.AllHealthy (h : Host) : Prop := ∀ hosted ∈ h.existing, hosted.job.Healthy

instance (h : Host) : Decidable h.AllHealthy := inferInstanceAs (Decidable (∀ _ ∈ _, _))

theorem Host.AllHealthy.listed {h : Host} (hh : h.AllHealthy) : h.Healthy := by
  intro j hj
  obtain ⟨hosted, hmem, rfl⟩ := List.mem_map.mp hj
  exact hh hosted (List.mem_append_left _ hmem)

theorem Host.AllHealthy.job {h : Host} (hh : h.AllHealthy) {id : Nat} {j : Job}
    (hj : h.job? id = some j) : j.Healthy := by
  obtain ⟨hosted, hfind, rfl⟩ := Option.map_eq_some_iff.mp hj
  exact hh hosted (List.mem_of_find?_eq_some hfind)

/-- Nothing fails on what an event brings along. -/
def Event.Healthy : Event → Prop
  | .complete b => b.Healthy
  | .change host => host.AllHealthy
  | _ => True

instance : (event : Event) → Decidable event.Healthy
  | .complete b => inferInstanceAs (Decidable b.Healthy)
  | .store _ => inferInstanceAs (Decidable True)
  | .change host => inferInstanceAs (Decidable host.AllHealthy)
  | .scrape _ _ => inferInstanceAs (Decidable True)

/-- Nothing fails on what a collection of jobs works on. -/
def JobScrape.Healthy (x : JobScrape) : Prop := x.host.AllHealthy ∧ ∀ b ∈ x.waiting, b.Healthy

/-- In a healthy history every collection of jobs is healthy, and so is what the next one finds. -/
theorem Exporter.healthy_run (active : ActiveSettings) {host : Host} {events : List Event}
    (hhost : host.AllHealthy) (hevents : ∀ event ∈ events, event.Healthy) :
    ((start active host).run events).jobScrape.Healthy ∧
      ∀ x ∈ (start active host).jobScrapes events, x.Healthy := by
  refine history_induction (P := fun e log => e.jobScrape.Healthy ∧ ∀ x ∈ log, x.Healthy)
    active host events ?_ ?_ ?_
  · exact ⟨⟨hhost, fun c hc => absurd hc List.not_mem_nil⟩, fun x hx => absurd hx List.not_mem_nil⟩
  · rintro e log event hmem hother ⟨he, hlog⟩
    refine ⟨?_, hlog⟩
    cases event with
    | complete c =>
      refine ⟨he.1, fun d hd => ?_⟩
      change d ∈ (e.buffer.complete c).waiting at hd
      unfold CompletionBuffer.complete at hd
      -- the buffer drops the build unless it is registered
      split at hd
      · rcases List.mem_append.mp hd with hd | hd
        · exact he.2 d hd
        · exact List.mem_singleton.mp hd ▸ hevents _ hmem
      · exact he.2 d hd
    | store s => exact he
    | change host => exact ⟨hevents _ hmem, he.2⟩
    | scrape collectors now => exact absurd rfl (hother collectors now)
  · rintro e log now ⟨he, hlog⟩
    refine ⟨⟨?_, fun c hc => ?_⟩, fun x hx => ?_⟩
    · have hsame : (e.collectJobs now).1.jobScrape.host = e.host := host_collectJobs e now
      exact hsame ▸ he.1
    · have hnone : (e.collectJobs now).1.jobScrape.waiting = [] := waiting_collectJobs e now
      rw [hnone] at hc
      cases hc
    · rcases List.mem_append.mp hx with hx | hx
      · exact hlog x hx
      · exact List.mem_singleton.mp hx ▸ he

/-! ## 2. Counted builds -/

namespace JobScrape

/-- A build counts under label values: its job is there, is not suppressed and has these label
values. -/
def countsUnder (x : JobScrape) (values : List String) (c : Build) : Bool :=
  (x.host.job? c.jobId).any fun j =>
    x.settings.policy.allowsJob j.info.fullName && j.labelValues == values

/-- The builds that a collection of jobs counts under label values. -/
def counted (x : JobScrape) (values : List String) : List Build :=
  x.waiting.filter (x.countsUnder values)

end JobScrape

/-- The builds that some collections of jobs have counted under label values for a counter as it is
shown under some settings. -/
def countedOver (log : List JobScrape) (s : Settings) (kind : MetricKind) (values : List String) :
    List Build :=
  (log.filter fun x => x.FeedsAsShown s kind).flatMap fun x => x.counted values

/-! ## 3. Recorded builds -/

/-- While nothing fails, a build counts for its job unless that is gone or suppressed. -/
theorem JobScrape.Healthy.countsFor_iff {x : JobScrape} (hx : x.Healthy) {c : Build}
    (hc : c ∈ x.waiting) {j : Job} :
    (x.host.completion c).CountsFor x.settings j ↔
      x.host.job? c.jobId = some j ∧ x.settings.policy.allowsJob j.info.fullName := by
  have hparent : (x.host.completion c).parent = .ok (x.host.job? c.jobId) := by
    exact readThrough_of_not_mem ((hx.2 c hc).not_mem _) _
  constructor
  · intro h
    have hjob := hparent.symm.trans h.parent
    exact ⟨Except.ok.inj hjob, h.allowed⟩
  · rintro ⟨hjob, hallowed⟩
    have hj : j.Healthy := hx.1.job hjob
    exact ⟨hjob ▸ hparent, hj.nameable, hallowed, by rw [hj.1]; exact List.not_mem_nil⟩

/-- What a build that counts for a job leaves for a counter. -/
theorem recordingsFor_countCompletion {s : Settings} {c : Completion} {j : Job} {m : BuildMetric}
    (hj : c.CountsFor s j) (hc : c.build.Healthy) (hm : .build m ∈ s.counters) :
    recordingsFor ⟨.build m, none⟩ (countCompletion s s.counters c).notes =
      (counterMarks m c.build.info.result).map fun mark =>
        ⟨⟨.build m, none⟩, j.labelValues, mark⟩ := by
  rw [countCompletion_eq hj, recordingsFor_recordEntity]
  · rw [measure_counter_of_readable (mem_buildCounters_of_mem_counters hm) (hc.not_mem _)]
  · exact (nodup_counters s).map fun a b hab => (MeterId.mk.inj hab).1
  · exact List.mem_map_of_mem hm
  · intro meter hmeter
    obtain ⟨kind, hkind, rfl⟩ := List.mem_map.mp hmeter
    obtain ⟨n, hn, rfl⟩ := List.mem_map.mp (mem_counters.mp hkind).1
    rw [measure_counter_of_readable hn (hc.not_mem _)]

/-- What a completed build leaves for a counter under label values: its marks if it counts there. -/
theorem under_countCompletion {x : JobScrape} {m : BuildMetric} (hx : x.Healthy)
    (hm : .build m ∈ x.settings.counters) {c : Build} (hc : c ∈ x.waiting)
    (values : List String) :
    Recording.under values (recordingsFor ⟨.build m, none⟩
        (countCompletion x.settings x.settings.counters (x.host.completion c)).notes) =
      if x.countsUnder values c then
        (counterMarks m c.info.result).map fun mark => ⟨⟨.build m, none⟩, values, mark⟩
      else [] := by
  by_cases hcounts : ∃ j, (x.host.completion c).CountsFor x.settings j
  · obtain ⟨j, hj⟩ := hcounts
    obtain ⟨hjob, hallowed⟩ := (hx.countsFor_iff hc).mp hj
    have hunder : x.countsUnder values c = (j.labelValues == values) := by
      simp [JobScrape.countsUnder, hjob, hallowed]
    rw [recordingsFor_countCompletion hj (hx.2 c hc) hm, hunder]
    rw [Recording.under_map fun mark => extra_of_mem_counterMarks]
    by_cases hvalues : j.labelValues = values
    · rw [if_pos hvalues, if_pos (beq_iff_eq.mpr hvalues), ← hvalues]
      rfl
    · rw [if_neg hvalues, if_neg (mt beq_iff_eq.mp hvalues)]
  · have hnone := not_exists.mp hcounts
    have hunder : x.countsUnder values c = false := by
      refine (Option.any_eq_false _ _).mpr fun j hj => ?_
      by_contra hcond
      rw [Bool.not_eq_false, Bool.and_eq_true_iff] at hcond
      exact hnone j ((hx.countsFor_iff hc).mpr ⟨hj, hcond.1⟩)
    rw [notes_countCompletion hnone x.settings.counters, hunder]
    rfl

/-- What the collections of jobs have recorded for a counter under label values: the marks of each
build that they count there. -/
theorem under_recordedFor {log : List JobScrape} (hlog : ∀ x ∈ log, x.Healthy) (s : Settings)
    {m : BuildMetric} (hm : m ∈ buildCounters) (values : List String) :
    Recording.under values (JobScrape.recordedFor (s.counterKey (.build m)) log) =
      (countedOver log s (.build m) values).flatMap fun c =>
        (counterMarks m c.info.result).map fun mark => ⟨⟨.build m, none⟩, values, mark⟩ := by
  have hfilter : log.filter (·.feeds (s.counterKey (.build m))) =
      log.filter fun x => x.FeedsAsShown s (.build m) := by
    refine List.filter_congr fun x _ => ?_
    rw [Bool.eq_iff_iff, decide_eq_true_iff]
    exact JobScrape.feeds_counterKey_iff hm
  rw [JobScrape.recordedFor, Recording.under_flatMap, hfilter, countedOver, List.flatMap_assoc]
  refine List.flatMap_congr fun x hx => ?_
  obtain ⟨hxlog, hfeeds⟩ := List.mem_filter.mp hx
  have hcounter : .build m ∈ x.settings.counters :=
    mem_counters.mpr ⟨List.mem_map_of_mem hm, (decide_eq_true_iff.mp hfeeds).2.2.2⟩
  rw [JobScrape.recordings, countCompletions, List.flatMap_map, recordingsFor_flatMap,
    Recording.under_flatMap, JobScrape.counted, flatMap_filter]
  refine List.flatMap_congr fun c hc => ?_
  exact under_countCompletion (hlog x hxlog) hcounter hc values

/-- The label set of a counter exists once a build has counted there. -/
theorem under_recordedFor_eq_nil_iff {log : List JobScrape} (hlog : ∀ x ∈ log, x.Healthy)
    (s : Settings) {m : BuildMetric} (hm : m ∈ buildCounters) (values : List String) :
    Recording.under values (JobScrape.recordedFor (s.counterKey (.build m)) log) = [] ↔
      countedOver log s (.build m) values = [] := by
  rw [under_recordedFor hlog s hm, List.flatMap_eq_nil_iff]
  constructor
  · intro h
    refine List.eq_nil_iff_forall_not_mem.mpr fun c hc => ?_
    have := h c hc
    simp [counterMarks] at this
  · intro h c hc
    rw [h] at hc
    cases hc

/-- The number of values recorded for a counter is that of the builds whose result counts. -/
theorem length_valuesUnder_recordedFor {log : List JobScrape} (hlog : ∀ x ∈ log, x.Healthy)
    (s : Settings) {m : BuildMetric} (hm : m ∈ buildCounters) (values : List String) :
    (Recording.valuesUnder values
        (JobScrape.recordedFor (s.counterKey (.build m)) log)).length =
      (countedOver log s (.build m) values).countP fun c => m.counts c.info.result := by
  rw [Recording.valuesUnder, under_recordedFor hlog s hm, List.filterMap_flatMap]
  induction countedOver log s (.build m) values with
  | nil => rfl
  | cons c cs ih =>
    rw [List.flatMap_cons, List.length_append, ih, List.countP_cons, Nat.add_comm]
    congr 1
    unfold counterMarks
    split <;> rfl

/-! ## 4. Shown values -/

/-- What the meter of a counter shows after healthy collections of jobs. -/
theorem valuesAt_shownMeter {log : List JobScrape} (hlog : ∀ x ∈ log, x.Healthy) {s : Settings}
    {m : BuildMetric} (hm : m ∈ buildCounters) (hsized : (JobScrape.shownMeter log s m).Sized)
    (values : List String) :
    (JobScrape.shownMeter log s m).family.valuesAt values =
      if countedOver log s (.build m) values = [] then []
      else [(UInt64.ofNat ((countedOver log s (.build m) values).countP fun c =>
        m.counts c.info.result)).toFloat] := by
  have hfresh : (counterMeter (s.counterKey (.build m))).series.fresh = .counter .zero := by
    change (MetricKind.build m).freshInstrument [] = _
    rw [MetricKind.freshInstrument, type_counter m hm]
  rw [JobScrape.shownMeter, Meter.valuesAt_counter hsized (fun _ => rfl) hfresh,
    length_valuesUnder_recordedFor hlog s hm]
  simp only [under_recordedFor_eq_nil_iff hlog s hm]

/-- After every history on which nothing fails, a collection of jobs succeeds and shows of a counter
what all collections up to this one have counted: nothing while the counter is suppressed, else
under each list of label values the number of builds whose result the counter counts. A label set
exists once any build has counted there, whatever its result. -/
theorem counters_of_history (active : ActiveSettings) (host : Host) (events : List Event)
    (hhost : host.AllHealthy) (hevents : ∀ event ∈ events, event.Healthy) (now : Int64)
    {m : BuildMetric} (hm : m ∈ buildCounters) :
    let e := (Exporter.start active host).run events
    let s := e.active.load
    let log := (Exporter.start active host).jobScrapes events ++ [e.jobScrape]
    let name := (MetricKind.build m).exposedName s.nameSpace none
    s.config.countsAnyBuild →
      ∃ families, (e.collectJobs now).2 = .ok families ∧
        (¬s.allows (.build m) → ∀ f ∈ families, f.name ≠ name) ∧
        (s.allows (.build m) → ∀ values, familyValues families name values =
          if countedOver log s (.build m) values = [] then []
          else [(UInt64.ofNat ((countedOver log s (.build m) values).countP fun c =>
            m.counts c.info.result)).toFloat]) := by
  intro e s log name hcounts
  -- the invariants of the history, carried over this last collection
  obtain ⟨hscrape, hlog⟩ := Exporter.healthy_run active hhost hevents
  have hkept := ((Exporter.remembers_run active host events).collectJobs now).wellKept
  have hhealthy : e.host.Healthy := hscrape.1.listed
  refine ⟨_, Exporter.collectJobs_of_nameable hhealthy.nameable now hcounts, ?_, ?_⟩
  · -- names tell all metrics apart, so a family of this name would be one of a metric shown
    intro hdenied f hf hname
    obtain ⟨⟨meter, hmeter, rfl⟩, _⟩ := mem_familiesOf.mp hf
    have hid : meter.descriptor.name = (⟨.build m, none⟩ : MeterId).name s.nameSpace := hname
    have hallows := allows_of_mem_meters hkept hmeter (MeterId.mem_exposedIds (.build m)) hid
    exact hdenied hallows
  · intro hallowed values
    have hcounter : .build m ∈ s.counters :=
      mem_counters.mpr ⟨List.mem_map_of_mem hm, hallowed⟩
    have hmeter :=
      (Exporter.remembers_run active host events).meter?_collectJobs now hcounts hcounter
    have hmem : JobScrape.shownMeter log s m ∈ (JobPlan.of s).meters
        (counterMeters (e.collectJobs now).1.counters s)
        (recordJobs (.of s) now e.host.jobs).notes :=
      mem_meters.mpr (.inr ⟨_, hcounter, hmeter⟩)
    have hall : ∀ x ∈ log, x.Healthy := by
      intro x hx
      rcases List.mem_append.mp hx with hx | hx
      · exact hlog x hx
      · exact List.mem_singleton.mp hx ▸ hscrape
    have hname : (JobScrape.shownMeter log s m).descriptor.name = name :=
      JobScrape.name_shownMeter log s m
    rw [← hname, jobFamilies, familyValues_eq values (nodup_names s hkept _) hmem]
    exact valuesAt_shownMeter hall hm (hkept.fits hmeter).sized values

/-- A build of a job passes and is counted, then the host no longer lists the job, and another build
of it passes: the job has two successes. -/
theorem counters_of_history_two_successes :
    ∃ families, (((Exporter.start (.empty none) ⟨[⟨0, .plain "a" []⟩], [], .initial⟩).run
        [.complete (.plain 1), .scrape [.jobs] 0, .change ⟨[], [⟨0, .plain "a" []⟩], .initial⟩,
          .complete (.plain 2)]).collectJobs 0).2 = .ok families ∧
      familyValues families "default_jenkins_builds_success_build_count" ["a", "NA", "true"] =
        [UInt64.toFloat 2] := by
  obtain ⟨families, hok, _, hvalues⟩ := counters_of_history (.empty none)
    ⟨[⟨0, .plain "a" []⟩], [], .initial⟩
    [.complete (.plain 1), .scrape [.jobs] 0, .change ⟨[], [⟨0, .plain "a" []⟩], .initial⟩,
      .complete (.plain 2)]
    (by decide) (by decide) 0 (m := .successes) (by decide) (by decide)
  refine ⟨families, hok, ?_⟩
  have hshown := hvalues (by decide) ["a", "NA", "true"]
  exact hshown

end BuildTelemetry
