import BuildTelemetry.Proofs.Isolation

/-!
# The order of jobs and of completed builds

The host lists its jobs in no particular order, and builds complete in any order. While no two jobs
have one name, neither order shows.

1. A counter only counts, so its recordings may come in any order (`Meter.record_perm`). This holds
   of no other metric: a gauge shows the value that came last, and a summary adds in order.
2. Only one job writes under label values that begin with its name, and it writes in the order of
   its own builds. So under each list of label values the recordings of a scrape are the same, in
   the same order, however the jobs are listed (`under_flatMap_perm`).
3. Completed builds are counted in any order (`CounterCache.count_perm`).
4. So collections give the same families and leave the same counters (`order_does_not_show`).
-/

namespace BuildTelemetry

open Recording (under)

/-! ## 1. Recordings in another order -/

/-- Recordings that all record the same value have the same effect in any order. -/
theorem foldl_apply_perm {rs ts : List Recording} {x : Float}
    (hvalues : ∀ r ∈ rs, ∀ v, r.mark.value = some v → v = x) (hperm : rs.Perm ts)
    (i : Instrument) : rs.foldl Recording.apply i = ts.foldl Recording.apply i := by
  -- each recording either changes nothing or records this one value
  have hskips : ∀ r ∈ rs, (∀ i, Recording.apply i r = i) ∨
      ∀ i, Recording.apply i r = i.record x := by
    intro r hr
    unfold Recording.apply
    cases hvalue : r.mark.value with
    | none => exact .inl fun _ => rfl
    | some v => exact .inr fun _ => by rw [hvalues r hr v hvalue]
  refine hperm.foldl_eq' ?_ i
  intro r hr t ht i
  rcases hskips r hr with h | h
  · rw [h, h]
  · rcases hskips t ht with h' | h'
    · rw [h', h']
    · rw [h, h, h', h']

/-- A meter is the same in whatever order recordings of one value come. -/
theorem Meter.record_perm {rs ts : List Recording} {x : Float}
    (hvalues : ∀ r ∈ rs, ∀ v, r.mark.value = some v → v = x) (hperm : rs.Perm ts) (m : Meter) :
    m.record rs = m.record ts := by
  refine record_eq_of_get? fun values => ?_
  have hunder : (under values rs).Perm (under values ts) := hperm.filter _
  have hsame : ∀ r ∈ under values rs, ∀ v, r.mark.value = some v → v = x :=
    fun r hr => hvalues r (List.mem_filter.mp hr).1
  rw [get?_record, get?_record, foldl_apply_perm hsame hunder, hunder.isEmpty_eq]

/-! ## 2. Jobs in another order -/

variable {s : Settings} {c : CounterCache} {now : Int64} {jobs jobs' : List Job}

/-- Of jobs with different names those of one name are the same in any order: there is at most
one. -/
theorem filter_name_eq_of_perm (hnames : (jobs.map fun j => j.info.fullName).Nodup)
    (hperm : jobs.Perm jobs') {p : String → Bool} (hp : ∀ a b, p a → p b → a = b) :
    (jobs.filter fun j => p j.info.fullName) = jobs'.filter fun j => p j.info.fullName := by
  have hpairs : jobs.Pairwise fun a b => a.info.fullName ≠ b.info.fullName :=
    List.pairwise_map.mp hnames
  have hpairs' : jobs'.Pairwise fun a b => a.info.fullName ≠ b.info.fullName :=
    List.pairwise_map.mp ((hperm.map _).nodup_iff.mp hnames)
  refine List.Perm.eq_of_pairwise ?_ (hpairs.filter _) (hpairs'.filter _) (hperm.filter _)
  intro a b ha hb hne _
  have hone : p a.info.fullName := (List.mem_filter.mp ha).2
  have hother : p b.info.fullName := (List.mem_filter.mp hb).2
  exact absurd (hp _ _ hone hother) hne

/-- If all recordings of a job begin with its name, jobs with different names leave the same under
each list of label values, in whatever order they come. -/
theorem under_flatMap_perm {f : Job → List Recording}
    (hf : ∀ j, ∀ r ∈ f j, r.values.head? = some j.info.fullName) (meter : MeterId)
    (hnames : (jobs.map fun j => j.info.fullName).Nodup) (hperm : jobs.Perm jobs')
    (values : List String) :
    under values (recordingsFor meter (jobs.flatMap f)) =
      under values (recordingsFor meter (jobs'.flatMap f)) := by
  have hhead : ∀ name, values.head? = some name → (values.head? == some name) = true :=
    fun _ h => beq_iff_eq.mpr h
  have hone : ∀ a b, (values.head? == some a) = true → (values.head? == some b) = true → a = b := by
    intro a b ha hb
    rw [beq_iff_eq] at ha hb
    exact Option.some.inj (ha.symm.trans hb)
  rw [under_flatMap_jobs hf meter hhead, under_flatMap_jobs hf meter hhead,
    filter_name_eq_of_perm hnames hperm hone]

/-- The meters of a plan are the same in whatever order jobs with different names come. -/
theorem meters_perm {f : Job → List Recording}
    (hf : ∀ j, ∀ r ∈ f j, r.values.head? = some j.info.fullName) (plan : List PlannedMeter)
    (hnames : (jobs.map fun j => j.info.fullName).Nodup) (hperm : jobs.Perm jobs') :
    s.meters plan (jobs.flatMap f) = s.meters plan (jobs'.flatMap f) := by
  refine List.map_congr_left fun planned _ => Meter.record_eq_of_get? fun values => ?_
  exact Meter.get?_record_congr (under_flatMap_perm hf planned.meter hnames hperm values)

/-- A collection of jobs shows the same in whatever order they come. -/
theorem jobFamilies_perm (hjobs : ∀ j ∈ jobs, j.Nameable)
    (hnames : (jobs.map fun j => j.info.fullName).Nodup) (hperm : jobs.Perm jobs') :
    jobFamilies s c now jobs = jobFamilies s c now jobs' := by
  have hjobs' : ∀ j ∈ jobs', j.Nameable := fun j hj => hjobs j (hperm.mem_iff.mpr hj)
  have hmeters (plan : List PlannedMeter) := meters_perm (s := s)
    (f := fun j => (recordJob (.of s) now j).notes) (fun _ _ => head_of_mem_recordJob) plan
    hnames hperm
  have hsettings : (JobPlan.of s).settings = s := rfl
  simp only [jobFamilies, JobPlan.meters, recordJobs_eq hjobs, recordJobs_eq hjobs', hsettings,
    hmeters]

/-- A collection of coverage reports shows the same in whatever order the jobs come. -/
theorem coverageFamilies_perm (hjobs : ∀ j ∈ jobs, j.Nameable)
    (hnames : (jobs.map fun j => j.info.fullName).Nodup) (hperm : jobs.Perm jobs') :
    coverageFamilies s jobs = coverageFamilies s jobs' := by
  have hjobs' : ∀ j ∈ jobs', j.Nameable := fun j hj => hjobs j (hperm.mem_iff.mpr hj)
  have hhead : ∀ j, ∀ r ∈ (recordCoverage s ((coveragePlan s).map PlannedMeter.meter) j).notes,
      r.values.head? = some j.info.fullName := by
    intro j r hr
    rw [values_of_mem_recordCoverage hr]
    rfl
  have hmeters : s.meters (coveragePlan s) (coverageRecordings s jobs) =
      s.meters (coveragePlan s) (coverageRecordings s jobs') := meters_perm hhead _ hnames hperm
  rw [coverageFamilies_eq hjobs, coverageFamilies_eq hjobs', hmeters]

/-! ## 3. Completed builds in another order -/

/-- A counter records nothing but ones. -/
theorem value_of_mem_countCompletions {completions : List Completion} {r : Recording}
    (h : r ∈ countCompletions s s.counters completions) :
    ∀ v, r.mark.value = some v → v = 1.0 := by
  obtain ⟨c, _, j, _, hr⟩ := mem_countCompletions.mp h
  obtain ⟨hmeter, _, hmark⟩ := mem_recordEntity hr
  obtain ⟨kind, hkind, hid⟩ := List.mem_map.mp hmeter
  obtain ⟨m, hm, rfl⟩ := List.mem_map.mp (mem_counters.mp hkind).1
  rw [← hid, measure_counter hm] at hmark
  intro v hv
  unfold Measurement.ofCondition at hmark
  rcases Journal.mem_notes_bind.mp hmark with hset | ⟨_, _, hrest⟩
  · rw [List.mem_singleton.mp hset] at hv
    cases hv
  · obtain ⟨counts, _, hcount⟩ := Journal.mem_notes_read.mp hrest
    cases counts with
    | true =>
      rw [List.mem_singleton.mp hcount] at hv
      exact (Option.some.inj hv).symm
    | false => cases hcount

/-- Completed builds are counted in whatever order they come. -/
theorem CounterCache.count_perm (c : CounterCache) (s : Settings)
    {completions completions' : List Completion} (hperm : completions.Perm completions') :
    c.count s completions = c.count s completions' := by
  have hrecorded : (countCompletions s s.counters completions).Perm
      (countCompletions s s.counters completions') := hperm.flatMap_right _
  unfold count recordAll
  refine List.foldl_ext _ _ _ fun c kind _ => ?_
  refine congrArg (c.update (s.counterKey kind)) (funext fun m => ?_)
  refine m.record_perm (x := 1.0) (fun r hr => ?_) (hrecorded.filter _)
  exact value_of_mem_countCompletions (List.mem_filter.mp hr).1

/-! ## 4. Collections -/

/-- Two exporters that have the same settings and counters, the same jobs and the same waiting
builds, the last two in any order. The builds have the same jobs. -/
structure Exporter.SameUpToOrder (e e' : Exporter) : Prop where
  active : e'.active = e.active
  counters : e'.counters = e.counters
  jobs : e.host.jobs.Perm e'.host.jobs
  numbers : ∀ id, e'.host.job? id = e.host.job? id
  waiting : e.buffer.waiting.Perm e'.buffer.waiting

/-- Where no number of a job is taken twice, jobs and waiting builds may be put in any order. -/
theorem Exporter.sameUpToOrder_of_perm {e : Exporter}
    (hids : (e.host.existing.map HostedJob.id).Nodup) {hosted : List HostedJob}
    (hhosted : e.host.hosted.Perm hosted) {waiting : List Build}
    (hwaiting : e.buffer.waiting.Perm waiting) :
    e.SameUpToOrder { e with
      host := { e.host with hosted }, buffer := { e.buffer with waiting } } where
  active := rfl
  counters := rfl
  jobs := hhosted.map _
  numbers id := by
    have hexisting : e.host.existing.Perm ({ e.host with hosted } : Host).existing :=
      hhosted.append_right _
    have hids' := (hexisting.map HostedJob.id).nodup_iff.mp hids
    refine Option.ext fun j => ?_
    rw [Host.job?_eq_some_iff hids', Host.job?_eq_some_iff hids]
    exact hexisting.mem_iff.symm
  waiting := hwaiting

/-- On a host whose jobs can be named and have different names, whatever else fails on them,
collections of jobs and of coverage reports give the same families with the same samples in
whatever order the jobs are listed and the builds have completed, and leave the same counters. -/
theorem order_does_not_show {e e' : Exporter} (h : e.SameUpToOrder e')
    (hjobs : ∀ j ∈ e.host.jobs, j.Nameable)
    (hnames : (e.host.jobs.map fun j => j.info.fullName).Nodup) (now : Int64) :
    ∀ c ∈ [Collector.jobs, .coverage],
      (∃ families, (e.collectFrom now c).2 = .ok families ∧
        (e'.collectFrom now c).2 = .ok families) ∧
      (e'.collectFrom now c).1.counters = (e.collectFrom now c).1.counters := by
  have hjobs' : ∀ j ∈ e'.host.jobs, j.Nameable := fun j hj => hjobs j (h.jobs.mem_iff.mpr hj)
  have hcounters : (e'.collectJobs now).1.counters = (e.collectJobs now).1.counters := by
    have hcompletion : e'.host.completion = e.host.completion := by
      funext c
      unfold Host.completion
      rw [h.numbers]
    have hcompletions : (e.buffer.waiting.map e.host.completion).Perm
        (e'.buffer.waiting.map e.host.completion) := h.waiting.map _
    rw [Exporter.counters_collectJobs, Exporter.counters_collectJobs, h.active, h.counters,
      hcompletion, CounterCache.count_perm _ _ hcompletions]
  intro c hc
  rcases List.mem_pair.mp hc with rfl | rfl
  · refine ⟨⟨_, Exporter.result_collectJobs_of_nameable hjobs now, ?_⟩, hcounters⟩
    show (e'.collectJobs now).2 = _
    rw [Exporter.result_collectJobs_of_nameable hjobs' now, h.active, hcounters,
      ← jobFamilies_perm hjobs hnames h.jobs]
  · refine ⟨⟨_, coverageFamilies_eq hjobs, ?_⟩, h.counters⟩
    show coverageFamilies e'.active.load e'.host.jobs = _
    rw [h.active, ← coverageFamilies_perm hjobs hnames h.jobs, coverageFamilies_eq hjobs]

/-- Two jobs are listed the other way round, one of which fails while it is read, and their builds
have completed the other way round. -/
theorem order_does_not_show_of_two_jobs :
    let broken : Job := { Job.plain "b" [.ofJob 1 (.plain 1)] with failing := [.healthScore] }
    let e : Exporter := (Exporter.start (.empty none)
      ⟨[⟨0, .plain "a" [.plain 1]⟩, ⟨1, broken⟩], [], .initial⟩).run
        [.complete (.plain 1), .complete (.ofJob 1 (.plain 1))]
    let e' : Exporter := (Exporter.start (.empty none)
      ⟨[⟨1, broken⟩, ⟨0, .plain "a" [.plain 1]⟩], [], .initial⟩).run
        [.complete (.ofJob 1 (.plain 1)), .complete (.plain 1)]
    (∃ families, (e.collectFrom 0 .jobs).2 = .ok families ∧
      (e'.collectFrom 0 .jobs).2 = .ok families) ∧
      (e'.collectFrom 0 .jobs).1.counters = (e.collectFrom 0 .jobs).1.counters := by
  intro broken e e'
  have hsame : e.SameUpToOrder e' :=
    Exporter.sameUpToOrder_of_perm (by decide) (.swap _ _ _) (.swap _ _ _)
  exact order_does_not_show hsame (by decide) (by decide) 0 .jobs (by decide)

end BuildTelemetry
