import BuildTelemetry.Proofs.Feeding
import BuildTelemetry.Proofs.Repetition
import BuildTelemetry.Proofs.Reports

/-!
# Builds on which counting fails

The host may fail on a completed build while it is counted: on its job, the name of the job, whether
that can be built, or the result. The first counter has made its label set by the time the result is
read, and nothing is undone. That label set is all that such a build leaves behind.

1. Counting builds is counting them one after the other (`count_append`).
2. A faulty build notes at most a label set of the first counter (`notes_of_faulty`). Only on faulty
   builds does the host fail (`faulty_of_fails`).
3. A counter of a reachable cache starts at zero (`Reachable.isCounter`) and adds up what the
   builds have recorded (`value_count`).
4. A faulty build costs nothing but its own counting
   (`Exporter.faulty_completions_cost_only_themselves`).
-/

namespace BuildTelemetry

/-! ## 1. Counting step by step -/

namespace CounterCache

variable {c : CounterCache} {s : Settings} {key : CounterKey}

/-- What some recordings do to one entry of a cache. -/
def recordEntry (s : Settings) (counters : List MetricKind) (recordings : List Recording)
    (e : CounterKey × Option Meter) : CounterKey × Option Meter :=
  if e.1.kind ∈ counters ∧ s.counterKey e.1.kind = e.1 then
    (e.1, e.2.map (·.record (recordingsFor ⟨e.1.kind, none⟩ recordings)))
  else e

/-- Different counters have different identities, so each entry is changed once. -/
theorem recordAll_eq (c : CounterCache) (s : Settings) {counters : List MetricKind}
    (hnodup : counters.Nodup) (recordings : List Recording) :
    c.recordAll s counters recordings = ⟨c.entries.map (recordEntry s counters recordings)⟩ := by
  unfold recordAll
  induction counters generalizing c with
  | nil =>
    have hsame : recordEntry s [] recordings = id := by
      funext e
      exact if_neg fun h => absurd h.1 List.not_mem_nil
    rw [List.foldl_nil, hsame, List.map_id]
  | cons kind kinds ih =>
    obtain ⟨hfresh, hrest⟩ := List.nodup_cons.mp hnodup
    rw [List.foldl_cons, ih _ hrest, CounterCache.mk.injEq, update, List.map_map]
    refine List.map_congr_left fun e _ => ?_
    simp only [Function.comp_apply, recordEntry, beq_iff_eq, eq_counterKey_iff, List.mem_cons]
    by_cases hkind : e.1.kind = kind
    · subst hkind
      by_cases hkey : s.counterKey e.1.kind = e.1 <;> simp [hfresh, hkey]
    · simp [hkind]

theorem recordAll_append (c : CounterCache) (s : Settings) {counters : List MetricKind}
    (hnodup : counters.Nodup) (rs ts : List Recording) :
    c.recordAll s counters (rs ++ ts) =
      (c.recordAll s counters rs).recordAll s counters ts := by
  rw [recordAll_eq _ _ hnodup, recordAll_eq _ _ hnodup, recordAll_eq _ _ hnodup,
    CounterCache.mk.injEq, List.map_map]
  refine List.map_congr_left fun e _ => ?_
  simp only [Function.comp_apply, recordEntry, recordingsFor_append, Meter.record_append]
  split
  · simp [Option.map_map, Function.comp_def]
  · rfl

/-- After counting, every counter that is not suppressed is kept. -/
theorem contains_count (c : CounterCache) {kind : MetricKind} (h : kind ∈ s.counters)
    (completions : List Completion) : (c.count s completions).contains (s.counterKey kind) := by
  have hkey : (s.counterKey kind).kind ∈ s.counters ∧
      s.counterKey (s.counterKey kind).kind = s.counterKey kind := ⟨h, rfl⟩
  rw [contains_eq, find?_count, if_pos hkey]
  rfl

/-- Builds that are counted after others find the counters as those have left them. -/
theorem count_append (c : CounterCache) (s : Settings) (earlier later : List Completion) :
    c.count s (earlier ++ later) = (c.count s earlier).count s later := by
  have hkept : (c.count s earlier).obtainAll s = c.count s earlier :=
    obtainAll_of_contains fun kind hkind => contains_count c hkind earlier
  have hsplit : countCompletions s s.counters (earlier ++ later) =
      countCompletions s s.counters earlier ++ countCompletions s s.counters later :=
    List.flatMap_append
  have hlater : (c.count s earlier).count s later =
      (c.count s earlier).recordAll s s.counters (countCompletions s s.counters later) := by
    conv_lhs => rw [count, hkept]
  rw [hlater, count, hsplit, recordAll_append _ _ (nodup_counters s)]
  rfl

/-- Counting goes through the builds in order, one at a time. -/
theorem count_eq_foldl (c : CounterCache) (s : Settings) (completions : List Completion) :
    c.count s completions = completions.foldl (fun c x => c.count s [x]) (c.count s []) := by
  induction completions generalizing c with
  | nil => rfl
  | cons x later ih =>
    have hsplit : c.count s (x :: later) = (c.count s [x]).count s later :=
      count_append c s [x] later
    have hfirst : (c.count s []).count s [x] = c.count s [x] := (count_append c s [] [x]).symm
    rw [hsplit, ih, count_count_nil, List.foldl_cons, hfirst]

end CounterCache

/-! ## 2. Faulty builds -/

namespace Completion

/-- A completed build of which something cannot be read that counting reads. -/
def Faulty (x : Completion) : Prop :=
  BuildAccessor.parent ∈ x.build.failing ∨ BuildAccessor.result ∈ x.build.failing ∨
    ∃ j ∈ x.job, JobAccessor.fullName ∈ j.failing ∨ JobAccessor.isBuildable ∈ j.failing

instance (x : Completion) : Decidable x.Faulty := by
  unfold Faulty
  infer_instance

/-- A build that counts for a job although it is faulty has no result that could be read. -/
theorem CountsFor.result_of_faulty {x : Completion} {s : Settings} {j : Job}
    (hj : x.CountsFor s j) (h : x.Faulty) : BuildAccessor.result ∈ x.build.failing := by
  have hjob := readThrough_eq_ok.mp hj.parent
  rcases h with hparent | hresult | ⟨k, hk, hname | hbuildable⟩
  · exact absurd hparent hjob.1
  · exact hresult
  · have hsame : k = j := Option.some.inj (hk.symm.trans hjob.2)
    exact absurd (hsame ▸ hname) hj.nameable
  · have hsame : k = j := Option.some.inj (hk.symm.trans hjob.2)
    exact absurd (hsame ▸ hbuildable) hj.buildable

/-- A faulty build leaves nothing, or one label set of the first counter. -/
theorem notes_of_faulty {x : Completion} {s : Settings} (h : x.Faulty) :
    (countCompletion s s.counters x).notes = [] ∨
      ∃ first, s.counters.head? = some first ∧ ∃ values,
        (countCompletion s s.counters x).notes = [⟨⟨first, none⟩, values, ⟨[], none⟩⟩] := by
  by_cases hcounts : ∃ j, x.CountsFor s j
  · obtain ⟨j, hj⟩ := hcounts
    rw [countCompletion_eq hj]
    cases hcounters : s.counters with
    | nil => exact .inl rfl
    | cons first others =>
      obtain ⟨m, hm, rfl⟩ : ∃ m ∈ buildCounters, .build m = first :=
        List.mem_map.mp (mem_counters.mp (hcounters ▸ List.mem_cons_self)).1
      have hfails : (recordAs ⟨.build m, none⟩ j.labelValues
          ((MetricKind.build m).measure 0 (.build x.build))) =
            ⟨[⟨⟨.build m, none⟩, j.labelValues, ⟨[], none⟩⟩], .error .failed⟩ := by
        rw [measure_counter_of_failing hm (hj.result_of_faulty h)]
        rfl
      -- the first counter stops the counting, so the others see nothing of the build
      refine .inr ⟨.build m, rfl, j.labelValues, ?_⟩
      rw [List.map_cons, recordEntity, Journal.each, hfails]
      rfl
  · exact .inl (notes_countCompletion (not_exists.mp hcounts) _)

/-- The host fails while it counts a completed build. -/
def Fails (x : Completion) (s : Settings) : Prop :=
  (countCompletion s s.counters x).result ≠ .ok ()

/-- The host fails on no other builds. -/
theorem faulty_of_fails {x : Completion} {s : Settings} (h : x.Fails s) : x.Faulty := by
  by_contra hsound
  simp only [Faulty, not_or, not_exists, not_and] at hsound
  obtain ⟨hparent, hresult, hjob⟩ := hsound
  refine h ?_
  have hread : x.parent = .ok x.job := readThrough_of_not_mem hparent _
  simp only [countCompletion, Journal.liftM_eq, hread, Journal.ofExcept_ok_bind]
  cases hx : x.job with
  | none => rfl
  | some j =>
    obtain ⟨hname, hbuildable⟩ := hjob j hx
    have hnameable : j.Nameable := hname
    have hvalues : s.config.jobLabelValues j = .ok j.labelValues :=
      Config.jobLabelValues_eq_ok.mpr ⟨hnameable, hbuildable, rfl⟩
    simp only [hnameable.fullName, hvalues, Journal.ofExcept_ok_bind]
    split
    · rfl
    · refine congrArg Journal.result (recordEntity_eq fun meter hmeter => ?_)
      obtain ⟨kind, hkind, rfl⟩ := List.mem_map.mp hmeter
      obtain ⟨m, hm, rfl⟩ := List.mem_map.mp (mem_counters.mp hkind).1
      rw [measure_counter_of_readable hm hresult]

/-- No value is recorded for a faulty build. -/
theorem valuesUnder_of_faulty {x : Completion} {s : Settings} (h : x.Faulty) (meter : MeterId)
    (values : List String) :
    Recording.valuesUnder values
      (recordingsFor meter (countCompletion s s.counters x).notes) = [] := by
  refine List.filterMap_eq_nil_iff.mpr fun r hr => ?_
  have hmem := (List.mem_filter.mp (List.mem_filter.mp hr).1).1
  rcases notes_of_faulty h with hnone | ⟨first, _, entity, hone⟩
  · rw [hnone] at hmem
    cases hmem
  · rw [hone] at hmem
    rw [List.mem_singleton.mp hmem]

end Completion
/-! ## 3. Values of counters -/

/-- The number that a counter shows. -/
def Instrument.counted : Instrument → UInt64
  | counter c => c.value
  | _ => 0

/-- A meter of counters: a label set begins with zero, and every instrument is a counter. -/
structure Meter.IsCounter (m : Meter) : Prop where
  fresh : m.series.fresh = .counter .zero
  get : ∀ values i, m.series.get? values = some i → ∃ n, i = .counter n

/-- A counter adds up the values that are recorded, from zero before there is a label set. -/
theorem Meter.IsCounter.counted_record {m : Meter} (h : m.IsCounter) (rs : List Recording)
    (values : List String) :
    (((m.record rs).series.get? values).map Instrument.counted).getD 0 =
      ((m.series.get? values).map Instrument.counted).getD 0 +
        UInt64.ofNat (Recording.valuesUnder values rs).length := by
  rw [get?_record]
  by_cases hunder : Recording.under values rs = []
  · simp [hunder, Recording.valuesUnder]
  · rw [if_neg (by simpa using hunder)]
    obtain ⟨n, hn, hbefore⟩ : ∃ n, m.series.instrument values = .counter n ∧
        ((m.series.get? values).map Instrument.counted).getD 0 = n.value := by
      rw [Series.instrument]
      cases hget : m.series.get? values with
      | none => exact ⟨.zero, h.fresh, rfl⟩
      | some i =>
        obtain ⟨n, rfl⟩ := h.get values i hget
        exact ⟨n, rfl, rfl⟩
    rw [hn, hbefore, foldl_counter]
    rfl

namespace CounterCache

variable {c : CounterCache} {s : Settings} {key : CounterKey}

/-- The instrument that is kept under some label values. -/
def instrument? (c : CounterCache) (key : CounterKey) (values : List String) : Option Instrument :=
  (c.meter? key).bind (·.series.get? values)

/-- The value of a counter under some label values, zero before there is a label set. -/
def value (c : CounterCache) (key : CounterKey) (values : List String) : UInt64 :=
  ((c.instrument? key values).map Instrument.counted).getD 0

/-- The label sets of a kept meter begin as its metric says, except for the quantiles of the
settings under which it was first asked for. -/
theorem Reachable.fresh (h : c.Reachable) :
    ∀ key m, c.find? key = some (some m) →
      ∃ quantiles, m.series.fresh = key.kind.freshInstrument quantiles := fun key m hfind =>
  (h.meter_induction
    (P := fun key m => ∃ quantiles, m.series.fresh = key.kind.freshInstrument quantiles)
    (fun _ quantiles => ⟨quantiles, rfl⟩)
    (fun _ m rs hfresh => by rwa [Meter.fresh_record]) key m hfind).2

/-- What a reachable cache keeps under the identity of a counter is a counter. -/
theorem Reachable.isCounter (h : c.Reachable) {m : BuildMetric} (hm : m ∈ buildCounters)
    (hkind : key.kind = .build m) {meter : Meter} (hfind : c.find? key = some (some meter)) :
    meter.IsCounter where
  fresh := by
    obtain ⟨quantiles, hfresh⟩ := h.fresh key meter hfind
    rw [hfresh, hkind, MetricKind.freshInstrument, type_counter m hm]
  get values i hget := by
    have htype := (h.typed key meter hfind).get values i hget
    rw [(h.wellKept key meter hfind).descriptor] at htype
    have hcounter : Exposable.type i = .counter := by
      rw [htype, hkind]
      exact type_counter m hm
    cases i with
    | counter n => exact ⟨n, rfl⟩
    | gauge g => cases hcounter
    | summary t => cases hcounter

theorem instrument?_eq (c : CounterCache) (key : CounterKey) (values : List String) :
    c.instrument? key values = (c.find? key).join.bind (·.series.get? values) := by
  rw [instrument?, meter?_eq]

/-- A counter that is not suppressed adds up what the builds have recorded for it. No other entry
changes. -/
theorem value_count (h : c.Reachable) (s : Settings) (completions : List Completion)
    (key : CounterKey) (values : List String) :
    (c.count s completions).value key values = c.value key values +
      if key.kind ∈ s.counters ∧ s.counterKey key.kind = key then
        UInt64.ofNat (Recording.valuesUnder values
          (recordingsFor ⟨key.kind, none⟩ (countCompletions s s.counters completions))).length
      else 0 := by
  rw [value, value, instrument?_eq, instrument?_eq, find?_count]
  split
  · next hkey =>
    obtain ⟨m, hm, hkind⟩ := List.mem_map.mp (mem_counters.mp hkey.1).1
    have hsubject : key.kind.subject = .build := by rw [← hkind]; rfl
    cases hkept : c.find? key with
    | none =>
      have hnew : (counterMeter key).IsCounter := by
        refine ⟨?_, fun values i hget => by cases hget⟩
        change key.kind.freshInstrument [] = _
        rw [← hkind, MetricKind.freshInstrument, type_counter m hm]
      exact hnew.counted_record _ values
    | some kept =>
      cases kept with
      | none => exact absurd hkept (h.measured hsubject)
      | some meter => exact (h.isCounter hm hkind.symm hkept).counted_record _ values
  · exact (UInt64.add_zero _).symm

/-- Faulty builds do not show in any value, whether all of them are left out or only some. -/
theorem value_count_filter (h : c.Reachable) (s : Settings) (completions : List Completion)
    (keeps : Completion → Bool) (hkeeps : ∀ x ∈ completions, keeps x = false → x.Faulty)
    (key : CounterKey) (values : List String) :
    (c.count s (completions.filter keeps)).value key values =
      (c.count s completions).value key values := by
  have hsame : Recording.valuesUnder values (recordingsFor ⟨key.kind, none⟩
        (countCompletions s s.counters (completions.filter keeps))) =
      Recording.valuesUnder values (recordingsFor ⟨key.kind, none⟩
        (countCompletions s s.counters completions)) := by
    rw [countCompletions, countCompletions, recordingsFor_flatMap, recordingsFor_flatMap,
      Recording.valuesUnder_flatMap, Recording.valuesUnder_flatMap, flatMap_filter]
    refine List.flatMap_congr fun x hx => ?_
    split
    · rfl
    · next hleft =>
      exact (Completion.valuesUnder_of_faulty (hkeeps x hx (by simpa using hleft)) _ _).symm
  rw [value_count h, value_count h, hsame]

/-- Counting leads from one cache to another that has the values of the first. The label sets are
the same as well, except that the first counter may have one more, which is zero. -/
structure AtMostOneZeroMore (s : Settings) (before after : CounterCache) : Prop where
  values : ∀ key values, after.value key values = before.value key values
  labelSets : (∀ key values, after.instrument? key values = before.instrument? key values) ∨
    ∃ first, s.counters.head? = some first ∧ ∃ added,
      before.instrument? (s.counterKey first) added = none ∧
      after.instrument? (s.counterKey first) added = some (.counter .zero) ∧
      ∀ key values, ¬(key = s.counterKey first ∧ values = added) →
        after.instrument? key values = before.instrument? key values

/-- A counter that is kept is kept with its meter. -/
theorem exists_find?_of_contains (h : c.Reachable) (hkey : key.kind ∈ s.counters)
    (hkept : c.contains key) : ∃ m, c.find? key = some (some m) := by
  obtain ⟨m, hm, hkind⟩ := List.mem_map.mp (mem_counters.mp hkey).1
  rw [contains_eq] at hkept
  cases hfind : c.find? key with
  | none =>
    rw [hfind] at hkept
    cases hkept
  | some kept =>
    cases kept with
    | none => exact absurd hfind (h.measured (by rw [← hkind]; rfl))
    | some meter => exact ⟨meter, rfl⟩

/-- A label set that is only made sure of is a zero if it is new, and nothing else changes. -/
theorem instrument?_count_of_one (h : c.Reachable)
    (hkept : ∀ kind ∈ s.counters, c.contains (s.counterKey kind)) {x : Completion}
    {first : MetricKind} (hfirst : first ∈ s.counters) {added : List String}
    (hone : (countCompletion s s.counters x).notes = [⟨⟨first, none⟩, added, ⟨[], none⟩⟩])
    (key : CounterKey) (values : List String) :
    (c.count s [x]).instrument? key values =
      if key = s.counterKey first ∧ values = added then
        some ((c.instrument? key values).getD (.counter .zero))
      else c.instrument? key values := by
  have hrecordings : countCompletions s s.counters [x] =
      [⟨⟨first, none⟩, added, ⟨[], none⟩⟩] := by simp [countCompletions, hone]
  rw [instrument?_eq, instrument?_eq, find?_count, hrecordings]
  by_cases hkey : key.kind ∈ s.counters ∧ s.counterKey key.kind = key
  · obtain ⟨meter, hmeter⟩ := exists_find?_of_contains h hkey.1 (hkey.2 ▸ hkept _ hkey.1)
    rw [if_pos hkey, hmeter]
    change (meter.record _).series.get? values = _
    by_cases hkind : key.kind = first
    · -- the counter that has noted the label set
      obtain ⟨m, hm, hbuild⟩ := List.mem_map.mp (mem_counters.mp hkey.1).1
      have hcounter : meter.IsCounter := h.isCounter hm hbuild.symm hmeter
      have hidentity : key = s.counterKey first := hkind ▸ hkey.2.symm
      have hmine : recordingsFor ⟨key.kind, none⟩
          [⟨⟨first, none⟩, added, ⟨[], none⟩⟩] = [⟨⟨first, none⟩, added, ⟨[], none⟩⟩] := by
        simp [recordingsFor, hkind]
      rw [hmine, Meter.get?_record]
      by_cases hvalues : values = added
      · subst hvalues
        simp [Recording.under, Recording.key, Recording.apply, Series.instrument, hcounter.fresh,
          ← hidentity]
      · simp [Recording.under, Recording.key, hvalues, Ne.symm hvalues]
    · have hnothing : recordingsFor ⟨key.kind, none⟩
          [⟨⟨first, none⟩, added, ⟨[], none⟩⟩] = [] := by
        simp [recordingsFor, Ne.symm hkind]
      rw [hnothing, if_neg fun h => hkind (congrArg CounterKey.kind h.1)]
      rfl
  · rw [if_neg hkey, if_neg]
    rintro ⟨rfl, _⟩
    exact hkey ⟨hfirst, rfl⟩

/-- One faulty build, once all counters are kept. -/
theorem atMostOneZeroMore_count (h : c.Reachable)
    (hkept : ∀ kind ∈ s.counters, c.contains (s.counterKey kind)) {x : Completion}
    (hx : x.Faulty) : AtMostOneZeroMore s c (c.count s [x]) where
  values key values := by
    have hleft := value_count_filter h s [x] (fun _ => false)
      (fun y hy _ => List.mem_singleton.mp hy ▸ hx) key values
    rw [← hleft, List.filter_false, count_nil hkept]
  labelSets := by
    rcases Completion.notes_of_faulty (s := s) hx with hnone | ⟨first, hhead, added, hone⟩
    · have hnothing : countCompletions s s.counters [x] = [] := by simp [countCompletions, hnone]
      have hsame : c.count s [x] = c := by
        rw [count, hnothing, recordAll_nil, obtainAll_of_contains hkept]
      exact .inl fun key values => by rw [hsame]
    · have hcount := instrument?_count_of_one h hkept (List.mem_of_head? hhead) hone
      cases hbefore : c.instrument? (s.counterKey first) added with
      | some i =>
        refine .inl fun key values => ?_
        rw [hcount]
        split
        · next hsame => rw [hsame.1, hsame.2, hbefore, Option.getD_some]
        · rfl
      | none =>
        refine .inr ⟨first, hhead, added, hbefore, ?_, fun key values hother => ?_⟩
        · rw [hcount, if_pos ⟨rfl, rfl⟩, hbefore, Option.getD_none]
        · rw [hcount, if_neg hother]

end CounterCache

/-! ## 4. A scrape -/

namespace Exporter

/-- The exporter without some of the builds that wait. -/
def withoutWaiting (e : Exporter) (drops : Completion → Bool) : Exporter :=
  { e with buffer := { e.buffer with
      waiting := e.buffer.waiting.filter fun b => !drops (e.host.completion b) } }

/-- A collection of jobs goes through all builds that wait, in order and whatever they are like, and
leaves none waiting. The host fails only on faulty builds among them. Such a build changes no value
of a counter, and at most it adds a label set, which is zero, to the first counter that is not
suppressed. All values are what they would be without the faulty builds, or without some of them. -/
theorem faulty_completions_cost_only_themselves (e : Exporter) (now : Int64)
    (hreachable : e.counters.Reachable) :
    let s := e.active.load
    let completions := e.buffer.waiting.map e.host.completion
    let after := (e.collectJobs now).1
    (∀ x ∈ completions, x.Fails s → x.Faulty) ∧
    after.buffer.waiting = [] ∧
    (s.config.countsAnyBuild → after.counters =
      completions.foldl (fun c x => c.count s [x]) (e.counters.count s [])) ∧
    (∀ earlier x, earlier ++ [x] <+: completions → x.Faulty →
      CounterCache.AtMostOneZeroMore s (e.counters.count s earlier)
        (e.counters.count s (earlier ++ [x]))) ∧
    ∀ drops : Completion → Bool, (∀ x ∈ completions, drops x → x.Faulty) →
      ∀ key values, after.counters.value key values =
        ((e.withoutWaiting drops).collectJobs now).1.counters.value key values := by
  intro s completions after
  have hcounters := counters_collectJobs e now
  refine ⟨fun x _ => Completion.faulty_of_fails, waiting_collectJobs e now, ?_, ?_, ?_⟩
  · intro hcounts
    rw [hcounters, if_pos hcounts, CounterCache.count_eq_foldl]
  · intro earlier x _ hx
    rw [CounterCache.count_append]
    exact CounterCache.atMostOneZeroMore_count (hreachable.count s earlier)
      (fun kind hkind => CounterCache.contains_count _ hkind earlier) hx
  · intro drops hdrops key values
    have hleft : (e.withoutWaiting drops).buffer.waiting.map e.host.completion =
        completions.filter fun x => !drops x := by
      rw [List.filter_map]
      rfl
    rw [hcounters, counters_collectJobs]
    change _ = (if s.config.countsAnyBuild then
      e.counters.count s ((e.withoutWaiting drops).buffer.waiting.map e.host.completion)
      else e.counters).value key values
    rw [hleft]
    split
    · refine (CounterCache.value_count_filter hreachable s completions _ (fun x hx hkeeps => ?_)
        key values).symm
      exact hdrops x hx (by simpa using hkeeps)
    · rfl

/-- A completed build whose result cannot be read. -/
def unreadableCompletion : Build := { Build.plain 1 with failing := [.result] }

/-- An exporter for which two builds of a job wait. The result of the first cannot be read. -/
def withFaultyCompletion : Exporter :=
  { start (.empty none) ⟨[⟨0, .plain "a" []⟩], [], .initial⟩ with
    buffer := ⟨[unreadableCompletion, .plain 2], true⟩ }

/-- Of two builds the faulty one costs no more than its own counting, and the other is counted. -/
theorem faulty_completions_cost_only_themselves_of_two :
    let e := withFaultyCompletion
    let s := e.active.load
    let key := s.counterKey (.build .successes)
    e.counters.Reachable ∧
    (e.collectJobs 0).1.buffer.waiting = [] ∧
    CounterCache.AtMostOneZeroMore s (e.counters.count s [])
      (e.counters.count s [e.host.completion unreadableCompletion]) ∧
    (e.collectJobs 0).1.counters.value key ["a", "NA", "true"] = 1 := by
  intro e s key
  have hreachable : e.counters.Reachable := .empty
  obtain ⟨_, hwaiting, _, hstep, hvalues⟩ := faulty_completions_cost_only_themselves e 0 hreachable
  refine ⟨hreachable, hwaiting, hstep [] _ ⟨_, rfl⟩ (by decide), ?_⟩
  rw [hvalues (fun x => decide x.Faulty) (fun x _ h => of_decide_eq_true h)]
  decide

end Exporter

end BuildTelemetry
