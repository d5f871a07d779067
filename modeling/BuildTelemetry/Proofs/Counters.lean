import BuildTelemetry.Proofs.Recording
import BuildTelemetry.Proofs.Measure
import BuildTelemetry.Report.Counters

/-!
# The kept counters

A cache is a map from identities to meters. Counting completed builds changes the meters of the
counters that are not suppressed and no other.

* `find?_update`, `find?_obtain`: changes of one entry.
* `find?_count`: what counting completed builds does to one entry.
* `Reachable.meter_induction`: what every kept meter of a reachable cache has.
* `Reachable.wellKept`: every kept meter fits its identity.
-/

namespace BuildTelemetry

/-- The meter that an identity of a counter starts with. -/
def counterMeter (key : CounterKey) : Meter :=
  .new key.kind (.of key.kind key.nameSpace key.qualifier) key.labelNames []

theorem mem_counters {s : Settings} {kind : MetricKind} :
    kind ∈ s.counters ↔ kind ∈ buildCounters.map MetricKind.build ∧ s.allows kind :=
  List.mem_filter

theorem mem_buildCounters_of_mem_counters {s : Settings} {m : BuildMetric}
    (h : .build m ∈ s.counters) : m ∈ buildCounters := by
  obtain ⟨n, hn, heq⟩ := List.mem_map.mp (mem_counters.mp h).1
  exact MetricKind.build.inj heq ▸ hn

theorem nodup_counters (s : Settings) : s.counters.Nodup :=
  List.Nodup.filter _ (by decide)

theorem type_counter : ∀ m ∈ buildCounters, (MetricKind.build m).type = .counter := by decide

theorem extraLabels_counter : ∀ m ∈ buildCounters, (MetricKind.build m).extraLabels = 0 := by
  decide

/-- The quantiles of the settings have no part in a counter. -/
theorem meterFor?_counterKey {s : Settings} {kind : MetricKind} (h : kind ∈ s.counters) :
    s.meterFor? .build kind s.config.jobLabelNames none =
      some (counterMeter (s.counterKey kind)) := by
  obtain ⟨hkind, hallows⟩ := mem_counters.mp h
  obtain ⟨m, hm, rfl⟩ := List.mem_map.mp hkind
  have hsubject : (MetricKind.build m).subject = .build := rfl
  rw [Settings.meterFor?, if_pos hsubject, Settings.meter?, if_pos hallows]
  simp only [Meter.new, MetricKind.freshInstrument, type_counter m hm, counterMeter,
    Settings.counterKey, CounterCache.keyOf]

namespace CounterCache

variable {c : CounterCache} {s : Settings} {key : CounterKey}

/-- What is kept under an identity. -/
def find? (c : CounterCache) (key : CounterKey) : Option (Option Meter) :=
  (c.entries.find? fun e => e.1 == key).map Prod.snd

/-! ## 1. Changes of one entry -/

theorem meter?_eq (c : CounterCache) (key : CounterKey) : c.meter? key = (c.find? key).join := by
  unfold meter? find?
  cases c.entries.find? fun e => e.1 == key <;> rfl

theorem contains_eq (c : CounterCache) (key : CounterKey) :
    c.contains key = (c.find? key).isSome := by
  rw [Bool.eq_iff_iff]
  simp [contains, find?]

theorem find?_update (c : CounterCache) (key k : CounterKey) (f : Meter → Meter) :
    (c.update key f).find? k = if k = key then (c.find? k).map (·.map f) else c.find? k := by
  unfold update find?
  dsimp only
  induction c.entries with
  | nil => simp
  | cons e es ih =>
    -- an update leaves the identities in their places
    have hfst : (if e.1 == key then (e.1, e.2.map f) else e).1 = e.1 := by split <;> rfl
    by_cases he : e.1 = k
    · subst he
      rw [List.map_cons, List.find?_cons_of_pos (by simp only [hfst, beq_self_eq_true]),
        List.find?_cons_of_pos (by simp only [beq_self_eq_true])]
      by_cases hk : e.1 = key <;> simp [hk]
    · have hne : ¬(e.1 == k) = true := by simpa using he
      have hskip : (e :: es).find? (fun e => e.1 == k) = es.find? fun e => e.1 == k :=
        List.find?_cons_of_neg hne
      rw [List.map_cons, List.find?_cons_of_neg (by simpa only [hfst] using hne), hskip, ih]

/-- A meter that is asked for is kept from then on, unless its metric is suppressed. -/
theorem find?_obtain (c : CounterCache) (s : Settings) (kind : MetricKind)
    (labelNames : List String) (qualifier : Option String) (k : CounterKey) :
    (c.obtain s kind labelNames qualifier).2.find? k =
      if s.allows kind ∧ k = keyOf s kind labelNames qualifier then
        some ((c.find? k).getD (s.meterFor? .build kind labelNames qualifier))
      else c.find? k := by
  unfold CounterCache.obtain
  by_cases hallows : s.allows kind
  · rw [if_pos hallows]
    dsimp only
    cases hkept : c.find? (keyOf s kind labelNames qualifier) with
    | some meter =>
      rw [if_pos (by rw [contains_eq, hkept]; rfl)]
      split
      · next h => rw [h.2, hkept, Option.getD_some]
      · rfl
    | none =>
      rw [if_neg (by rw [contains_eq, hkept]; decide)]
      by_cases hk : k = keyOf s kind labelNames qualifier
      · subst hk
        rw [if_pos ⟨hallows, rfl⟩, hkept, Option.getD_none]
        have hfind : c.entries.find? (fun e => e.1 == keyOf s kind labelNames qualifier) = none :=
          Option.map_eq_none_iff.mp hkept
        simp [find?, List.find?_append, hfind]
      · rw [if_neg fun h => hk h.2]
        simp [find?, List.find?_append, Ne.symm hk]
  · rw [if_neg hallows, if_neg fun h => hallows h.1]

/-! ## 2. Counting -/

theorem eq_counterKey_iff {kind : MetricKind} :
    key = s.counterKey kind ↔ key.kind = kind ∧ s.counterKey key.kind = key := by
  constructor
  · rintro rfl
    exact ⟨rfl, rfl⟩
  · rintro ⟨rfl, h⟩
    exact h.symm

theorem find?_foldl_obtain (c : CounterCache) (s : Settings) (kinds : List MetricKind)
    (key : CounterKey) :
    (kinds.foldl (fun c kind => (c.obtain s kind s.config.jobLabelNames none).2) c).find? key =
      if key.kind ∈ kinds.filter s.allows ∧ s.counterKey key.kind = key then
        some ((c.find? key).getD (s.meterFor? .build key.kind s.config.jobLabelNames none))
      else c.find? key := by
  induction kinds generalizing c with
  | nil => simp
  | cons kind kinds ih =>
    rw [List.foldl_cons, ih, find?_obtain]
    have hkey : keyOf s kind s.config.jobLabelNames none = s.counterKey kind := rfl
    simp only [hkey, eq_counterKey_iff, List.mem_filter, List.mem_cons]
    by_cases hkind : key.kind = kind
    · subst hkind
      by_cases hkey : s.counterKey key.kind = key <;> by_cases hallows : s.allows key.kind <;>
        simp [hkey, hallows]
    · simp [hkind]

theorem find?_obtainAll (c : CounterCache) (s : Settings) (key : CounterKey) :
    (c.obtainAll s).find? key =
      if key.kind ∈ s.counters ∧ s.counterKey key.kind = key then
        some ((c.find? key).getD (some (counterMeter key)))
      else c.find? key := by
  have hcounters : (buildCounters.map MetricKind.build).filter s.allows = s.counters := rfl
  rw [obtainAll, find?_foldl_obtain, hcounters]
  by_cases h : key.kind ∈ s.counters ∧ s.counterKey key.kind = key
  · rw [if_pos h, if_pos h, meterFor?_counterKey h.1, h.2]
  · rw [if_neg h, if_neg h]

theorem find?_recordAll (c : CounterCache) (s : Settings) {counters : List MetricKind}
    (hnodup : counters.Nodup) (recordings : List Recording) (key : CounterKey) :
    (c.recordAll s counters recordings).find? key =
      if key.kind ∈ counters ∧ s.counterKey key.kind = key then
        (c.find? key).map (·.map (·.record (recordingsFor ⟨key.kind, none⟩ recordings)))
      else c.find? key := by
  unfold recordAll
  induction counters generalizing c with
  | nil => simp
  | cons kind kinds ih =>
    obtain ⟨hfresh, hrest⟩ := List.nodup_cons.mp hnodup
    rw [List.foldl_cons, ih _ hrest, find?_update]
    simp only [eq_counterKey_iff, List.mem_cons]
    by_cases hkind : key.kind = kind
    · subst hkind
      -- the counters that come behind it have other identities and leave the entry alone
      simp [hfresh]
    · simp [hkind]

/-- Counting completed builds feeds the meter of every counter that is not suppressed, a new one if
there is none yet, and leaves every other entry as it is. -/
theorem find?_count (c : CounterCache) (s : Settings) (completions : List Completion)
    (key : CounterKey) :
    (c.count s completions).find? key =
      if key.kind ∈ s.counters ∧ s.counterKey key.kind = key then
        some (((c.find? key).getD (some (counterMeter key))).map
          (·.record (recordingsFor ⟨key.kind, none⟩ (countCompletions s s.counters completions))))
      else c.find? key := by
  rw [count, find?_recordAll _ _ (nodup_counters s), find?_obtainAll]
  by_cases h : key.kind ∈ s.counters ∧ s.counterKey key.kind = key
  · rw [if_pos h, if_pos h, if_pos h]
    rfl
  · rw [if_neg h, if_neg h, if_neg h]

/-- The counter of some settings after counting: what was kept before, or a new meter, with what the
completed builds recorded for it. -/
theorem meter?_count (c : CounterCache) {s : Settings} {kind : MetricKind} (h : kind ∈ s.counters)
    (completions : List Completion) :
    (c.count s completions).meter? (s.counterKey kind) =
      ((c.find? (s.counterKey kind)).getD (some (counterMeter (s.counterKey kind)))).map
        (·.record (recordingsFor ⟨kind, none⟩ (countCompletions s s.counters completions))) := by
  have hkey : (s.counterKey kind).kind ∈ s.counters ∧
      s.counterKey (s.counterKey kind).kind = s.counterKey kind := ⟨h, rfl⟩
  rw [meter?_eq, find?_count, if_pos hkey, Option.join_some]
  rfl

end CounterCache

/-! ## 3. Completed builds -/

/-- A completed build counts for a job: the job is still there, its labels can be read and it is not
suppressed. -/
structure Completion.CountsFor (c : Completion) (s : Settings) (j : Job) : Prop where
  parent : c.parent = .ok (some j)
  nameable : j.Nameable
  allowed : s.policy.allowsJob j.info.fullName
  buildable : JobAccessor.isBuildable ∉ j.failing

theorem countCompletion_eq {s : Settings} {c : Completion} {j : Job} (h : c.CountsFor s j)
    (counters : List MetricKind) :
    countCompletion s counters c =
      recordEntity 0 (counters.map fun kind => ⟨kind, none⟩) (.build c.build) j.labelValues := by
  have hvalues : s.config.jobLabelValues j = .ok j.labelValues :=
    Config.jobLabelValues_eq_ok.mpr ⟨h.nameable, h.buildable, rfl⟩
  simp only [countCompletion, Journal.liftM_eq, h.parent, Journal.ofExcept_ok_bind,
    h.nameable.fullName, h.allowed, hvalues, Bool.not_true, Bool.false_eq_true, if_false]

/-- A build that counts for no job leaves nothing, wherever its counting stops. -/
theorem notes_countCompletion {s : Settings} {c : Completion} (h : ∀ j, ¬c.CountsFor s j)
    (counters : List MetricKind) : (countCompletion s counters c).notes = [] := by
  simp only [countCompletion, Journal.liftM_eq]
  cases hparent : c.parent with
  | error fault => rfl
  | ok job =>
    cases job with
    | none => rfl
    | some j =>
      simp only [Journal.ofExcept_ok_bind]
      cases hname : j.fullName with
      | error fault => rfl
      | ok name =>
        obtain ⟨hnameable, rfl⟩ := Job.fullName_eq_ok.mp hname
        simp only [Journal.ofExcept_ok_bind]
        split
        · rfl
        · next hallowed =>
          cases hvalues : s.config.jobLabelValues j with
          | error fault => rfl
          | ok values =>
            -- all readings succeed, so the build counts
            obtain ⟨_, hbuildable, _⟩ := Config.jobLabelValues_eq_ok.mp hvalues
            exact absurd ⟨hparent, hnameable, by simpa using hallowed, hbuildable⟩ (h j)

theorem mem_countCompletions {s : Settings} {counters : List MetricKind}
    {completions : List Completion} {r : Recording} :
    r ∈ countCompletions s counters completions ↔ ∃ c ∈ completions, ∃ j, c.CountsFor s j ∧
      r ∈ (recordEntity 0 (counters.map fun kind => ⟨kind, none⟩) (.build c.build)
        j.labelValues).notes := by
  rw [countCompletions, List.mem_flatMap]
  refine exists_congr fun c => and_congr_right fun _ => ?_
  by_cases h : ∃ j, c.CountsFor s j
  · obtain ⟨j, hj⟩ := h
    constructor
    · intro hr
      exact ⟨j, hj, countCompletion_eq hj counters ▸ hr⟩
    · rintro ⟨k, hk, hr⟩
      exact countCompletion_eq hk counters ▸ hr
  · have hnone := not_exists.mp h
    simp [notes_countCompletion hnone, hnone]

/-- Counters have the labels of a job and no other. -/
theorem length_of_mem_countCompletions {s : Settings} {completions : List Completion}
    {r : Recording} (h : r ∈ countCompletions s s.counters completions) :
    r.key.length = s.config.jobLabelNames.length := by
  obtain ⟨c, _, j, _, hmem⟩ := mem_countCompletions.mp h
  obtain ⟨hmeter, hvalues, hmark⟩ := mem_recordEntity hmem
  obtain ⟨kind, hkind, hid⟩ := List.mem_map.mp hmeter
  obtain ⟨m, hm, rfl⟩ := List.mem_map.mp (mem_counters.mp hkind).1
  have hextra : r.mark.extra.length = 0 := by
    rw [extra_of_mem_measure hmark, ← hid]
    exact extraLabels_counter m hm
  rw [Recording.key, List.length_append, hvalues, hextra]
  rfl

/-! ## 4. Reachable caches -/

namespace Meter

theorem checkArity_eq_ok_iff {m : Meter} {values : List String} :
    m.checkArity values = .ok () ↔
      values.length + m.kind.extraLabels = m.series.labelNames.length := by
  unfold checkArity
  dsimp only
  split <;> simp_all

/-- Feeding a meter records marks of its metric, with a label value for each label name. -/
theorem exists_feed_eq_record (m : Meter) (now : Int64) (entity : Entity) (values : List String) :
    ∃ rs, (m.feed now entity values).1 = m.record rs ∧
      ∀ r ∈ rs, r.key.length = m.series.labelNames.length ∧
        r.mark ∈ (m.kind.measure now entity).notes := by
  unfold feed
  split
  · exact ⟨[], rfl, fun _ hr => absurd hr List.not_mem_nil⟩
  · next hchecked =>
    refine ⟨_, markAll_eq_record _ _ _ ⟨m.kind, none⟩, fun r hr => ?_⟩
    obtain ⟨mark, hmark, rfl⟩ := List.mem_map.mp hr
    refine ⟨?_, hmark⟩
    rw [Recording.key, List.length_append, extra_of_mem_measure hmark]
    exact checkArity_eq_ok_iff.mp hchecked

end Meter

/-- A meter fits its identity: it is announced and labelled as the identity says. -/
structure Meter.Fits (m : Meter) (key : CounterKey) : Prop where
  kind : m.kind = key.kind
  descriptor : m.descriptor = .of key.kind key.nameSpace key.qualifier
  labelNames : m.series.labelNames = key.labelNames
  sized : m.Sized

theorem Meter.Fits.record {m : Meter} {key : CounterKey} {rs : List Recording} (h : m.Fits key)
    (hrs : ∀ r ∈ rs, r.key.length = key.labelNames.length) : (m.record rs).Fits key where
  kind := (kind_record m rs).trans h.kind
  descriptor := (descriptor_record m rs).trans h.descriptor
  labelNames := (labelNames_record m rs).trans h.labelNames
  sized := h.sized.record fun r hr => h.labelNames ▸ hrs r hr

theorem fits_counterMeter (key : CounterKey) : (counterMeter key).Fits key :=
  ⟨rfl, rfl, rfl, Meter.sized_new _ _ _ _⟩

namespace CounterCache

/-- The caches that come from an empty one by asking for meters, feeding them and counting
builds. -/
inductive Reachable : CounterCache → Prop
  | empty : Reachable empty
  | obtain {c : CounterCache} (s : Settings) (kind : MetricKind) (labelNames : List String)
      (qualifier : Option String) : Reachable c →
      Reachable (c.obtain s kind labelNames qualifier).2
  | feed {c : CounterCache} (key : CounterKey) (now : Int64) (entity : Entity)
      (values : List String) : Reachable c → Reachable (c.feed key now entity values).1
  | count {c : CounterCache} (s : Settings) (completions : List Completion) : Reachable c →
      Reachable (c.count s completions)

/-- Every kept meter fits its identity. -/
def WellKept (c : CounterCache) : Prop :=
  ∀ key m, c.find? key = some (some m) → m.Fits key

variable {c : CounterCache}

/-- A meter that is kept after one was asked for was kept before or is new. -/
theorem find?_obtain_cases {kind : MetricKind} {labelNames : List String}
    {qualifier : Option String} {m : Meter}
    (h : (c.obtain s kind labelNames qualifier).2.find? key = some (some m)) :
    c.find? key = some (some m) ∨ key = keyOf s kind labelNames qualifier ∧
      m = .new kind (.of kind s.nameSpace qualifier) labelNames s.config.quantiles := by
  rw [find?_obtain] at h
  split at h
  · next hkey =>
    cases hkept : c.find? key with
    | some meter =>
      rw [hkept, Option.getD_some] at h
      exact .inl h
    | none =>
      rw [hkept, Option.getD_none, Option.some.injEq, Settings.meterFor?] at h
      split at h
      · rw [Settings.meter?, if_pos hkey.1, Option.some.injEq] at h
        exact .inr ⟨hkey.2, h.symm⟩
      · cases h
  · exact .inl h

/-- A meter that is kept after one was fed was kept before, perhaps as it was before the
feeding. -/
theorem find?_feed_cases {fed : CounterKey} {now : Int64} {entity : Entity} {values : List String}
    {m : Meter} (h : (c.feed fed now entity values).1.find? key = some (some m)) :
    c.find? key = some (some m) ∨
      ∃ before, c.find? key = some (some before) ∧ m = (before.feed now entity values).1 := by
  unfold CounterCache.feed at h
  split at h
  · exact .inl h
  · next before hbefore =>
    rw [find?_update] at h
    split at h
    · next hkey =>
      subst hkey
      rw [meter?_eq, Option.join_eq_some_iff] at hbefore
      rw [hbefore] at h
      cases h
      exact .inr ⟨before, hbefore, rfl⟩
    · exact .inl h

/-- A meter that is kept after builds were counted was kept before, or it is a counter that is not
suppressed, kept before or new, with what the builds have recorded. -/
theorem find?_count_cases {completions : List Completion} {m : Meter}
    (h : (c.count s completions).find? key = some (some m)) :
    c.find? key = some (some m) ∨
      s.counterKey key.kind = key ∧
        ∃ before, (c.find? key = some (some before) ∨ before = counterMeter key) ∧
          m = before.record
            (recordingsFor ⟨key.kind, none⟩ (countCompletions s s.counters completions)) := by
  rw [find?_count] at h
  split at h
  · next hkey =>
    rw [Option.some.injEq, Option.map_eq_some_iff] at h
    obtain ⟨before, hbefore, rfl⟩ := h
    refine .inr ⟨hkey.2, before, ?_, rfl⟩
    cases hkept : c.find? key with
    | some meter =>
      rw [hkept, Option.getD_some] at hbefore
      exact .inl (congrArg some hbefore)
    | none =>
      rw [hkept, Option.getD_none, Option.some.injEq] at hbefore
      exact .inr hbefore.symm
  · exact .inl h

theorem WellKept.count (h : c.WellKept) (s : Settings) (completions : List Completion) :
    (c.count s completions).WellKept := by
  intro key m hfind
  rcases find?_count_cases hfind with hkept | ⟨hkey, before, hbefore, rfl⟩
  · exact h key m hkept
  · have hfits : before.Fits key := by
      rcases hbefore with hkept | rfl
      · exact h key before hkept
      · exact fits_counterMeter key
    refine hfits.record fun r hr => ?_
    rw [length_of_mem_countCompletions (List.mem_filter.mp hr).1, ← hkey]
    rfl

/-- What new meters have and what recordings keep, every meter of a reachable cache has; and it fits
its identity. -/
theorem Reachable.meter_induction {P : CounterKey → Meter → Prop}
    (hnew : ∀ key quantiles, P key
      (.new key.kind (.of key.kind key.nameSpace key.qualifier) key.labelNames quantiles))
    (hrecord : ∀ key m rs, P key m → P key (m.record rs)) (h : c.Reachable) :
    ∀ key m, c.find? key = some (some m) → m.Fits key ∧ P key m := by
  induction h with
  | empty =>
    intro key m hfind
    cases hfind
  | obtain s kind labelNames qualifier _ ih =>
    intro key m hfind
    rcases find?_obtain_cases hfind with hkept | ⟨rfl, rfl⟩
    · exact ih key m hkept
    · have hsized := Meter.sized_new kind (.of kind s.nameSpace qualifier) labelNames
        s.config.quantiles
      exact ⟨⟨rfl, rfl, rfl, hsized⟩, hnew (keyOf s kind labelNames qualifier) _⟩
  | feed fed now entity values _ ih =>
    intro key m hfind
    rcases find?_feed_cases hfind with hkept | ⟨before, hbefore, rfl⟩
    · exact ih key m hkept
    · obtain ⟨hfits, hbefore⟩ := ih key before hbefore
      obtain ⟨rs, hrs, hfed⟩ := before.exists_feed_eq_record now entity values
      rw [hrs]
      refine ⟨hfits.record fun r hr => ?_, hrecord key before rs hbefore⟩
      exact (hfed r hr).1.trans (congrArg List.length hfits.labelNames)
  | count s completions _ ih =>
    intro key m hfind
    have hwellKept : WellKept _ := fun key m hfind => (ih key m hfind).1
    refine ⟨hwellKept.count s completions key m hfind, ?_⟩
    rcases find?_count_cases hfind with hkept | ⟨_, before, hbefore, rfl⟩
    · exact (ih key m hkept).2
    · refine hrecord key before _ ?_
      rcases hbefore with hkept | rfl
      · exact (ih key before hkept).2
      · exact hnew key []

/-- Every meter of a reachable cache fits its identity. -/
theorem Reachable.wellKept (h : c.Reachable) : c.WellKept := fun key m hfind =>
  (h.meter_induction (P := fun _ _ => True) (fun _ _ => trivial) (fun _ _ _ _ => trivial)
    key m hfind).1

end CounterCache

end BuildTelemetry
