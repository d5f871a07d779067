import Mathlib.Data.Finset.Card
import Mathlib.Data.List.Induction
import BuildTelemetry.Proofs.Feeding

/-!
# The identity of counters

A run asks a cache for meters, each time under settings of its own, and feeds the meters that it was
handed out. What a call hands out is the place of a meter in the cache: two calls have handed out
the same meter if the places are the same, and what is fed through one of them is seen through the
other.

1. Entries come to the end of the cache only and no identity comes twice, so a meter keeps its place
   (`place?_obtain`) and each identity has one of its own (`eq_of_place?_eq`).
2. After every run, the meter of an identity is the one that the first call for it has made, with
   all that was fed through calls for it (`CacheRun.follows_of`).
3. So the calls of a run tell which meters are the same and what each of them reports
   (`counters_identified`).
-/

namespace BuildTelemetry

/-! ## 1. Places -/

namespace CounterCache

/-- The place of the meter of an identity. -/
def place? (c : CounterCache) (key : CounterKey) : Option Nat :=
  c.entries.findIdx? fun e => e.1 == key

/-- The meter at a place. A metric that builds do not have has no meter there. -/
def meterAt? (c : CounterCache) (place : Nat) : Option Meter := c.entries[place]?.bind Prod.snd

/-- Feeds the meter at a place. -/
def feedAt (c : CounterCache) (place : Nat) (f : Feeding) :
    CounterCache × Except MeterError Unit :=
  match c.entries[place]? with
  | none => (c, .ok ())
  | some e => c.feed e.1 f.now f.entity f.values

/-- The identities in the order of their places. -/
def keys (c : CounterCache) : List CounterKey := c.entries.map Prod.fst

variable {c : CounterCache} {key : CounterKey}

theorem contains_iff (c : CounterCache) (key : CounterKey) : c.contains key ↔ key ∈ c.keys := by
  simp [contains, keys]

theorem place?_eq (c : CounterCache) (key : CounterKey) :
    c.place? key = c.keys.findIdx? (· == key) := by
  rw [keys, List.findIdx?_map]
  rfl

theorem entry_eq (c : CounterCache) (key : CounterKey) :
    c.entries.find? (fun e => e.1 == key) = (c.place? key).bind (c.entries[·]?) :=
  List.find?_eq_bind_findIdx?_getElem?

theorem meterAt?_place? (c : CounterCache) (key : CounterKey) :
    (c.place? key).bind c.meterAt? = (c.find? key).join := by
  rw [← meter?_eq, meter?, entry_eq, Option.bind_assoc]
  rfl

theorem place?_isSome (c : CounterCache) (key : CounterKey) :
    (c.place? key).isSome = (c.find? key).isSome := by
  rw [← contains_eq, contains, place?, List.findIdx?_isSome]

/-- The entry at the place of an identity bears it. -/
theorem key_of_place?_eq_some {place : Nat} (h : c.place? key = some place) :
    ∃ meter, c.entries[place]? = some (key, meter) := by
  obtain ⟨hlt, hkey, _⟩ := List.findIdx?_eq_some_iff_getElem.mp h
  refine ⟨c.entries[place].2, ?_⟩
  rw [List.getElem?_eq_getElem hlt, ← beq_iff_eq.mp hkey]

/-- Different identities have different places. -/
theorem eq_of_place?_eq {key' : CounterKey} {place : Nat} (h : c.place? key = some place)
    (h' : c.place? key' = some place) : key = key' := by
  obtain ⟨meter, hentry⟩ := key_of_place?_eq_some h
  obtain ⟨meter', hentry'⟩ := key_of_place?_eq_some h'
  rw [hentry, Option.some.injEq] at hentry'
  exact congrArg Prod.fst hentry'

/-- Feeding at the place of an identity is feeding under the identity. -/
theorem feedAt_place {place : Nat} (h : c.place? key = some place) (f : Feeding) :
    c.feedAt place f = c.feed key f.now f.entity f.values := by
  obtain ⟨meter, hentry⟩ := key_of_place?_eq_some h
  rw [feedAt, hentry]

theorem keys_feed (c : CounterCache) (key : CounterKey) (f : Feeding) :
    (c.feed key f.now f.entity f.values).1.keys = c.keys := by
  unfold CounterCache.feed
  split
  · rfl
  · rw [update, keys, keys, List.map_map]
    refine List.map_congr_left fun e _ => ?_
    dsimp only [Function.comp_apply]
    split <;> rfl

/-- A call adds its identity to the end if it is missing, and it changes no other place. -/
theorem keys_obtain (c : CounterCache) (s : Settings) (kind : MetricKind)
    (labelNames : List String) (qualifier : Option String) :
    (c.obtain s kind labelNames qualifier).2.keys =
      if s.allows kind ∧ keyOf s kind labelNames qualifier ∉ c.keys then
        c.keys ++ [keyOf s kind labelNames qualifier]
      else c.keys := by
  unfold CounterCache.obtain
  by_cases hallows : s.allows kind
  · by_cases hkept : keyOf s kind labelNames qualifier ∈ c.keys
    · simp only [hallows, contains_iff, hkept, if_true, not_true_eq_false, and_false, if_false]
    · simp only [hallows, contains_iff, hkept, if_false, if_true, not_false_eq_true, and_self]
      exact List.map_append
  · simp only [hallows, Bool.false_eq_true, if_false, false_and]

theorem place?_obtain (s : Settings) (kind : MetricKind) (labelNames : List String)
    (qualifier : Option String) {place : Nat} (h : c.place? key = some place) :
    (c.obtain s kind labelNames qualifier).2.place? key = some place := by
  rw [place?_eq] at h ⊢
  rw [keys_obtain]
  split
  · rw [List.findIdx?_append, h]
    rfl
  · exact h

theorem place?_feedAt (c : CounterCache) (place : Nat) (f : Feeding) (key : CounterKey) :
    (c.feedAt place f).1.place? key = c.place? key := by
  unfold feedAt
  split
  · rfl
  · rw [place?_eq, place?_eq, keys_feed]

end CounterCache

/-! ## 2. Runs -/

/-- A request for a meter. -/
structure CounterCall where
  settings : Settings
  kind : MetricKind
  labelNames : List String
  qualifier : Option String

namespace CounterCall

/-- The metric of a call is not suppressed. -/
def Enabled (a : CounterCall) : Prop := a.settings.allows a.kind

instance (a : CounterCall) : Decidable a.Enabled := inferInstanceAs (Decidable (_ = _))

def key (a : CounterCall) : CounterKey :=
  CounterCache.keyOf a.settings a.kind a.labelNames a.qualifier

/-- The identity that a call asks for. There is none if its metric is suppressed. -/
def key? (a : CounterCall) : Option CounterKey := if a.Enabled then some a.key else none

/-- The meter that a call makes if none is kept yet. -/
def meter? (a : CounterCall) : Option Meter :=
  a.settings.meterFor? .build a.kind a.labelNames a.qualifier

theorem key?_of_enabled {a : CounterCall} (h : a.Enabled) : a.key? = some a.key := if_pos h

theorem key?_of_not_enabled {a : CounterCall} (h : ¬a.Enabled) : a.key? = none := if_neg h

theorem key?_eq_some_iff {a : CounterCall} {key : CounterKey} :
    a.key? = some key ↔ a.Enabled ∧ a.key = key := by
  unfold key?
  split <;> simp_all

/-- A call makes a meter without label sets. -/
theorem isEmpty_meter? {a : CounterCall} {m : Meter} (h : a.meter? = some m) :
    m.series.isEmpty := by
  unfold meter? Settings.meterFor? Settings.meter? at h
  split at h
  · split at h
    · cases h
      rfl
    · cases h
  · cases h

end CounterCall

/-- A call, or a feeding of the meter that the `n`-th call has handed out. -/
inductive CacheStep
  | call (a : CounterCall)
  | feed (n : Nat) (f : Feeding)

/-- A cache with the places that were handed out. A call for a suppressed metric hands out none. -/
structure CacheRun where
  cache : CounterCache
  handed : List (Option Nat)

namespace CacheRun

def call (run : CacheRun) (a : CounterCall) : CacheRun :=
  let obtained := run.cache.obtain a.settings a.kind a.labelNames a.qualifier
  ⟨obtained.2, run.handed ++ [obtained.1.bind obtained.2.place?]⟩

/-- Feeds what the `n`-th call has handed out. -/
def feed (run : CacheRun) (n : Nat) (f : Feeding) : CacheRun × Except MeterError Unit :=
  match run.handed[n]?.join with
  | none => (run, .ok ())
  | some place => ({ run with cache := (run.cache.feedAt place f).1 }, (run.cache.feedAt place f).2)

def step (run : CacheRun) : CacheStep → CacheRun
  | .call a => run.call a
  | .feed n f => (run.feed n f).1

/-- The run that starts with an empty cache. -/
def of (steps : List CacheStep) : CacheRun := steps.foldl step ⟨.empty, []⟩

/-- What the `n`-th call has handed out, as it is now. -/
def collector (run : CacheRun) (n : Nat) : Option Meter :=
  run.handed[n]?.join.bind run.cache.meterAt?

/-- What the `n`-th call has handed out reports. -/
def report (run : CacheRun) (n : Nat) : List MetricFamily := families? (run.collector n)

end CacheRun

/-- The calls of a run in their order. -/
def callsOf (steps : List CacheStep) : List CounterCall :=
  steps.filterMap fun
    | .call a => some a
    | .feed _ _ => none

/-- What is fed through the calls for an identity, the earlier `calls` and those of the run. -/
def feedingsOf (key : CounterKey) (calls : List CounterCall) : List CacheStep → List Feeding
  | [] => []
  | .call a :: rest => feedingsOf key (calls ++ [a]) rest
  | .feed n f :: rest =>
    if calls[n]?.bind CounterCall.key? = some key then f :: feedingsOf key calls rest
    else feedingsOf key calls rest

theorem callsOf_append (xs ys : List CacheStep) : callsOf (xs ++ ys) = callsOf xs ++ callsOf ys :=
  List.filterMap_append

theorem callsOf_concat_call (steps : List CacheStep) (a : CounterCall) :
    callsOf (steps ++ [.call a]) = callsOf steps ++ [a] :=
  callsOf_append _ _

theorem callsOf_concat_feed (steps : List CacheStep) (n : Nat) (f : Feeding) :
    callsOf (steps ++ [.feed n f]) = callsOf steps :=
  (callsOf_append _ _).trans (List.append_nil _)

theorem feedingsOf_append (key : CounterKey) (calls : List CounterCall) (xs ys : List CacheStep) :
    feedingsOf key calls (xs ++ ys) =
      feedingsOf key calls xs ++ feedingsOf key (calls ++ callsOf xs) ys := by
  induction xs generalizing calls with
  | nil => simp [feedingsOf, callsOf]
  | cons x xs ih =>
    cases x with
    | call a =>
      rw [List.cons_append, feedingsOf, feedingsOf, ih, List.append_assoc]
      rfl
    | feed n f =>
      rw [List.cons_append, feedingsOf, feedingsOf, ih]
      split <;> rfl

/-- Nothing is fed through the calls for an identity that no call asks for. -/
theorem feedingsOf_eq_nil {key : CounterKey} {calls : List CounterCall} {steps : List CacheStep}
    (h : ∀ a ∈ calls ++ callsOf steps, a.key? ≠ some key) : feedingsOf key calls steps = [] := by
  induction steps generalizing calls with
  | nil => rfl
  | cons x rest ih =>
    cases x with
    | call a =>
      refine ih fun b hb => h b ?_
      rwa [List.append_assoc] at hb
    | feed n f =>
      rw [feedingsOf, if_neg]
      · exact ih h
      · intro hkey
        obtain ⟨a, ha, hakey⟩ := Option.bind_eq_some_iff.mp hkey
        exact h a (List.mem_append_left _ (List.mem_of_getElem? ha)) hakey

/-- The first call of some for an identity. -/
def firstCall? (key : CounterKey) (calls : List CounterCall) : Option CounterCall :=
  calls.find? fun a => a.key? == some key

theorem firstCall?_eq_none_iff {key : CounterKey} {calls : List CounterCall} :
    firstCall? key calls = none ↔ ∀ a ∈ calls, a.key? ≠ some key := by
  simp [firstCall?]

theorem firstCall?_append (key : CounterKey) (calls : List CounterCall) (a : CounterCall) :
    firstCall? key (calls ++ [a]) =
      (firstCall? key calls).or (if a.key? = some key then some a else none) := by
  rw [firstCall?, List.find?_append, List.find?_singleton]
  simp only [beq_iff_eq]
  rfl

namespace CacheRun

/-- What a run leaves follows from its steps: the meter of an identity is the one that the first
call for it has made, with all that was fed through calls for it, and a call has handed out the
place of its identity. -/
structure Follows (run : CacheRun) (steps : List CacheStep) : Prop where
  found : ∀ key, run.cache.find? key = (firstCall? key (callsOf steps)).map fun first =>
    first.meter?.map (·.feedAll (feedingsOf key [] steps))
  handed : run.handed = (callsOf steps).map fun a => a.key?.bind run.cache.place?
  nodup : run.cache.keys.Nodup

variable {run : CacheRun} {steps : List CacheStep}

/-- An identity has a place as soon as a call has asked for it. -/
theorem Follows.exists_place (h : run.Follows steps) {a : CounterCall} (ha : a ∈ callsOf steps)
    {key : CounterKey} (hkey : a.key? = some key) : ∃ place, run.cache.place? key = some place := by
  rw [← Option.isSome_iff_exists, CounterCache.place?_isSome, h.found, Option.isSome_map,
    firstCall?, List.find?_isSome]
  exact ⟨a, ha, by simp [hkey]⟩

theorem obtain_fst (c : CounterCache) (a : CounterCall) :
    (c.obtain a.settings a.kind a.labelNames a.qualifier).1 = a.key? := by
  unfold CounterCache.obtain
  by_cases hallows : a.settings.allows a.kind
  · rw [if_pos hallows, CounterCall.key?_of_enabled hallows]
    dsimp only
    split <;> rfl
  · rw [if_neg hallows, CounterCall.key?_of_not_enabled hallows]

theorem Follows.call (h : run.Follows steps) (a : CounterCall) :
    (run.call a).Follows (steps ++ [.call a]) where
  found := by
    intro key
    have hfed : feedingsOf key [] (steps ++ [.call a]) = feedingsOf key [] steps := by
      rw [feedingsOf_append]
      exact List.append_nil _
    have hasks : (a.settings.allows a.kind ∧
        key = CounterCache.keyOf a.settings a.kind a.labelNames a.qualifier) ↔
          a.key? = some key :=
      CounterCall.key?_eq_some_iff.trans (and_congr_right fun _ => eq_comm) |>.symm
    have hfind := CounterCache.find?_obtain run.cache a.settings a.kind a.labelNames a.qualifier key
    rw [if_congr hasks rfl rfl, h.found] at hfind
    refine hfind.trans ?_
    rw [hfed, callsOf_concat_call, firstCall?_append]
    cases hfirst : firstCall? key (callsOf steps) with
    | some first => split <;> rfl
    | none =>
      -- nothing was fed through calls for an identity that this call is the first to ask for
      rw [feedingsOf_eq_nil (by simpa using firstCall?_eq_none_iff.mp hfirst)]
      by_cases hkey : a.key? = some key
      · rw [if_pos hkey, if_pos hkey]
        exact congrArg some Option.map_id'.symm
      · rw [if_neg hkey, if_neg hkey]
        rfl
  handed := by
    rw [callsOf_concat_call, List.map_append, List.map_singleton, CacheRun.call]
    dsimp only
    rw [obtain_fst, h.handed]
    congr 1
    refine List.map_congr_left fun b hb => ?_
    cases hkey : b.key? with
    | none => rfl
    | some key =>
      obtain ⟨place, hplace⟩ := h.exists_place hb hkey
      exact hplace.trans (CounterCache.place?_obtain _ _ _ _ hplace).symm
  nodup := by
    rw [CacheRun.call, CounterCache.keys_obtain]
    split
    · next hnew => exact List.nodup_append.mpr ⟨h.nodup, List.nodup_singleton _, by grind⟩
    · exact h.nodup

/-- The place that the `n`-th call has handed out. -/
theorem Follows.handed_join (h : run.Follows steps) (n : Nat) :
    run.handed[n]?.join = ((callsOf steps)[n]?.bind CounterCall.key?).bind run.cache.place? := by
  rw [h.handed, List.getElem?_map]
  cases (callsOf steps)[n]? <;> rfl

theorem Follows.feed (h : run.Follows steps) (n : Nat) (f : Feeding) :
    (run.feed n f).1.Follows (steps ++ [.feed n f]) := by
  have hcalls := callsOf_concat_feed steps n f
  have hfed (key : CounterKey) : feedingsOf key [] (steps ++ [.feed n f]) =
      feedingsOf key [] steps ++
        if (callsOf steps)[n]?.bind CounterCall.key? = some key then [f] else [] := by
    rw [feedingsOf_append]
    rfl
  rw [CacheRun.feed, h.handed_join]
  cases hasked : (callsOf steps)[n]?.bind CounterCall.key? with
  | none =>
    refine ⟨fun key => ?_, hcalls ▸ h.handed, h.nodup⟩
    rw [hcalls, hfed, hasked, if_neg (by simp), List.append_nil]
    exact h.found key
  | some asked =>
    obtain ⟨a, ha, hkey⟩ := Option.bind_eq_some_iff.mp hasked
    obtain ⟨place, hplace⟩ := h.exists_place (List.mem_of_getElem? ha) hkey
    rw [Option.bind_some, hplace]
    dsimp only
    refine ⟨fun key => ?_, ?_, ?_⟩
    · rw [CounterCache.feedAt_place hplace, CounterCache.find?_feed, h.found, hcalls, hfed, hasked]
      by_cases heq : key = asked
      · subst heq
        rw [if_pos rfl, if_pos rfl]
        cases firstCall? key (callsOf steps) with
        | none => rfl
        | some first =>
          simp only [Option.map_some, Option.map_map]
          congr 2
          exact funext fun m => (m.feedAll_append _ _).symm
      · rw [if_neg heq, if_neg (by simpa using Ne.symm heq), List.append_nil]
    · rw [h.handed, hcalls]
      simp only [funext (CounterCache.place?_feedAt run.cache place f)]
    · rw [CounterCache.feedAt_place hplace, CounterCache.keys_feed]
      exact h.nodup

theorem Follows.step (h : run.Follows steps) (x : CacheStep) :
    (run.step x).Follows (steps ++ [x]) := by
  cases x with
  | call a => exact h.call a
  | feed n f => exact h.feed n f

theorem of_append (xs ys : List CacheStep) : of (xs ++ ys) = ys.foldl CacheRun.step (of xs) :=
  List.foldl_append

theorem follows_of (steps : List CacheStep) : (of steps).Follows steps := by
  induction steps using List.reverseRecOn with
  | nil => exact ⟨fun _ => rfl, rfl, List.nodup_nil⟩
  | append_singleton steps x ih =>
    rw [of_append]
    exact ih.step x

/-! ## 3. What the calls tell -/

variable {a b : CounterCall} {n : Nat}

theorem Follows.handed_call (h : run.Follows steps) (ha : (callsOf steps)[n]? = some a) :
    run.handed[n]? = some (a.key?.bind run.cache.place?) := by
  rw [h.handed, List.getElem?_map, ha]
  rfl

theorem Follows.length_handed (h : run.Follows steps) :
    run.handed.length = (callsOf steps).length := by
  rw [h.handed, List.length_map]

/-- A call that is not suppressed has handed out the meter of its identity. -/
theorem Follows.collector_eq (h : run.Follows steps) (ha : (callsOf steps)[n]? = some a)
    (henabled : a.Enabled) : run.collector n = (run.cache.find? a.key).join := by
  rw [collector, h.handed_call ha, CounterCall.key?_of_enabled henabled]
  exact CounterCache.meterAt?_place? run.cache a.key

/-- Calls have handed out the same meter if and only if they ask for one identity. -/
theorem Follows.handed_eq_iff (h : run.Follows steps) {i j : Nat}
    (ha : (callsOf steps)[i]? = some a) (hb : (callsOf steps)[j]? = some b) (haenabled : a.Enabled)
    (hbenabled : b.Enabled) : run.handed[i]? = run.handed[j]? ↔ a.key = b.key := by
  have hakey := CounterCall.key?_of_enabled haenabled
  rw [h.handed_call ha, h.handed_call hb, hakey, CounterCall.key?_of_enabled hbenabled,
    Option.bind_some, Option.bind_some, Option.some.injEq]
  constructor
  · intro hplaces
    obtain ⟨place, hplace⟩ := h.exists_place (List.mem_of_getElem? ha) hakey
    exact CounterCache.eq_of_place?_eq hplace (hplaces ▸ hplace)
  · intro hkeys
    rw [hkeys]

/-- The cache has one place for each identity that was asked for. -/
theorem Follows.size_eq (h : run.Follows steps) :
    run.cache.size = ((callsOf steps).filterMap CounterCall.key?).toFinset.card := by
  have hmem (key : CounterKey) :
      key ∈ run.cache.keys ↔ key ∈ (callsOf steps).filterMap CounterCall.key? := by
    rw [← CounterCache.contains_iff, CounterCache.contains_eq, h.found, Option.isSome_map,
      firstCall?, List.find?_isSome, List.mem_filterMap]
    simp only [beq_iff_eq]
  rw [CounterCache.size, ← List.length_map Prod.fst, ← CounterCache.keys,
    ← List.toFinset_card_of_nodup h.nodup]
  congr 1
  ext key
  rw [List.mem_toFinset, List.mem_toFinset, hmem]

/-- A call for an identity that was not asked for before hands out a meter of its own, which has no
label sets. -/
theorem Follows.collector_of_new (h : run.Follows steps) (henabled : a.Enabled)
    (hnew : ∀ b ∈ callsOf steps, b.Enabled → b.key ≠ a.key) :
    (run.call a).collector (callsOf steps).length = a.meter? := by
  have hlast : (callsOf (steps ++ [.call a]))[(callsOf steps).length]? = some a := by
    rw [callsOf_concat_call, List.getElem?_concat_length]
  have hkept : run.cache.find? a.key = none := by
    rw [h.found, Option.map_eq_none_iff, firstCall?_eq_none_iff]
    intro b hb hkey
    obtain ⟨hbenabled, heq⟩ := CounterCall.key?_eq_some_iff.mp hkey
    exact hnew b hb hbenabled heq
  rw [(h.call a).collector_eq hlast henabled, CacheRun.call]
  dsimp only
  rw [CounterCache.find?_obtain, if_pos ⟨henabled, rfl⟩, hkept]
  rfl

/-! ### Suppressed metrics -/

theorem call_of_not_enabled (run : CacheRun) (ha : ¬a.Enabled) :
    run.call a = ⟨run.cache, run.handed ++ [none]⟩ := by
  have hobtain : run.cache.obtain a.settings a.kind a.labelNames a.qualifier = (none, run.cache) :=
    if_neg ha
  rw [call, hobtain]
  rfl

/-- What was handed out is never taken back. -/
theorem handed_step {place : Option Nat} (h : run.handed[n]? = some place) (x : CacheStep) :
    (run.step x).handed[n]? = some place := by
  cases x with
  | call b =>
    exact (List.getElem?_append_left (List.getElem?_eq_some_iff.mp h).1).trans h
  | feed k f =>
    rw [step, feed]
    split <;> exact h

theorem handed_foldl {place : Option Nat} (h : run.handed[n]? = some place)
    (later : List CacheStep) : (later.foldl step run).handed[n]? = some place := by
  induction later generalizing run with
  | nil => exact h
  | cons x later ih => exact ih (handed_step h x)

/-- What was handed out for a suppressed metric accepts all that it is fed and reports nothing. -/
theorem inert_of_handed_none (h : run.handed[n]? = some none) :
    run.report n = [] ∧ ∀ f, run.feed n f = (run, .ok ()) := by
  refine ⟨?_, fun f => ?_⟩
  · rw [report, collector, h]
    rfl
  · rw [feed, h]
    rfl

theorem Follows.handed_of_not_enabled (h : run.Follows steps) (ha : (callsOf steps)[n]? = some a)
    (hdisabled : ¬a.Enabled) : run.handed[n]? = some none := by
  rw [h.handed_call ha, CounterCall.key?_of_not_enabled hdisabled]
  rfl

/-- What is fed through a call is not seen through calls for other identities. -/
theorem Follows.report_feed (h : run.Follows steps) {k : Nat} (ha : (callsOf steps)[n]? = some a)
    (hb : (callsOf steps)[k]? = some b) (hkeys : a.Enabled → b.Enabled → a.key ≠ b.key)
    (f : Feeding) : (run.feed n f).1.report k = run.report k := by
  by_cases haenabled : a.Enabled
  · by_cases hbenabled : b.Enabled
    · have hcalls := callsOf_concat_feed steps n f
      have hakey := CounterCall.key?_of_enabled haenabled
      obtain ⟨place, hplace⟩ := h.exists_place (List.mem_of_getElem? ha) hakey
      rw [report, report, h.collector_eq hb hbenabled,
        (Follows.feed h n f).collector_eq (hcalls ▸ hb) hbenabled, CacheRun.feed,
        h.handed_call ha, hakey, Option.bind_some, hplace, Option.join_some]
      dsimp only
      rw [CounterCache.feedAt_place hplace, CounterCache.find?_feed,
        if_neg (hkeys haenabled hbenabled).symm]
    · have hhanded := h.handed_of_not_enabled hb hbenabled
      exact (inert_of_handed_none (handed_step hhanded (.feed n f))).1.trans
        (inert_of_handed_none hhanded).1.symm
  · rw [(inert_of_handed_none (h.handed_of_not_enabled ha haenabled)).2 f]

end CacheRun

/-- The identity of counters. Whatever was asked for and fed before, under whatever settings: calls
have handed out the same meter if and only if they ask for one metric with the same label names, the
same qualifier and the same namespace; a new identity begins with no label set; a call for a
suppressed metric leaves the cache alone, and what it hands out accepts everything and never reports
anything; every other call has handed out what the first call for its identity made, with all that
was fed through calls for this identity since; the cache has one entry an identity; and what is fed
through one call is not seen through the calls for other identities. -/
theorem counters_identified (steps : List CacheStep) :
    let run := CacheRun.of steps
    let calls := callsOf steps
    (∀ (i j : Nat) (a b : CounterCall), calls[i]? = some a → calls[j]? = some b →
      a.Enabled → b.Enabled →
        (run.handed[i]? = run.handed[j]? ↔ a.kind = b.kind ∧ a.labelNames = b.labelNames ∧
          a.qualifier = b.qualifier ∧ a.settings.nameSpace = b.settings.nameSpace)) ∧
    (∀ a : CounterCall, a.Enabled → (∀ b ∈ calls, b.Enabled → b.key ≠ a.key) →
      (run.call a).collector calls.length = a.meter? ∧ ∀ m ∈ a.meter?, m.series.isEmpty) ∧
    (∀ a : CounterCall, ¬a.Enabled → (run.call a).cache = run.cache ∧ ∀ later : List CacheStep,
      let after := later.foldl CacheRun.step (run.call a)
      after.report calls.length = [] ∧ ∀ f, after.feed calls.length f = (after, .ok ())) ∧
    (∀ (i : Nat) (a : CounterCall), calls[i]? = some a → a.Enabled →
      ∃ first, firstCall? a.key calls = some first ∧
        run.collector i = first.meter?.map (·.feedAll (feedingsOf a.key [] steps))) ∧
    run.cache.size = (calls.filterMap CounterCall.key?).toFinset.card ∧
    (∀ (i j : Nat) (a b : CounterCall), calls[i]? = some a → calls[j]? = some b →
      (a.Enabled → b.Enabled → a.key ≠ b.key) →
        ∀ f, (run.feed i f).1.report j = run.report j) := by
  have h := CacheRun.follows_of steps
  refine ⟨fun i j a b ha hb haenabled hbenabled => ?_, fun a henabled hnew => ?_,
    fun a hdisabled => ?_, fun i a ha henabled => ?_, h.size_eq,
    fun i j a b ha hb hkeys f => h.report_feed ha hb hkeys f⟩
  · rw [h.handed_eq_iff ha hb haenabled hbenabled, CounterCall.key, CounterCall.key,
      CounterCache.keyOf, CounterCache.keyOf, CounterKey.mk.injEq]
  · exact ⟨h.collector_of_new henabled hnew, fun m hm => CounterCall.isEmpty_meter? hm⟩
  · have hcall := (CacheRun.of steps).call_of_not_enabled hdisabled
    refine ⟨by rw [hcall], fun later => ?_⟩
    refine CacheRun.inert_of_handed_none (CacheRun.handed_foldl ?_ later)
    rw [hcall, ← h.length_handed]
    exact List.getElem?_concat_length
  · have hkey := CounterCall.key?_of_enabled henabled
    cases hfirst : firstCall? a.key (callsOf steps) with
    | none => exact absurd hkey (firstCall?_eq_none_iff.mp hfirst a (List.mem_of_getElem? ha))
    | some first =>
      refine ⟨first, rfl, ?_⟩
      rw [h.collector_eq ha henabled, h.found, hfirst]
      rfl

end BuildTelemetry
