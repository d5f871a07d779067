import Mathlib.Data.List.Induction
import BuildTelemetry.Proofs.Counters

/-!
# Feeding a meter

A meter is fed one entity after the other, each with the label values that its caller gives.

* `Meter.feedAll`: a meter after some feedings, and the recordings that they leave in it.
* `feedChecked_eq`: a meter that has taken the label values of an entity has a label set for every
  mark, so looking its label sets up never fails.
* `CounterCache.find?_feed`: feeding a kept meter changes its own entry only.
* `Reachable.measured`: a metric of builds is kept with a meter.
-/

namespace BuildTelemetry

/-- An entity that a meter is fed, with the label values that are given for it. -/
structure Feeding where
  now : Int64
  entity : Entity
  values : List String

namespace Meter

/-- A meter after some feedings. One with a wrong number of label values leaves it as it is. -/
def feedAll (m : Meter) (feedings : List Feeding) : Meter :=
  feedings.foldl (fun m f => (m.feed f.now f.entity f.values).1) m

theorem feedAll_append (m : Meter) (fs gs : List Feeding) :
    m.feedAll (fs ++ gs) = (m.feedAll fs).feedAll gs :=
  List.foldl_append

/-- What a meter was fed is a list of recordings, each of a mark of its metric. -/
theorem exists_feedAll_eq_record (m : Meter) (feedings : List Feeding) :
    ∃ rs, m.feedAll feedings = m.record rs ∧
      ∀ r ∈ rs, ∃ now entity, r.mark ∈ (m.kind.measure now entity).notes := by
  induction feedings using List.reverseRecOn with
  | nil => exact ⟨[], rfl, nofun⟩
  | append_singleton feedings f ih =>
    obtain ⟨rs, hrs, hmarks⟩ := ih
    obtain ⟨ts, hts, hfed⟩ := (m.record rs).exists_feed_eq_record f.now f.entity f.values
    refine ⟨rs ++ ts, ?_, fun r hr => ?_⟩
    · rw [feedAll_append, hrs, record_append]
      exact hts
    · rcases List.mem_append.mp hr with hr | hr
      · exact hmarks r hr
      · have hmark := (hfed r hr).2
        rw [kind_record] at hmark
        exact ⟨_, _, hmark⟩

@[simp] theorem kind_feedAll (m : Meter) (feedings : List Feeding) :
    (m.feedAll feedings).kind = m.kind := by
  obtain ⟨rs, hrs, -⟩ := m.exists_feedAll_eq_record feedings
  rw [hrs, kind_record]

@[simp] theorem labelNames_feedAll (m : Meter) (feedings : List Feeding) :
    (m.feedAll feedings).series.labelNames = m.series.labelNames := by
  obtain ⟨rs, hrs, -⟩ := m.exists_feedAll_eq_record feedings
  rw [hrs, labelNames_record]

/-- Records marks as `markAll` does, up to the first whose label values do not fit the schema. -/
def markChecked (values : List String) (m : Meter) : List Mark → Meter × Except ArityError Unit
  | [] => (m, .ok ())
  | mark :: marks =>
    match m.series.checkArity (values ++ mark.extra) with
    | .error error => (m, .error error)
    | .ok () => markChecked values (m.mark values mark) marks

/-- Feeds a meter as `feed` does, with a check of the label values of every mark besides. -/
def feedChecked (m : Meter) (now : Int64) (entity : Entity) (values : List String) :
    Meter × Except MeterError Unit :=
  match m.checkArity values with
  | .error error => (m, .error (.arity error))
  | .ok () =>
    let measurement := m.kind.measure now entity
    match m.markChecked values measurement.notes with
    | (m, .error error) => (m, .error (.arity error))
    | (m, .ok ()) => (m, measurement.result.mapError .host)

theorem markChecked_eq {values : List String} {m : Meter} {marks : List Mark}
    (h : ∀ mark ∈ marks, (values ++ mark.extra).length = m.series.labelNames.length) :
    m.markChecked values marks = (m.markAll values marks, .ok ()) := by
  induction marks generalizing m with
  | nil => rfl
  | cons mark marks ih =>
    obtain ⟨hfirst, hrest⟩ := List.forall_mem_cons.mp h
    have hcheck : m.series.checkArity (values ++ mark.extra) = .ok () := if_pos hfirst
    -- a mark leaves the schema as it is
    rw [markChecked, hcheck]
    exact ih (m := m.mark values mark) hrest

/-- The marks of a metric have the label values that its schema asks for, so the checks behind the
first one change nothing. -/
theorem feedChecked_eq (m : Meter) (now : Int64) (entity : Entity) (values : List String) :
    m.feedChecked now entity values = m.feed now entity values := by
  unfold feedChecked feed
  cases hcheck : m.checkArity values with
  | error error => rfl
  | ok taken =>
    have hlength := checkArity_eq_ok_iff.mp hcheck
    dsimp only
    rw [markChecked_eq fun mark hmark => by
      rw [List.length_append, extra_of_mem_measure hmark, hlength]]

end Meter

namespace CounterCache

/-- Feeding a kept meter changes what is kept under its identity and nothing else. -/
theorem find?_feed (c : CounterCache) (key k : CounterKey) (f : Feeding) :
    (c.feed key f.now f.entity f.values).1.find? k =
      if k = key then (c.find? k).map (·.map (·.feedAll [f])) else c.find? k := by
  unfold CounterCache.feed
  cases hmeter : c.meter? key with
  | none =>
    rw [meter?_eq, Option.join_eq_none_iff] at hmeter
    dsimp only
    split
    · next hk =>
      -- nothing is kept, or the entry is one of a metric that builds do not have
      subst hk
      rcases hmeter with hnone | hnone <;> rw [hnone] <;> rfl
    · rfl
  | some m =>
    rw [meter?_eq, Option.join_eq_some_iff] at hmeter
    dsimp only
    rw [find?_update]
    split
    · next hk =>
      subst hk
      rw [hmeter]
      rfl
    · rfl

/-- A metric of builds is kept with a meter. -/
theorem Reachable.measured {c : CounterCache} (h : c.Reachable) {key : CounterKey}
    (hkind : key.kind.subject = .build) : c.find? key ≠ some none := by
  induction h with
  | empty => exact Option.some_ne_none _ |>.symm
  | obtain s kind labelNames qualifier _ ih =>
    rw [find?_obtain]
    split
    · next hkey =>
      obtain ⟨hallows, rfl⟩ := hkey
      cases hkept : find? _ (keyOf s kind labelNames qualifier) with
      | some meter => exact fun h => ih (hkept.trans h)
      | none =>
        have hsubject : kind.subject = .build := hkind
        rw [Option.getD_none, Settings.meterFor?, if_pos hsubject, Settings.meter?, if_pos hallows]
        exact fun h => Option.some_ne_none _ (Option.some.inj h)
    · exact ih
  | feed fed now entity values _ ih =>
    rw [find?_feed _ fed key ⟨now, entity, values⟩]
    split
    · intro h
      obtain ⟨meter, hmeter, hfed⟩ := Option.map_eq_some_iff.mp h
      exact ih (hmeter.trans (congrArg some (Option.map_eq_none_iff.mp hfed)))
    · exact ih
  | count s completions _ ih =>
    rw [find?_count]
    split
    · intro h
      have hnone := Option.map_eq_none_iff.mp (Option.some.inj h)
      cases hkept : find? _ key with
      | some meter => exact ih (hkept.trans (congrArg some (by rwa [hkept] at hnone)))
      | none =>
        rw [hkept] at hnone
        exact Option.some_ne_none _ hnone
    · exact ih

end CounterCache

end BuildTelemetry
