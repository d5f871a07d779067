import BuildTelemetry.Proofs.Feeding

/-!
# A wrong number of label values records nothing

Meters look label sets up in different ways: gauges and summaries once there is a value, counters
before anything is read, and metrics of stages once for each stage, with the name of the stage
behind the label values that are given. Each way has its own check of the label values. All of them
end as `Meter.feed` says, which checks once, before anything.

1. The ways with their checks, and whether the entity was looked at (`Meter.feedValue`,
   `Meter.feedCondition`, `Meter.feedStages`).
2. Every metric is fed in one of these ways, and all end in the same way (`feed_eq_outcome`).
3. After any feedings a wrong number of label values is reported and records nothing
   (`arity_errors_record_nothing`).
-/

namespace BuildTelemetry

/-! ## 1. Three ways to feed a meter -/

/-- How a feeding ends. -/
structure Outcome where
  meter : Meter
  /-- Whether anything of the entity was read. -/
  looked : Bool
  result : Except MeterError Unit

namespace Meter

/-- Looks a label set up and changes its instrument. It fails unless there is a value for each label
name. -/
def lookUp (m : Meter) (values : List String) (f : Instrument → Instrument) :
    Except ArityError Meter :=
  (m.series.update values f).map fun series => { m with series }

/-- The label values are checked, and the label set is looked up if there is a value to record. -/
def feedValue (m : Meter) (values : List String) (reading : Reading (Option Float)) : Outcome :=
  match m.series.checkArity values with
  | .error error => ⟨m, false, .error (.arity error)⟩
  | .ok () =>
    match reading with
    | .error fault => ⟨m, true, .error (.host fault)⟩
    | .ok none => ⟨m, true, .ok ()⟩
    | .ok (some value) =>
      match m.lookUp values (·.record value) with
      | .error error => ⟨m, true, .error (.arity error)⟩
      | .ok m => ⟨m, true, .ok ()⟩

/-- The label set is looked up first, and kept to count in it. -/
def feedCondition (m : Meter) (values : List String) (reading : Reading Bool) : Outcome :=
  match m.lookUp values id with
  | .error error => ⟨m, false, .error (.arity error)⟩
  | .ok m =>
    match reading with
    | .error fault => ⟨m, true, .error (.host fault)⟩
    | .ok false => ⟨m, true, .ok ()⟩
    | .ok true => ⟨{ m with series := m.series.touch values (·.record 1.0) }, true, .ok ()⟩

/-- Looks a label set up for each stage with a value, up to the first that fails. -/
def feedEachStage (values : List String) (mark? : Stage → Option Float) (m : Meter) :
    List Stage → Meter × Except ArityError Unit
  | [] => (m, .ok ())
  | stage :: stages =>
    match mark? stage with
    | none => feedEachStage values mark? m stages
    | some value =>
      match m.lookUp (values ++ [stage.name]) (·.record value) with
      | .error error => (m, .error error)
      | .ok m => feedEachStage values mark? m stages

/-- The label values have to be one fewer than the label names, the last of which is the stage. -/
def feedStages (m : Meter) (values : List String) (reading : Reading (List Stage))
    (mark? : Stage → Option Float) : Outcome :=
  let names := m.series.labelNames.length
  if values.length + 1 ≠ names then ⟨m, false, .error (.arity ⟨names - 1, values.length⟩)⟩
  else match reading with
    | .error fault => ⟨m, true, .error (.host fault)⟩
    | .ok stages =>
      ⟨(m.feedEachStage values mark? stages).1, true,
        (m.feedEachStage values mark? stages).2.mapError .arity⟩

end Meter

/-- The measurement of stages that are read. -/
def Measurement.ofStages (reading : Reading (List Stage)) (mark? : Stage → Option Float) :
    Measurement := do
  let stages ← Journal.ofExcept reading
  Journal.each (fun stage => match mark? stage with
    | some value => Journal.note ⟨[stage.name], some value⟩
    | none => pure ()) stages

/-- One mark for each stage with a value. -/
def stageMarks (mark? : Stage → Option Float) (stages : List Stage) : List Mark :=
  stages.flatMap fun stage => ((mark? stage).map fun value => ⟨[stage.name], some value⟩).toList

theorem Measurement.ofStages_ok (stages : List Stage) (mark? : Stage → Option Float) :
    ofStages (.ok stages) mark? = ⟨stageMarks mark? stages, .ok ()⟩ := by
  rw [ofStages, Journal.ofExcept_ok_bind, Journal.each_eq fun stage _ => by split <;> rfl]
  congr 1
  refine List.flatMap_congr fun stage _ => ?_
  cases mark? stage <;> rfl

/-- How a metric is computed: from one value, by counting, or from stages. -/
inductive Computation where
  | value (reading : Reading (Option Float))
  | condition (reading : Reading Bool)
  | stages (reading : Reading (List Stage)) (mark? : Stage → Option Float)

namespace Computation

def measurement : Computation → Measurement
  | value reading => .ofReading reading
  | condition reading => .ofCondition reading
  | stages reading mark? => .ofStages reading mark?

/-- The number of label values that marks add. -/
def extraLabels : Computation → Nat
  | stages _ _ => 1
  | _ => 0

/-- Feeds a meter with the checks that belong to the computation. -/
def feed (m : Meter) (values : List String) : Computation → Outcome
  | value reading => m.feedValue values reading
  | condition reading => m.feedCondition values reading
  | stages reading mark? => m.feedStages values reading mark?

/-- How a metric is computed from an entity. -/
structure Computes (c : Computation) (now : Int64) (kind : MetricKind) (entity : Entity) :
    Prop where
  measurement : kind.measure now entity = c.measurement
  extraLabels : kind.extraLabels = c.extraLabels

end Computation

theorem exists_computes_build (b : Build) (m : BuildMetric) :
    ∃ c : Computation, m.measure b = c.measurement ∧
      (MetricKind.build m).extraLabels = c.extraLabels := by
  cases m with
  | stageDurations => exact ⟨.stages b.readStages _, rfl, rfl⟩
  | stageResult =>
    exact ⟨.stages b.readStages fun stage => some stage.status.ordinal.toFloat, rfl, rfl⟩
  | successes | failures | unstables | aborts | total => exact ⟨.condition _, rfl, rfl⟩
  | _ => exact ⟨.value _, rfl, rfl⟩

/-- Nothing is read of an entity of another sort. -/
theorem exists_computes_pure (kind : MetricKind) :
    ∃ c : Computation, (pure () : Measurement) = c.measurement ∧
      kind.extraLabels = c.extraLabels := by
  unfold MetricKind.extraLabels
  split
  · exact ⟨.stages (.ok []) fun _ => none, rfl, rfl⟩
  · exact ⟨.stages (.ok []) fun _ => none, rfl, rfl⟩
  · exact ⟨.value (.ok none), rfl, rfl⟩

/-- Every metric is computed in one of the three ways. -/
theorem exists_computes (now : Int64) (kind : MetricKind) (entity : Entity) :
    ∃ c : Computation, c.Computes now kind entity := by
  suffices h : ∃ c : Computation, kind.measure now entity = c.measurement ∧
      kind.extraLabels = c.extraLabels by
    obtain ⟨c, hmeasure, hextra⟩ := h
    exact ⟨c, hmeasure, hextra⟩
  unfold MetricKind.measure
  split
  · exact exists_computes_build _ _
  · next m _ =>
    cases m <;> exact ⟨.value _, rfl, rfl⟩
  · exact ⟨.value (.ok (some _)), rfl, rfl⟩
  · exact ⟨.value _, rfl, rfl⟩
  · exact ⟨.value _, rfl, rfl⟩
  · exact ⟨.value (.ok (some _)), rfl, rfl⟩
  · exact ⟨.value _, rfl, rfl⟩
  · exact ⟨.value _, rfl, rfl⟩
  · exact exists_computes_pure kind

/-! ## 2. All ways end alike -/

namespace Meter

variable {m : Meter} {f : Feeding} {values : List String}

/-- How a feeding ends if the label values are checked once, before anything is read. -/
def outcome (m : Meter) (f : Feeding) : Outcome :=
  ⟨(m.feed f.now f.entity f.values).1, (m.checkArity f.values).isOk,
    (m.feed f.now f.entity f.values).2⟩

theorem outcome_of_error {error : ArityError} (h : m.checkArity f.values = .error error) :
    m.outcome f = ⟨m, false, .error (.arity error)⟩ := by
  rw [outcome, feed, h]
  rfl

theorem outcome_of_ok (h : m.checkArity f.values = .ok ()) :
    m.outcome f = ⟨m.markAll f.values (m.kind.measure f.now f.entity).notes, true,
      (m.kind.measure f.now f.entity).result.mapError .host⟩ := by
  rw [outcome, feed, h]
  rfl

/-- Where marks add no label values, a look-up checks just what the meter checks. -/
theorem checkArity_eq (h : m.kind.extraLabels = 0) (values : List String) :
    m.checkArity values = m.series.checkArity values := by
  simp only [checkArity, Series.checkArity, h, Nat.add_zero, Nat.sub_zero]

theorem lookUp_of_ok (h : m.series.checkArity values = .ok ()) (g : Instrument → Instrument) :
    m.lookUp values g = .ok { m with series := m.series.touch values g } := by
  rw [lookUp, Series.update, h]
  rfl

theorem lookUp_of_error {error : ArityError} (h : m.series.checkArity values = .error error)
    (g : Instrument → Instrument) : m.lookUp values g = .error error := by
  rw [lookUp, Series.update, h]
  rfl

theorem mark_of_value (m : Meter) (values extra : List String) (value : Float) :
    m.mark values ⟨extra, some value⟩ =
      { m with series := m.series.touch (values ++ extra) (·.record value) } := rfl

theorem feedValue_eq {reading : Reading (Option Float)} (hextra : m.kind.extraLabels = 0)
    (hmeasure : m.kind.measure f.now f.entity = .ofReading reading) :
    m.feedValue f.values reading = m.outcome f := by
  have hsame := checkArity_eq hextra f.values
  unfold feedValue
  cases hcheck : m.series.checkArity f.values with
  | error error => rw [outcome_of_error (hsame.trans hcheck)]
  | ok taken =>
    rw [outcome_of_ok (hsame.trans hcheck), hmeasure]
    match reading with
    | .error fault => rfl
    | .ok none => rfl
    | .ok (some value) =>
      dsimp only
      rw [lookUp_of_ok hcheck, Measurement.ofReading_ok_some]
      have hrecord := mark_of_value m f.values [] value
      rw [List.append_nil] at hrecord
      exact congrArg (Outcome.mk · true (.ok ())) hrecord.symm

theorem feedCondition_eq {reading : Reading Bool} (hextra : m.kind.extraLabels = 0)
    (hmeasure : m.kind.measure f.now f.entity = .ofCondition reading) :
    m.feedCondition f.values reading = m.outcome f := by
  have hsame := checkArity_eq hextra f.values
  have hcreate : m.mark f.values ⟨[], none⟩ = { m with series := m.series.touch f.values id } := by
    unfold mark
    rw [List.append_nil]
    rfl
  unfold feedCondition
  cases hcheck : m.series.checkArity f.values with
  | error error => rw [outcome_of_error (hsame.trans hcheck), lookUp_of_error hcheck]
  | ok taken =>
    rw [outcome_of_ok (hsame.trans hcheck), lookUp_of_ok hcheck, hmeasure, ← hcreate]
    match reading with
    | .error fault => rfl
    | .ok false => rfl
    | .ok true =>
      have hcount := mark_of_value (m.mark f.values ⟨[], none⟩) f.values [] 1.0
      rw [List.append_nil] at hcount
      exact congrArg (Outcome.mk · true (.ok ())) hcount.symm

/-- With one label value fewer than label names the look-ups of stages do not fail. -/
theorem feedEachStage_eq (h : values.length + 1 = m.series.labelNames.length)
    (mark? : Stage → Option Float) (stages : List Stage) :
    m.feedEachStage values mark? stages =
      (m.markAll values (stageMarks mark? stages), .ok ()) := by
  induction stages generalizing m with
  | nil => rfl
  | cons stage stages ih =>
    rw [feedEachStage, stageMarks, List.flatMap_cons]
    cases mark? stage with
    | none => exact ih h
    | some value =>
      dsimp only
      have hcheck : m.series.checkArity (values ++ [stage.name]) = .ok () := by
        rw [Series.checkArity, if_pos]
        rw [List.length_append, List.length_singleton, h]
      rw [lookUp_of_ok hcheck, ← mark_of_value]
      -- a mark leaves the schema as it is
      exact ih (m := m.mark values ⟨[stage.name], some value⟩) h

theorem feedStages_eq {reading : Reading (List Stage)} {mark? : Stage → Option Float}
    (hextra : m.kind.extraLabels = 1)
    (hmeasure : m.kind.measure f.now f.entity = .ofStages reading mark?) :
    m.feedStages f.values reading mark? = m.outcome f := by
  unfold feedStages
  dsimp only
  split
  · next hlength =>
    have hcheck : m.checkArity f.values =
        .error ⟨m.series.labelNames.length - 1, f.values.length⟩ := by
      rw [checkArity, hextra]
      exact if_neg hlength
    rw [outcome_of_error hcheck]
  · next hlength =>
    rw [not_not] at hlength
    have hcheck : m.checkArity f.values = .ok () := checkArity_eq_ok_iff.mpr (hextra ▸ hlength)
    rw [outcome_of_ok hcheck, hmeasure]
    cases reading with
    | error fault => rfl
    | ok stages =>
      dsimp only
      rw [feedEachStage_eq hlength, Measurement.ofStages_ok]
      rfl

/-- However a metric is computed, the checks on the way end as one check before anything is read. -/
theorem feed_eq_outcome {c : Computation} (h : c.Computes f.now m.kind f.entity) :
    c.feed m f.values = m.outcome f := by
  cases c with
  | value reading => exact feedValue_eq h.extraLabels h.measurement
  | condition reading => exact feedCondition_eq h.extraLabels h.measurement
  | stages reading mark? => exact feedStages_eq h.extraLabels h.measurement

end Meter

/-! ## 3. After any feedings -/

/-- How a feeding ends where some number of label values is expected. -/
structure Outcome.Obeys (out : Outcome) (before : Meter) (expected : Nat) (f : Feeding) :
    Prop where
  fails_iff : (∃ error, out.result = .error (.arity error)) ↔ f.values.length ≠ expected
  reports : ∀ error, out.result = .error (.arity error) → error = ⟨expected, f.values.length⟩
  unread : f.values.length ≠ expected → out.looked = false
  unchanged : f.values.length ≠ expected → out.meter = before
  succeeds : f.values.length = expected → f.entity.Healthy → out.result = .ok ()

namespace Meter

theorem obeys_outcome (m : Meter) (f : Feeding)
    (hnames : m.kind.extraLabels ≤ m.series.labelNames.length) :
    (m.outcome f).Obeys m (m.series.labelNames.length - m.kind.extraLabels) f := by
  by_cases hlength : f.values.length = m.series.labelNames.length - m.kind.extraLabels
  · have hcheck : m.checkArity f.values = .ok () :=
      checkArity_eq_ok_iff.mpr (by rw [hlength, Nat.sub_add_cancel hnames])
    have hresult (error : ArityError) : (m.outcome f).result ≠ .error (.arity error) := by
      rw [outcome_of_ok hcheck]
      cases (m.kind.measure f.now f.entity).result <;> exact fun h => nomatch h
    exact {
      fails_iff := iff_of_false (fun ⟨error, h⟩ => hresult error h) (not_not_intro hlength)
      reports := fun error h => absurd h (hresult error)
      unread := absurd hlength
      unchanged := absurd hlength
      succeeds := fun _ hhealthy => by
        rw [outcome_of_ok hcheck, hhealthy.result_measure]
        rfl }
  · have hcheck : m.checkArity f.values =
        .error ⟨m.series.labelNames.length - m.kind.extraLabels, f.values.length⟩ :=
      if_neg fun h => hlength (Nat.eq_sub_of_add_eq h)
    rw [outcome_of_error hcheck]
    exact {
      fails_iff := iff_of_true ⟨_, rfl⟩ hlength
      reports := by
        rintro error ⟨⟩
        rfl
      unread := fun _ => rfl
      unchanged := fun _ => rfl
      succeeds := fun h => absurd h hlength }

end Meter

/-- A meter that may not exist, after some feedings. -/
def feedAll? (m : Option Meter) (feedings : List Feeding) : Option Meter :=
  feedings.foldl (fun m f => (feed? m f.now f.entity f.values).1) m

theorem feedAll?_none (feedings : List Feeding) : feedAll? none feedings = none := by
  induction feedings with
  | nil => rfl
  | cons f feedings ih => exact ih

theorem feedAll?_some (m : Meter) (feedings : List Feeding) :
    feedAll? (some m) feedings = some (m.feedAll feedings) := by
  induction feedings generalizing m with
  | nil => rfl
  | cons f feedings ih => exact ih (m.feed f.now f.entity f.values).1

theorem extraLabels_le_one (kind : MetricKind) : kind.extraLabels ≤ 1 := by
  unfold MetricKind.extraLabels
  split <;> decide

theorem meterFor?_eq_none_iff {s : Settings} {subject : Subject} {kind : MetricKind}
    {names : List String} {qualifier : Option String} :
    s.meterFor? subject kind names qualifier = none ↔ ¬s.allows kind ∨ kind.subject ≠ subject := by
  unfold Settings.meterFor? Settings.meter?
  by_cases hsubject : kind.subject = subject <;> by_cases hallows : s.allows kind <;>
    simp [hsubject, hallows]

/-- After any feedings, the meter of a suppressed metric and one that is asked for another sort of
entities take everything and show nothing. Every other meter fails exactly if the number of label
values is wrong, whatever the entity is. It says so with both numbers before it looks at the entity,
and nothing is recorded. -/
theorem arity_errors_record_nothing (s : Settings) (subject : Subject) (kind : MetricKind)
    {names : List String} (hnames : 0 < kind.extraLabels → names ≠ []) (qualifier : Option String)
    (feedings : List Feeding) (f : Feeding) :
    let m := feedAll? (s.meterFor? subject kind names qualifier) feedings
    (¬s.allows kind ∨ kind.subject ≠ subject →
      feed? m f.now f.entity f.values = (none, .ok ()) ∧ families? m = []) ∧
    (s.allows kind → kind.subject = subject → ∃ meter, m = some meter ∧
      (∃ c : Computation, c.Computes f.now kind f.entity) ∧
      ∀ c : Computation, c.Computes f.now kind f.entity →
        feed? m f.now f.entity f.values =
          (some (c.feed meter f.values).meter, (c.feed meter f.values).result) ∧
        (c.feed meter f.values).Obeys meter (names.length - kind.extraLabels) f) := by
  dsimp only
  constructor
  · intro hnone
    rw [meterFor?_eq_none_iff.mpr hnone, feedAll?_none]
    exact ⟨rfl, rfl⟩
  · intro hallows hsubject
    have hmeter : s.meterFor? subject kind names qualifier =
        some (.new kind (.of kind s.nameSpace qualifier) names s.config.quantiles) := by
      rw [Settings.meterFor?, if_pos hsubject, Settings.meter?, if_pos hallows]
    rw [hmeter, feedAll?_some]
    refine ⟨_, rfl, exists_computes f.now kind f.entity, fun c hc => ?_⟩
    generalize hfed : (Meter.new kind _ names _).feedAll feedings = meter
    have hkind : meter.kind = kind := by
      rw [← hfed, Meter.kind_feedAll]
      rfl
    have hlabels : meter.series.labelNames = names := by
      rw [← hfed, Meter.labelNames_feedAll]
      rfl
    rw [← hkind] at hc
    rw [Meter.feed_eq_outcome hc]
    refine ⟨rfl, ?_⟩
    rw [← hkind, ← hlabels]
    refine meter.obeys_outcome f ?_
    rw [hkind, hlabels]
    rcases Nat.eq_zero_or_pos kind.extraLabels with hzero | hpos
    · exact hzero ▸ Nat.zero_le _
    · exact (extraLabels_le_one kind).trans (List.length_pos_of_ne_nil (hnames hpos))

/-- One label value too many for a metric of stages, and a build that cannot be read at all. -/
theorem arity_errors_record_nothing_of_stages :
    (0 < (MetricKind.build .stageDurations).extraLabels → ["jenkins_job", stageLabel] ≠ []) ∧
    ∃ meter, (Settings.initial none).meterFor? .build (.build .stageDurations)
        ["jenkins_job", stageLabel] none = some meter ∧
      feed? (some meter) 0 (.build ⟨(Build.plain 1).info, [.isBuilding, .stages], 0⟩) ["a", "build"] =
        (some meter, .error (.arity ⟨1, 2⟩)) := by
  obtain ⟨-, h⟩ := arity_errors_record_nothing (.initial none) .build (.build .stageDurations)
    (fun _ => List.cons_ne_nil "jenkins_job" [stageLabel]) none []
    ⟨0, .build ⟨(Build.plain 1).info, [.isBuilding, .stages], 0⟩, ["a", "build"]⟩
  obtain ⟨meter, hmeter, ⟨c, hc⟩, h⟩ := h rfl rfl
  obtain ⟨hfeed, hobeys⟩ := h c hc
  have hwrong : ["a", "build"].length ≠ ["jenkins_job", stageLabel].length - 1 := by decide
  obtain ⟨error, herror⟩ := hobeys.fails_iff.mpr hwrong
  refine ⟨fun _ => List.cons_ne_nil _ _, meter, hmeter, ?_⟩
  obtain rfl := hobeys.reports error herror
  rw [hmeter, hobeys.unchanged hwrong, herror] at hfeed
  exact hfeed

end BuildTelemetry
