import BuildTelemetry.Proofs.ArityErrors
import BuildTelemetry.Proofs.JobFamilies

/-!
# Stages are accounted for once

Two metrics look at the stages of a build: the summary of durations, and the gauge of results. Both
are fed one build after the other. What they show under some label values and the name of a stage
comes from the stages of this name, in the order of the builds and of the stages in each.

1. The stages that a finished build with a stage graph has (`Build.Staged`, `Build.finishedStages`),
   and those of one name under some label values (`stagesUnder`).
2. A metric of stages after any builds, as recordings (`valuesUnder_stageRecordings`).
3. The summary observes each stage that passed, the gauge shows the last stage of any status, and
   builds without such stages change neither (`stages_accounted_once`).
-/

namespace BuildTelemetry

/-! ## 1. Stages of finished builds -/

/-- A build that can be read, is finished and has a graph of these stages. -/
structure Build.Staged (b : Build) (stages : List Stage) : Prop where
  readable : BuildAccessor.isBuilding ∉ b.failing ∧ BuildAccessor.stages ∉ b.failing
  finished : b.info.building = false
  graph : b.info.stages = some stages

/-- The stages that metrics can see of a build: those of its graph, once it is finished. -/
def Build.finishedStages (b : Build) : List Stage :=
  if .isBuilding ∈ b.failing ∨ .stages ∈ b.failing ∨ b.info.building then []
  else b.info.stages.getD []

theorem Build.mem_finishedStages {b : Build} {stage : Stage} :
    stage ∈ b.finishedStages ↔ ∃ stages, b.Staged stages ∧ stage ∈ stages := by
  unfold finishedStages
  constructor
  · intro h
    split at h
    · cases h
    · next hseen =>
      push Not at hseen
      obtain ⟨hbuilding, hstages, hfinished⟩ := hseen
      cases hgraph : b.info.stages with
      | none =>
        rw [hgraph] at h
        cases h
      | some stages =>
        rw [hgraph] at h
        exact ⟨stages, ⟨⟨hbuilding, hstages⟩, Bool.eq_false_of_not_eq_true hfinished, hgraph⟩, h⟩
  · rintro ⟨stages, ⟨⟨hbuilding, hstages⟩, hfinished, hgraph⟩, hmem⟩
    rw [if_neg (by simp [hbuilding, hstages, hfinished]), hgraph]
    exact hmem

/-- A stage that passed, possibly unstable. -/
def Stage.Passed (stage : Stage) : Prop := stage.status = .success ∨ stage.status = .unstable

instance (stage : Stage) : Decidable stage.Passed := inferInstanceAs (Decidable (_ ∨ _))

theorem Stage.countsTowardsDuration_iff {stage : Stage} :
    stage.status.countsTowardsDuration ↔ stage.Passed := by
  unfold Passed
  cases stage.status <;> decide

/-- A build that metrics are computed from, with the label values that are given for it. -/
structure BuildCall where
  build : Build
  values : List String

/-- The stages of one name that builds given with some label values have, in order. -/
def stagesUnder (values : List String) (name : String) (calls : List BuildCall) : List Stage :=
  calls.flatMap fun call =>
    if call.values = values then call.build.finishedStages.filter fun stage => stage.name == name
    else []

/-! ## 2. Metrics of stages as recordings -/

namespace Meter

/-- What a meter was fed with label values of the right number, as recordings. -/
theorem feedAll_eq_record {m : Meter} {feedings : List Feeding}
    (h : ∀ f ∈ feedings, f.values.length + m.kind.extraLabels = m.series.labelNames.length)
    (id : MeterId) :
    m.feedAll feedings = m.record (feedings.flatMap fun f =>
      (m.kind.measure f.now f.entity).notes.map fun mark => ⟨id, f.values, mark⟩) := by
  induction feedings using List.reverseRecOn with
  | nil => rfl
  | append_singleton feedings f ih =>
    have hbefore := ih fun g hg => h g (List.mem_append_left _ hg)
    have hcheck : (m.feedAll feedings).checkArity f.values = .ok () := by
      rw [checkArity_eq_ok_iff, kind_feedAll, labelNames_feedAll]
      exact h f (List.mem_append_right _ (List.mem_singleton_self f))
    rw [feedAll_append, List.flatMap_append, record_append, ← hbefore, List.flatMap_singleton,
      ← markAll_eq_record, ← kind_feedAll m feedings]
    change ((m.feedAll feedings).feed f.now f.entity f.values).1 = _
    rw [feed, hcheck]

end Meter

theorem Build.readStages_eq (b : Build) :
    b.readStages =
      if .isBuilding ∈ b.failing then .error .failed
      else if b.info.building then .ok []
      else if .stages ∈ b.failing then .error .failed
      else .ok (b.info.stages.getD []) := by
  simp only [readStages, readFinished, isBuilding, stages, readThrough, List.contains_iff_mem]
  split
  · rfl
  · cases b.info.building
    · split <;> rfl
    · rfl

/-- What a metric of stages notes of a build, whether or not the host fails. -/
theorem notes_ofStages_readStages (b : Build) (mark? : Stage → Option Float) :
    (Measurement.ofStages b.readStages mark?).notes = stageMarks mark? b.finishedStages := by
  rw [b.readStages_eq, Build.finishedStages]
  by_cases hbuilding : BuildAccessor.isBuilding ∈ b.failing
  · rw [if_pos hbuilding, if_pos (.inl hbuilding)]
    rfl
  by_cases hrunning : b.info.building
  · rw [if_neg hbuilding, if_pos hrunning, if_pos (.inr (.inr hrunning)), Measurement.ofStages_ok]
  by_cases hstages : BuildAccessor.stages ∈ b.failing
  · rw [if_neg hbuilding, if_neg hrunning, if_pos hstages, if_pos (.inr (.inl hstages))]
    rfl
  · rw [if_neg hbuilding, if_neg hrunning, if_neg hstages, Measurement.ofStages_ok,
      if_neg (by simp [hbuilding, hstages, hrunning])]

/-- A metric that takes from each stage what `mark?` gives for it. -/
structure MetricKind.TakesStages (kind : MetricKind) (mark? : Stage → Option Float) : Prop where
  measure : ∀ now b, kind.measure now (.build b) = .ofStages b.readStages mark?
  extraLabels : kind.extraLabels = 1

/-- The duration of a stage that passed. -/
def Stage.passedDuration? (stage : Stage) : Option Float :=
  if stage.Passed then some stage.duration.toFloat else none

theorem takesStages_durations :
    (MetricKind.build .stageDurations).TakesStages Stage.passedDuration? := by
  refine ⟨fun now b => ?_, rfl⟩
  change Measurement.ofStages b.readStages _ = _
  congr 1
  funext stage
  simp only [Stage.passedDuration?, ← Stage.countsTowardsDuration_iff]

theorem takesStages_results :
    (MetricKind.build .stageResult).TakesStages fun stage => some stage.status.ordinal.toFloat :=
  ⟨fun _ _ => rfl, rfl⟩

/-- The marks for a metric of stages, each under the label values of its call. -/
def stageRecordings (id : MeterId) (mark? : Stage → Option Float) (calls : List BuildCall) :
    List Recording :=
  calls.flatMap fun call => (stageMarks mark? call.build.finishedStages).map fun mark =>
    ⟨id, call.values, mark⟩

section

variable {id : MeterId} {mark? : Stage → Option Float} {calls : List BuildCall}

theorem mem_stageMarks {stages : List Stage} {mark : Mark} :
    mark ∈ stageMarks mark? stages ↔
      ∃ stage ∈ stages, ∃ value, mark? stage = some value ∧ mark = ⟨[stage.name], some value⟩ := by
  simp only [stageMarks, List.mem_flatMap, Option.mem_toList, Option.map_eq_some_iff,
    @eq_comm _ mark]

theorem mem_stageRecordings {r : Recording} :
    r ∈ stageRecordings id mark? calls ↔
      ∃ call ∈ calls, ∃ stage ∈ call.build.finishedStages, ∃ value, mark? stage = some value ∧
        r = ⟨id, call.values, ⟨[stage.name], some value⟩⟩ := by
  simp only [stageRecordings, List.mem_flatMap, List.mem_map, mem_stageMarks]
  refine exists_congr fun call => and_congr_right fun _ => ?_
  constructor
  · rintro ⟨_, ⟨stage, hstage, value, hvalue, rfl⟩, rfl⟩
    exact ⟨stage, hstage, value, hvalue, rfl⟩
  · rintro ⟨stage, hstage, value, hvalue, rfl⟩
    exact ⟨_, ⟨stage, hstage, value, hvalue, rfl⟩, rfl⟩

theorem value_of_mem_stageRecordings {r : Recording} (h : r ∈ stageRecordings id mark? calls) :
    r.mark.value.isSome := by
  obtain ⟨_, _, _, _, _, _, rfl⟩ := mem_stageRecordings.mp h
  rfl

theorem values_stageMarks (name : String) (stages : List Stage) :
    ((stageMarks mark? stages).filter fun mark => mark.extra == [name]).filterMap Mark.value =
      (stages.filter fun stage => stage.name == name).filterMap mark? := by
  induction stages with
  | nil => rfl
  | cons stage stages ih =>
    rw [stageMarks, List.flatMap_cons, List.filter_append, List.filterMap_append, ← stageMarks, ih,
      List.filter_cons]
    by_cases hname : stage.name = name <;> cases hvalue : mark? stage <;> simp [hname, hvalue]

/-- Under some label values and the name of a stage, what the stages of this name give. -/
theorem valuesUnder_stageRecordings (values : List String) (name : String) :
    Recording.valuesUnder (values ++ [name]) (stageRecordings id mark? calls) =
      (stagesUnder values name calls).filterMap mark? := by
  rw [stageRecordings, Recording.valuesUnder_flatMap, stagesUnder, List.filterMap_flatMap]
  refine List.flatMap_congr fun call _ => ?_
  rw [Recording.valuesUnder_map_of_length, values_stageMarks]
  · split <;> rfl
  · intro mark hmark
    obtain ⟨stage, _, value, _, rfl⟩ := mem_stageMarks.mp hmark
    rfl

/-- Since all recordings have values, only where there are values are there recordings. -/
theorem under_stageRecordings_eq_nil_iff {key : List String} :
    Recording.under key (stageRecordings id mark? calls) = [] ↔
      Recording.valuesUnder key (stageRecordings id mark? calls) = [] := by
  rw [Recording.valuesUnder, List.filterMap_eq_nil_iff, List.eq_nil_iff_forall_not_mem]
  refine forall_congr' fun r => ?_
  constructor
  · exact fun hnot hmem => absurd hmem hnot
  · intro hnone hmem
    have hvalue := value_of_mem_stageRecordings (List.mem_filter.mp hmem).1
    rw [hnone hmem] at hvalue
    cases hvalue

end

/-- A meter after it was fed some builds. -/
def Meter.feedBuilds (m : Meter) (now : Int64) (calls : List BuildCall) : Meter :=
  m.feedAll (calls.map fun call => ⟨now, .build call.build, call.values⟩)

theorem MetricKind.TakesStages.feedBuilds_eq_record {m : Meter} {mark? : Stage → Option Float}
    (hkind : m.kind.TakesStages mark?) (now : Int64) {calls : List BuildCall}
    (harity : ∀ call ∈ calls, call.values.length + 1 = m.series.labelNames.length) :
    m.feedBuilds now calls = m.record (stageRecordings ⟨m.kind, none⟩ mark? calls) := by
  rw [Meter.feedBuilds, Meter.feedAll_eq_record _ ⟨m.kind, none⟩, List.flatMap_map,
    stageRecordings]
  · congr 1
    refine List.flatMap_congr fun call _ => ?_
    rw [hkind.measure, notes_ofStages_readStages]
  · intro f hf
    obtain ⟨call, hcall, rfl⟩ := List.mem_map.mp hf
    rw [hkind.extraLabels]
    exact harity call hcall

/-- Feeding a meter does not change what it takes from stages. -/
theorem MetricKind.TakesStages.feedBuilds {m : Meter} {mark? : Stage → Option Float}
    (hkind : m.kind.TakesStages mark?) (now : Int64) (calls : List BuildCall) :
    (m.feedBuilds now calls).kind.TakesStages mark? := by
  rwa [Meter.feedBuilds, Meter.kind_feedAll]

/-- A build without stages that can be seen changes nothing. -/
theorem MetricKind.TakesStages.feed_eq {m : Meter} {mark? : Stage → Option Float}
    (hkind : m.kind.TakesStages mark?) (now : Int64) {b : Build} (hb : b.finishedStages = [])
    (values : List String) : (m.feed now (.build b) values).1 = m := by
  unfold Meter.feed
  cases m.checkArity values with
  | error error => rfl
  | ok _ =>
    dsimp only
    rw [hkind.measure, notes_ofStages_readStages, hb]
    rfl

/-! ## 3. What the metrics show -/

/-- The label sets of a metric of stages, if it takes the stages with `p`: one for each name that
such a stage has under some label values, and no others. -/
structure Meter.ListsStages (m : Meter) (p : Stage → Prop) (calls : List BuildCall) : Prop where
  labelSet_iff : ∀ values name, (m.series.get? (values ++ [name])).isSome ↔
    ∃ call ∈ calls, call.values = values ∧
      ∃ stages, call.build.Staged stages ∧ ∃ stage ∈ stages, stage.name = name ∧ p stage
  staged : ∀ key, (m.series.get? key).isSome → ∃ values name, key = values ++ [name]

/-- The meter summarises the durations of the stages that passed. Their number is modulo
`2 ^ 64`. -/
structure Meter.SummarisesStages (m : Meter) (fresh : Summary) (calls : List BuildCall) : Prop where
  listed : m.ListsStages Stage.Passed calls
  observes : ∀ values name instrument, m.series.get? (values ++ [name]) = some instrument →
    instrument = .summary ((((stagesUnder values name calls).filter (·.Passed)).map
      (·.duration.toFloat)).foldl Summary.observe fresh)
  counts : ∀ values name, m.family.countsAt (values ++ [name]) =
    match ((stagesUnder values name calls).filter (·.Passed)).length with
    | 0 => []
    | n => [(UInt64.ofNat n).toFloat]

/-- The meter shows the status of the last stage of each name. -/
structure Meter.ShowsStages (m : Meter) (calls : List BuildCall) : Prop where
  listed : m.ListsStages (fun _ => True) calls
  shows : ∀ values name, m.family.valuesAt (values ++ [name]) =
    ((stagesUnder values name calls).getLast?.map (·.status.ordinal.toFloat)).toList

theorem filterMap_passedDuration? (stages : List Stage) :
    stages.filterMap Stage.passedDuration? =
      (stages.filter (·.Passed)).map (·.duration.toFloat) := by
  rw [← List.filterMap_eq_map, List.filterMap_filter]
  refine List.filterMap_congr fun stage _ => ?_
  simp [Stage.passedDuration?]

section

variable {kind : MetricKind} {mark? : Stage → Option Float} {p : Stage → Prop}
  {descriptor : Descriptor} {names : List String} {quantiles : List Float}
  {calls : List BuildCall} {now : Int64}

/-- The label sets of a fresh meter come from the stages that give a value. -/
theorem MetricKind.TakesStages.listsStages (hkind : kind.TakesStages mark?)
    (hp : ∀ stage, (mark? stage).isSome ↔ p stage)
    (harity : ∀ call ∈ calls, call.values.length + 1 = names.length) :
    ((Meter.new kind descriptor names quantiles).feedBuilds now calls).ListsStages p calls := by
  rw [hkind.feedBuilds_eq_record now harity]
  constructor
  · intro values name
    rw [Meter.isSome_get?_record_new]
    constructor
    · rintro ⟨r, hr, hkey⟩
      obtain ⟨call, hcall, stage, hstage, value, hvalue, rfl⟩ := mem_stageRecordings.mp hr
      obtain ⟨hvalues, hname⟩ := List.append_inj' hkey rfl
      obtain ⟨stages, hstaged, hmem⟩ := Build.mem_finishedStages.mp hstage
      exact ⟨call, hcall, hvalues, stages, hstaged, stage, hmem, List.singleton_inj.mp hname,
        (hp stage).mp (hvalue ▸ rfl)⟩
    · rintro ⟨call, hcall, rfl, stages, hstaged, stage, hmem, rfl, hstage⟩
      obtain ⟨value, hvalue⟩ := Option.isSome_iff_exists.mp ((hp stage).mpr hstage)
      refine ⟨_, mem_stageRecordings.mpr ⟨call, hcall, stage, ?_, value, hvalue, rfl⟩, rfl⟩
      exact Build.mem_finishedStages.mpr ⟨stages, hstaged, hmem⟩
  · intro key hkey
    obtain ⟨r, hr, rfl⟩ := (Meter.isSome_get?_record_new _ key).mp hkey
    obtain ⟨call, -, stage, -, value, -, rfl⟩ := mem_stageRecordings.mp hr
    exact ⟨call.values, stage.name, rfl⟩

/-- Every label set of a metric of stages has one value for each label name. -/
theorem sized_stageRecordings (harity : ∀ call ∈ calls, call.values.length + 1 = names.length)
    (id : MeterId) :
    ((Meter.new kind descriptor names quantiles).record
      (stageRecordings id mark? calls)).Sized := by
  refine (Meter.sized_new _ _ _ _).record fun r hr => ?_
  obtain ⟨call, hcall, stage, -, value, -, rfl⟩ := mem_stageRecordings.mp hr
  rw [Recording.key, List.length_append]
  exact harity call hcall

/-- The summary of a fresh meter observes every stage that passed. -/
theorem summarisesStages (harity : ∀ call ∈ calls, call.values.length + 1 = names.length) :
    ((Meter.new (.build .stageDurations) descriptor names quantiles).feedBuilds
      now calls).SummarisesStages (.forScrape quantiles) calls := by
  have hpassed (stage : Stage) : stage.passedDuration?.isSome ↔ stage.Passed := by
    simp [Stage.passedDuration?]
  refine ⟨takesStages_durations.listsStages hpassed harity, ?_, ?_⟩
  · intro values name instrument hget
    rw [takesStages_durations.feedBuilds_eq_record now harity,
      Meter.get?_record_summary _ rfl rfl] at hget
    split at hget
    · cases hget
    · rw [valuesUnder_stageRecordings, filterMap_passedDuration?] at hget
      exact (Option.some.inj hget).symm
  · intro values name
    rw [takesStages_durations.feedBuilds_eq_record now harity,
      Meter.countsAt_summary (sized_stageRecordings harity _) (fun _ => rfl) rfl
        (count_forScrape quantiles), valuesUnder_stageRecordings, filterMap_passedDuration?,
      List.length_map]
    simp only [under_stageRecordings_eq_nil_iff, valuesUnder_stageRecordings,
      filterMap_passedDuration?, List.map_eq_nil_iff]
    cases (stagesUnder values name calls).filter (·.Passed) <;> rfl

/-- The gauge of a fresh meter shows the last stage of each name. -/
theorem showsStages (harity : ∀ call ∈ calls, call.values.length + 1 = names.length) :
    ((Meter.new (.build .stageResult) descriptor names quantiles).feedBuilds
      now calls).ShowsStages calls := by
  refine ⟨takesStages_results.listsStages (fun _ => iff_of_true rfl trivial) harity, ?_⟩
  intro values name
  have hsome : (stagesUnder values name calls).filterMap
      (fun stage => some stage.status.ordinal.toFloat) =
        (stagesUnder values name calls).map (·.status.ordinal.toFloat) := by
    rw [← List.filterMap_eq_map]
    rfl
  rw [takesStages_results.feedBuilds_eq_record now harity]
  by_cases hlength : (values ++ [name]).length = names.length
  · rw [Meter.valuesAt_gauge (sized_stageRecordings harity _) hlength rfl rfl
      fun r hr => value_of_mem_stageRecordings hr, valuesUnder_stageRecordings, hsome,
      List.getLast?_map]
  · -- no call has label values of this number
    have hnone : stagesUnder values name calls = [] := by
      refine List.flatMap_eq_nil_iff.mpr fun call hcall => if_neg fun hvalues => hlength ?_
      rw [← hvalues, List.length_append]
      exact harity call hcall
    rw [Meter.valuesAt_gauge_of_length_ne (sized_stageRecordings harity _) hlength
      (fun _ => rfl) rfl, hnone]
    rfl

/-- A build that is running or has no stage graph has no stages that metrics can see. -/
theorem Build.finishedStages_eq_nil {b : Build} (h : b.info.building ∨ b.info.stages = none) :
    b.finishedStages = [] := by
  refine List.eq_nil_iff_forall_not_mem.mpr fun stage hmem => ?_
  obtain ⟨stages, hstaged, -⟩ := mem_finishedStages.mp hmem
  rcases h with hrunning | hnone
  · exact Bool.false_ne_true (hstaged.finished.symm.trans hrunning)
  · exact Option.some_ne_none _ (hstaged.graph.symm.trans hnone)

end

/-- Two fresh metrics of stages are fed the same builds, all with one label value fewer than label
names. The summary has a label set for each name of a stage that passed, with one observation for
each such stage; the gauge has one for each name of a stage, with the status of the last one. A
build that is running or has no stage graph changes neither. -/
theorem stages_accounted_once (durations results : Descriptor) {names : List String}
    (quantiles : List Float) (now : Int64) {calls : List BuildCall}
    (harity : ∀ call ∈ calls, call.values.length + 1 = names.length) :
    let summary :=
      (Meter.new (.build .stageDurations) durations names quantiles).feedBuilds now calls
    let gauge := (Meter.new (.build .stageResult) results names quantiles).feedBuilds now calls
    summary.SummarisesStages (.forScrape quantiles) calls ∧ gauge.ShowsStages calls ∧
      ∀ (b : Build) (values : List String), b.info.building ∨ b.info.stages = none →
        (summary.feed now (.build b) values).1 = summary ∧
          (gauge.feed now (.build b) values).1 = gauge := by
  refine ⟨summarisesStages harity, showsStages harity, fun b values hb => ?_⟩
  have hnone := Build.finishedStages_eq_nil hb
  have hdurations : (Meter.new (.build .stageDurations) durations names quantiles).kind.TakesStages
      Stage.passedDuration? := takesStages_durations
  have hresults : (Meter.new (.build .stageResult) results names quantiles).kind.TakesStages
      fun stage => some stage.status.ordinal.toFloat := takesStages_results
  exact ⟨(hdurations.feedBuilds now calls).feed_eq now hnone values,
    (hresults.feedBuilds now calls).feed_eq now hnone values⟩

/-- A finished build with two stages of one name, the first of which passed. -/
def Build.ofTwoStages : Build :=
  { Build.plain 1 with
    info := { (Build.plain 1).info with
      stages := some [⟨"build", .success, 30⟩, ⟨"build", .failed, 50⟩] } }

/-- Of two stages of one name one passed, and the other one is the last. -/
theorem stages_accounted_once_of_namesakes :
    (∀ call ∈ [(⟨Build.ofTwoStages, ["a"]⟩ : BuildCall)], call.values.length + 1 = 2) ∧
    ((Meter.new (.build .stageDurations) (.of (.build .stageDurations) "default" none)
        ["jenkins_job", stageLabel] []).feedBuilds 0
      [⟨Build.ofTwoStages, ["a"]⟩]).family.countsAt ["a", "build"] = [UInt64.toFloat 1] ∧
    ((Meter.new (.build .stageResult) (.of (.build .stageResult) "default" none)
        ["jenkins_job", stageLabel] []).feedBuilds 0
      [⟨Build.ofTwoStages, ["a"]⟩]).family.valuesAt ["a", "build"] = [(5 : Nat).toFloat] := by
  have harity : ∀ call ∈ [(⟨Build.ofTwoStages, ["a"]⟩ : BuildCall)],
      call.values.length + 1 = ["jenkins_job", stageLabel].length := by decide
  obtain ⟨hsummary, hgauge, -⟩ := stages_accounted_once
    (.of (.build .stageDurations) "default" none) (.of (.build .stageResult) "default" none)
    [] 0 harity
  exact ⟨harity, hsummary.counts ["a"] "build", hgauge.shows ["a"] "build"⟩

end BuildTelemetry
