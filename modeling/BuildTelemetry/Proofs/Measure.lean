import BuildTelemetry.Metric.Measure
import BuildTelemetry.Proofs.Journal
import BuildTelemetry.Proofs.Labels

/-!
# Marks of measurements

* `extra_of_mem_measure`: a mark adds as many label values as its metric has labels of its own.
* `value_of_mem_measure`: only counters mark label sets without a value.
* `result_measure`: a measurement succeeds where the host does not fail.
-/

namespace BuildTelemetry

namespace Measurement

theorem ofReading_ok_some (value : Float) :
    ofReading (.ok (some value)) = ⟨[⟨[], some value⟩], .ok ()⟩ := rfl

theorem ofReading_ok_none : ofReading (.ok none) = ⟨[], .ok ()⟩ := rfl

theorem ofReading_error (fault : HostFault) : ofReading (.error fault) = ⟨[], .error fault⟩ := rfl

theorem ofCondition_ok (b : Bool) :
    ofCondition (.ok b) = ⟨⟨[], none⟩ :: if b then [⟨[], some 1.0⟩] else [], .ok ()⟩ := by
  cases b <;> rfl

theorem ofCondition_error (fault : HostFault) :
    ofCondition (.error fault) = ⟨[⟨[], none⟩], .error fault⟩ := rfl

theorem mem_ofReading {reading : Reading (Option Float)} {mark : Mark} :
    mark ∈ (ofReading reading).notes ↔
      ∃ value, reading = .ok (some value) ∧ mark = ⟨[], some value⟩ := by
  match reading with
  | .ok (some value) => simp [ofReading_ok_some]
  | .ok none => simp [ofReading_ok_none]
  | .error fault => simp [ofReading_error]

theorem result_ofReading (reading : Reading (Option Float)) :
    (ofReading reading).result = reading.map fun _ => () := by
  match reading with
  | .ok (some value) => rfl
  | .ok none => rfl
  | .error fault => rfl

theorem extra_of_mem_ofCondition {reading : Reading Bool} {mark : Mark}
    (h : mark ∈ (ofCondition reading).notes) : mark.extra = [] := by
  cases reading with
  | error fault =>
    rw [ofCondition_error, List.mem_singleton] at h
    rw [h]
  | ok b =>
    rw [ofCondition_ok, List.mem_cons] at h
    rcases h with rfl | h
    · rfl
    · cases b <;> simp_all

end Measurement

open Measurement

/-! ## 1. Shape of the marks -/

/-- The marks of stages come from stages that have a value. -/
theorem Build.mem_markStages {b : Build} {mark? : Stage → Option Float} {mark : Mark}
    (h : mark ∈ (b.markStages mark?).notes) :
    ∃ stage value, mark? stage = some value ∧ mark = ⟨[stage.name], some value⟩ := by
  obtain ⟨stages, _, hstages⟩ := Journal.mem_notes_read.mp h
  obtain ⟨stage, _, hstage⟩ := Journal.mem_notes_each hstages
  split at hstage
  · next value hvalue => exact ⟨stage, value, hvalue, List.mem_singleton.mp hstage⟩
  · cases hstage

theorem BuildMetric.extra_of_mem_measure {m : BuildMetric} {b : Build} {mark : Mark}
    (h : mark ∈ (m.measure b).notes) : mark.extra.length = (MetricKind.build m).extraLabels := by
  cases m with
  | stageDurations | stageResult =>
    obtain ⟨stage, value, _, rfl⟩ := Build.mem_markStages h
    rfl
  | successes | failures | unstables | aborts | total =>
    rw [extra_of_mem_ofCondition h]
    rfl
  | _ =>
    obtain ⟨value, _, rfl⟩ := mem_ofReading.mp h
    rfl

/-- A metric that is not one of builds marks the label set of its entity with a value. -/
theorem mark_of_mem_measure {now : Int64} {kind : MetricKind} {entity : Entity} {mark : Mark}
    (hkind : ∀ m, kind ≠ .build m) (h : mark ∈ (kind.measure now entity).notes) :
    ∃ value, mark = ⟨[], some value⟩ := by
  unfold MetricKind.measure at h
  split at h
  · exact absurd rfl (hkind _)
  · next m _ =>
    cases m <;> (obtain ⟨value, _, rfl⟩ := mem_ofReading.mp h; exact ⟨value, rfl⟩)
  · exact ⟨_, List.mem_singleton.mp h⟩
  · obtain ⟨value, _, rfl⟩ := mem_ofReading.mp h
    exact ⟨value, rfl⟩
  · obtain ⟨value, _, rfl⟩ := mem_ofReading.mp h
    exact ⟨value, rfl⟩
  · exact ⟨_, List.mem_singleton.mp h⟩
  · obtain ⟨value, _, rfl⟩ := mem_ofReading.mp h
    exact ⟨value, rfl⟩
  · obtain ⟨value, _, rfl⟩ := mem_ofReading.mp h
    exact ⟨value, rfl⟩
  · cases h

/-- A metric of builds marks nothing but builds. -/
theorem entity_of_mem_measure {now : Int64} {m : BuildMetric} {entity : Entity} {mark : Mark}
    (h : mark ∈ ((MetricKind.build m).measure now entity).notes) :
    ∃ b, entity = .build b ∧ mark ∈ (m.measure b).notes := by
  cases entity with
  | build b => exact ⟨b, rfl, h⟩
  | _ => cases h

/-- A mark adds as many label values as its metric has labels of its own. -/
theorem extra_of_mem_measure {now : Int64} {kind : MetricKind} {entity : Entity} {mark : Mark}
    (h : mark ∈ (kind.measure now entity).notes) : mark.extra.length = kind.extraLabels := by
  cases kind with
  | build m =>
    obtain ⟨b, _, hmark⟩ := entity_of_mem_measure h
    exact BuildMetric.extra_of_mem_measure hmark
  | _ =>
    obtain ⟨value, rfl⟩ := mark_of_mem_measure (by simp) h
    rfl

theorem BuildMetric.value_of_mem_measure {m : BuildMetric} {b : Build} {mark : Mark}
    (hm : m ∉ buildCounters) (h : mark ∈ (m.measure b).notes) : mark.value.isSome := by
  cases m with
  | stageDurations | stageResult =>
    obtain ⟨stage, value, _, rfl⟩ := Build.mem_markStages h
    rfl
  | successes | failures | unstables | aborts | total => exact absurd (by decide) hm
  | _ =>
    obtain ⟨value, _, rfl⟩ := mem_ofReading.mp h
    rfl

/-- Only counters mark label sets without a value. -/
theorem value_of_mem_measure {now : Int64} {kind : MetricKind} {entity : Entity} {mark : Mark}
    (hkind : kind ∉ buildCounters.map MetricKind.build)
    (h : mark ∈ (kind.measure now entity).notes) : mark.value.isSome := by
  cases kind with
  | build m =>
    obtain ⟨b, _, hmark⟩ := entity_of_mem_measure h
    exact BuildMetric.value_of_mem_measure (fun hm => hkind (List.mem_map_of_mem hm)) hmark
  | _ =>
    obtain ⟨value, rfl⟩ := mark_of_mem_measure (by simp) h
    rfl

/-- The marks of a counter on a build: its label set, and one more if the result counts. -/
theorem measure_counter {m : BuildMetric} (hm : m ∈ buildCounters) (now : Int64) (b : Build) :
    (MetricKind.build m).measure now (.build b) = ofCondition do return m.counts (← b.result) := by
  simp only [buildCounters, List.mem_cons, List.not_mem_nil, or_false] at hm
  rcases hm with rfl | rfl | rfl | rfl | rfl <;> rfl

/-- The marks of a counter on a build with a result. -/
def counterMarks (m : BuildMetric) (result : Option BuildResult) : List Mark :=
  ⟨[], none⟩ :: if m.counts result then [⟨[], some 1.0⟩] else []

theorem extra_of_mem_counterMarks {m : BuildMetric} {result : Option BuildResult} {mark : Mark}
    (h : mark ∈ counterMarks m result) : mark.extra = [] := by
  rw [counterMarks, List.mem_cons] at h
  rcases h with rfl | h
  · rfl
  · split at h
    · rw [List.mem_singleton.mp h]
    · cases h

theorem measure_counter_of_readable {m : BuildMetric} (hm : m ∈ buildCounters) {b : Build}
    (hb : BuildAccessor.result ∉ b.failing) :
    (MetricKind.build m).measure 0 (.build b) = ⟨counterMarks m b.info.result, .ok ()⟩ := by
  have hresult : b.result = .ok b.info.result := readThrough_of_not_mem hb _
  rw [measure_counter hm, hresult]
  exact ofCondition_ok (m.counts b.info.result)

/-- The label set is there before the result is read. -/
theorem measure_counter_of_failing {m : BuildMetric} (hm : m ∈ buildCounters) {b : Build}
    (hb : BuildAccessor.result ∈ b.failing) :
    (MetricKind.build m).measure 0 (.build b) = ⟨[⟨[], none⟩], .error .failed⟩ := by
  have hresult : b.result = .error .failed := readThrough_of_mem hb _
  rw [measure_counter hm, hresult]
  rfl

/-! ## 2. Hosts that do not fail -/

/-- Nothing fails on a build. -/
def Build.Healthy (b : Build) : Prop := b.failing = []

instance (b : Build) : Decidable b.Healthy := inferInstanceAs (Decidable (_ = _))

theorem Build.Healthy.not_mem {b : Build} (h : b.Healthy) (accessor : BuildAccessor) :
    accessor ∉ b.failing := by
  rw [h]
  exact List.not_mem_nil

theorem Build.Healthy.read {b : Build} (h : b.Healthy) {α : Type} (accessor : BuildAccessor)
    (value : α) : readThrough b.failing accessor value = .ok value :=
  readThrough_of_not_mem (h.not_mem accessor) value

theorem Build.Healthy.isBuilding {b : Build} (h : b.Healthy) : b.isBuilding = .ok b.info.building :=
  h.read ..

theorem Build.Healthy.previous {b : Build} (h : b.Healthy) (older : List Build) :
    b.previous older = .ok (match older with | [] => none | p :: rest => some (p, rest)) :=
  h.read ..

/-- Nothing fails on a job and its builds. -/
def Job.Healthy (j : Job) : Prop := j.failing = [] ∧ ∀ b ∈ j.builds, b.Healthy

instance (j : Job) : Decidable j.Healthy := inferInstanceAs (Decidable (_ ∧ _))

theorem Job.Healthy.nameable {j : Job} (h : j.Healthy) : j.Nameable := by
  simp [Job.Nameable, h.1]

theorem Job.Healthy.read {j : Job} (h : j.Healthy) {α : Type} (accessor : JobAccessor)
    (value : α) : readThrough j.failing accessor value = .ok value :=
  readThrough_of_not_mem (by simp [h.1]) value

theorem Job.Healthy.lastBuild {j : Job} (h : j.Healthy) :
    j.lastBuild = .ok (match j.newestFirst with | [] => none | b :: older => some (b, older)) :=
  h.read ..

theorem Job.Healthy.build {j : Job} (h : j.Healthy) {b : Build} (hb : b ∈ j.newestFirst) :
    b.Healthy :=
  h.2 b (List.mem_reverse.mp hb)

theorem Job.Healthy.jobLabelValues {j : Job} (h : j.Healthy) (c : Config) :
    c.jobLabelValues j = .ok j.labelValues :=
  Config.jobLabelValues_eq_ok.mpr ⟨h.nameable, by simp [h.1], rfl⟩

theorem Build.Healthy.result_markStages {b : Build} (h : b.Healthy)
    (mark? : Stage → Option Float) : (b.markStages mark?).result = .ok () := by
  have hread : ∃ stages, b.readStages = .ok stages := by
    rw [Build.readStages, Build.readFinished, h.isBuilding, Build.stages, h.read]
    cases b.info.building <;> exact ⟨_, rfl⟩
  obtain ⟨stages, hstages⟩ := hread
  rw [Build.markStages, hstages, Journal.ofExcept_ok_bind]
  refine Journal.result_each fun stage _ => ?_
  split <;> rfl

/-- Every metric of builds can be measured on a build on which nothing fails. -/
theorem BuildMetric.result_measure {b : Build} (h : b.Healthy) (m : BuildMetric) :
    (m.measure b).result = .ok () := by
  cases m with
  | stageDurations | stageResult => exact h.result_markStages _
  | successes | failures | unstables | aborts | total =>
    exact congrArg Journal.result (measure_counter_of_readable (by decide) (h.not_mem _))
  | duration | durations =>
    rw [measure, result_ofReading, Build.readDuration, Build.readFinished, h.isBuilding,
      Build.duration, h.read]
    cases b.info.building <;> rfl
  | waiting =>
    rw [measure, result_ofReading, Build.readFinished, h.isBuilding, Build.queued, h.read]
    cases b.info.building <;> rfl
  | logSize =>
    rw [measure, result_ofReading, Build.readFinished, h.isBuilding, Build.logSize, h.read]
    cases b.info.building <;> rfl
  | likelyStuck =>
    rw [measure, result_ofReading, Build.readStuck, h.isBuilding, Build.likelyStuck, h.read]
    cases b.info.building <;> rfl
  | resultOrdinal | passed =>
    rw [measure, result_ofReading, Build.result, h.read]
    rfl
  | startTime =>
    rw [measure, result_ofReading, Build.start, h.read]
    rfl
  | testsTotal | testsFailing | testsSkipped =>
    rw [measure, result_ofReading, Build.readTests, Build.tests, h.read]
    rfl

/-- Every metric of jobs can be measured on a job on which nothing fails. -/
theorem JobMetric.result_measure {j : Job} (h : j.Healthy) (now : Int64) (m : JobMetric) :
    (m.measure now j).result = .ok () := by
  cases m with
  | healthScore =>
    rw [measure, result_ofReading, Job.healthScore, h.read]
    rfl
  | availableBuilds =>
    rw [measure, result_ofReading, Job.buildCount, h.read]
    rfl
  | discardActive =>
    rw [measure, result_ofReading, Job.hasDiscarder, h.read]
    rfl
  | logUpdated =>
    rw [measure, result_ofReading, Job.logUpdated, h.read]
    rfl
  | runningDuration =>
    rw [measure, result_ofReading, Job.readRunningDuration, h.lastBuild]
    cases hbuilds : j.newestFirst with
    | nil => rfl
    | cons last older =>
      have hlast : last.Healthy := h.build (hbuilds ▸ List.mem_cons_self)
      change Except.map _ (last.isBuilding >>= _) = _
      rw [hlast.isBuilding, Build.start, hlast.read]
      cases last.info.building <;> rfl

/-- Nothing fails on an entity. Only builds and jobs can fail. -/
def Entity.Healthy : Entity → Prop
  | .build b => b.Healthy
  | .job j => j.Healthy
  | _ => True

/-- Every metric can be measured on an entity on which nothing fails. -/
theorem Entity.Healthy.result_measure {entity : Entity} (h : entity.Healthy) (now : Int64)
    (kind : MetricKind) : (kind.measure now entity).result = .ok () := by
  cases entity with
  | build b =>
    have hb : b.Healthy := h
    cases kind with
    | build m => exact BuildMetric.result_measure hb m
    | coverage scope figure =>
      rw [MetricKind.measure, result_ofReading, Build.readCoverage, Build.coverage, hb.read]
      rfl
    | _ => rfl
  | job j =>
    cases kind with
    | job m => exact JobMetric.result_measure h now m
    | _ => rfl
  | directory item =>
    cases kind with
    | directory m =>
      rw [MetricKind.measure, result_ofReading]
      rfl
    | _ => rfl
  | jobUsage item =>
    cases kind with
    | jobUsage =>
      rw [MetricKind.measure, result_ofReading]
      rfl
    | _ => rfl
  | host status =>
    cases kind with
    | host m =>
      rw [MetricKind.measure, result_ofReading]
      rfl
    | _ => rfl
  | executor load => cases kind <;> rfl
  | fileStore store => cases kind <;> rfl

/-- A build that passed and reports nothing else. -/
def Build.plain (number : UInt64) : Build :=
  ⟨⟨number, false, some .success, 0, 0, [], none, none, none, none, none, none⟩, [], 0⟩

/-- The build as one of another job. -/
def Build.ofJob (jobId : Nat) (b : Build) : Build := { b with jobId }

/-- A job that can be built and reports nothing else. -/
def Job.plain (name : String) (builds : List Build) : Job :=
  ⟨⟨name, true, 0, false, none⟩, builds, []⟩

end BuildTelemetry
