import BuildTelemetry.Proofs.Scrape

/-!
# What the time of a scrape changes

A scrape reads the clock to tell for how long the last build of a job has been running, and for
nothing else.

1. Journals agree up to a change of their notes if they note the same after it and end in the same
   way (`Journal.AgreeUpTo`). What is recorded for jobs at two times agrees up to the value of the
   running duration (`recordJobs_timeless`).
2. The label sets of a meter do not depend on the recorded values (`map_fst_cells_record`), so its
   family at two times is the same but for these values (`family_timeless`).
3. So are the families of a scrape, whether it fails or not (`scrape_timeless`).
-/

namespace BuildTelemetry

/-! ## 1. Recordings -/

namespace Journal

variable {ν μ ε α β : Type}

/-- The journals note the same up to a change of the notes, and they end in the same way. -/
def AgreeUpTo (change : ν → μ) (j k : Journal ν ε α) : Prop :=
  j.mapNotes change = k.mapNotes change

namespace AgreeUpTo

variable {change : ν → μ} {j k : Journal ν ε α}

theorem notes (h : AgreeUpTo change j k) : j.notes.map change = k.notes.map change :=
  (Journal.mk.inj h).1

theorem result (h : AgreeUpTo change j k) : j.result = k.result := (Journal.mk.inj h).2

theorem refl (j : Journal ν ε α) : AgreeUpTo change j j := rfl

theorem bind {f g : α → Journal ν ε β} (h : AgreeUpTo change j k)
    (hrest : ∀ a, AgreeUpTo change (f a) (g a)) : AgreeUpTo change (j >>= f) (k >>= g) := by
  refine eq_of_parts ?_ ?_
  · show (j >>= f).notes.map change = (k >>= g).notes.map change
    rw [notes_bind, notes_bind, List.map_append, List.map_append, h.notes, h.result]
    cases k.result with
    | ok a => exact congrArg _ (hrest a).notes
    | error _ => rfl
  · show (j >>= f).result = (k >>= g).result
    rw [result_bind, result_bind, h.result]
    cases k.result with
    | ok a => exact (hrest a).result
    | error _ => rfl

theorem recover {f : ε → Journal ν ε α} (h : AgreeUpTo change j k) :
    AgreeUpTo change (j.recover f) (k.recover f) := by
  refine eq_of_parts ?_ ?_
  · show (j.recover f).notes.map change = (k.recover f).notes.map change
    unfold Journal.recover
    rw [h.result]
    cases k.result with
    | ok _ => exact h.notes
    | error _ => simp [h.notes]
  · show (j.recover f).result = (k.recover f).result
    unfold Journal.recover
    rw [h.result]
    cases k.result <;> rfl

theorem each {f g : α → Journal ν ε Unit} (h : ∀ a, AgreeUpTo change (f a) (g a)) (as : List α) :
    AgreeUpTo change (Journal.each f as) (Journal.each g as) := by
  induction as with
  | nil => exact refl _
  | cons a as ih => exact (h a).bind fun _ => ih

end AgreeUpTo

end Journal

open Journal (AgreeUpTo)

/-- The metric whose value depends on the time of a scrape. -/
def MetricKind.running : MetricKind := .job .runningDuration

/-- A recording without the value, if that depends on the time. -/
def Recording.timeless (r : Recording) : Recording :=
  if r.meter.kind = .running then
    { r with mark := { r.mark with value := r.mark.value.map fun _ => 0.0 } }
  else r

section Recordings

variable (now now' : Int64)

theorem measure_job_eq_of_ne {m : JobMetric} (h : m ≠ .runningDuration) (j : Job) :
    m.measure now j = m.measure now' j := by
  cases m with
  | runningDuration => exact absurd rfl h
  | _ => rfl

theorem measure_eq_of_ne {kind : MetricKind} (h : kind ≠ .running) (entity : Entity) :
    kind.measure now entity = kind.measure now' entity := by
  unfold MetricKind.measure
  split
  case h_2 m j =>
    exact measure_job_eq_of_ne now now' (fun hm => h (congrArg MetricKind.job hm)) j
  all_goals rfl

/-- Reads when the last build began, if it is running. -/
def Job.readRunningStart (j : Job) : Reading (Option Int64) := do
  match ← j.lastBuild with
  | none => return none
  | some (last, _) => if ← last.isBuilding then return some (← last.start) else return none

theorem readRunningDuration_eq (j : Job) :
    j.readRunningDuration now =
      j.readRunningStart.map (Option.map fun start => (elapsed now start).toFloat) := by
  unfold Job.readRunningDuration Job.readRunningStart
  cases j.lastBuild with
  | error _ => rfl
  | ok last =>
    cases last with
    | none => rfl
    | some found =>
      obtain ⟨last, older⟩ := found
      simp only [bind, Except.bind]
      cases last.isBuilding with
      | error _ => rfl
      | ok building =>
        cases building with
        | false => rfl
        | true => cases last.start <;> rfl

theorem map_isSome_map {α β γ : Type} (r : Reading (Option α)) (f : α → β) (g : α → γ) :
    (r.map (Option.map f)).map Option.isSome = (r.map (Option.map g)).map Option.isSome := by
  cases r with
  | error _ => rfl
  | ok a => cases a <;> rfl

/-- Readings that fail, give a value or give none alike are recorded alike up to the value. -/
theorem recordAs_ofReading {meter : MeterId} (hkind : meter.kind = .running) (values : List String)
    {r r' : Reading (Option Float)} (h : r.map Option.isSome = r'.map Option.isSome) :
    AgreeUpTo Recording.timeless (recordAs meter values (.ofReading r))
      (recordAs meter values (.ofReading r')) := by
  have htimeless (x y : Float) : Recording.timeless ⟨meter, values, ⟨[], some x⟩⟩ =
      Recording.timeless ⟨meter, values, ⟨[], some y⟩⟩ := by
    simp only [Recording.timeless, hkind, if_true, Option.map_some]
  cases r with
  | error fault =>
    cases r' with
    | error _ =>
      cases h
      exact .refl _
    | ok _ => cases h
  | ok value =>
    cases r' with
    | error _ => cases h
    | ok value' =>
      cases value with
      | none =>
        cases value' with
        | none => exact .refl _
        | some _ => cases h
      | some x =>
        cases value' with
        | none => cases h
        | some y =>
          exact Journal.eq_of_parts (congrArg (fun r => [r]) (htimeless x y)) rfl

theorem recordAs_timeless (meter : MeterId) (values : List String) (entity : Entity) :
    AgreeUpTo Recording.timeless (recordAs meter values (meter.kind.measure now entity))
      (recordAs meter values (meter.kind.measure now' entity)) := by
  by_cases hkind : meter.kind = .running
  · cases entity with
    | job j =>
      have hmeasure (time : Int64) :
          meter.kind.measure time (.job j) = .ofReading (j.readRunningDuration time) := by
        rw [hkind]
        rfl
      rw [hmeasure, hmeasure]
      refine recordAs_ofReading hkind values ?_
      rw [readRunningDuration_eq, readRunningDuration_eq]
      exact map_isSome_map _ _ _
    | _ =>
      rw [hkind]
      exact .refl _
  · rw [measure_eq_of_ne now now' hkind]
    exact .refl _

theorem recordEntity_timeless (meters : List MeterId) (entity : Entity) (values : List String) :
    AgreeUpTo Recording.timeless (recordEntity now meters entity values)
      (recordEntity now' meters entity values) :=
  .each (fun meter => recordAs_timeless now now' meter values entity) meters

theorem recordBuild_timeless (p : JobPlan) (j : Job) (b : Build) :
    AgreeUpTo Recording.timeless (recordBuild p now j b) (recordBuild p now' j b) := by
  unfold recordBuild
  refine .bind (.refl _) fun values => ?_
  refine .bind (recordEntity_timeless now now' _ _ _) fun _ => ?_
  split
  · exact .bind (.refl _) fun number => recordEntity_timeless now now' _ _ _
  · exact .refl _

theorem recordBuilds_timeless (p : JobPlan) (j : Job) (builds : List Build) :
    AgreeUpTo Recording.timeless (recordBuilds p now j builds) (recordBuilds p now' j builds) := by
  induction builds with
  | nil => exact .refl _
  | cons b older ih =>
    unfold recordBuilds
    refine .bind (.refl _) fun included => ?_
    have hrest (found : Reading (Option (Build × List Build))) :
        AgreeUpTo Recording.timeless (do let _ ← liftM found; recordBuilds p now j older)
          (do let _ ← liftM found; recordBuilds p now' j older) := .bind (.refl _) fun _ => ih
    cases included with
    | true => exact .bind (recordBuild_timeless now now' p j b) fun _ => hrest _
    | false => exact hrest _

theorem recordJob_timeless (p : JobPlan) (j : Job) :
    AgreeUpTo Recording.timeless (recordJob p now j) (recordJob p now' j) := by
  unfold recordJob
  refine .bind (.refl _) fun name => ?_
  split
  · exact .refl _
  refine .bind (.refl _) fun buildable => ?_
  split
  · exact .refl _
  refine .bind (.refl _) fun last => ?_
  cases last with
  | none => exact .refl _
  | some found =>
    refine .bind (.refl _) fun completed => ?_
    cases completed with
    | none => exact .refl _
    | some completed =>
      refine .bind (.refl _) fun values => ?_
      refine .bind (recordEntity_timeless now now' _ _ _) fun _ => ?_
      refine .bind (recordEntity_timeless now now' _ _ _) fun _ => ?_
      exact recordBuilds_timeless now now' p j _

theorem recordJobs_timeless (p : JobPlan) (jobs : List Job) :
    AgreeUpTo Recording.timeless (recordJobs p now jobs) (recordJobs p now' jobs) :=
  .each (fun j => (recordJob_timeless now now' p j).recover) jobs

end Recordings

/-! ## 2. Families of a meter -/

/-- The label sets of a meter are told by what its recordings go to, whatever they record. -/
theorem map_fst_cells_record {m : Meter} {rs ts : List Recording}
    (h : rs.map Recording.key = ts.map Recording.key) :
    (m.record rs).series.cells.map Prod.fst = (m.record ts).series.cells.map Prod.fst := by
  have hunder (values : List String) (us : List Recording) :
      (Recording.under values us).isEmpty =
        ((us.map Recording.key).filter (· == values)).isEmpty := by
    rw [List.filter_map, List.isEmpty_map]
    rfl
  refine Series.map_fst_cells_eq fun values => ?_
  rw [Meter.get?_record, Meter.get?_record, hunder, hunder, h]
  split <;> rfl

/-- A sample without its value. -/
def Sample.valueless (x : Sample) : Sample := { x with value := 0.0 }

/-- A family without the values that depend on the time of the scrape. -/
def MetricFamily.timeless (nameSpace : String) (f : MetricFamily) : MetricFamily :=
  if f.name = (⟨.running, none⟩ : MeterId).name nameSpace then
    { f with samples := f.samples.map Sample.valueless }
  else f

@[simp] theorem name_timeless (nameSpace : String) (f : MetricFamily) :
    (f.timeless nameSpace).name = f.name := by
  unfold MetricFamily.timeless
  split <;> rfl

@[simp] theorem isEmpty_timeless (nameSpace : String) (f : MetricFamily) :
    (f.timeless nameSpace).isEmpty = f.isEmpty := by
  unfold MetricFamily.timeless
  split
  · exact List.isEmpty_map
  · rfl

/-- A gauge shows its label sets and, apart from that, nothing but values. -/
theorem samples_valueless {m : Meter} {g : Gauge} {rs : List Recording}
    (hfresh : m.series.fresh = .gauge g) (hcells : m.series.cells = []) :
    (m.record rs).family.samples.map Sample.valueless =
      ((m.record rs).series.cells.map Prod.fst).map fun values =>
        ⟨m.descriptor.name, m.series.labelNames.zip values, 0.0⟩ := by
  have hgauge : ∀ cell ∈ (m.record rs).series.cells, ∃ shown : Gauge, cell.2 = .gauge shown := by
    rintro ⟨values, i⟩ hcell
    have hnone : m.series.get? values = none := by rw [Series.get?, hcells]; rfl
    rw [Series.mem_cells, Meter.get?_record, Series.instrument, hnone, Option.getD_none, hfresh,
      foldl_gauge] at hcell
    split at hcell
    · cases hcell
    · exact ⟨_, (Option.some.inj hcell).symm⟩
  have hfamily : (m.record rs).family.samples = (m.record rs).series.cells.flatMap fun cell =>
      Exposable.samples cell.2 m.descriptor.name (m.series.labelNames.zip cell.1) := by
    rw [← Meter.descriptor_record m rs, ← Meter.labelNames_record m rs]
    rfl
  rw [hfamily, List.map_map]
  generalize (m.record rs).series.cells = cells at hgauge
  induction cells with
  | nil => rfl
  | cons cell cells ih =>
    obtain ⟨hfirst, hrest⟩ := List.forall_mem_cons.mp hgauge
    obtain ⟨shown, hshown⟩ := hfirst
    rw [List.flatMap_cons, List.map_append, ih hrest, hshown]
    rfl

/-- The label values of a gauge's samples are those of its cells. -/
theorem Meter.labelValues_samples_gauge {m : Meter} {g : Gauge} {rs : List Recording}
    (hfresh : m.series.fresh = .gauge g) (hcells : m.series.cells = [])
    (hsized : (m.record rs).Sized) :
    (m.record rs).family.samples.map Sample.labelValues =
      (m.record rs).series.cells.map Prod.fst := by
  have hsamples : (m.record rs).family.samples.map Sample.valueless = _ :=
    samples_valueless hfresh hcells
  have hshown := congrArg (List.map Sample.labelValues) hsamples
  rw [List.map_map, List.map_map, List.map_map] at hshown
  refine hshown.trans (List.map_congr_left fun cell hcell => ?_)
  have hlength := hsized cell hcell
  rw [Meter.labelNames_record] at hlength
  exact List.map_snd_zip hlength.le

theorem key_timeless (r : Recording) : r.timeless.key = r.key := by
  unfold Recording.timeless
  split <;> rfl

theorem meter_timeless (r : Recording) : r.timeless.meter = r.meter := by
  unfold Recording.timeless
  split <;> rfl

theorem timeless_of_ne {r : Recording} (h : r.meter.kind ≠ .running) : r.timeless = r := if_neg h

theorem recordingsFor_timeless (meter : MeterId) (rs : List Recording) :
    (recordingsFor meter rs).map Recording.timeless =
      recordingsFor meter (rs.map Recording.timeless) := by
  rw [recordingsFor, recordingsFor, List.filter_map]
  congr 2
  funext r
  rw [Function.comp_apply, meter_timeless]

/-- What recordings leave in a meter at two times shows the same family up to the time. -/
theorem family_timeless (s : Settings) {planned : PlannedMeter} {rs ts : List Recording}
    (hplanned : planned.meter.kind = .running → planned.meter.qualifier = none)
    (h : rs.map Recording.timeless = ts.map Recording.timeless) :
    ((s.freshMeter planned).record (recordingsFor planned.meter rs)).family.timeless s.nameSpace =
      ((s.freshMeter planned).record
        (recordingsFor planned.meter ts)).family.timeless s.nameSpace := by
  have hfor : (recordingsFor planned.meter rs).map Recording.timeless =
      (recordingsFor planned.meter ts).map Recording.timeless := by
    rw [recordingsFor_timeless, recordingsFor_timeless, h]
  by_cases hkind : planned.meter.kind = .running
  · have hmeter : planned.meter = ⟨.running, none⟩ := by
      rw [← hkind, ← hplanned hkind]
    have hname (us : List Recording) : ((s.freshMeter planned).record us).family.name =
        (⟨.running, none⟩ : MeterId).name s.nameSpace := by
      show ((s.freshMeter planned).record us).descriptor.name = _
      rw [Meter.descriptor_record, ← hmeter]
      rfl
    have hfresh : (s.freshMeter planned).series.fresh = .gauge .zero := by
      rw [Settings.freshMeter, hmeter]
      rfl
    have hkeys : (recordingsFor planned.meter rs).map Recording.key =
        (recordingsFor planned.meter ts).map Recording.key := by
      have hkey : Recording.key = Recording.key ∘ Recording.timeless :=
        funext fun r => (key_timeless r).symm
      rw [hkey, ← List.map_map, hfor, List.map_map]
    rw [MetricFamily.timeless, if_pos (hname _), MetricFamily.timeless, if_pos (hname _),
      samples_valueless hfresh rfl, samples_valueless hfresh rfl, map_fst_cells_record hkeys]
    simp only [Meter.family, Meter.descriptor_record]
  · -- the recordings have all their values, so they are the same
    have hall (us : List Recording) :
        (recordingsFor planned.meter us).map Recording.timeless =
          recordingsFor planned.meter us := by
      refine (List.map_congr_left fun r hr => timeless_of_ne ?_).trans (List.map_id _)
      rw [beq_iff_eq.mp (List.mem_filter.mp hr).2]
      exact hkind
    rw [← hall rs, ← hall ts, hfor]

/-! ## 3. Families of a scrape -/

/-- Families that are dropped by what does not depend on the time are dropped at any time. -/
theorem filter_timeless {nameSpace : String} {p : MetricFamily → Bool}
    (h : ∀ f : MetricFamily, p (f.timeless nameSpace) = p f) (families : List MetricFamily) :
    (families.filter p).map (·.timeless nameSpace) =
      (families.map (·.timeless nameSpace)).filter p := by
  rw [List.filter_map]
  congr 2
  exact funext fun f => (h f).symm

theorem exposed_timeless (s : Settings) (families : List MetricFamily) :
    (exposed (some s) families).map (·.timeless s.nameSpace) =
      exposed (some s) (families.map (·.timeless s.nameSpace)) := by
  refine filter_timeless (fun f => ?_) families
  rw [isExposed, isExposed, isEmpty_timeless]
  simp only [Option.all_some, name_timeless]

theorem qualifier_of_running {s : Settings} {planned : PlannedMeter}
    (hplanned : planned ∈ (JobPlan.of s).all) (hkind : planned.meter.kind = .running) :
    planned.meter.qualifier = none := by
  rcases List.mem_append.mp hplanned with h | h
  · obtain ⟨_, _, _, rfl⟩ := mem_planFor.mp h
    rfl
  rcases List.mem_append.mp h with h | h
  · rcases List.mem_append.mp h with h | h
    · obtain ⟨_, _, _, rfl⟩ := mem_planFor.mp h
      rfl
    · obtain ⟨m, _, _, rfl⟩ := mem_planBuilds.mp h
      cases hkind
  · obtain ⟨_, _, _, rfl⟩ := mem_perBuild h
    rfl

/-- The families of a scrape of jobs are the same at two times up to the running duration. -/
theorem jobFamilies_timeless (s : Settings) (c : CounterCache) (now now' : Int64)
    (jobs : List Job) :
    (jobFamilies s c now jobs).map (·.timeless s.nameSpace) =
      (jobFamilies s c now' jobs).map (·.timeless s.nameSpace) := by
  have hnotes := (recordJobs_timeless now now' (.of s) jobs).notes
  have hplan (plan : List PlannedMeter) (hsubset : plan ⊆ (JobPlan.of s).all) :
      ((s.meters plan (recordJobs (.of s) now jobs).notes).map Meter.family).map
          (·.timeless s.nameSpace) =
        ((s.meters plan (recordJobs (.of s) now' jobs).notes).map Meter.family).map
          (·.timeless s.nameSpace) := by
    simp only [Settings.meters, List.map_map]
    refine List.map_congr_left fun planned hmem => ?_
    exact family_timeless s (qualifier_of_running (hsubset hmem)) hnotes
  unfold jobFamilies familiesOf
  rw [filter_timeless (by simp), filter_timeless (by simp)]
  simp only [JobPlan.meters, List.map_append]
  have hsettings : (JobPlan.of s).settings = s := rfl
  rw [hsettings, hplan _ (List.subset_append_left _ _), hplan _ (List.subset_append_right _ _)]

/-- Results that are the same after a map are the same failure, or values that it takes to the
same. -/
theorem map_eq_map_cases {ε α β : Type} {r r' : Except ε α} {f : α → β} (h : r.map f = r'.map f) :
    (∃ e, r = .error e ∧ r' = .error e) ∨ ∃ a a', r = .ok a ∧ r' = .ok a' ∧ f a = f a' := by
  cases r with
  | error e =>
    cases r' with
    | error e' => exact .inl ⟨e, rfl, congrArg _ (Except.error.inj h).symm⟩
    | ok _ => cases h
  | ok a =>
    cases r' with
    | error _ => cases h
    | ok a' => exact .inr ⟨a, a', rfl, rfl, Except.ok.inj h⟩

theorem map_map_const {ε α β γ : Type} (r : Except ε α) {x y : β} {f : β → γ} (h : f x = f y) :
    (r.map fun _ => x).map f = (r.map fun _ => y).map f := by
  cases r with
  | error _ => rfl
  | ok _ => exact congrArg Except.ok h

namespace Exporter

/-- The settings, the host and the counters decide what a collection of jobs gives, up to the
running duration. -/
theorem collectJobs_timeless (e : Exporter) (now now' : Int64) :
    (e.collectJobs now).1 = (e.collectJobs now').1 ∧
      (e.collectJobs now).2.map (·.map (·.timeless e.active.load.nameSpace)) =
        (e.collectJobs now').2.map (·.map (·.timeless e.active.load.nameSpace)) := by
  have hstate : (e.collectJobs now).1 = (e.collectJobs now').1 := by
    unfold collectJobs
    dsimp only
    split <;> rfl
  refine ⟨hstate, ?_⟩
  by_cases hcounts : e.active.load.config.countsAnyBuild
  · rw [result_collectJobs now hcounts, result_collectJobs now' hcounts, hstate,
      (recordJobs_timeless now now' (.of e.active.load) e.host.jobs).result]
    exact map_map_const _ (jobFamilies_timeless e.active.load (e.collectJobs now').1.counters now
      now' e.host.jobs)
  · rw [result_collectJobs_of_not_counts now hcounts, result_collectJobs_of_not_counts now' hcounts]

theorem collectFrom_timeless (e : Exporter) (now now' : Int64) (c : Collector) :
    (e.collectFrom now c).1 = (e.collectFrom now' c).1 ∧
      (e.collectFrom now c).2.map (·.map (·.timeless e.active.load.nameSpace)) =
        (e.collectFrom now' c).2.map (·.map (·.timeless e.active.load.nameSpace)) := by
  cases c with
  | jobs => exact collectJobs_timeless e now now'
  | _ => exact ⟨rfl, rfl⟩

/-- The first of some collectors is asked, and then the others unless the host has failed. -/
theorem collectAll_cons (e : Exporter) (now : Int64) (c : Collector) (cs : List Collector) :
    e.collectAll now (c :: cs) =
      match (e.collectFrom now c).2 with
      | .error fault => ((e.collectFrom now c).1, .error fault)
      | .ok families =>
        (((e.collectFrom now c).1.collectAll now cs).1,
          ((e.collectFrom now c).1.collectAll now cs).2.map (families ++ ·)) := by
  rw [collectAll]
  obtain ⟨after, found⟩ := e.collectFrom now c
  cases found with
  | error _ => rfl
  | ok families =>
    dsimp only
    obtain ⟨final, rest⟩ := after.collectAll now cs
    cases rest <;> rfl

theorem collectAll_timeless (now now' : Int64) (collectors : List Collector) (e : Exporter) :
    (e.collectAll now collectors).1 = (e.collectAll now' collectors).1 ∧
      (e.collectAll now collectors).2.map (·.map (·.timeless e.active.load.nameSpace)) =
        (e.collectAll now' collectors).2.map (·.map (·.timeless e.active.load.nameSpace)) := by
  induction collectors generalizing e with
  | nil => exact ⟨rfl, rfl⟩
  | cons c cs ih =>
    obtain ⟨hstate, hresult⟩ := collectFrom_timeless e now now' c
    obtain ⟨hrest, hfamilies⟩ := ih (e.collectFrom now' c).1
    rw [active_collectFrom] at hfamilies
    rw [collectAll_cons, collectAll_cons, hstate]
    obtain ⟨fault, hnow, hlater⟩ | ⟨families, families', hnow, hlater, hsame⟩ :=
      map_eq_map_cases hresult
    · rw [hnow, hlater]
      exact ⟨rfl, rfl⟩
    · rw [hnow, hlater]
      refine ⟨hrest, ?_⟩
      dsimp only
      obtain ⟨fault, hnow, hlater⟩ | ⟨rest, rest', hnow, hlater, hsame'⟩ :=
        map_eq_map_cases hfamilies
      · rw [hnow, hlater]
        rfl
      · rw [hnow, hlater]
        simp only [Except.map, List.map_append, hsame, hsame']

/-- A scrape leaves the same behind at any time, and it shows the same up to the running
duration. -/
theorem scrape_timeless (e : Exporter) (collectors : List Collector) (now now' : Int64) :
    (e.scrape collectors now).1 = (e.scrape collectors now').1 ∧
      (e.scrape collectors now).2.map (·.map (·.timeless e.active.load.nameSpace)) =
        (e.scrape collectors now').2.map (·.map (·.timeless e.active.load.nameSpace)) := by
  obtain ⟨hstate, hresult⟩ := collectAll_timeless now now' collectors e
  have hscrape (time : Int64) : (e.scrape collectors time).2 =
      (e.collectAll time collectors).2.map (exposed (some e.active.load)) := rfl
  refine ⟨hstate, ?_⟩
  rw [hscrape, hscrape]
  obtain ⟨fault, hnow, hlater⟩ | ⟨families, families', hnow, hlater, hsame⟩ :=
    map_eq_map_cases hresult
  · rw [hnow, hlater]
  · rw [hnow, hlater]
    simp only [Except.map, exposed_timeless, hsame]

end Exporter

end BuildTelemetry
