import BuildTelemetry.Proofs.Feeding
import BuildTelemetry.Proofs.Journal

/-!
# Feeders

A collection feeds meters one after the other, and a meter that is given a wrong number of label
values fails. A feeder is a part of a collection that is written out as the feedings it makes, with
the outcome of each of them.

A feeder follows a recorder on a bench of meters that take the label values that it gives: it ends
like the recorder, the meters are left with what was recorded for them, and no feeding has failed
for its label values.

* `Bench.feed_of_takes`: one feeding of a meter that takes the label values.
* `Follows.bind`, `Follows.each`, `Follows.recover`: feeders that are built from others.
* `follows_feedEntity`, `follows_feedFitting`: an entity for several meters.
* `Follows.collects`: what a collection gives in the end.
-/

namespace BuildTelemetry

/-! ## 1. Benches -/

/-- The meters of a collection, and the outcome of every feeding so far. -/
structure Bench where
  meters : List (MeterId × Meter)
  outcomes : List (Except MeterError Unit)

namespace Bench

/-- No feeding has failed for its label values. -/
def Clean (b : Bench) : Prop := ∀ outcome ∈ b.outcomes, ∀ error, outcome ≠ .error (.arity error)

/-- Feeds a meter. There is none for a suppressed metric, and nothing fails then. -/
def feed (b : Bench) (now : Int64) (entity : Entity) (values : List String) (id : MeterId) :
    Except MeterError Unit × Bench :=
  let outcome := match b.meters.find? fun e => e.1 == id with
    | none => .ok ()
    | some e => (e.2.feedChecked now entity values).2
  (outcome,
    ⟨b.meters.map fun e => if e.1 == id then (e.1, (e.2.feedChecked now entity values).1) else e,
      b.outcomes ++ [outcome]⟩)

/-- The meters with what was recorded for them. -/
def record (meters : List (MeterId × Meter)) (recordings : List Recording) :
    List (MeterId × Meter) :=
  meters.map fun e => (e.1, e.2.record (recordingsFor e.1 recordings))

theorem record_nil (meters : List (MeterId × Meter)) : record meters [] = meters :=
  List.map_id' meters

theorem record_append (meters : List (MeterId × Meter)) (rs ts : List Recording) :
    record meters (rs ++ ts) = record (record meters rs) ts := by
  rw [record, record, record, List.map_map]
  refine List.map_congr_left fun e _ => ?_
  rw [recordingsFor_append, Meter.record_append]
  rfl

/-- A bench whose meters have so many labels, and on which no feeding has failed for its label
values. -/
structure Laid (b : Bench) (widths : List (MeterId × Nat)) : Prop where
  sized : b.meters.map (fun e => (e.1, e.2.series.labelNames.length)) = widths
  kinds : ∀ e ∈ b.meters, e.2.kind = e.1.kind
  nodup : (widths.map Prod.fst).Nodup
  clean : b.Clean

/-- Meters that are there and take a number of label values. -/
def Takes (widths : List (MeterId × Nat)) (ids : List MeterId) (count : Nat) : Prop :=
  ∀ id ∈ ids, (id, count + id.kind.extraLabels) ∈ widths

/-- What recordings leave on a bench. -/
structure Took (b : Bench) (recordings : List Recording) (after : Bench) : Prop where
  meters : after.meters = record b.meters recordings
  clean : after.Clean

variable {b c : Bench} {widths : List (MeterId × Nat)} {rs : List Recording}

/-- Recordings leave the schemas as they are. -/
theorem Took.laid (h : b.Took rs c) (hb : b.Laid widths) : c.Laid widths where
  sized := by
    rw [h.meters, record, List.map_map, ← hb.sized]
    refine List.map_congr_left fun e _ => ?_
    simp only [Function.comp_apply, Meter.labelNames_record]
  kinds := by
    intro e he
    rw [h.meters, record, List.mem_map] at he
    obtain ⟨before, hbefore, rfl⟩ := he
    exact (Meter.kind_record _ _).trans (hb.kinds before hbefore)
  nodup := hb.nodup
  clean := h.clean

theorem Took.refl (h : b.Clean) : b.Took [] b := ⟨(record_nil b.meters).symm, h⟩

theorem Took.trans {d : Bench} {ts : List Recording} (h : b.Took rs c) (h' : c.Took ts d) :
    b.Took (rs ++ ts) d :=
  ⟨by rw [h'.meters, h.meters, record_append], h'.clean⟩

theorem recordingsFor_recordAs (id other : MeterId) (values : List String) (m : Measurement) :
    recordingsFor other (recordAs id values m).notes =
      if other = id then (recordAs id values m).notes else [] := by
  have hmeter : ∀ r ∈ (recordAs id values m).notes, r.meter = id := by
    intro r hr
    obtain ⟨mark, _, rfl⟩ := List.mem_map.mp hr
    rfl
  split
  · next heq =>
    refine List.filter_eq_self.mpr fun r hr => ?_
    rw [hmeter r hr, heq, beq_self_eq_true]
  · next hne => exact recordingsFor_eq_nil fun r hr h => hne (h.symm.trans (hmeter r hr))

/-- A meter that takes the label values of an entity records the marks of its metric and ends like
the measurement. The identities are distinct, so there is one width to look at. -/
theorem Laid.feedChecked (hb : b.Laid widths) {id : MeterId} {values : List String}
    (h : (id, values.length + id.kind.extraLabels) ∈ widths) (now : Int64) (entity : Entity)
    {m : Meter} (hm : (id, m) ∈ b.meters) :
    m.feedChecked now entity values =
      (m.record (recordAs id values (id.kind.measure now entity)).notes,
        (id.kind.measure now entity).result.mapError .host) := by
  have hkind : m.kind = id.kind := hb.kinds _ hm
  have hwidth : (id, m.series.labelNames.length) ∈ widths := by
    rw [← hb.sized]
    exact List.mem_map_of_mem hm
  have hlength := congrArg Prod.snd (List.inj_on_of_nodup_map hb.nodup h hwidth rfl)
  have hchecked : m.checkArity values = .ok () :=
    Meter.checkArity_eq_ok_iff.mpr (hkind ▸ hlength)
  rw [Meter.feedChecked_eq, Meter.feed, hchecked, hkind]
  exact congrArg (·, _) (Meter.markAll_eq_record m values _ id)

theorem feed_of_takes (hb : b.Laid widths) {id : MeterId} {values : List String}
    (h : (id, values.length + id.kind.extraLabels) ∈ widths) (now : Int64) (entity : Entity) :
    (b.feed now entity values id).1 = (id.kind.measure now entity).result.mapError .host ∧
      b.Took (recordAs id values (id.kind.measure now entity)).notes
        (b.feed now entity values id).2 := by
  have houtcome : (b.feed now entity values id).1 =
      (id.kind.measure now entity).result.mapError .host := by
    have hthere : (b.meters.find? fun e => e.1 == id).isSome := by
      rw [List.find?_isSome]
      obtain ⟨e, he, heq⟩ := List.mem_map.mp (hb.sized ▸ h)
      exact ⟨e, he, by simpa using congrArg Prod.fst heq⟩
    obtain ⟨⟨id', m⟩, hfound⟩ := Option.isSome_iff_exists.mp hthere
    obtain rfl : id' = id := by simpa using List.find?_some hfound
    rw [feed, hfound]
    exact congrArg Prod.snd (hb.feedChecked h now entity (List.mem_of_find?_eq_some hfound))
  refine ⟨houtcome, ?_, ?_⟩
  · refine List.map_congr_left fun e he => ?_
    obtain ⟨id', m⟩ := e
    dsimp only
    rw [recordingsFor_recordAs]
    by_cases hid : id' = id
    · subst hid
      rw [if_pos (beq_self_eq_true _), if_pos rfl, hb.feedChecked h now entity he]
    · rw [if_neg (by simpa using hid), if_neg hid]
      rfl
  · intro outcome hmem error
    rcases List.mem_append.mp hmem with hmem | hlast
    · exact hb.clean outcome hmem error
    · rw [List.mem_singleton.mp hlast]
      refine fun harity => ?_
      have hfault := houtcome.symm.trans harity
      cases hresult : (id.kind.measure now entity).result with
      | error fault =>
        rw [hresult] at hfault
        cases hfault
      | ok _ =>
        rw [hresult] at hfault
        cases hfault

end Bench

/-! ## 2. Feeders -/

/-- A part of a collection that feeds the meters of a bench. It stops at a failure, which leaves the
bench as it is then. -/
abbrev Feeder := ExceptT MeterError (StateM Bench)

namespace Feeder

variable {α β : Type}

/-- The end of a feeder and the bench that it leaves. -/
def on (f : Feeder α) (b : Bench) : Except MeterError α × Bench := f.run.run b

def read (r : Reading α) : Feeder α := ExceptT.mk (pure (r.mapError .host))

def feedMeter (now : Int64) (entity : Entity) (values : List String) (id : MeterId) : Feeder Unit :=
  ExceptT.mk fun b => b.feed now entity values id

/-- Feeds some meters up to the first failure. -/
def feedEntity (now : Int64) (ids : List MeterId) (entity : Entity) (values : List String) :
    Feeder Unit :=
  ids.forM (feedMeter now entity values)

/-- Feeds some meters and goes on behind those that the label values do not fit. -/
def feedFitting (now : Int64) (ids : List MeterId) (entity : Entity) (values : List String) :
    Feeder Unit :=
  ids.forM fun id => tryCatch (feedMeter now entity values id) fun
    | .arity _ => pure ()
    | .host fault => throw (.host fault)

theorem on_bind (f : Feeder α) (g : α → Feeder β) (b : Bench) :
    (f >>= g).on b = match f.on b with
      | (.ok a, c) => (g a).on c
      | (.error e, c) => (.error e, c) := by
  cases h : f.on b with
  | mk r c =>
    simp only [on, ExceptT.run_bind, StateT.run_bind] at h ⊢
    simp only [h]
    cases r <;> rfl

theorem on_tryCatch (f : Feeder α) (g : MeterError → Feeder α) (b : Bench) :
    (tryCatch f g).on b = match f.on b with
      | (.ok a, c) => (.ok a, c)
      | (.error e, c) => (g e).on c := by
  cases h : f.on b with
  | mk r c =>
    have hrun : StateT.run f b = (r, c) := h
    simp only [on, tryCatch, tryCatchThe, MonadExceptOf.tryCatch, ExceptT.tryCatch, ExceptT.run_mk,
      StateT.run_bind, hrun]
    cases r <;> rfl

/-- A feeder follows a recorder: on a bench of meters that have so many labels it ends like the
recorder, the meters are left with what was recorded for them, and no feeding has failed for its
label values. -/
def Follows (widths : List (MeterId × Nat)) (f : Feeder α) (j : Journal Recording HostFault α) :
    Prop :=
  ∀ b : Bench, b.Laid widths → (f.on b).1 = j.result.mapError .host ∧ b.Took j.notes (f.on b).2

variable {widths : List (MeterId × Nat)}

theorem follows_pure (a : α) : Follows widths (pure a) (pure a) :=
  fun _ hb => ⟨rfl, .refl hb.clean⟩

/-- A feeder stops where the recorder stops, and else both go on with the same. -/
theorem Follows.cases {f : Feeder α} {j : Journal Recording HostFault α} (h : Follows widths f j)
    {b : Bench} (hb : b.Laid widths) :
    (∃ fault c, j.result = .error fault ∧ f.on b = (.error (.host fault), c) ∧ b.Took j.notes c) ∨
      ∃ a c, j.result = .ok a ∧ f.on b = (.ok a, c) ∧ b.Took j.notes c := by
  obtain ⟨hresult, htook⟩ := h b hb
  cases hj : j.result with
  | error fault =>
    rw [hj] at hresult
    exact .inl ⟨fault, _, rfl, Prod.ext hresult rfl, htook⟩
  | ok a =>
    rw [hj] at hresult
    exact .inr ⟨a, _, rfl, Prod.ext hresult rfl, htook⟩

theorem Follows.bind {f : Feeder α} {g : α → Feeder β} {j : Journal Recording HostFault α}
    {k : α → Journal Recording HostFault β} (hf : Follows widths f j)
    (hg : ∀ a, j.result = .ok a → Follows widths (g a) (k a)) :
    Follows widths (f >>= g) (j >>= k) := by
  intro b hb
  rw [on_bind]
  rcases hf.cases hb with ⟨fault, c, hj, hon, htook⟩ | ⟨a, c, hj, hon, htook⟩
  · rw [hon, Journal.bind_of_error hj]
    exact ⟨rfl, htook⟩
  · obtain ⟨hrest, hrestTook⟩ := hg a hj c (htook.laid hb)
    rw [hon, Journal.bind_of_ok hj]
    exact ⟨hrest, htook.trans hrestTook⟩

/-- Both read the same of the host. -/
theorem follows_read {r : Reading α} {g : α → Feeder β} {k : α → Journal Recording HostFault β}
    (h : ∀ a, r = .ok a → Follows widths (g a) (k a)) :
    Follows widths (read r >>= g) (liftM r >>= k) := by
  have hread : Follows widths (read r) (liftM r) := fun _ hb => ⟨rfl, .refl hb.clean⟩
  exact hread.bind h

/-- A feeder goes on after a failure where the recorder does. -/
theorem Follows.recover {f : Feeder α} {g : MeterError → Feeder α}
    {j : Journal Recording HostFault α} {k : HostFault → Journal Recording HostFault α}
    (hf : Follows widths f j) (hg : ∀ fault, Follows widths (g (.host fault)) (k fault)) :
    Follows widths (tryCatch f g) (j.recover k) := by
  intro b hb
  rw [on_tryCatch, Journal.recover]
  rcases hf.cases hb with ⟨fault, c, hj, hon, htook⟩ | ⟨a, c, hj, hon, htook⟩
  · obtain ⟨hrest, hrestTook⟩ := hg fault c (htook.laid hb)
    rw [hon, hj]
    exact ⟨hrest, htook.trans hrestTook⟩
  · rw [hon, hj]
    exact ⟨rfl, htook⟩

theorem Follows.each {f : α → Feeder Unit} {j : α → Journal Recording HostFault Unit} {as : List α}
    (h : ∀ a ∈ as, Follows widths (f a) (j a)) :
    Follows widths (as.forM f) (Journal.each j as) := by
  induction as with
  | nil => exact follows_pure ()
  | cons a as ih =>
    obtain ⟨hfirst, hrest⟩ := List.forall_mem_cons.mp h
    exact hfirst.bind fun _ _ => ih hrest

theorem follows_feedMeter {values : List String} {id : MeterId}
    (h : (id, values.length + id.kind.extraLabels) ∈ widths) (now : Int64) (entity : Entity) :
    Follows widths (feedMeter now entity values id)
      (recordAs id values (id.kind.measure now entity)) :=
  fun _ hb => Bench.feed_of_takes hb h now entity

/-- Meters that take the label values of an entity are left with its marks. -/
theorem follows_feedEntity {ids : List MeterId} {values : List String}
    (h : Bench.Takes widths ids values.length) (now : Int64) (entity : Entity) :
    Follows widths (feedEntity now ids entity values) (recordEntity now ids entity values) :=
  Follows.each fun id hid => follows_feedMeter (h id hid) now entity

/-- Where all meters take the label values there is none to leave out. -/
theorem follows_feedFitting {ids : List MeterId} {values : List String}
    (h : Bench.Takes widths ids values.length) (now : Int64) (entity : Entity) :
    Follows widths (feedFitting now ids entity values) (recordEntity now ids entity values) := by
  refine Follows.each fun id hid => ?_
  rw [← Journal.recover_stop (recordAs id values _)]
  exact (follows_feedMeter (h id hid) now entity).recover fun fault _ hb => ⟨rfl, .refl hb.clean⟩

/-- Feeds the meters of one part of a collection, and gives the families of what they hold then. -/
def families (meters : List (MeterId × Meter)) (f : Feeder Unit) : Feeder (List MetricFamily) := do
  modify fun b => { b with meters }
  f
  return (← get).meters.map fun e => e.2.family

/-- A collection gives what a scrape gives, and no feeding fails for its label values. -/
def Collects (f : Feeder (List MetricFamily)) (r : Reading (List MetricFamily)) : Prop :=
  ∀ b : Bench, b.Clean → (f.on b).1 = r.mapError .host ∧ (f.on b).2.Clean

theorem Follows.collects {f : Feeder Unit} {j : Recorder} {meters : List (MeterId × Meter)}
    (hmeters : meters.map (fun e => (e.1, e.2.series.labelNames.length)) = widths)
    (hkinds : ∀ e ∈ meters, e.2.kind = e.1.kind) (hnodup : (widths.map Prod.fst).Nodup)
    (h : Follows widths f j) :
    Collects (families meters f)
      (j.result.map fun _ => (Bench.record meters j.notes).map fun e => e.2.family) := by
  intro b hb
  have hlaid : Bench.Laid { b with meters } widths := ⟨hmeters, hkinds, hnodup, hb⟩
  have hset : (modify (fun b => { b with meters }) : Feeder Unit).on b =
      (.ok (), { b with meters }) := rfl
  rw [families, on_bind, hset]
  dsimp only
  rw [on_bind]
  rcases h.cases hlaid with ⟨fault, c, hj, hon, htook⟩ | ⟨a, c, hj, hon, htook⟩
  · rw [hon, hj]
    exact ⟨rfl, htook.clean⟩
  · rw [hon, hj]
    refine ⟨?_, htook.clean⟩
    exact congrArg (fun after : List (MeterId × Meter) =>
      Except.ok (after.map fun e => e.2.family)) htook.meters

end Feeder

end BuildTelemetry
