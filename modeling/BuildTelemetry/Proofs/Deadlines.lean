import Mathlib.Data.List.Infix
import BuildTelemetry.Proofs.BackgroundRuns

/-!
# When the background collection ends

A period may be so long that no deadline can be one period away. A task that has collected with this
period before goes on all the same. A task that finds such a period for the first time fails, though
nobody has told it to stop.

1. `taskAfter_eq_stopped_iff`: the collections after which a task fails.
2. `inForce_of_mem`: every collection is made under settings that were in force, and not later than
   now. So periods that leave room for a deadline let no task fail.
3. `task_stops_iff`: a task has stopped exactly if it found that it has to, or if its last
   collection has lost the deadline. `changed_period_stops_task`: an accepted configuration can do
   that.
-/

namespace BuildTelemetry

/-! ## 1. Lost deadlines -/

/-- Deadlines have a limit, and a period may go beyond it. -/
theorem periodAfter?_eq_none_iff {time : Nat} {period : UInt64} :
    periodAfter? time period = none ↔ deadlineLimit * 1000 ≤ time + period.toNat * 1000 := by
  have hlimit : (time + period.toNat * 1000) / 1000 < deadlineLimit ↔
      time + period.toNat * 1000 < deadlineLimit * 1000 := Nat.div_lt_iff_lt_mul (by decide)
  rw [periodAfter?, ite_eq_right_iff]
  simp only [reduceCtorEq, imp_false, hlimit, Nat.not_lt]

/-- The last collection has found a period that is new to the task, and no deadline can be one such
period later. -/
def LosesDeadline (cs : List Collection) : Prop :=
  ∃ before last found, cs = before ++ [last, found] ∧ found.period ≠ last.period ∧
    periodAfter? found.time found.period = none

/-- A task fails exactly at a collection that loses the deadline. The first collection never does:
the task knows of the period from its start. -/
theorem taskAfter_eq_stopped_iff {cs : List Collection} :
    taskAfter cs = .stopped ↔ LosesDeadline cs := by
  obtain rfl | ⟨cs, found, rfl⟩ := cs.eq_nil_or_concat'
  · simp [taskAfter, LosesDeadline]
  rw [taskAfter_concat]
  obtain rfl | ⟨before, last, rfl⟩ := cs.eq_nil_or_concat'
  · have hfirst : promised? ([] ++ [found]) 0 ≠ none := by
      rw [promised?]
      cases hdue : periodAfter? found.time found.period <;> simp [hdue]
    have hshort : ¬LosesDeadline ([] ++ [found]) := by
      rintro ⟨before, last, found', heq, _⟩
      have hlength := congrArg List.length heq
      simp at hlength
    obtain ⟨due, hdue⟩ := Option.ne_none_iff_exists'.mp hfirst
    rw [List.length_nil, hdue]
    exact iff_of_false Task.noConfusion hshort
  · -- the collection before the last one tells which period the task knows of
    have hlast : (before ++ [last, found])[before.length]? = some last := by simp
    have hfound : (before ++ [last, found])[before.length + 1]? = some found := by simp
    have hparts : LosesDeadline (before ++ [last, found]) ↔
        found.period ≠ last.period ∧ periodAfter? found.time found.period = none := by
      constructor
      · rintro ⟨before', last', found', heq, hlost⟩
        obtain ⟨rfl, hpair⟩ := List.append_inj' heq rfl
        cases hpair
        exact hlost
      · exact fun hlost => ⟨before, last, found, rfl, hlost⟩
    rw [List.append_assoc, List.singleton_append, List.length_append, List.length_singleton, hparts,
      promised?, hfound, Nat.add_sub_cancel, hlast]
    cases hdue : periodAfter? found.time found.period with
    | some due => simp [hdue]
    | none =>
      by_cases hperiod : last.period = found.period
      · simp [hdue, hperiod]
      · simp [hdue, hperiod, Ne.symm hperiod]

namespace Background

variable {outcome : CollectionOutcome} {active : ActiveSettings} {b : Background}
  {events : List Event} {clock : Nat}

/-! ## 2. Settings in force -/

/-- Settings that are in force at some time. -/
def InForce (active : ActiveSettings) (events : List Event) (s : Settings) : Prop :=
  ∃ before, before <+: events ∧ (activeAfter active before).load = s

theorem InForce.concat {s : Settings} (h : InForce active events s) (e : Event) :
    InForce active (events ++ [e]) s := by
  obtain ⟨before, hprefix, hload⟩ := h
  exact ⟨before, hprefix.trans (List.prefix_append events [e]), hload⟩

theorem elapsed_le_concat (events : List Event) (e : Event) :
    elapsed events ≤ elapsed (events ++ [e]) := by
  rw [elapsed_concat]
  exact Nat.le_add_right _ _

/-- Every collection was made under settings that were in force, and it is over. -/
theorem inForce_of_mem (hperiod : active.load.config.period ≠ 0) (clock : Nat)
    (outcome : CollectionOutcome) (events : List Event) :
    ∀ c ∈ (run outcome (start active clock) events).collections,
      InForce active events c.settings ∧ c.time ≤ clock + elapsed events := by
  induction events using List.reverseRecOn with
  | nil => exact fun _ hc => nomatch hc
  | append_singleton events e ih =>
    have h : Tracks outcome active clock events (run outcome (start active clock) events) :=
      .run hperiod clock events
    obtain ⟨ds, hds, hall⟩ := h.adds e
    have hcollections : (run outcome (start active clock) (events ++ [e])).collections =
        (run outcome (start active clock) events).collections ++ ds := by
      rw [run_append]
      exact hds
    intro c hc
    rw [hcollections, List.mem_append] at hc
    obtain hc | hc := hc
    · obtain ⟨hforce, htime⟩ := ih c hc
      have hlater := Nat.add_le_add_left (elapsed_le_concat events e) clock
      exact ⟨hforce.concat e, Nat.le_trans htime hlater⟩
    · obtain ⟨_, _, hsettings, _, htime⟩ := hall c hc
      exact ⟨⟨events, List.prefix_append events [e], hsettings.symm⟩, htime⟩

/-! ## 3. The end of a task -/

/-- A task that is told nothing does not find that it has to stop. -/
theorem not_wasTold_of_quiet (h : ∀ e ∈ events, e.told? = none ∧ e.isDrop = false) :
    ¬WasTold events := by
  rintro ⟨before, duration, hbefore, htold⟩
  have hquiet : ∀ e ∈ before, e.told? = none ∧ e.isDrop = false := fun e he =>
    h e (hbefore.subset (List.mem_append_left _ he))
  have hdrops : before.any Event.isDrop = false :=
    List.any_eq_false.mpr fun e he => by simp [(hquiet e he).2]
  have htells : before.filterMap Event.told? = [] :=
    List.filterMap_eq_nil_iff.mpr fun e he => (hquiet e he).1
  rw [toldAfter, hdrops, htells] at htold
  cases htold

/-- A task has stopped exactly if it found that it has to, or if its last collection has lost the
deadline. Settings all of whose periods leave room for a deadline let it run until it is told to
stop. -/
theorem task_stops_iff (hperiod : active.load.config.period ≠ 0) (clock : Nat)
    (outcome : CollectionOutcome) (events : List Event) :
    let after := run outcome (start active clock) events
    (after.isStopped ↔ WasTold events ∨ LosesDeadline after.collections) ∧
    ((∀ s, InForce active events s →
        clock + elapsed events + s.config.period.toNat * 1000 < deadlineLimit * 1000) →
      (after.isStopped ↔ WasTold events)) := by
  intro after
  have h : Tracks outcome active clock events after := .run hperiod clock events
  have hstops : after.isStopped ↔ WasTold events ∨ LosesDeadline after.collections := by
    by_cases hwas : WasTold events
    · exact iff_of_true (h.isStopped hwas) (.inl hwas)
    · rw [isStopped_iff, h.task_eq hwas, taskAfter_eq_stopped_iff]
      exact (or_iff_right hwas).symm
  refine ⟨hstops, fun hroom => hstops.trans (or_iff_left ?_)⟩
  rintro ⟨before, last, found, hcs, _, hlost⟩
  have hmem : found ∈ after.collections := by
    rw [hcs]
    simp
  obtain ⟨hforce, htime⟩ := inForce_of_mem hperiod clock outcome events found hmem
  have hlimit : deadlineLimit * 1000 ≤ found.time + found.period.toNat * 1000 :=
    periodAfter?_eq_none_iff.mp hlost
  have hfound : clock + elapsed events + found.period.toNat * 1000 < deadlineLimit * 1000 :=
    hroom found.settings hforce
  omega

/-- An operator asks for a collection every minute, and the task is told to stop at the end. -/
def shortenedPeriod : List Event :=
  [.pass 300000, .configure { Config.initial with period := 60 }, .pass 300000, .send true]

/-- A task whose period is shortened goes on until it looks. -/
theorem task_stops_iff_of_shortenedPeriod :
    (ActiveSettings.empty none).load.config.period ≠ 0 ∧
    (∀ s, InForce (.empty none) shortenedPeriod s →
      0 + elapsed shortenedPeriod + s.config.period.toNat * 1000 < deadlineLimit * 1000) ∧
    ¬(run (fun _ => .ok []) (start (.empty none) 0) shortenedPeriod).isStopped := by
  have hperiod : (ActiveSettings.empty none).load.config.period ≠ 0 := by decide
  have hroom : ∀ s, InForce (.empty none) shortenedPeriod s →
      0 + elapsed shortenedPeriod + s.config.period.toNat * 1000 < deadlineLimit * 1000 := by
    rintro s ⟨before, hbefore, rfl⟩
    rw [← List.mem_inits] at hbefore
    simp only [shortenedPeriod, List.inits, List.map_cons, List.map_nil, List.mem_cons,
      List.not_mem_nil, or_false] at hbefore
    obtain rfl | rfl | rfl | rfl | rfl := hbefore <;> decide +kernel
  have hwas : ¬WasTold shortenedPeriod := by
    rw [show shortenedPeriod = shortenedPeriod.take 3 ++ [.send true] from rfl, wasTold_concat_iff]
    rintro (hwas | ⟨⟨duration, hpass⟩, _⟩)
    · exact not_wasTold_of_quiet (by simp [shortenedPeriod, Event.told?, Event.isDrop]) hwas
    · cases hpass
  exact ⟨hperiod, hroom, ((task_stops_iff hperiod 0 _ shortenedPeriod).2 hroom).not.mpr hwas⟩

/-- A configuration with the longest period is accepted, and it ends a task that nobody has told to
stop. -/
theorem changed_period_stops_task :
    (Settings.of none longestPeriod).isOk ∧
    ¬WasTold [.pass 500, .configure longestPeriod, .pass 120000] ∧
    (run (fun _ => .ok []) (start (.empty none) 0)
      [.pass 500, .configure longestPeriod, .pass 120000]).isStopped := by
  refine ⟨by decide +kernel, not_wasTold_of_quiet ?_, by decide +kernel⟩
  simp [Event.told?, Event.isDrop]

end Background

end BuildTelemetry
