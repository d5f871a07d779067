import BuildTelemetry.Proofs.Schedule

/-!
# Runs of the background collection

What happens around the task is a list of events: time passes, configurations are put into force,
the task is told to stop or not to, and nobody is left who could tell it. The task looks when time
passes.

1. The events alone tell the time (`elapsed`), the settings in force (`activeAfter`), and what the
   task is going to find when it looks (`toldAfter`).
2. After every run the task is on schedule, and it has stopped only if it found that it has to, or
   if its last collection has settled no time for the next one (`Tracks.run`).
3. States are alike if they differ in texts only, or in what has no effect when the task looks. They
   stay alike whatever collections give (`Alike.run`).
4. So the collections of a run follow from its events (`collections_on_schedule`).
-/

namespace BuildTelemetry

namespace Background

/-! ## 1. Events -/

/-- What happens around the task. -/
inductive Event where
  | pass (duration : Nat)
  | configure (config : Config)
  | send (shouldStop : Bool)
  | drop

namespace Event

def duration : Event → Nat
  | pass duration => duration
  | _ => 0

/-- What the task is told. -/
def told? : Event → Option Bool
  | send shouldStop => some shouldStop
  | _ => none

def isDrop : Event → Bool
  | drop => true
  | _ => false

/-- The settings in force after an event. A configuration that is not valid changes nothing. -/
def activate (e : Event) (active : ActiveSettings) : ActiveSettings :=
  match e with
  | configure config => (active.apply config).toOption.getD active
  | _ => active

end Event

/-- The time that has passed. -/
def elapsed (events : List Event) : Nat := events.foldl (fun time e => time + e.duration) 0

/-- The settings that are in force after some events. -/
def activeAfter (active : ActiveSettings) (events : List Event) : ActiveSettings :=
  events.foldl (fun active e => e.activate active) active

/-- Whether a task that looks now finds that it has to stop: nobody is left who could tell it, or
the last that it was told is to stop. -/
def toldAfter (events : List Event) : Bool :=
  events.any Event.isDrop || (events.filterMap Event.told?).getLast? == some true

/-- The task has looked when it was to find that it has to stop. -/
def WasTold (events : List Event) : Prop :=
  ∃ before duration, before ++ [.pass duration] <+: events ∧ toldAfter before

def step (outcome : CollectionOutcome) (b : Background) : Event → Background
  | .pass duration => b.pass outcome duration
  | .configure config => (b.configure config).toOption.getD b
  | .send shouldStop => b.send shouldStop
  | .drop => b.drop

def run (outcome : CollectionOutcome) (b : Background) (events : List Event) : Background :=
  events.foldl (step outcome) b

/-- The text of a collection with its place, unless it failed. -/
def text? (outcome : CollectionOutcome) (c : Collection × Nat) : Option String :=
  match outcome c.2 with
  | .ok families => some (Exposition.encode (exposed (some c.1.settings) families))
  | .error _ => none

/-- The texts of the collections that did not fail. -/
def texts (outcome : CollectionOutcome) (cs : List Collection) : List String :=
  cs.zipIdx.filterMap (text? outcome)

/-- The text of the last collection that did not fail, empty if there is none. -/
def lastText (outcome : CollectionOutcome) (cs : List Collection) : String :=
  (texts outcome cs).getLast?.getD ""

variable {outcome : CollectionOutcome} {active : ActiveSettings} {b b' : Background}
  {events : List Event} {clock : Nat}

theorem elapsed_concat (events : List Event) (e : Event) :
    elapsed (events ++ [e]) = elapsed events + e.duration := by
  rw [elapsed, List.foldl_append]
  rfl

theorem activeAfter_concat (active : ActiveSettings) (events : List Event) (e : Event) :
    activeAfter active (events ++ [e]) = e.activate (activeAfter active events) := by
  rw [activeAfter, List.foldl_append]
  rfl

/-- Settings that are in force have a period. -/
theorem period_activate_ne_zero (h : active.load.config.period ≠ 0) (e : Event) :
    (e.activate active).load.config.period ≠ 0 := by
  cases e with
  | configure config =>
    rw [Event.activate, ActiveSettings.apply]
    cases hs : Settings.of active.environment config with
    | error _ => exact h
    | ok s =>
      obtain ⟨rfl, hperiod, _⟩ := Settings.of_eq_ok hs
      exact hperiod
  | _ => exact h

theorem step_configure (outcome : CollectionOutcome) (b : Background) (config : Config) :
    b.step outcome (.configure config) =
      { b with active := (Event.configure config).activate b.active } := by
  rw [step, Background.configure, Event.activate]
  cases b.active.apply config <;> rfl

theorem run_append (outcome : CollectionOutcome) (b : Background) (events later : List Event) :
    run outcome b (events ++ later) = run outcome (run outcome b events) later :=
  List.foldl_append

/-- What was told stays until something else is told. -/
theorem toldAfter_concat {e : Event} (htold : e.told? = none) (hdrop : e.isDrop = false) :
    toldAfter (events ++ [e]) = toldAfter events := by
  simp [toldAfter, htold, hdrop]

theorem toldAfter_send (events : List Event) (shouldStop : Bool) :
    toldAfter (events ++ [.send shouldStop]) = (events.any Event.isDrop || shouldStop) := by
  simp [toldAfter, Event.isDrop, Event.told?]

theorem toldAfter_drop (events : List Event) : toldAfter (events ++ [.drop]) = true := by
  simp [toldAfter, Event.isDrop]

/-- The task finds that it has to stop when it looks for the first time after it was told. -/
theorem wasTold_concat_iff {e : Event} :
    WasTold (events ++ [e]) ↔
      WasTold events ∨ (∃ duration, e = .pass duration) ∧ toldAfter events := by
  constructor
  · rintro ⟨before, duration, hprefix, htold⟩
    obtain heq | hprefix := List.prefix_concat_iff.mp hprefix
    · obtain ⟨rfl, he⟩ := List.append_inj' heq rfl
      exact .inr ⟨⟨duration, (List.singleton_inj.mp he).symm⟩, htold⟩
    · exact .inl ⟨before, duration, hprefix, htold⟩
  · rintro (⟨before, duration, hprefix, htold⟩ | ⟨⟨duration, rfl⟩, htold⟩)
    · exact ⟨before, duration, hprefix.trans (List.prefix_append _ _), htold⟩
    · exact ⟨events, duration, List.prefix_refl _, htold⟩

/-! ## 2. Runs on schedule -/

theorem lastText_concat (outcome : CollectionOutcome) (cs : List Collection) (c : Collection) :
    lastText outcome (cs ++ [c]) = (text? outcome (c, cs.length)).getD (lastText outcome cs) := by
  rw [lastText, lastText, texts, texts, List.zipIdx_append, List.filterMap_append]
  cases htext : text? outcome (c, cs.length) <;> simp [htext]

/-- A collection that does not fail replaces the text. -/
theorem exposition_collectAt (h : b.exposition = lastText outcome b.collections) (due : Nat)
    (known : UInt64) :
    (b.collectAt outcome due known).exposition =
      lastText outcome (b.collectAt outcome due known).collections := by
  show _ = lastText outcome (b.collections ++ [_])
  rw [lastText_concat, ← h, collectAt, text?]
  cases outcome b.collections.length <;> rfl

theorem exposition_pass (h : b.exposition = lastText outcome b.collections) (duration : Nat) :
    (b.pass outcome duration).exposition =
      lastText outcome (b.pass outcome duration).collections := by
  refine runBefore_induction (P := fun b => b.exposition = lastText outcome b.collections)
    (fun b due known _ _ h => exposition_collectAt h due known) ?_
  obtain ⟨_, hlook⟩ | ⟨_, _, hlook⟩ | ⟨_, _, due, known, _, _, hlook⟩ |
    ⟨_, _, _, _, _, _, hlook⟩ := look_cases outcome b <;> rw [hlook]
  · exact h
  · exact h
  · exact exposition_collectAt h due known
  · exact h

/-- After some events a task is on schedule, and the events tell the rest of its state. -/
structure Tracks (outcome : CollectionOutcome) (active : ActiveSettings) (clock : Nat)
    (events : List Event) (b : Background) : Prop where
  schedule : b.OnSchedule clock
  clock_eq : b.clock = clock + elapsed events
  active_eq : b.active = activeAfter active events
  hasSender_eq : b.hasSender = !events.any Event.isDrop
  isTold_eq : ¬b.isStopped → b.isTold = toldAfter events
  isStopped : WasTold events → b.isStopped
  task_eq : ¬WasTold events → b.task = taskAfter b.collections
  task_ne_created : (∃ duration, .pass duration ∈ events) → b.task ≠ .created
  exposition_eq : b.exposition = lastText outcome b.collections

namespace Tracks

theorem start (hperiod : active.load.config.period ≠ 0) (clock : Nat) :
    Tracks outcome active clock [] (Background.start active clock) where
  schedule := .start hperiod clock
  clock_eq := rfl
  active_eq := rfl
  hasSender_eq := rfl
  isTold_eq := fun _ => rfl
  isStopped := by
    rintro ⟨before, duration, hprefix, _⟩
    exact absurd (List.prefix_nil.mp hprefix) (by simp)
  task_eq := fun _ => rfl
  task_ne_created := fun ⟨_, h⟩ => nomatch h
  exposition_eq := rfl

/-- What others do changes neither the clock nor the task. -/
theorem others {e : Event} (h : Tracks outcome active clock events b)
    (hpass : ∀ duration, e ≠ .pass duration) {unseen : Option Bool} {hasSender : Bool}
    (hperiod : (e.activate b.active).load.config.period ≠ 0)
    (hsender : hasSender = (b.hasSender && !e.isDrop))
    (htold : ¬b.isStopped → (unseen == some true || !hasSender) = toldAfter (events ++ [e])) :
    Tracks outcome active clock (events ++ [e])
      { b with active := e.activate b.active, unseen, hasSender } where
  schedule := (h.schedule.configure hperiod).tell unseen hasSender
  clock_eq := by
    have hduration : e.duration = 0 := by
      cases e with
      | pass duration => exact absurd rfl (hpass duration)
      | _ => rfl
    rw [elapsed_concat, hduration]
    exact h.clock_eq
  active_eq := by
    rw [activeAfter_concat, ← h.active_eq]
  hasSender_eq := by
    rw [hsender, h.hasSender_eq, List.any_append]
    simp
  isTold_eq := htold
  isStopped := fun hwas => h.isStopped <| (wasTold_concat_iff.mp hwas).resolve_right
    fun ⟨⟨duration, he⟩, _⟩ => hpass duration he
  task_eq := fun hwas => h.task_eq fun hbefore => hwas (wasTold_concat_iff.mpr (.inl hbefore))
  task_ne_created := by
    rintro ⟨duration, hmem⟩
    refine h.task_ne_created ⟨duration, (List.mem_append.mp hmem).resolve_right fun he => ?_⟩
    exact hpass duration (List.mem_singleton.mp he).symm
  exposition_eq := h.exposition_eq

theorem isTold_iff (h : Tracks outcome active clock events b) :
    (b.isStopped ∨ b.isTold) ↔ (b.isStopped ∨ toldAfter events) := by
  by_cases hb : b.isStopped
  · exact iff_of_true (.inl hb) (.inl hb)
  · rw [h.isTold_eq hb]

theorem pass (h : Tracks outcome active clock events b) (duration : Nat) :
    Tracks outcome active clock (events ++ [.pass duration]) (b.pass outcome duration) := by
  have hadds : Adds (b.clock + duration) b ((b.look outcome).runBefore outcome _) :=
    .runBefore h.schedule (Nat.le_add_right b.clock duration)
  have hsender : (b.pass outcome duration).hasSender = b.hasSender := hadds.hasSender_eq
  refine ⟨h.schedule.pass duration, ?_, ?_, ?_, fun hruns => ?_, fun hwas => ?_, fun hwas => ?_,
    fun _ => task_pass_ne_created outcome b duration, exposition_pass h.exposition_eq duration⟩
  · rw [elapsed_concat, ← Nat.add_assoc, ← h.clock_eq]
    rfl
  · rw [activeAfter_concat]
    exact hadds.active_eq.trans h.active_eq
  · rw [hsender, h.hasSender_eq, List.any_append]
    simp [Event.isDrop]
  · have hb : ¬(b.isStopped ∨ b.isTold) := by
      intro hb
      rw [pass_of_isTold hb] at hruns
      exact hruns rfl
    obtain ⟨hruns, hnot⟩ := not_or.mp hb
    rw [isTold, unseen_pass hruns hnot, hsender, toldAfter_concat rfl rfl, ← h.isTold_eq hruns]
    simp only [isTold, Bool.or_eq_true, not_or] at hnot ⊢
    simp [hnot]
  · have hb : b.isStopped ∨ b.isTold := by
      obtain hwas | ⟨_, hnow⟩ := wasTold_concat_iff.mp hwas
      · exact .inl (h.isStopped hwas)
      · exact h.isTold_iff.mpr (.inr hnow)
    rw [pass_of_isTold hb]
    rfl
  · obtain ⟨hbefore, hnow⟩ := not_or.mp (wasTold_concat_iff.not.mp hwas)
    have htask := h.task_eq hbefore
    by_cases hb : b.isStopped
    · rw [pass_of_isTold (.inl hb), ← htask]
      exact (isStopped_iff.mp hb).symm
    · refine h.schedule.task_pass htask ?_ duration
      rw [h.isTold_eq hb]
      exact fun htold => hnow ⟨⟨duration, rfl⟩, htold⟩

theorem step (h : Tracks outcome active clock events b) (e : Event) :
    Tracks outcome active clock (events ++ [e]) (b.step outcome e) := by
  have hperiod := period_activate_ne_zero h.schedule.period_ne_zero e
  cases e with
  | pass duration => exact h.pass duration
  | configure config =>
    rw [step_configure]
    refine h.others (fun _ => Event.noConfusion) hperiod (by simp [Event.isDrop]) fun hruns => ?_
    rw [toldAfter_concat rfl rfl]
    exact h.isTold_eq hruns
  | send shouldStop =>
    have hsender := h.hasSender_eq
    rw [Background.step, Background.send]
    split
    · next hleft =>
      refine h.others (fun _ => Event.noConfusion) hperiod (by simp [Event.isDrop]) fun _ => ?_
      rw [toldAfter_send, ← Bool.not_not (events.any _), ← hsender, hleft]
      cases shouldStop <;> rfl
    · next hleft =>
      refine h.others (fun _ => Event.noConfusion) hperiod (by simp [Event.isDrop]) fun _ => ?_
      rw [toldAfter_send, ← Bool.not_not (events.any _), ← hsender]
      simp [hleft]
  | drop =>
    refine h.others (fun _ => Event.noConfusion) hperiod (by simp [Event.isDrop]) fun hruns => ?_
    rw [toldAfter_drop, Bool.not_false, Bool.or_true]

theorem run (hperiod : active.load.config.period ≠ 0) (clock : Nat) (events : List Event) :
    Tracks outcome active clock events (run outcome (Background.start active clock) events) := by
  induction events using List.reverseRecOn with
  | nil => exact start hperiod clock
  | append_singleton events e ih =>
    rw [run_append]
    exact ih.step e

end Tracks

/-- A task that has stopped has made all its collections. -/
theorem collections_run_of_isStopped (h : b.isStopped) (outcome : CollectionOutcome)
    (events : List Event) : (run outcome b events).collections = b.collections := by
  induction events generalizing b with
  | nil => rfl
  | cons e events ih =>
    have hstep : (b.step outcome e).isStopped ∧
        (b.step outcome e).collections = b.collections := by
      cases e with
      | pass duration =>
        rw [step, pass_of_isTold (.inl h)]
        exact ⟨rfl, rfl⟩
      | configure config =>
        rw [step_configure]
        exact ⟨h, rfl⟩
      | send shouldStop =>
        rw [step, Background.send]
        split <;> exact ⟨h, rfl⟩
      | drop => exact ⟨h, rfl⟩
    exact (ih hstep.1).trans hstep.2

/-! ## 3. What has no effect -/

/-- The states differ at most in texts, and in what has no effect when the task looks. -/
structure Alike (b b' : Background) : Prop where
  clock_eq : b'.clock = b.clock
  active_eq : b'.active = b.active
  task_eq : b'.task = b.task
  isTold_eq : b'.isTold = b.isTold
  hasSender_eq : b'.hasSender = b.hasSender
  collections_eq : b'.collections = b.collections

namespace Alike

theorem refl (b : Background) : Alike b b := ⟨rfl, rfl, rfl, rfl, rfl, rfl⟩

theorem period_eq (h : Alike b b') : b'.period = b.period := by
  rw [period, h.active_eq]
  rfl

theorem due?_eq (h : Alike b b') : b'.due? = b.due? := by
  rw [due?, due?, h.task_eq, h.clock_eq, h.period_eq]

theorem collectAt (h : Alike b b') (outcome outcome' : CollectionOutcome) (due : Nat)
    (known : UInt64) : Alike (b.collectAt outcome due known) (b'.collectAt outcome' due known) where
  clock_eq := h.clock_eq
  active_eq := h.active_eq
  task_eq := by
    show nextTask due known b'.period = nextTask due known b.period
    rw [h.period_eq]
  isTold_eq := h.isTold_eq
  hasSender_eq := h.hasSender_eq
  collections_eq := by
    show b'.collections ++ [⟨due, b'.active.load⟩] = b.collections ++ [⟨due, b.active.load⟩]
    rw [h.collections_eq, h.active_eq]

/-- What the task was told last decides, whatever it was told before. -/
theorem tell (h : Alike b b') (unseen : Option Bool) :
    Alike { b with unseen } { b' with unseen } where
  clock_eq := h.clock_eq
  active_eq := h.active_eq
  task_eq := h.task_eq
  isTold_eq := by
    show (unseen == some true || !b'.hasSender) = (unseen == some true || !b.hasSender)
    rw [h.hasSender_eq]
  hasSender_eq := h.hasSender_eq
  collections_eq := h.collections_eq

theorem goOn (h : Alike b b') (task : Task) : Alike { b with task } { b' with task } :=
  ⟨h.clock_eq, h.active_eq, rfl, h.isTold_eq, h.hasSender_eq, h.collections_eq⟩

theorem look (h : Alike b b') (outcome outcome' : CollectionOutcome) :
    Alike (b.look outcome) (b'.look outcome') := by
  rw [Background.look, Background.look, h.due?_eq, h.isTold_eq]
  cases b.due? with
  | none => exact h
  | some next =>
    obtain ⟨due, known⟩ := next
    have hseen := (h.goOn (.waiting due known)).tell none
    dsimp only
    split
    · exact h.goOn .stopped
    · by_cases hlate : due ≤ b.clock
      · rw [if_pos hlate, if_pos (h.clock_eq ▸ hlate)]
        exact hseen.collectAt outcome outcome' due known
      · rw [if_neg hlate, if_neg (h.clock_eq ▸ hlate)]
        exact hseen

theorem runBefore (h : Alike b b') (outcome outcome' : CollectionOutcome) (limit : Nat) :
    Alike (b.runBefore outcome limit) (b'.runBefore outcome' limit) := by
  fun_induction Background.runBefore outcome limit b generalizing b' with
  | case1 b due known htask hdue ih =>
    rw [runBefore_of_lt (h.task_eq.trans htask) hdue]
    exact ih (h.collectAt outcome outcome' due known)
  | case2 b due known htask hdue =>
    rw [runBefore_of_le fun due' known' htask' => ?_]
    · exact h
    · rw [h.task_eq, htask] at htask'
      cases htask'
      exact Nat.le_of_not_lt hdue
  | case3 b hwaits =>
    rw [runBefore_of_le fun due known htask =>
      absurd (h.task_eq.symm.trans htask) (hwaits due known)]
    exact h

theorem step (h : Alike b b') (outcome outcome' : CollectionOutcome) (e : Event) :
    Alike (b.step outcome e) (b'.step outcome' e) := by
  cases e with
  | pass duration =>
    have hpass := (h.look outcome outcome').runBefore outcome outcome' (b.clock + duration)
    rw [Background.step, Background.step, Background.pass, Background.pass, h.clock_eq]
    exact ⟨rfl, hpass.active_eq, hpass.task_eq, hpass.isTold_eq, hpass.hasSender_eq,
      hpass.collections_eq⟩
  | configure config =>
    rw [step_configure, step_configure, h.active_eq]
    exact ⟨h.clock_eq, rfl, h.task_eq, h.isTold_eq, h.hasSender_eq, h.collections_eq⟩
  | send shouldStop =>
    rw [Background.step, Background.step, Background.send, Background.send]
    by_cases hsender : b.hasSender
    · rw [if_pos hsender, if_pos (h.hasSender_eq ▸ hsender)]
      exact h.tell (some shouldStop)
    · rw [if_neg hsender, if_neg (h.hasSender_eq ▸ hsender)]
      exact h
  | drop =>
    exact ⟨h.clock_eq, h.active_eq, h.task_eq, by simp [isTold, Background.step, Background.drop],
      rfl, h.collections_eq⟩

theorem run (h : Alike b b') (outcome outcome' : CollectionOutcome) (events : List Event) :
    Alike (run outcome b events) (run outcome' b' events) := by
  induction events generalizing b b' with
  | nil => exact h
  | cons e events ih => exact ih (h.step outcome outcome' e)

/-- Telling a task not to stop has no effect if it does not have to stop. -/
theorem send_false (h : ¬b.isTold) : Alike b (b.send false) := by
  rw [send]
  split
  · next hsender =>
    refine ⟨rfl, rfl, rfl, ?_, rfl, rfl⟩
    rw [eq_false_of_ne_true h, isTold, hsender]
    rfl
  · exact refl b

end Alike

/-! ## 4. The law -/

namespace Tracks

/-- A task that was not told to stop waits for the next collection. -/
theorem lt_length (h : Tracks outcome active clock events b) (hwas : ¬WasTold events) {k due : Nat}
    (hdue : promised? b.collections k = some due) (hlt : due < b.clock) :
    k + 1 < b.collections.length := by
  refine Nat.lt_of_le_of_ne (lt_length_of_promised? hdue) fun hlast => ?_
  have hk : b.collections.length - 1 = k := Nat.sub_eq_of_eq_add hlast.symm
  obtain ⟨known, htask⟩ := taskAfter_of_due (hk ▸ hdue)
  exact Nat.not_le_of_lt hlt (h.schedule.clock_le due known ((h.task_eq hwas).trans htask))

/-- What an event adds to the collections. -/
theorem adds (h : Tracks outcome active clock events b) (e : Event) :
    ∃ ds, (b.step outcome e).collections = b.collections ++ ds ∧
      ∀ c ∈ ds, (∃ duration, e = .pass duration) ∧ ¬toldAfter events ∧
        c.settings = (activeAfter active events).load ∧
        clock + elapsed events ≤ c.time ∧ c.time ≤ clock + elapsed (events ++ [e]) := by
  by_cases hadded : (b.step outcome e).collections = b.collections
  · exact ⟨[], by rw [hadded, List.append_nil], fun _ hc => nomatch hc⟩
  cases e with
  | pass duration =>
    have hruns : ¬(b.isStopped ∨ b.isTold) := by
      intro hb
      rw [Background.step, pass_of_isTold hb] at hadded
      exact hadded rfl
    obtain ⟨_, _, _, ds, hds, hall⟩ : Adds (b.clock + duration) b _ :=
      .runBefore h.schedule (Nat.le_add_right b.clock duration)
    refine ⟨ds, hds, fun c hc => ?_⟩
    obtain ⟨hsettings, hge, hle⟩ := hall c hc
    rw [elapsed_concat, ← Nat.add_assoc, ← h.clock_eq, ← h.active_eq]
    exact ⟨⟨duration, rfl⟩, fun htold => hruns (h.isTold_iff.mpr (.inr htold)), hsettings, hge, hle⟩
  | configure config =>
    rw [step_configure] at hadded
    exact absurd rfl hadded
  | send shouldStop =>
    rw [Background.step, send] at hadded
    split at hadded <;> exact absurd rfl hadded
  | drop => exact absurd rfl hadded

end Tracks

/-- The collections of a run follow from its events. The first is at the start, and each later one
is when it is due, until the task finds that it has to stop: none is left out, and after that there
are no more. Each is made under the settings in force. Being told not to stop changes nothing, and
neither do failures. The text is the one of the last collection that did not fail. -/
theorem collections_on_schedule (hperiod : active.load.config.period ≠ 0) (clock : Nat)
    (outcome : CollectionOutcome) (events : List Event) :
    let after := run outcome (start active clock)
    let cs := (after events).collections
    (∀ c, cs[0]? = some c → c.time = clock) ∧
    (∀ k due, promised? cs k = some due → ∀ c, cs[k + 1]? = some c → c.time = due) ∧
    (¬WasTold events → ((∃ duration, .pass duration ∈ events) → cs ≠ []) ∧
      ∀ k due, promised? cs k = some due → due < clock + elapsed events → k + 1 < cs.length) ∧
    (∀ e, ∃ ds, (after (events ++ [e])).collections = cs ++ ds ∧
      ∀ c ∈ ds, (∃ duration, e = .pass duration) ∧ ¬toldAfter events ∧
        c.settings = (activeAfter active events).load ∧
        clock + elapsed events ≤ c.time ∧ c.time ≤ clock + elapsed (events ++ [e])) ∧
    (toldAfter events → ∀ duration later,
      (after (events ++ .pass duration :: later)).collections = cs) ∧
    (¬toldAfter events → ∀ later, (after (events ++ .send false :: later)).collections =
      (after (events ++ later)).collections) ∧
    (∀ outcome', (run outcome' (start active clock) events).collections = cs) ∧
    (after events).exposition = lastText outcome cs := by
  intro after cs
  have h : Tracks outcome active clock events (after events) := .run hperiod clock events
  refine ⟨h.schedule.first, fun k due hdue c hc => ?next, fun hwas => ⟨fun hpassed hnil => ?new,
    fun k due hdue hlt => ?none_left_out⟩, fun e => ?added, fun htold duration later => ?told,
    fun htold later => ?sent, fun outcome' => ?failures, h.exposition_eq⟩
  case next => exact Option.some.inj ((h.schedule.next k c hc).symm.trans hdue)
  case new =>
    refine h.task_ne_created hpassed ?_
    rw [h.task_eq hwas]
    show taskAfter cs = .created
    rw [hnil]
    rfl
  case none_left_out => exact h.lt_length hwas hdue (h.clock_eq ▸ hlt)
  case added =>
    show ∃ ds, (run outcome _ (events ++ [e])).collections = _ ∧ _
    rw [run_append]
    exact h.adds e
  case told =>
    show (run outcome _ (events ++ .pass duration :: later)).collections = _
    have hstep : (after events).pass outcome duration = _ :=
      pass_of_isTold (h.isTold_iff.mpr (.inr htold)) duration
    rw [run_append]
    refine (collections_run_of_isStopped ?_ outcome later).trans ?_
    · rw [step, hstep]
      rfl
    · rw [step, hstep]
  case sent =>
    show (run outcome _ (events ++ .send false :: later)).collections =
      (run outcome _ (events ++ later)).collections
    rw [run_append, run_append]
    by_cases hstopped : (after events).isStopped
    · have hrun := collections_run_of_isStopped hstopped outcome
      exact (hrun (.send false :: later)).trans (hrun later).symm
    · have hnot : ¬(after events).isTold := by
        rw [h.isTold_eq hstopped]
        exact htold
      exact ((Alike.send_false hnot).run outcome outcome later).collections_eq
  case failures => exact ((Alike.refl _).run outcome outcome' events).collections_eq

/-- A task that is told to stop makes no more collections. -/
theorem collections_on_schedule_of_initial :
    (ActiveSettings.empty none).load.config.period ≠ 0 ∧
    toldAfter [.pass 300000, .send true] ∧
    (run (fun _ => .ok []) (start (.empty none) 1000) [.pass 300000, .send true]).collections.map
      Collection.time = [1000, 121000, 241000] ∧
    (run (fun _ => .ok []) (start (.empty none) 1000)
      [.pass 300000, .send true, .pass 60000, .send false, .pass 300000]).collections =
    (run (fun _ => .ok []) (start (.empty none) 1000) [.pass 300000, .send true]).collections := by
  have hperiod : (ActiveSettings.empty none).load.config.period ≠ 0 := by decide
  have htold : toldAfter [.pass 300000, .send true] := by decide
  obtain ⟨_, _, _, _, hstops, _⟩ := collections_on_schedule hperiod 1000 (fun _ => .ok [])
    [.pass 300000, .send true]
  exact ⟨hperiod, htold, by decide +kernel, hstops htold 60000 [.send false, .pass 300000]⟩

/-- The longest period that can be configured. -/
def longestPeriod : Config := { Config.initial with period := 18446744073709551615 }

/-- No deadline can be as late as the longest period asks for, so a collection comes before. -/
theorem early_collection_of_longestPeriod :
    let cs := (run (fun _ => .ok []) (start (.empty none) 0)
      [.configure longestPeriod, .pass 500, .pass 977616000000]).collections
    (cs[0]?.map fun c => c.time + c.period.toNat * 1000) = some 18446744073709551615000 ∧
      cs[1]?.map Collection.time = some 946080000000 := by
  decide +kernel

end Background

end BuildTelemetry
