import Mathlib.Data.List.Induction
import Mathlib.Data.List.Basic
import BuildTelemetry.Exporter.Schedule

/-!
# The schedule of the background collection

A collection settles when the next one is due. That is what the task keeps to, whatever is
configured meanwhile and whatever it is told, until it finds that it has to stop.

1. `promised?` reads off the collections when the next one is due, and `taskAfter` what the task
   does next (`nextTask_eq`).
2. A task is on schedule if the first collection was at its start, each later one was due, and it
   waits for the next one (`Background.OnSchedule`). A look at what it was told and the collections
   that follow keep it so (`OnSchedule.look`, `OnSchedule.runBefore`, `OnSchedule.pass`).
3. A pass adds the collections that fall into it, under the settings in force (`Adds.runBefore`),
   and a task that has to stop adds none (`pass_of_isTold`).
-/

namespace BuildTelemetry

/-! ## 1. When the next collection is due -/

/-- The period in force right after a collection. -/
def Collection.period (c : Collection) : UInt64 := c.settings.config.period

/-- When the collection after the `k`-th one is due: one period after it, or in the far future if no
deadline can be that late and the period is the one of the collection before. -/
def promised? (cs : List Collection) (k : Nat) : Option Nat := do
  let c ← cs[k]?
  match periodAfter? c.time c.period with
  | some due => some due
  | none =>
    if cs[k - 1]?.map Collection.period = some c.period then some (c.time + farFuture) else none

/-- What a task does next that has not found that it has to stop. -/
def taskAfter (cs : List Collection) : Task :=
  match cs.getLast? with
  | none => .created
  | some last =>
    match promised? cs (cs.length - 1) with
    | some due => .waiting due last.period
    | none => .stopped

variable {cs : List Collection} {c : Collection}

theorem lt_length_of_promised? {k due : Nat} (h : promised? cs k = some due) : k < cs.length := by
  obtain ⟨c, hc, _⟩ := Option.bind_eq_some_iff.mp h
  exact (List.getElem?_eq_some_iff.mp hc).1

/-- Later collections do not change when one was due. -/
theorem promised?_append {k : Nat} (hk : k < cs.length) (ds : List Collection) :
    promised? (cs ++ ds) k = promised? cs k := by
  have hbefore : k - 1 < cs.length := Nat.lt_of_le_of_lt (Nat.sub_le k 1) hk
  rw [promised?, promised?, List.getElem?_append_left hk, List.getElem?_append_left hbefore]

/-- A collection is due at the time of an earlier one or later. -/
theorem le_of_promised? {k due : Nat} (h : promised? cs k = some due) (hc : cs[k]? = some c) :
    c.time ≤ due := by
  rw [promised?, hc] at h
  simp only [Option.bind_eq_bind, Option.bind_some, periodAfter?] at h
  grind

theorem taskAfter_concat (cs : List Collection) (c : Collection) :
    taskAfter (cs ++ [c]) = match promised? (cs ++ [c]) cs.length with
      | some due => .waiting due c.period
      | none => .stopped := by
  rw [taskAfter, List.getLast?_concat, List.length_append, List.length_singleton,
    Nat.add_sub_cancel]

/-- If the last collection has settled a time, the task waits for it. -/
theorem taskAfter_of_due {due : Nat} (h : promised? cs (cs.length - 1) = some due) :
    ∃ known, taskAfter cs = .waiting due known := by
  have hlt := lt_length_of_promised? h
  rw [taskAfter, List.getLast?_eq_getElem?, List.getElem?_eq_getElem hlt, h]
  exact ⟨_, rfl⟩

/-- The period that a task knows of is the one of its last collection. -/
theorem due_of_taskAfter {due : Nat} {known : UInt64}
    (h : taskAfter cs = .waiting due known) :
    promised? cs (cs.length - 1) = some due ∧
      cs[cs.length - 1]?.map Collection.period = some known := by
  rw [taskAfter] at h
  split at h
  · cases h
  · next last hlast =>
    split at h
    · next hdue =>
      cases h
      rw [← List.getLast?_eq_getElem?, hlast]
      exact ⟨hdue, rfl⟩
    · cases h

/-- After a collection the task does what the collection has settled. -/
theorem nextTask_eq {known : UInt64} (hperiod : c.period ≠ 0)
    (hknown : (cs ++ [c])[cs.length - 1]?.map Collection.period = some known) :
    nextTask c.time known c.period = taskAfter (cs ++ [c]) := by
  have hc : (cs ++ [c])[cs.length]? = some c := List.getElem?_concat_length
  rw [taskAfter_concat, nextTask, if_neg hperiod, promised?, hc, hknown]
  simp only [Option.bind_eq_bind, Option.bind_some, Option.some.injEq]
  cases periodAfter? c.time c.period with
  | some due => rfl
  | none =>
    dsimp only
    split <;> rfl

namespace Background

variable {b b' : Background} {outcome : CollectionOutcome} {origin due limit : Nat} {known : UInt64}

/-! ## 2. Tasks on schedule -/

theorem isStopped_iff : b.isStopped ↔ b.task = .stopped := beq_iff_eq

theorem due?_eq_none_iff : b.due? = none ↔ b.isStopped := by
  rw [isStopped_iff, due?]
  cases b.task <;> simp

/-- A look finds that the task has stopped, that it has to stop, that a collection is due, or that
none is due yet. -/
theorem look_cases (outcome : CollectionOutcome) (b : Background) :
    (b.isStopped ∧ b.look outcome = b) ∨
    (¬b.isStopped ∧ b.isTold ∧ b.look outcome = { b with task := .stopped }) ∨
    (¬b.isStopped ∧ ¬b.isTold ∧ ∃ due known, b.due? = some (due, known) ∧ due ≤ b.clock ∧
      b.look outcome = { b.collectAt outcome due known with unseen := none }) ∨
    (¬b.isStopped ∧ ¬b.isTold ∧ ∃ due known, b.task = .waiting due known ∧ b.clock < due ∧
      b.look outcome = { b with unseen := none }) := by
  cases hdue : b.due? with
  | none =>
    refine .inl ⟨due?_eq_none_iff.mp hdue, ?_⟩
    rw [look, hdue]
  | some next =>
    obtain ⟨due, known⟩ := next
    have hruns : ¬b.isStopped := by
      rw [← due?_eq_none_iff, hdue]
      exact Option.some_ne_none _
    have hlook : b.look outcome = if b.isTold then { b with task := .stopped } else
        if due ≤ b.clock then { b.collectAt outcome due known with unseen := none }
        else { b with task := .waiting due known, unseen := none } := by
      rw [look, hdue]
      rfl
    rw [hlook]
    by_cases htold : b.isTold
    · exact .inr (.inl ⟨hruns, htold, if_pos htold⟩)
    rw [if_neg htold]
    by_cases hlate : due ≤ b.clock
    · exact .inr (.inr (.inl ⟨hruns, htold, due, known, rfl, hlate, if_pos hlate⟩))
    rw [if_neg hlate]
    -- A task that was just created is never early, so this one waits already.
    have htask : b.task = .waiting due known := by
      unfold due? at hdue
      cases htask : b.task <;> rw [htask] at hdue <;> grind
    refine .inr (.inr (.inr ⟨hruns, htold, due, known, htask, Nat.lt_of_not_le hlate, ?_⟩))
    rw [← htask]

/-- What each collection keeps that is due before the limit, all of them keep. -/
theorem runBefore_induction {P : Background → Prop}
    (hstep : ∀ b due known, b.task = .waiting due known → due < limit → P b →
      P (b.collectAt outcome due known)) (h : P b) : P (b.runBefore outcome limit) := by
  fun_induction runBefore outcome limit b with
  | case1 b due known htask hdue ih => exact ih (hstep b due known htask hdue h)
  | case2 => exact h
  | case3 => exact h

/-- No collection is left that is due before the limit. -/
theorem le_of_task_runBefore (h : (b.runBefore outcome limit).task = .waiting due known) :
    limit ≤ due := by
  fun_induction runBefore outcome limit b with
  | case1 b due' known' htask hdue ih => exact ih h
  | case2 b due' known' htask hdue =>
    rw [htask] at h
    cases h
    exact Nat.le_of_not_lt hdue
  | case3 b hwaits => exact absurd h (hwaits due known)

theorem runBefore_of_lt (htask : b.task = .waiting due known) (hdue : due < limit) :
    b.runBefore outcome limit = (b.collectAt outcome due known).runBefore outcome limit := by
  rw [runBefore]
  split
  · next htask' =>
    rw [htask] at htask'
    cases htask'
    exact dif_pos hdue
  · next hwaits => exact absurd htask (hwaits due known)

theorem runBefore_of_le (h : ∀ due known, b.task = .waiting due known → limit ≤ due) :
    b.runBefore outcome limit = b := by
  rw [runBefore]
  split
  · next htask => exact dif_neg (Nat.not_lt_of_le (h _ _ htask))
  · rfl

theorem runBefore_of_isStopped (h : b.isStopped) : b.runBefore outcome limit = b := by
  refine runBefore_of_le fun due known htask => ?_
  rw [isStopped_iff.mp h] at htask
  cases htask

theorem due?_of_waiting (h : b.task = .waiting due known) : b.due? = some (due, known) := by
  rw [due?, h]

theorem task_collectAt_ne_created (outcome : CollectionOutcome) (due : Nat) (known : UInt64)
    (b : Background) : (b.collectAt outcome due known).task ≠ .created := by
  show nextTask due known b.period ≠ .created
  unfold nextTask
  grind

/-- A task that has looked is not new any more. -/
theorem task_look_ne_created (outcome : CollectionOutcome) (b : Background) :
    (b.look outcome).task ≠ .created := by
  obtain ⟨hstopped, hlook⟩ | ⟨_, _, hlook⟩ | ⟨_, _, due, known, _, _, hlook⟩ |
    ⟨_, _, due, known, htask, _, hlook⟩ := look_cases outcome b <;> rw [hlook]
  · rw [isStopped_iff.mp hstopped]
    exact Task.noConfusion
  · exact Task.noConfusion
  · exact task_collectAt_ne_created outcome due known b
  · show b.task ≠ .created
    rw [htask]
    exact Task.noConfusion

theorem task_pass_ne_created (outcome : CollectionOutcome) (b : Background) (duration : Nat) :
    (b.pass outcome duration).task ≠ .created :=
  runBefore_induction (P := fun b => b.task ≠ .created)
    (fun _ _ _ _ _ _ => task_collectAt_ne_created _ _ _ _) (task_look_ne_created outcome b)

/-- The first collection was at the start and each later one was due, and the task does what the
last one has settled or has stopped. -/
structure OnSchedule (origin : Nat) (b : Background) : Prop where
  period_ne_zero : b.period ≠ 0
  task_eq : ¬b.isStopped → b.task = taskAfter b.collections
  clock_eq : b.task = .created → b.clock = origin
  clock_le : ∀ due known, b.task = .waiting due known → b.clock ≤ due
  first : ∀ c, b.collections[0]? = some c → c.time = origin
  next : ∀ k c, b.collections[k + 1]? = some c → promised? b.collections k = some c.time

namespace OnSchedule

theorem start {active : ActiveSettings} (hperiod : active.load.config.period ≠ 0) (clock : Nat) :
    OnSchedule clock (Background.start active clock) where
  period_ne_zero := hperiod
  task_eq := fun _ => rfl
  clock_eq := fun _ => rfl
  clock_le := fun _ _ h => nomatch h
  first := fun _ h => nomatch h
  next := fun _ _ h => nomatch h

theorem stop (h : b.OnSchedule origin) : OnSchedule origin { b with task := .stopped } :=
  ⟨h.period_ne_zero, fun hruns => absurd rfl hruns, Task.noConfusion, fun _ _ => Task.noConfusion,
    h.first, h.next⟩

theorem tell (h : b.OnSchedule origin) (unseen : Option Bool) (hasSender : Bool) :
    OnSchedule origin { b with unseen, hasSender } :=
  ⟨h.period_ne_zero, h.task_eq, h.clock_eq, h.clock_le, h.first, h.next⟩

theorem configure (h : b.OnSchedule origin) {active : ActiveSettings}
    (hperiod : active.load.config.period ≠ 0) : OnSchedule origin { b with active } :=
  ⟨hperiod, h.task_eq, h.clock_eq, h.clock_le, h.first, h.next⟩

/-- Time may pass up to the next collection. -/
theorem advance (h : b.OnSchedule origin) {clock : Nat} (hnew : b.task ≠ .created)
    (hle : ∀ due known, b.task = .waiting due known → clock ≤ due) :
    OnSchedule origin { b with clock } :=
  ⟨h.period_ne_zero, h.task_eq, fun htask => absurd htask hnew, hle, h.first, h.next⟩

/-- The next collection is not in the past. It was settled by the one before it, unless it is the
first. -/
theorem due_cases (h : b.OnSchedule origin) (hdue : b.due? = some (due, known)) :
    b.clock ≤ due ∧
    ((b.collections = [] ∧ due = origin ∧ known = b.period) ∨
      (promised? b.collections (b.collections.length - 1) = some due ∧
        b.collections[b.collections.length - 1]?.map Collection.period = some known)) := by
  have hruns : ¬b.isStopped := by
    rw [← due?_eq_none_iff, hdue]
    exact Option.some_ne_none _
  have hafter := h.task_eq hruns
  cases htask : b.task with
  | created =>
    rw [due?, htask] at hdue
    cases hdue
    refine ⟨Nat.le_refl _, .inl ⟨?_, h.clock_eq htask, rfl⟩⟩
    rw [htask, taskAfter] at hafter
    split at hafter
    · next hnone => exact List.getLast?_eq_none_iff.mp hnone
    · split at hafter <;> cases hafter
  | waiting due' known' =>
    rw [due?, htask] at hdue
    cases hdue
    exact ⟨h.clock_le _ _ htask, .inr (due_of_taskAfter (hafter.symm.trans htask))⟩
  | stopped => exact absurd (isStopped_iff.mpr htask) hruns

theorem task_collectAt (h : b.OnSchedule origin) (hdue : b.due? = some (due, known))
    (outcome : CollectionOutcome) :
    (b.collectAt outcome due known).task =
      taskAfter (b.collectAt outcome due known).collections := by
  obtain ⟨_, hbefore⟩ := h.due_cases hdue
  refine nextTask_eq (c := ⟨due, b.active.load⟩) h.period_ne_zero ?_
  obtain ⟨hnil, _, rfl⟩ | ⟨hdue, hknown⟩ := hbefore
  · rw [hnil]
    rfl
  · have hlt := lt_length_of_promised? hdue
    rw [List.getElem?_append_left hlt, hknown]

theorem collectAt (h : b.OnSchedule origin) (hdue : b.due? = some (due, known)) :
    OnSchedule origin (b.collectAt outcome due known) := by
  obtain ⟨hclock, hbefore⟩ := h.due_cases hdue
  let c : Collection := ⟨due, b.active.load⟩
  have hc : (b.collections ++ [c])[b.collections.length]? = some c := List.getElem?_concat_length
  have htask : (b.collectAt outcome due known).task = taskAfter (b.collections ++ [c]) :=
    h.task_collectAt hdue outcome
  have hnew := task_collectAt_ne_created outcome due known b
  refine ⟨h.period_ne_zero, fun _ => htask, fun hcreated => absurd hcreated hnew,
    fun due' known' hwaits => ?_, fun d hd => ?_, fun k d hd => ?_⟩
  · have hnext := (due_of_taskAfter (htask.symm.trans hwaits)).1
    rw [List.length_append, List.length_singleton, Nat.add_sub_cancel] at hnext
    exact Nat.le_trans hclock (le_of_promised? hnext hc)
  · obtain ⟨hnil, rfl, _⟩ | ⟨hdue, _⟩ := hbefore
    · change (b.collections ++ [c])[0]? = some d at hd
      rw [hnil] at hd
      cases hd
      rfl
    · have hlt := Nat.zero_lt_of_lt (lt_length_of_promised? hdue)
      exact h.first d ((List.getElem?_append_left hlt).symm.trans hd)
  · change (b.collections ++ [c])[k + 1]? = some d at hd
    show promised? (b.collections ++ [c]) k = some d.time
    obtain hlt | ⟨heq, hlast⟩ : k + 1 < b.collections.length ∨
        k + 1 = b.collections.length ∧ d = c := by
      grind
    · rw [List.getElem?_append_left hlt] at hd
      rw [promised?_append (Nat.lt_of_succ_lt hlt)]
      exact h.next k d hd
    · obtain ⟨hnil, _⟩ | ⟨hdue, _⟩ := hbefore
      · rw [hnil] at heq
        cases heq
      · rw [← heq, Nat.add_sub_cancel] at hdue
        rw [promised?_append (lt_length_of_promised? hdue), hdue, hlast]

theorem look (h : b.OnSchedule origin) : OnSchedule origin (b.look outcome) := by
  obtain ⟨_, hlook⟩ | ⟨_, _, hlook⟩ | ⟨_, _, due, known, hdue, _, hlook⟩ |
    ⟨_, _, _, _, _, _, hlook⟩ := look_cases outcome b <;> rw [hlook]
  · exact h
  · exact h.stop
  · exact (h.collectAt hdue).tell none _
  · exact h.tell none _

theorem runBefore (h : b.OnSchedule origin) : OnSchedule origin (b.runBefore outcome limit) :=
  runBefore_induction (fun _ _ _ htask _ h => h.collectAt (due?_of_waiting htask)) h

theorem pass (h : b.OnSchedule origin) (duration : Nat) :
    OnSchedule origin (b.pass outcome duration) :=
  h.look.runBefore.advance (task_pass_ne_created outcome b duration)
    fun _ _ => le_of_task_runBefore

/-- A task that does not find that it has to stop does what its collections have settled. -/
theorem task_pass (h : b.OnSchedule origin) (htask : b.task = taskAfter b.collections)
    (htold : ¬b.isTold) (duration : Nat) :
    (b.pass outcome duration).task = taskAfter (b.pass outcome duration).collections := by
  have hkept : OnSchedule origin ((b.look outcome).runBefore outcome (b.clock + duration)) ∧
      ((b.look outcome).runBefore outcome (b.clock + duration)).task =
        taskAfter ((b.look outcome).runBefore outcome (b.clock + duration)).collections := by
    refine runBefore_induction
      (P := fun b => b.OnSchedule origin ∧ b.task = taskAfter b.collections)
      (fun b due known hwaits _ hb => ?_) ⟨h.look, ?_⟩
    · have hdue := due?_of_waiting hwaits
      exact ⟨hb.1.collectAt hdue, hb.1.task_collectAt hdue outcome⟩
    · obtain ⟨_, hlook⟩ | ⟨_, htold', _⟩ | ⟨_, _, due, known, hdue, _, hlook⟩ |
        ⟨_, _, _, _, _, _, hlook⟩ := look_cases outcome b
      · rw [hlook, htask]
      · exact absurd htold' htold
      · rw [hlook]
        exact h.task_collectAt hdue outcome
      · rw [hlook]
        exact htask
  exact hkept.2

end OnSchedule

/-! ## 3. The collections of a pass -/

/-- What the collections until `limit` change: all come to the end, under the settings in force. -/
structure Adds (limit : Nat) (b b' : Background) : Prop where
  clock_eq : b'.clock = b.clock
  active_eq : b'.active = b.active
  hasSender_eq : b'.hasSender = b.hasSender
  collections_eq : ∃ ds, b'.collections = b.collections ++ ds ∧
    ∀ c ∈ ds, c.settings = b.active.load ∧ b.clock ≤ c.time ∧ c.time ≤ limit

namespace Adds

theorem refl (b : Background) : Adds limit b b := ⟨rfl, rfl, rfl, [], by simp⟩

/-- One more collection. -/
theorem collectAt (h : Adds limit b b') (hclock : b'.clock ≤ due) (hdue : due ≤ limit)
    (outcome : CollectionOutcome) (known : UInt64) :
    Adds limit b (b'.collectAt outcome due known) := by
  obtain ⟨ds, hds, hall⟩ := h.collections_eq
  refine ⟨h.clock_eq, h.active_eq, h.hasSender_eq, ds ++ [⟨due, b'.active.load⟩], ?_, ?_⟩
  · rw [← List.append_assoc, ← hds]
    rfl
  · intro c hc
    obtain hc | hc := List.mem_append.mp hc
    · exact hall c hc
    · rw [List.mem_singleton.mp hc]
      exact ⟨by rw [h.active_eq], h.clock_eq ▸ hclock, hdue⟩

theorem look (h : b.OnSchedule origin) (hlimit : b.clock ≤ limit) :
    Adds limit b (b.look outcome) := by
  obtain ⟨_, hlook⟩ | ⟨_, _, hlook⟩ | ⟨_, _, due, known, hdue, hlate, hlook⟩ |
    ⟨_, _, _, _, _, _, hlook⟩ := look_cases outcome b <;> rw [hlook]
  · exact refl b
  · exact ⟨rfl, rfl, rfl, [], by simp⟩
  · obtain ⟨hclock, _⟩ := h.due_cases hdue
    obtain ⟨_, _, _, hds⟩ :=
      (refl b).collectAt hclock (Nat.le_trans hlate hlimit) outcome known
    exact ⟨rfl, rfl, rfl, hds⟩
  · exact ⟨rfl, rfl, rfl, [], by simp⟩

/-- All collections of a pass. -/
theorem runBefore (h : b.OnSchedule origin) (hlimit : b.clock ≤ limit) :
    Adds limit b ((b.look outcome).runBefore outcome limit) := by
  have hkept : Adds limit b ((b.look outcome).runBefore outcome limit) ∧
      OnSchedule origin ((b.look outcome).runBefore outcome limit) := by
    refine runBefore_induction (P := fun b' => Adds limit b b' ∧ b'.OnSchedule origin) ?_
      ⟨look h hlimit, h.look⟩
    intro b' due known htask hdue ⟨hadds, hschedule⟩
    exact ⟨hadds.collectAt (hschedule.clock_le _ _ htask) (Nat.le_of_lt hdue) outcome known,
      hschedule.collectAt (due?_of_waiting htask)⟩
  exact hkept.1

end Adds

/-- A task that has stopped or has to stop collects no more. -/
theorem pass_of_isTold (h : b.isStopped ∨ b.isTold) (duration : Nat) :
    b.pass outcome duration = { b with task := .stopped, clock := b.clock + duration } := by
  have hlook : b.look outcome = { b with task := .stopped } := by
    obtain ⟨hstopped, hlook⟩ | ⟨_, _, hlook⟩ | ⟨hruns, htold, _⟩ | ⟨hruns, htold, _⟩ :=
      look_cases outcome b
    · rw [hlook, ← isStopped_iff.mp hstopped]
    · exact hlook
    · exact absurd h (not_or.mpr ⟨hruns, htold⟩)
    · exact absurd h (not_or.mpr ⟨hruns, htold⟩)
  rw [pass, hlook, runBefore_of_isStopped rfl]

/-- A pass leaves nothing unseen to a task that goes on. -/
theorem unseen_pass (h : ¬b.isStopped) (htold : ¬b.isTold) (duration : Nat) :
    (b.pass outcome duration).unseen = none := by
  refine runBefore_induction (P := fun b => b.unseen = none) (fun _ _ _ _ _ h => h) ?_
  obtain ⟨hstopped, _⟩ | ⟨_, htold', _⟩ | ⟨_, _, _, _, _, _, hlook⟩ | ⟨_, _, _, _, _, _, hlook⟩ :=
    look_cases outcome b
  · exact absurd hstopped h
  · exact absurd htold' htold
  · rw [hlook]
  · rw [hlook]

end Background

end BuildTelemetry
