import BuildTelemetry.Exporter.Basic

/-!
# The background collection

A task collects in the background: right when it starts, and then one period after each collection,
where the period is the one in force right after that collection. It runs until it is told to stop,
or until nobody is left who could tell it. Times are in milliseconds on a clock of the machine, and
a collection takes no time.

* `nextTask`: when the task collects again.
* `Background.look`: the task looks whether it is told to stop, and then at the clock.
* `Background.pass`: time passes, with all collections that are due meanwhile.
* `Background.configure`, `send`, `drop`: what others do, which the task sees when it looks.
-/

namespace BuildTelemetry

/-- What the task does next. -/
inductive Task where
  /-- It was created and has not looked at anything. -/
  | created
  /-- It collects when `due` comes; `period` in seconds is the one that it knows of. -/
  | waiting (due : Nat) (period : UInt64)
  | stopped
deriving DecidableEq, Repr

/-- Deadlines are kept in seconds with 63 bits. -/
def deadlineLimit : Nat := 1 <<< 63

/-- The time one period after `time`, none if no deadline can be that late. -/
def periodAfter? (time : Nat) (period : UInt64) : Option Nat :=
  let due := time + period.toNat * 1000
  if due / 1000 < deadlineLimit then some due else none

/-- The time to the next collection where no deadline can be as late as the period asks for: thirty
years of 365 days. -/
def farFuture : Nat := 30 * 365 * 24 * 60 * 60 * 1000

/-- The task after a collection at `time`, when `period` is in force. If no deadline can be that
late, the task goes on in the far future with the period that it knows of, and fails with a new
one. It fails without a period, too. -/
def nextTask (time : Nat) (known period : UInt64) : Task :=
  if period = 0 then .stopped
  else match periodAfter? time period with
    | some due => .waiting due period
    | none => if known = period then .waiting (time + farFuture) period else .stopped

/-- The time up to `limit` in which a task may collect. -/
def Task.timeLeft (limit : Nat) : Task → Nat
  | .waiting due _ => limit - due
  | _ => 0

theorem timeLeft_nextTask {time limit : Nat} (h : time < limit) (known period : UInt64) :
    (nextTask time known period).timeLeft limit < limit - time := by
  have hleft : 0 < limit - time := Nat.sub_pos_of_lt h
  unfold nextTask
  split
  · exact hleft
  · next hperiod =>
    have hpos : 0 < period.toNat := by
      rw [Nat.pos_iff_ne_zero]
      exact fun hzero => hperiod (UInt64.toNat_inj.mp hzero)
    cases hdue : periodAfter? time period with
    | some due =>
      simp only [periodAfter?, Option.ite_none_right_eq_some, Option.some.injEq] at hdue
      simp only [Task.timeLeft]
      omega
    | none =>
      dsimp only
      split
      · simp only [Task.timeLeft, farFuture]
        omega
      · exact hleft

/-- A collection: when it happened and under which settings. -/
structure Collection where
  time : Nat
  settings : Settings
deriving Repr

/-- The task with all that it works on: the settings in force, the text of the last collection that
did not fail, and all collections. -/
structure Background where
  clock : Nat
  active : ActiveSettings
  exposition : String
  task : Task
  /-- Whether the task was told to stop or not to, if it has not looked since. -/
  unseen : Option Bool
  /-- Whether somebody is left who could tell the task to stop. -/
  hasSender : Bool
  collections : List Collection
deriving Repr

/-- What a collection gives: families, or a failure of the host. It may depend on how many
collections there were before. -/
abbrev CollectionOutcome := Nat → Reading (List MetricFamily)

namespace Background

/-- A task that is created at the time `clock`. -/
def start (active : ActiveSettings) (clock : Nat) : Background :=
  ⟨clock, active, "", .created, none, true, []⟩

def period (b : Background) : UInt64 := b.active.load.config.period

def isStopped (b : Background) : Bool := b.task == .stopped

/-- Whether the task will find that it has to stop. -/
def isTold (b : Background) : Bool := b.unseen == some true || !b.hasSender

/-- When the task collects next, and the period that it knows of. A new task begins right away. -/
def due? (b : Background) : Option (Nat × UInt64) :=
  match b.task with
  | .created => some (b.clock, b.period)
  | .waiting due known => some (due, known)
  | .stopped => none

/-- Collects at `time`. If the host fails the last text is kept. -/
def collectAt (outcome : CollectionOutcome) (time : Nat) (known : UInt64) (b : Background) :
    Background :=
  { b with
    task := nextTask time known b.period
    collections := b.collections ++ [⟨time, b.active.load⟩]
    exposition := match outcome b.collections.length with
      | .ok families => Exposition.encode (exposed (some b.active.load) families)
      | .error _ => b.exposition }

/-- The task looks at what it was told and only then at the clock. -/
def look (outcome : CollectionOutcome) (b : Background) : Background :=
  match b.due? with
  | none => b
  | some (due, known) =>
    if b.isTold then { b with task := .stopped }
    else
      let seen := { b with task := .waiting due known, unseen := none }
      if due ≤ b.clock then seen.collectAt outcome due known else seen

/-- All collections that are due before a time. -/
def runBefore (outcome : CollectionOutcome) (limit : Nat) (b : Background) : Background :=
  match _htask : b.task with
  | .waiting due known =>
    if _hdue : due < limit then runBefore outcome limit (b.collectAt outcome due known) else b
  | _ => b
termination_by b.task.timeLeft limit
decreasing_by
  simp only [_htask]
  exact timeLeft_nextTask _hdue known b.period

/-- Time passes. A collection that is due at the end of it has not happened yet. -/
def pass (outcome : CollectionOutcome) (duration : Nat) (b : Background) : Background :=
  { runBefore outcome (b.clock + duration) (b.look outcome) with clock := b.clock + duration }

/-- Puts a configuration into force if it is valid. The task does not notice at once. -/
def configure (b : Background) (config : Config) : Except ConfigError Background :=
  (b.active.apply config).map fun active => { b with active }

/-- Tells the task to stop, or not to. Only what was told last counts. -/
def send (b : Background) (shouldStop : Bool) : Background :=
  if b.hasSender then { b with unseen := some shouldStop } else b

/-- Leaves nobody who could tell the task to stop. -/
def drop (b : Background) : Background := { b with hasSender := false }

end Background

end BuildTelemetry
