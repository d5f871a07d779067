import Mathlib.Data.List.Induction
import Mathlib.Data.List.Basic
import BuildTelemetry.Completion.Buffer

/-!
# Completed builds are drained exactly once

What is done with a buffer is a list of steps. What the buffer holds after them is computed from the
list alone: a build waits if it completed while the buffer was registered and if no later step has
taken or forgotten it (`waitingAt?`).

1. Calls for the next build of a drain give its builds in their order and then none, and each call
   knows how many are left (`Drain.givesInOrder_calls`).
2. After every list of steps the buffer holds the builds that wait, in the order of their
   completion (`CompletionBuffer.run_eq`). Each step is shown to take the builds that wait before it
   to those that wait after it.
3. No completion waits at two steps that empty the buffer (`eq_of_waitsAt_of_clears`), so it is
   drained once at the most (`completed_builds_drained_once`).
-/

namespace BuildTelemetry

variable {α : Type}

/-! ## 1. Calls for the next build -/

namespace Drain

/-- Calls for the next build a number of times, also after the last one. Each result comes with the
drain before the call. -/
def calls (d : Drain α) : Nat → List (Drain α × Option α)
  | 0 => []
  | count + 1 =>
    match d.next? with
    | none => (d, none) :: d.calls count
    | some (build, rest) => (d, some build) :: rest.calls count

/-- Some calls give each of some builds once, in their order, and then none. Before each call the
drain has not looked past its last build, and it knows how many were not given yet. -/
structure GivesInOrder (builds : List α) (count : Nat) (calls : List (Drain α × Option α)) :
    Prop where
  given : calls.map Prod.snd =
    (builds.take count).map some ++ List.replicate (count - builds.length) none
  left : ∀ n before result, calls[n]? = some (before, result) →
    before.seen ≤ before.items.length ∧
      ((calls.take n).filterMap Prod.snd).length + before.remaining = builds.length

variable {d : Drain α}

/-- A drain is at its end if no build is left. -/
theorem next?_of_left_eq_nil (h : d.left = []) : d.next? = none := by
  have hend : d.items.length ≤ d.seen := List.drop_eq_nil_iff.mp h
  rw [next?, List.getElem?_eq_none hend]
  rfl

/-- The next build is the first one that is left. -/
theorem next?_of_left_eq_cons {build : α} {rest : List α} (h : d.left = build :: rest) :
    d.next? = some (build, { d with seen := d.seen + 1 }) ∧
      ({ d with seen := d.seen + 1 } : Drain α).left = rest ∧ d.seen < d.items.length := by
  unfold left at h
  have hitem : d.items[d.seen]? = some build := by
    rw [← List.head?_drop, h]
    rfl
  refine ⟨?_, ?_, (List.getElem?_eq_some_iff.mp hitem).1⟩
  · rw [next?, hitem]
    rfl
  · show d.items.drop (d.seen + 1) = rest
    rw [← List.drop_drop, h]
    rfl

theorem remaining_eq (d : Drain α) : d.remaining = d.left.length :=
  List.length_drop.symm

/-- The calls on a drain give the builds that are left. -/
theorem givesInOrder_calls (h : d.seen ≤ d.items.length) (count : Nat) :
    GivesInOrder d.left count (d.calls count) := by
  induction count generalizing d with
  | zero =>
    refine ⟨by simp [calls], fun n before result hcall => ?_⟩
    cases hcall
  | succ count ih =>
    cases hleft : d.left with
    | nil =>
      obtain ⟨hgiven, hcounted⟩ := ih h
      rw [hleft] at hgiven hcounted
      rw [calls, next?_of_left_eq_nil hleft]
      refine ⟨?_, fun n before result hcall => ?_⟩
      · rw [List.map_cons, hgiven]
        simp [List.replicate_succ]
      · cases n with
        | zero =>
          cases hcall
          rw [remaining_eq, hleft]
          exact ⟨h, rfl⟩
        | succ n => exact hcounted n before result hcall
    | cons build rest =>
      obtain ⟨hnext, hrest, hseen⟩ := next?_of_left_eq_cons hleft
      obtain ⟨hgiven, hcounted⟩ := ih (d := { d with seen := d.seen + 1 }) hseen
      rw [hrest] at hgiven hcounted
      rw [calls, hnext]
      refine ⟨?_, fun n before result hcall => ?_⟩
      · rw [List.map_cons, hgiven, List.length_cons, Nat.add_sub_add_right]
        rfl
      · cases n with
        | zero =>
          cases hcall
          rw [remaining_eq, hleft]
          exact ⟨h, Nat.zero_add _⟩
        | succ n =>
          obtain ⟨hbound, hsum⟩ := hcounted n before result hcall
          refine ⟨hbound, ?_⟩
          rw [List.length_cons, ← hsum]
          exact Nat.succ_add _ _

/-- The calls on a new drain give all its builds. -/
theorem givesInOrder_of_drain (builds : List α) (count : Nat) :
    GivesInOrder builds count ((⟨builds, 0⟩ : Drain α).calls count) :=
  givesInOrder_calls (d := ⟨builds, 0⟩) (Nat.zero_le _) count

theorem GivesInOrder.length {builds : List α} {count : Nat} {calls : List (Drain α × Option α)}
    (h : GivesInOrder builds count calls) : calls.length = count := by
  have hlength := congrArg List.length h.given
  rw [List.length_map, List.length_append, List.length_map, List.length_take,
    List.length_replicate] at hlength
  omega

/-- A call that gives a build gives the one of its number. -/
theorem GivesInOrder.getElem? {builds : List α} {count : Nat} {calls : List (Drain α × Option α)}
    (h : GivesInOrder builds count calls) {n : Nat} {before : Drain α} {build : α}
    (hcall : calls[n]? = some (before, some build)) : builds[n]? = some build := by
  have hgiven : (calls.map Prod.snd)[n]? = some (some build) := by
    rw [List.getElem?_map, hcall]
    rfl
  rw [h.given, List.getElem?_append] at hgiven
  split at hgiven
  · rw [List.getElem?_map, List.getElem?_take] at hgiven
    split at hgiven
    · simpa using hgiven
    · cases hgiven
  · rw [List.getElem?_replicate] at hgiven
    split at hgiven <;> cases hgiven

end Drain

/-! ## 2. What waits after some steps -/

/-- What is done with a buffer. -/
inductive BufferStep (α : Type) where
  /-- A build completes. -/
  | complete (build : α)
  | register
  | unregister
  /-- The builds that wait are taken, and the next of them is called for some times. -/
  | drain (calls : Nat)
deriving DecidableEq

namespace BufferStep

/-- The step takes or forgets the builds that wait. -/
def clears : BufferStep α → Bool
  | unregister => true
  | drain _ => true
  | _ => false

/-- Whether the buffer is registered from this step on, none if that stays as it is. -/
def registers? : BufferStep α → Option Bool
  | register => some true
  | unregister => some false
  | _ => none

end BufferStep

/-- A buffer is registered after some steps if the last of them that changes this registers it. -/
def registeredAfter (steps : List (BufferStep α)) : Bool :=
  ((steps.filterMap BufferStep.registers?).getLast?).getD true

/-- The build whose completion is the step at a position, if it waits after some steps: the buffer
was registered when it completed, and no step since has cleared the buffer. -/
def waitingAt? (steps : List (BufferStep α)) (i : Nat) : Option α :=
  match steps[i]? with
  | some (.complete build) =>
    if registeredAfter (steps.take i) && (steps.drop (i + 1)).all (fun step => !step.clears) then
      some build
    else none
  | _ => none

/-- The builds that wait after some steps, in the order of their completion. -/
def waitingAfter (steps : List (BufferStep α)) : List α :=
  (List.range steps.length).filterMap (waitingAt? steps)

/-- The positions of the steps that completed these builds. -/
def waitingPositions (steps : List (BufferStep α)) : List Nat :=
  (List.range steps.length).filter fun i => (waitingAt? steps i).isSome

namespace CompletionBuffer

/-- The buffer after a step. -/
def step (b : CompletionBuffer α) : BufferStep α → CompletionBuffer α
  | .complete build => b.complete build
  | .register => b.register
  | .unregister => b.unregister
  | .drain _ => b.drain.2

/-- A new buffer after some steps. -/
def run (steps : List (BufferStep α)) : CompletionBuffer α := steps.foldl step empty

theorem run_append (steps : List (BufferStep α)) (last : BufferStep α) :
    run (steps ++ [last]) = (run steps).step last := by
  rw [run, List.foldl_append]
  rfl

end CompletionBuffer

theorem registeredAfter_append (steps : List (BufferStep α)) (last : BufferStep α) :
    registeredAfter (steps ++ [last]) = last.registers?.getD (registeredAfter steps) := by
  unfold registeredAfter
  rw [List.filterMap_append]
  cases h : last.registers? with
  | none => simp [h]
  | some registered => simp [h]

/-- A step leaves the completions before it waiting unless it clears the buffer. -/
theorem waitingAt?_append (steps : List (BufferStep α)) (last : BufferStep α) {i : Nat}
    (hi : i < steps.length) :
    waitingAt? (steps ++ [last]) i = if last.clears then none else waitingAt? steps i := by
  unfold waitingAt?
  rw [List.getElem?_append_left hi, List.take_append_of_le_length (Nat.le_of_lt hi),
    List.drop_append_of_le_length hi, List.all_append]
  cases hclears : last.clears with
  | false => simp [hclears]
  | true =>
    simp only [hclears, List.all_cons, Bool.not_true, Bool.false_and, Bool.and_false]
    split <;> rfl

/-- A completion waits right after it if the buffer is registered. -/
theorem waitingAt?_length (steps : List (BufferStep α)) (last : BufferStep α) :
    waitingAt? (steps ++ [last]) steps.length =
      match last with
      | .complete build => if registeredAfter steps then some build else none
      | _ => none := by
  unfold waitingAt?
  rw [List.getElem?_concat_length, List.take_left]
  cases last with
  | complete build => simp
  | _ => rfl

/-- What waits after one more step: a completion adds to it while the buffer is registered, and a
drain or the end of the registration leaves nothing. -/
theorem waitingAfter_append (steps : List (BufferStep α)) (last : BufferStep α) :
    waitingAfter (steps ++ [last]) =
      (if last.clears then [] else waitingAfter steps) ++
        match last with
        | .complete build => if registeredAfter steps then [build] else []
        | _ => [] := by
  unfold waitingAfter
  rw [List.length_append, List.length_singleton, List.range_succ, List.filterMap_append]
  congr 1
  · have hbefore : ∀ i ∈ List.range steps.length, waitingAt? (steps ++ [last]) i =
        if last.clears then none else waitingAt? steps i :=
      fun i hi => waitingAt?_append steps last (List.mem_range.mp hi)
    rw [List.filterMap_congr hbefore]
    cases last.clears with
    | false => rfl
    | true => exact List.filterMap_eq_nil_iff.mpr fun _ _ => rfl
  · rw [List.filterMap_cons, waitingAt?_length]
    cases last with
    | complete build => cases registeredAfter steps <;> rfl
    | _ => rfl

/-- While the buffer is not registered nothing waits. -/
theorem waitingAfter_eq_nil {steps : List (BufferStep α)} (h : registeredAfter steps = false) :
    waitingAfter steps = [] := by
  induction steps using List.reverseRecOn with
  | nil => rfl
  | append_singleton steps last ih =>
    rw [registeredAfter_append] at h
    rw [waitingAfter_append]
    cases last with
    | complete build =>
      have hbefore : registeredAfter steps = false := h
      rw [ih hbefore, hbefore]
      rfl
    | register => cases h
    | unregister => rfl
    | drain calls => rfl

/-- After every list of steps the buffer holds the builds that wait, and knows whether it is
registered. -/
theorem CompletionBuffer.run_eq (steps : List (BufferStep α)) :
    run steps = ⟨waitingAfter steps, registeredAfter steps⟩ := by
  induction steps using List.reverseRecOn with
  | nil => rfl
  | append_singleton steps last ih =>
    rw [run_append, ih, waitingAfter_append, registeredAfter_append]
    cases last with
    | complete build =>
      cases h : registeredAfter steps with
      | false =>
        rw [waitingAfter_eq_nil h]
        rfl
      | true => rfl
    | register =>
      rw [List.append_nil]
      rfl
    | unregister => rfl
    | drain calls => rfl

/-! ## 3. Each completion is drained once -/

variable {steps : List (BufferStep α)} {i d d' : Nat}

theorem getElem?_take_eq_some {step : BufferStep α} :
    (steps.take d)[i]? = some step ↔ i < d ∧ steps[i]? = some step := by
  rw [List.getElem?_take]
  split
  · next h => simp [h]
  · next h => simp [h]

/-- A completion waits when a step begins if it was kept and no step in between has cleared the
buffer. -/
theorem waitingAt?_take_eq_some {build : α} :
    waitingAt? (steps.take d) i = some build ↔
      i < d ∧ steps[i]? = some (.complete build) ∧ registeredAfter (steps.take i) ∧
        ∀ n between, i < n → n < d → steps[n]? = some between → between.clears = false := by
  have hbetween : (∀ between ∈ (steps.take d).drop (i + 1), between.clears = false) ↔
      ∀ n between, i < n → n < d → steps[n]? = some between → between.clears = false := by
    constructor
    · intro h n between hafter hbefore hstep
      refine h between (List.mem_iff_getElem?.mpr ⟨n - (i + 1), ?_⟩)
      rw [List.getElem?_drop, List.getElem?_take_of_lt (by omega), ← hstep]
      congr 1
      omega
    · intro h between hmem
      obtain ⟨k, hk⟩ := List.mem_iff_getElem?.mp hmem
      rw [List.getElem?_drop] at hk
      obtain ⟨hlt, hstep⟩ := getElem?_take_eq_some.mp hk
      exact h (i + 1 + k) between (by omega) hlt hstep
  unfold waitingAt?
  constructor
  · intro h
    split at h
    · next build' hstep =>
      obtain ⟨hlt, hstep⟩ := getElem?_take_eq_some.mp hstep
      split at h
      · next hkept =>
        cases h
        rw [Bool.and_eq_true, List.all_eq_true, List.take_take,
          Nat.min_eq_left (Nat.le_of_lt hlt)] at hkept
        refine ⟨hlt, hstep, hkept.1, hbetween.mp fun between hmem => ?_⟩
        simpa using hkept.2 between hmem
      · cases h
    · cases h
  · rintro ⟨hlt, hstep, hregistered, hclears⟩
    rw [List.getElem?_take_of_lt hlt, hstep]
    dsimp only
    rw [if_pos]
    rw [Bool.and_eq_true, List.all_eq_true, List.take_take, Nat.min_eq_left (Nat.le_of_lt hlt)]
    refine ⟨hregistered, fun between hmem => ?_⟩
    simpa using hbetween.mpr hclears between hmem

/-- The completion at a position waits when the step at another position begins. -/
def WaitsAt (steps : List (BufferStep α)) (i d : Nat) : Prop :=
  ∃ build, waitingAt? (steps.take d) i = some build

/-- No completion waits at two steps that clear the buffer. -/
theorem eq_of_waitsAt_of_clears {step step' : BufferStep α} (h : WaitsAt steps i d)
    (h' : WaitsAt steps i d') (hstep : steps[d]? = some step) (hclears : step.clears = true)
    (hstep' : steps[d']? = some step') (hclears' : step'.clears = true) : d = d' := by
  obtain ⟨_, hwaits⟩ := h
  obtain ⟨_, hwaits'⟩ := h'
  obtain ⟨hlt, _, _, hquiet⟩ := waitingAt?_take_eq_some.mp hwaits
  obtain ⟨hlt', _, _, hquiet'⟩ := waitingAt?_take_eq_some.mp hwaits'
  -- the earlier of two such steps would be one in between
  rcases Nat.lt_trichotomy d d' with hbefore | heq | hafter
  · rw [hquiet' d step hlt hbefore hstep] at hclears
    cases hclears
  · exact heq
  · rw [hquiet d' step' hlt' hafter hstep'] at hclears'
    cases hclears'

/-- A completion that was kept waits at the next step that clears the buffer. -/
theorem exists_waitsAt_of_clears {build : α} {later : BufferStep α} {n : Nat}
    (hbuild : steps[i]? = some (.complete build)) (hkept : registeredAfter (steps.take i))
    (hn : i < n) (hlater : steps[n]? = some later) (hclears : later.clears = true) :
    ∃ d step, steps[d]? = some step ∧ step.clears = true ∧ WaitsAt steps i d := by
  -- either the step itself is the next one, or an earlier one clears the buffer
  induction n using Nat.strongRecOn generalizing later with
  | ind n ih =>
    by_cases hquiet : ∀ k between, i < k → k < n → steps[k]? = some between →
        between.clears = false
    · exact ⟨n, later, hlater, hclears, build,
        waitingAt?_take_eq_some.mpr ⟨hn, hbuild, hkept, hquiet⟩⟩
    · push Not at hquiet
      obtain ⟨k, between, hik, hkn, hbetween, hearlier⟩ := hquiet
      exact ih k hkn hik hbetween (by simpa using hearlier)

theorem getElem?_filterMap {β γ : Type} (f : β → Option γ) (bs : List β) (n : Nat) :
    (bs.filterMap f)[n]? = (bs.filter fun b => (f b).isSome)[n]?.bind f := by
  induction bs generalizing n with
  | nil => rfl
  | cons b bs ih =>
    cases hb : f b with
    | none =>
      rw [List.filterMap_cons_none hb, List.filter_cons_of_neg (by simp [hb]), ih]
    | some c =>
      rw [List.filterMap_cons_some hb, List.filter_cons_of_pos (by simp [hb])]
      cases n with
      | zero => exact hb.symm
      | succ n => exact ih n

/-- The builds that wait are those of the completions that wait, one by one. -/
theorem getElem?_waitingAfter (steps : List (BufferStep α)) (n : Nat) :
    (waitingAfter steps)[n]? = (waitingPositions steps)[n]?.bind (waitingAt? steps) :=
  getElem?_filterMap (waitingAt? steps) (List.range steps.length) n

theorem mem_waitingPositions_take (h : i ∈ waitingPositions (steps.take d)) : WaitsAt steps i d :=
  Option.isSome_iff_exists.mp (List.mem_filter.mp h).2

theorem nodup_waitingPositions (steps : List (BufferStep α)) : (waitingPositions steps).Nodup :=
  List.nodup_range.filter _

/-- A call of the drain at a position gives the build of the completion at another position. -/
def GivenBy (steps : List (BufferStep α)) (i d call : Nat) : Prop :=
  ∃ count, steps[d]? = some (.drain count) ∧ call < count ∧
    (waitingPositions (steps.take d))[call]? = some i

/-- The drain at a position takes the completion at another position. -/
def TakenBy (steps : List (BufferStep α)) (i d : Nat) : Prop :=
  (∃ count, steps[d]? = some (.drain count)) ∧ WaitsAt steps i d

/-- A completion waited when the registration ended. -/
def Forgotten (steps : List (BufferStep α)) (i : Nat) : Prop :=
  ∃ d, steps[d]? = some .unregister ∧ WaitsAt steps i d

/-- No build is given twice for one completion, neither by one drain nor by two. -/
theorem eq_of_givenBy {call call' : Nat} (h : GivenBy steps i d call)
    (h' : GivenBy steps i d' call') : d = d' ∧ call = call' := by
  obtain ⟨count, hdrain, _, hcall⟩ := h
  obtain ⟨count', hdrain', _, hcall'⟩ := h'
  have hsame : d = d' :=
    eq_of_waitsAt_of_clears (mem_waitingPositions_take (List.mem_of_getElem? hcall))
      (mem_waitingPositions_take (List.mem_of_getElem? hcall')) hdrain rfl hdrain' rfl
  subst hsame
  refine ⟨rfl, ?_⟩
  obtain ⟨hlt, _⟩ := List.getElem?_eq_some_iff.mp hcall
  exact (List.getElem?_inj hlt (nodup_waitingPositions _)).mp (hcall.trans hcall'.symm)

/-- The build that a call gives belongs to a completion. -/
theorem exists_givenBy {count call : Nat} {before : Drain α} {build : α}
    (hdrain : steps[d]? = some (.drain count))
    (hcall : ((⟨waitingAfter (steps.take d), 0⟩ : Drain α).calls count)[call]? =
      some (before, some build)) :
    ∃ i, GivenBy steps i d call ∧ steps[i]? = some (.complete build) := by
  have hgives := Drain.givesInOrder_of_drain (waitingAfter (steps.take d)) count
  have hlt : call < count := by
    rw [← hgives.length]
    exact (List.getElem?_eq_some_iff.mp hcall).1
  have hbuild : (waitingAfter (steps.take d))[call]? = some build := hgives.getElem? hcall
  rw [getElem?_waitingAfter, Option.bind_eq_some_iff] at hbuild
  obtain ⟨i, hposition, hwaits⟩ := hbuild
  exact ⟨i, ⟨count, hdrain, hlt, hposition⟩, (waitingAt?_take_eq_some.mp hwaits).2.1⟩

/-- No drain takes a completion exactly if it was not kept, if it was forgotten, or if there is no
drain behind it. -/
theorem not_takenBy_iff {build : α} (hbuild : steps[i]? = some (.complete build)) :
    (¬∃ d, TakenBy steps i d) ↔ registeredAfter (steps.take i) = false ∨ Forgotten steps i ∨
      ∀ d count, i < d → steps[d]? ≠ some (.drain count) := by
  constructor
  · intro hnever
    by_contra hother
    push Not at hother
    obtain ⟨hkept, hremembered, d, count, hid, hdrain⟩ := hother
    obtain ⟨first, step, hstep, hclears, hwaits⟩ :=
      exists_waitsAt_of_clears hbuild (by simpa using hkept) hid hdrain rfl
    cases step with
    | drain count => exact hnever ⟨first, ⟨count, hstep⟩, hwaits⟩
    | unregister => exact hremembered ⟨first, hstep, hwaits⟩
    | complete build => cases hclears
    | register => cases hclears
  · rintro hlost ⟨d, ⟨count, hdrain⟩, hwaits⟩
    obtain ⟨_, htaken⟩ := id hwaits
    obtain ⟨hid, _, hkept, _⟩ := waitingAt?_take_eq_some.mp htaken
    rcases hlost with hdropped | ⟨u, hunregister, hforgotten⟩ | hnone
    · rw [hdropped] at hkept
      cases hkept
    · have hsame := eq_of_waitsAt_of_clears hwaits hforgotten hdrain rfl hunregister rfl
      rw [hsame, hunregister] at hdrain
      cases hdrain
    · exact hnone d count hid hdrain

open CompletionBuffer (run)

/-- After every list of steps the buffer is registered as the last step that changes this says, and
holds the builds that completed while it was registered and that no drain and no end of the
registration has taken since. A drain exposes just these builds, gives them one call at a time and
leaves the buffer empty, however many were asked for. So each completion is given once at the most,
and exposed to no drain only if it was not kept, was forgotten, or has no drain behind it. -/
theorem completed_builds_drained_once (steps : List (BufferStep α)) :
    ((run steps).registered = registeredAfter steps ∧
      ((run steps).registered = false →
        (run steps).waiting = [] ∧ ∀ build, (run steps).complete build = run steps)) ∧
    (∀ d count, steps[d]? = some (.drain count) →
      (run (steps.take d)).drain.1.items = waitingAfter (steps.take d) ∧
      Drain.GivesInOrder (waitingAfter (steps.take d)) count
        ((run (steps.take d)).drain.1.calls count) ∧
      (∀ call before build,
        ((run (steps.take d)).drain.1.calls count)[call]? = some (before, some build) →
          ∃ i, GivenBy steps i d call ∧ steps[i]? = some (.complete build)) ∧
      (run (steps.take (d + 1))).waiting = []) ∧
    (∀ i d d' call call', GivenBy steps i d call → GivenBy steps i d' call' →
      d = d' ∧ call = call') ∧
    ∀ i build, steps[i]? = some (.complete build) →
      ((¬∃ d, TakenBy steps i d) ↔ registeredAfter (steps.take i) = false ∨ Forgotten steps i ∨
        ∀ d count, i < d → steps[d]? ≠ some (.drain count)) := by
  refine ⟨⟨?_, fun hregistered => ?_⟩, fun d count hdrain => ?_, fun _ _ _ _ _ => eq_of_givenBy,
    fun _ _ => not_takenBy_iff⟩
  · rw [CompletionBuffer.run_eq]
  · rw [CompletionBuffer.run_eq] at hregistered ⊢
    have hnone : registeredAfter steps = false := hregistered
    rw [waitingAfter_eq_nil hnone, hnone]
    exact ⟨rfl, fun _ => rfl⟩
  · have hdrained : (run (steps.take d)).drain.1 = ⟨waitingAfter (steps.take d), 0⟩ := by
      rw [CompletionBuffer.run_eq]
      rfl
    rw [hdrained]
    refine ⟨rfl, Drain.givesInOrder_of_drain _ count,
      fun call before build => exists_givenBy hdrain, ?_⟩
    have hnext : steps.take (d + 1) = steps.take d ++ [.drain count] := by
      rw [List.take_add_one, hdrain]
      rfl
    rw [hnext, CompletionBuffer.run_append]
    rfl

/-- Of five builds the second is taken by a drain that does not ask for it, the third is forgotten,
and the fourth is not kept. -/
theorem completed_builds_drained_once_of_five :
    let steps : List (BufferStep Nat) :=
      [.complete 1, .complete 2, .drain 1, .complete 3, .unregister, .complete 4, .register,
        .complete 5, .drain 2]
    (run (steps.take 2)).drain.1.items = [1, 2] ∧ (run (steps.take 3)).waiting = [] ∧
      (run (steps.take 8)).drain.1.items = [5] ∧ ¬(∃ d, TakenBy steps 3 d) := by
  intro steps
  obtain ⟨_, hdrains, _, htaken⟩ := completed_builds_drained_once steps
  obtain ⟨hfirst, _, _, hempty⟩ := hdrains 2 1 rfl
  obtain ⟨hsecond, _⟩ := hdrains 8 2 rfl
  refine ⟨hfirst.trans (by decide), hempty, hsecond.trans (by decide), ?_⟩
  exact (htaken 3 3 rfl).mpr (.inr (.inl ⟨4, rfl, 3, by decide⟩))

end BuildTelemetry
