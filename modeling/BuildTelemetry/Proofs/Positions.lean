import Mathlib.Data.Nat.Bitwise
import Mathlib.Logic.Function.Iterate
import Mathlib.Logic.Relation
import BuildTelemetry.Pattern.Position

/-!
# Walks on positions

Sets of positions are numbers, and a function on such sets moves along a relation if it leads to
exactly the positions that are related to a member (`Along`). What is worked out on sets is proved
to be what walks do, step by step.

1. The members of a set are its bits.
2. A walk that takes more steps than there are positions stays somewhere, so it can be made longer
   or shorter (`Walk.of_size_le`).
3. Going on in rounds from what is new reaches what walks reach (`testBit_spread`). Therefore
   `repeated` may stop counting at the number of positions (`along_repeated`).
4. The rows of a closure hold what walks of any length reach (`leads_closure`,
   `along_gatherClosed`).
-/

namespace BuildTelemetry.Pattern

/-! ## 1. Members -/

namespace PositionSet

@[simp] theorem testBit_only (i j : Nat) : (only i).testBit j = decide (i = j) := by
  rw [only, Nat.one_shiftLeft, Nat.testBit_two_pow]

@[simp] theorem testBit_without (s t : PositionSet) (i : Nat) :
    (s.without t).testBit i = (s.testBit i && !t.testBit i) := by
  rw [without, Nat.testBit_xor, Nat.testBit_and]
  cases s.testBit i <;> cases t.testBit i <;> rfl

theorem testBit_or_iff (s t : PositionSet) (i : Nat) :
    (s ||| t).testBit i ↔ s.testBit i ∨ t.testBit i := by
  rw [Nat.testBit_or, Bool.or_eq_true]

theorem testBit_without_iff (s t : PositionSet) (i : Nat) :
    (s.without t).testBit i ↔ s.testBit i ∧ ¬t.testBit i := by
  rw [testBit_without, Bool.and_eq_true, Bool.not_eq_true', Bool.not_eq_true]

/-- The greatest member is left out. -/
theorem testBit_sub_log2 {s : Nat} (h : s ≠ 0) (i : Nat) :
    (s - 1 <<< s.log2).testBit i = (s.testBit i && decide (i ≠ s.log2)) := by
  have hle : 2 ^ s.log2 ≤ s := Nat.log2_self_le h
  have hlt : s < 2 ^ (s.log2 + 1) := Nat.lt_log2_self
  obtain ⟨r, hr⟩ := Nat.exists_eq_add_of_le hle
  have hsmall : r < 2 ^ s.log2 := by
    rw [Nat.pow_succ] at hlt
    omega
  have hrest : s - 1 <<< s.log2 = r := by
    rw [Nat.one_shiftLeft]
    omega
  rw [hrest]
  generalize s.log2 = k at *
  subst hr
  rcases Nat.lt_trichotomy i k with hlow | rfl | hhigh
  · rw [Nat.testBit_two_pow_add_gt hlow]
    simp [Nat.ne_of_lt hlow]
  · simp [Nat.testBit_lt_two_pow hsmall]
  · have hpow : 2 ^ (k + 1) ≤ 2 ^ i := Nat.pow_le_pow_right (by decide) hhigh
    rw [Nat.testBit_lt_two_pow (by omega : r < 2 ^ i),
      Nat.testBit_lt_two_pow (by omega : 2 ^ k + r < 2 ^ i)]
    rfl

theorem testBit_gather (f : Nat → PositionSet) (s found : PositionSet) (j : Nat) :
    (gather f s found).testBit j ↔ found.testBit j ∨ ∃ i, s.testBit i ∧ (f i).testBit j := by
  induction s, found using gather.induct f with
  | case1 found =>
    rw [gather, dif_pos rfl]
    simp
  | case2 s found hs ih =>
    rw [gather, dif_neg hs, ih, Nat.testBit_or, Bool.or_eq_true, or_assoc]
    have htop : s.testBit s.log2 = true := Nat.testBit_log2 hs
    refine or_congr_right ?_
    constructor
    · rintro (hfirst | ⟨i, hi, hj⟩)
      · exact ⟨_, htop, hfirst⟩
      · rw [testBit_sub_log2 hs, Bool.and_eq_true] at hi
        exact ⟨i, hi.1, hj⟩
    · rintro ⟨i, hi, hj⟩
      by_cases hlast : i = s.log2
      · exact .inl (hlast ▸ hj)
      · refine .inr ⟨i, ?_, hj⟩
        rw [testBit_sub_log2 hs, hi]
        simpa using hlast

theorem testBit_flatMap (s : PositionSet) (f : Nat → PositionSet) (j : Nat) :
    (s.flatMap f).testBit j ↔ ∃ i, s.testBit i ∧ (f i).testBit j := by
  rw [flatMap, testBit_gather]
  simp

/-- The first member of a set is the one that is found by going back to the number before. -/
theorem first_spec {s : Nat} (h : s ≠ 0) :
    s.testBit (first s) ∧ ∀ i, s.testBit i → first s ≤ i := by
  induction s using Nat.strong_induction_on with
  | _ s ih =>
    obtain ⟨half, rfl | rfl⟩ : ∃ half, s = 2 * half ∨ s = 2 * half + 1 := ⟨s / 2, by omega⟩
    · -- an even number: its first member is one behind that of its half
      have hpos : half ≠ 0 := by omega
      obtain ⟨hmem, hleast⟩ := ih half (by omega) hpos
      have hdiffer : half ^^^ (half - 1) ≠ 0 := by
        rw [Ne, Nat.xor_eq_zero_iff]
        omega
      have hhalf : (2 * half ^^^ (2 * half - 1)) / 2 = half ^^^ (half - 1) := by
        rw [Nat.xor_div_two]
        congr 1 <;> omega
      have hfirst : first (2 * half) = first half + 1 := by
        rw [first, Nat.log2_def, if_pos (by omega), hhalf, first]
      rw [hfirst]
      refine ⟨?_, fun i hi => ?_⟩
      · rwa [Nat.testBit_succ, Nat.mul_div_cancel_left half (by decide)]
      · cases i with
        | zero =>
          rw [Nat.testBit_zero] at hi
          simp at hi
        | succ i =>
          rw [Nat.testBit_succ, Nat.mul_div_cancel_left half (by decide)] at hi
          exact Nat.succ_le_succ (hleast i hi)
    · have hfirst : first (2 * half + 1) = 0 := by
        have hdiv : ((2 * half + 1) ^^^ (2 * half + 1 - 1)) / 2 = 0 := by
          rw [Nat.xor_div_two, Nat.xor_eq_zero_iff]
          omega
        rw [first, Nat.log2_def, if_neg (by omega)]
      rw [hfirst]
      refine ⟨?_, fun i _ => Nat.zero_le i⟩
      rw [Nat.testBit_zero]
      simp

end PositionSet

/-! ## 2. Walks -/

/-- Takes so many steps from one position to another. -/
def Walk (R : Nat → Nat → Prop) : Nat → Nat → Nat → Prop
  | 0, i, j => i = j
  | n + 1, i, j => ∃ k, R i k ∧ Walk R n k j

/-- Steps from a position below `size` stay below `size` and never go back. -/
def Forwards (size : Nat) (R : Nat → Nat → Prop) : Prop :=
  ∀ i j, i < size → R i j → i ≤ j ∧ j < size

/-- All members are positions below `size`. -/
def PositionSet.Within (size : Nat) (s : PositionSet) : Prop := ∀ i, s.testBit i → i < size

/-- A function on sets of positions below `size` leads to the positions that are related to a
member. -/
def Along (size : Nat) (step : PositionSet → PositionSet) (R : Nat → Nat → Prop) : Prop :=
  ∀ s, s.Within size → ∀ j, (step s).testBit j ↔ ∃ i, s.testBit i ∧ R i j

section

variable {size : Nat} {step : PositionSet → PositionSet} {R : Nat → Nat → Prop}

theorem Forwards.walk (hR : Forwards size R) (n : Nat) : Forwards size (Walk R n) := by
  induction n with
  | zero =>
    rintro i j hi rfl
    exact ⟨Nat.le_refl i, hi⟩
  | succ n ih =>
    rintro i j hi ⟨k, hik, hkj⟩
    have hk := hR i k hi hik
    have hj := ih k j hk.2 hkj
    exact ⟨Nat.le_trans hk.1 hj.1, hj.2⟩

theorem walk_add (n m i j : Nat) :
    Walk R (n + m) i j ↔ ∃ k, Walk R n i k ∧ Walk R m k j := by
  induction n generalizing i with
  | zero => simp [Walk]
  | succ n ih =>
    rw [Nat.succ_add]
    constructor
    · rintro ⟨l, hil, hlj⟩
      obtain ⟨k, hlk, hkj⟩ := (ih l).mp hlj
      exact ⟨k, ⟨l, hil, hlk⟩, hkj⟩
    · rintro ⟨k, ⟨l, hil, hlk⟩, hkj⟩
      exact ⟨l, hil, (ih l).mpr ⟨k, hlk, hkj⟩⟩

/-- A walk with more steps than it gets ahead stays somewhere. It can be made without that step or
with one more. -/
theorem Walk.shorter_and_longer (hR : Forwards size R) {n i j : Nat} (hi : i < size)
    (hwalk : Walk R (n + 1) i j) (hlong : j < i + (n + 1)) :
    Walk R n i j ∧ Walk R (n + 2) i j := by
  induction n generalizing i with
  | zero =>
    obtain ⟨k, hik, rfl⟩ := hwalk
    have hsame : k = i := by
      have := (hR i k hi hik).1
      omega
    subst hsame
    exact ⟨rfl, k, hik, k, hik, rfl⟩
  | succ n ih =>
    obtain ⟨k, hik, hkj⟩ := hwalk
    have hk := hR i k hi hik
    by_cases hsame : k = i
    · subst hsame
      exact ⟨hkj, k, hik, k, hik, hkj⟩
    · obtain ⟨hshorter, hlonger⟩ := ih hk.2 hkj (by omega)
      exact ⟨⟨k, hik, hshorter⟩, k, hik, hlonger⟩

/-- Walks with at least as many steps as there are positions can have any such number of steps. -/
theorem Walk.of_size_le (hR : Forwards size R) {n m i j : Nat} (hi : i < size)
    (hn : size ≤ n) (hm : size ≤ m) (hwalk : Walk R n i j) : Walk R m i j := by
  -- both numbers of steps come down to that of the positions
  have hstep (k : Nat) (hk : size ≤ k) : Walk R (k + 1) i j ↔ Walk R k i j := by
    constructor
    · intro h
      have hj := (hR.walk _ i j hi h).2
      exact (Walk.shorter_and_longer hR hi h (by omega)).1
    · intro h
      have hj := (hR.walk _ i j hi h).2
      obtain ⟨k', rfl⟩ : ∃ k', k = k' + 1 := ⟨k - 1, by omega⟩
      exact (Walk.shorter_and_longer hR hi h (by omega)).2
  have hsize (k : Nat) (hk : size ≤ k) : Walk R k i j ↔ Walk R size i j := by
    induction k, hk using Nat.le_induction with
    | base => rfl
    | succ k hk ih => rw [hstep k hk, ih]
  exact (hsize m hm).mpr ((hsize n hn).mp hwalk)

/-- Numbers of steps that are not less than that of the positions are as good as each other. -/
theorem Walk.clip (hR : Forwards size R) {n m i j : Nat} (hi : i < size) (hwalk : Walk R n i j)
    (h : n = m ∨ size ≤ n ∧ size ≤ m) : Walk R m i j := by
  rcases h with rfl | ⟨hn, hm⟩
  · exact hwalk
  · exact hwalk.of_size_le hR hi hn hm

/-! ## 3. Going on -/

namespace PositionSet

theorem Along.within (hstep : Along size step R) (hR : Forwards size R) {s : PositionSet}
    (hs : s.Within size) : (step s).Within size := by
  intro j hj
  obtain ⟨i, hi, hij⟩ := (hstep s hs j).mp hj
  exact (hR i j (hs i hi) hij).2

theorem advance_eq_iterate (step : PositionSet → PositionSet) (n : Nat) (s : PositionSet) :
    advance step n s = step^[n] s := by
  induction n generalizing s with
  | zero => rfl
  | succ n ih =>
    rw [advance, Function.iterate_succ_apply]
    split
    · next hfixed =>
      have hfixed : step s = s := beq_iff_eq.mp hfixed
      rw [hfixed, Function.iterate_fixed hfixed]
    · exact ih (step s)

theorem along_advance (hstep : Along size step R) (hR : Forwards size R) (n : Nat) :
    Along size (advance step n) (Walk R n) := by
  intro s hs j
  rw [advance_eq_iterate]
  induction n generalizing s with
  | zero => simp [Walk]
  | succ n ih =>
    rw [Function.iterate_succ_apply, ih _ (Along.within hstep hR hs)]
    constructor
    · rintro ⟨k, hk, hkj⟩
      obtain ⟨i, hi, hik⟩ := (hstep s hs k).mp hk
      exact ⟨i, hi, k, hik, hkj⟩
    · rintro ⟨i, hi, k, hik, hkj⟩
      exact ⟨k, (hstep s hs k).mpr ⟨i, hi, hik⟩, hkj⟩

/-- A walk out of a set that is closed but for some of its members passes through one of those. -/
theorem walk_through {A F : Nat → Prop} (hclosed : ∀ i, A i → ¬F i → ∀ j, R i j → A j)
    {n i j : Nat} (hi : A i) (hwalk : Walk R n i j) : A j ∨ ∃ m ≤ n, ∃ k, F k ∧ Walk R m k j := by
  induction n generalizing i with
  | zero => exact .inl (hwalk ▸ hi)
  | succ n ih =>
    by_cases hF : F i
    · exact .inr ⟨n + 1, Nat.le_refl _, i, hF, hwalk⟩
    · obtain ⟨k, hik, hkj⟩ := hwalk
      exact (ih (hclosed i hi hF k hik) hkj).imp_right fun ⟨m, hm, h⟩ => ⟨m, by omega, h⟩

/-- Positions that were reached, and those among them whose steps were not taken yet. Steps from the
others lead to positions that were reached. -/
structure Frontier (size : Nat) (R : Nat → Nat → Prop) (reached fresh : PositionSet) : Prop where
  within : reached.Within size
  subset : ∀ i, fresh.testBit i → reached.testBit i
  closed : ∀ i, reached.testBit i → ¬fresh.testBit i → ∀ j, R i j → reached.testBit j

section

variable {reached fresh : PositionSet}

/-- The positions that a round finds. -/
theorem Frontier.testBit_new (h : Frontier size R reached fresh) (hstep : Along size step R)
    (j : Nat) : ((step fresh).without reached).testBit j ↔
      (∃ i, fresh.testBit i ∧ R i j) ∧ ¬reached.testBit j := by
  rw [testBit_without_iff, hstep fresh fun i hi => h.within i (h.subset i hi)]

/-- After a round all steps from the positions that were reached before it are taken. -/
theorem Frontier.step_mem (h : Frontier size R reached fresh) (hstep : Along size step R)
    {i j : Nat} (hi : reached.testBit i) (hij : R i j) :
    (reached ||| (step fresh).without reached).testBit j := by
  rw [testBit_or_iff]
  by_cases hfresh : fresh.testBit i
  · by_cases hj : reached.testBit j
    · exact .inl hj
    · exact .inr ((h.testBit_new hstep j).mpr ⟨⟨i, hfresh, hij⟩, hj⟩)
  · exact .inl (h.closed i hi hfresh j hij)

theorem Frontier.next (h : Frontier size R reached fresh) (hstep : Along size step R)
    (hR : Forwards size R) : Frontier size R (reached ||| (step fresh).without reached)
      ((step fresh).without reached) where
  within j hj := by
    rcases (testBit_or_iff _ _ j).mp hj with hj | hj
    · exact h.within j hj
    · obtain ⟨⟨i, hi, hij⟩, -⟩ := (h.testBit_new hstep j).mp hj
      exact (hR i j (h.within i (h.subset i hi)) hij).2
  subset j hj := (testBit_or_iff _ _ j).mpr (.inr hj)
  closed i hi hnew j hij :=
    h.step_mem hstep (((testBit_or_iff _ _ i).mp hi).resolve_right hnew) hij

/-- A set is closed if a round finds nothing. -/
theorem Frontier.walk_of_nothing_new (h : Frontier size R reached fresh)
    (hstep : Along size step R) (hnone : (step fresh).without reached = 0) {n i j : Nat}
    (hi : reached.testBit i) (hwalk : Walk R n i j) : reached.testBit j := by
  have hclosed : ∀ i, reached.testBit i → ¬False → ∀ j, R i j → reached.testBit j := by
    intro i hi _ j hij
    have hj := h.step_mem hstep hi hij
    rwa [hnone, testBit_or_iff, Nat.zero_testBit, or_iff_left Bool.false_ne_true] at hj
  exact (walk_through (F := fun _ => False) hclosed hi hwalk).elim id
    fun ⟨_, _, _, hF, _⟩ => hF.elim

end

theorem testBit_spread (hstep : Along size step R) (hR : Forwards size R) (rounds : Nat)
    {reached fresh : PositionSet} (h : Frontier size R reached fresh) (j : Nat) :
    (spread step rounds reached fresh).testBit j ↔
      reached.testBit j ∨ ∃ n ≤ rounds, ∃ i, fresh.testBit i ∧ Walk R n i j := by
  induction rounds generalizing reached fresh with
  | zero =>
    rw [spread]
    refine ⟨.inl, ?_⟩
    rintro (hj | ⟨n, hn, i, hi, hwalk⟩)
    · exact hj
    · obtain rfl : n = 0 := Nat.le_zero.mp hn
      exact hwalk ▸ h.subset i hi
  | succ rounds ih =>
    rw [spread]
    split
    · next hnone =>
      refine ⟨.inl, ?_⟩
      rintro (hj | ⟨n, _, i, hi, hwalk⟩)
      · exact hj
      · exact h.walk_of_nothing_new hstep (beq_iff_eq.mp hnone) (h.subset i hi) hwalk
    · rw [ih (h.next hstep hR), testBit_or_iff]
      constructor
      · rintro ((hj | hj) | ⟨n, hn, k, hk, hwalk⟩)
        · exact .inl hj
        · obtain ⟨⟨i, hi, hij⟩, -⟩ := (h.testBit_new hstep j).mp hj
          exact .inr ⟨1, by omega, i, hi, j, hij, rfl⟩
        · obtain ⟨⟨i, hi, hik⟩, -⟩ := (h.testBit_new hstep k).mp hk
          exact .inr ⟨n + 1, by omega, i, hi, k, hik, hwalk⟩
      · rintro (hj | ⟨n, hn, i, hi, hwalk⟩)
        · exact .inl (.inl hj)
        · cases n with
          | zero => exact .inl (.inl (hwalk ▸ h.subset i hi))
          | succ n =>
            -- behind the first step, a walk leaves what was reached through what is new
            obtain ⟨k, hik, hkj⟩ := hwalk
            have hk := h.step_mem hstep (h.subset i hi) hik
            refine (walk_through (h.next hstep hR).closed hk hkj).imp (testBit_or_iff _ _ j).mp ?_
            rintro ⟨m, hm, hfound⟩
            exact ⟨m, by omega, hfound⟩

/-- Repetitions are walks with a number of steps between the bounds. -/
theorem along_repeated (hstep : Along size step R) (hR : Forwards size R) {least : Nat}
    {most : Option Nat} (hbounds : ∀ m ∈ most, least ≤ m) :
    Along size (repeated step size least most)
      fun i j => ∃ n, least ≤ n ∧ (∀ m ∈ most, n ≤ m) ∧ Walk R n i j := by
  intro s hs j
  have hadvance := along_advance hstep hR (min least size) s hs
  have hwithin : (advance step (min least size) s).Within size :=
    Along.within (along_advance hstep hR _) (hR.walk _) hs
  -- a walk with the required steps and then some of the optional ones
  have hwalks (optional : Nat) :
      (spread step optional (advance step (min least size) s)
        (advance step (min least size) s)).testBit j ↔
      ∃ i, s.testBit i ∧ ∃ n ≤ optional, Walk R (min least size + n) i j := by
    rw [testBit_spread hstep hR optional ⟨hwithin, fun _ h => h, fun i hi hni => absurd hi hni⟩]
    constructor
    · rintro (h | ⟨n, hn, k, hk, hkj⟩)
      · obtain ⟨i, hi, hij⟩ := (hadvance j).mp h
        exact ⟨i, hi, 0, Nat.zero_le _, hij⟩
      · obtain ⟨i, hi, hik⟩ := (hadvance k).mp hk
        exact ⟨i, hi, n, hn, (walk_add _ _ _ _).mpr ⟨k, hik, hkj⟩⟩
    · rintro ⟨i, hi, n, hn, hwalk⟩
      obtain ⟨k, hik, hkj⟩ := (walk_add _ _ _ _).mp hwalk
      exact .inr ⟨n, hn, k, (hadvance k).mpr ⟨i, hi, hik⟩, hkj⟩
  cases most with
  | none =>
    rw [repeated, hwalks]
    refine exists_congr fun i => and_congr_right fun hi => ?_
    constructor
    · rintro ⟨n, _, hwalk⟩
      exact ⟨least + n, by omega, by simp, hwalk.clip hR (hs i hi) (by omega)⟩
    · rintro ⟨n, hn, _, hwalk⟩
      exact ⟨min (n - least) size, by omega, hwalk.clip hR (hs i hi) (by omega)⟩
  | some most =>
    have hle : least ≤ most := hbounds most rfl
    rw [repeated, hwalks]
    simp only [Option.mem_some_iff, forall_eq']
    refine exists_congr fun i => and_congr_right fun hi => ?_
    constructor
    · rintro ⟨n, hn, hwalk⟩
      exact ⟨least + n, by omega, by omega, hwalk.clip hR (hs i hi) (by omega)⟩
    · rintro ⟨n, hn, hmost, hwalk⟩
      exact ⟨min (n - least) size, by omega, hwalk.clip hR (hs i hi) (by omega)⟩

end PositionSet

end

/-! ## 4. Rows -/

namespace Rows

open Relation PositionSet

variable {size : Nat} {step : PositionSet → PositionSet} {R : Nat → Nat → Prop}

/-- A position leads to another in some rows. -/
def Leads (rows : Rows) (i j : Nat) : Prop := (rows.row i).testBit j

theorem leads_ofFn (size : Nat) (f : Nat → PositionSet) (i j : Nat) :
    Leads (ofFn size f) i j ↔ i < size ∧ (f i).testBit j := by
  unfold Leads row ofFn
  by_cases hi : i < size
  · simp [hi]
  · simp [hi]

theorem along_follow (rows : Rows) : Along size rows.follow rows.Leads :=
  fun s _ j => testBit_flatMap s rows.row j

/-- Rows of any number of steps, from a position on. -/
structure ClosedFrom (size low : Nat) (rows : Rows) : Prop where
  forwards : ∀ i j, low ≤ i → i < size → rows.Leads i j → i ≤ j ∧ j < size
  refl : ∀ i, low ≤ i → i < size → rows.Leads i i
  trans : ∀ i j k, low ≤ i → i < size → rows.Leads i j → rows.Leads j k → rows.Leads i k

/-- Only rows of positions that were not found are looked at. That is enough: the rows of those
that were found are in what was found. -/
theorem testBit_gatherClosed {rows : Rows} {low : Nat} (hrows : rows.ClosedFrom size low)
    {rounds : Nat} (hrounds : size ≤ low + rounds) {left found : PositionSet}
    (hlow : ∀ i, left.testBit i → low ≤ i) (hsize : left.Within size)
    (hleft : ∀ i, left.testBit i → ¬found.testBit i) (j : Nat) :
    (rows.gatherClosed rounds left found).testBit j ↔
      found.testBit j ∨ ∃ i, left.testBit i ∧ rows.Leads i j := by
  induction rounds generalizing low left found with
  | zero =>
    rw [gatherClosed]
    refine ⟨.inl, ?_⟩
    rintro (h | ⟨i, hi, _⟩)
    · exact h
    · have := hlow i hi
      have := hsize i hi
      omega
  | succ rounds ih =>
    rw [gatherClosed]
    split
    · next hnone =>
      have hnone : left = 0 := beq_iff_eq.mp hnone
      simp [hnone]
    · next hsome =>
      have hne : left ≠ 0 := fun h => hsome (beq_iff_eq.mpr h)
      obtain ⟨hfirst, hleast⟩ := first_spec hne
      have hmem (k : Nat) : (found ||| rows.row (first left)).testBit k ↔
          found.testBit k ∨ rows.Leads (first left) k := testBit_or_iff _ _ k
      have hleads := hrows.refl _ (hlow _ hfirst) (hsize _ hfirst)
      generalize found ||| rows.row (first left) = found' at *
      have hmore (k : Nat) : (left.without found').testBit k ↔
          left.testBit k ∧ ¬found'.testBit k := testBit_without_iff left found' k
      have hrows' : rows.ClosedFrom size (first left + 1) := by
        have hle := hlow _ hfirst
        exact ⟨fun i j hi => hrows.forwards i j (by omega), fun i hi => hrows.refl i (by omega),
          fun i j k hi => hrows.trans i j k (by omega)⟩
      have hlow' : ∀ i, (left.without found').testBit i → first left + 1 ≤ i := by
        intro i hi
        obtain ⟨hi, hnot⟩ := (hmore i).mp hi
        have hne : i ≠ first left := by
          rintro rfl
          exact hnot ((hmem _).mpr (.inr hleads))
        have := hleast i hi
        omega
      have hrounds' : size ≤ first left + 1 + rounds := by
        have := hlow _ hfirst
        omega
      rw [ih hrows' hrounds' hlow' (fun i hi => hsize i ((hmore i).mp hi).1)
        (fun i hi => ((hmore i).mp hi).2), hmem]
      constructor
      · rintro ((h | h) | ⟨i, hi, hij⟩)
        · exact .inl h
        · exact .inr ⟨_, hfirst, h⟩
        · exact .inr ⟨i, ((hmore i).mp hi).1, hij⟩
      · rintro (h | ⟨i, hi, hij⟩)
        · exact .inl (.inl h)
        · by_cases hfound : found'.testBit i
          · -- the row of a position that was found now is part of the row it was found in
            have hlead := ((hmem i).mp hfound).resolve_left (hleft i hi)
            exact .inl (.inr (hrows.trans _ i j (hlow _ hfirst) (hsize _ hfirst) hlead hij))
          · exact .inr ⟨i, (hmore i).mpr ⟨hi, hfound⟩, hij⟩

/-- A way to another position begins with a step that does not stay. -/
theorem reflTransGen_iff {i j : Nat} :
    ReflTransGen R i j ↔ j = i ∨ ∃ k, k ≠ i ∧ R i k ∧ ReflTransGen R k j := by
  constructor
  · intro h
    induction h using ReflTransGen.head_induction_on with
    | refl => exact .inl rfl
    | @head a c hac hcj ih =>
      by_cases hca : c = a
      · exact hca ▸ ih
      · exact .inr ⟨c, hca, hac, hcj⟩
  · rintro (rfl | ⟨k, _, hik, hkj⟩)
    · exact .refl
    · exact .head hik hkj

theorem forwards_reflTransGen (hR : Forwards size R) : Forwards size (ReflTransGen R) := by
  intro i j hi h
  induction h with
  | refl => exact ⟨Nat.le_refl i, hi⟩
  | tail _ hkj ih =>
    have hk := hR _ _ ih.2 hkj
    exact ⟨Nat.le_trans ih.1 hk.1, hk.2⟩

theorem row_setIfInBounds {rows : Rows} {low i : Nat} (s : PositionSet) (hi : i < rows.size) :
    row (Array.setIfInBounds rows low s) i = if i = low then s else row rows i := by
  unfold row
  rw [Array.getElem?_setIfInBounds]
  by_cases hsame : low = i
  · subst hsame
    simp [hi]
  · simp [hsame, Ne.symm hsame]

/-- Rows that hold what any number of steps reaches. -/
theorem closedFrom_of_leads (hR : Forwards size R) {rows : Rows} {low : Nat}
    (h : ∀ i, low ≤ i → i < size → ∀ j, Leads rows i j ↔ ReflTransGen R i j) :
    ClosedFrom size low rows where
  forwards i j hi hlt hij := forwards_reflTransGen hR i j hlt ((h i hi hlt j).mp hij)
  refl i hi hlt := (h i hi hlt i).mpr .refl
  trans i j k hi hlt hij hjk := by
    have hij := (h i hi hlt j).mp hij
    obtain ⟨hle, hj⟩ := forwards_reflTransGen hR i j hlt hij
    exact (h i hi hlt k).mpr (hij.trans ((h j (Nat.le_trans hi hle) hj k).mp hjk))

/-- The row of a position is gathered from those of the positions behind it. -/
theorem testBit_newRow (hstep : Along size step R) (hR : Forwards size R) {rows : Rows} {i : Nat}
    (hi : i < size)
    (hrows : ∀ k, i + 1 ≤ k → k < size → ∀ j, Leads rows k j ↔ ReflTransGen R k j) (j : Nat) :
    (gatherClosed rows size ((step (only i)).without (only i)) (only i)).testBit j ↔
      ReflTransGen R i j := by
  have hwithin : (only i).Within size := by
    intro k hk
    rw [testBit_only, decide_eq_true_iff] at hk
    exact hk ▸ hi
  have hnext (k : Nat) : ((step (only i)).without (only i)).testBit k ↔ k ≠ i ∧ R i k := by
    rw [testBit_without_iff, hstep _ hwithin, and_comm]
    simp [ne_comm]
  have hbehind {k : Nat} (hne : k ≠ i) (hik : R i k) : i + 1 ≤ k ∧ k < size := by
    have := hR i k hi hik
    omega
  have hleft {k : Nat} (hk : ((step (only i)).without (only i)).testBit k) :
      i + 1 ≤ k ∧ k < size ∧ ¬(only i).testBit k := by
    obtain ⟨hne, hik⟩ := (hnext k).mp hk
    obtain ⟨hlow, hlt⟩ := hbehind hne hik
    exact ⟨hlow, hlt, by simpa using Ne.symm hne⟩
  rw [testBit_gatherClosed (closedFrom_of_leads hR hrows) (by omega) (fun k hk => (hleft hk).1)
    (fun k hk => (hleft hk).2.1) (fun k hk => (hleft hk).2.2), reflTransGen_iff]
  simp only [testBit_only, decide_eq_true_iff, hnext, and_assoc]
  refine or_congr eq_comm (exists_congr fun k => ?_)
  refine and_congr_right fun hne => and_congr_right fun hik => ?_
  obtain ⟨hlow, hlt⟩ := hbehind hne hik
  exact hrows k hlow hlt j

/-- The rows of a closure, after those from `low` on were made. -/
theorem leads_foldr (hstep : Along size step R) (hR : Forwards size R) (low count : Nat)
    (hcount : low + count = size) :
    let rows := (List.range' low count).foldr (fun i rows => Array.setIfInBounds rows i
      (gatherClosed rows size ((step (only i)).without (only i)) (only i)))
      (Array.replicate size 0)
    rows.size = size ∧ ∀ i, low ≤ i → i < size → ∀ j, Leads rows i j ↔ ReflTransGen R i j := by
  induction count generalizing low with
  | zero =>
    refine ⟨Array.size_replicate, fun i hi hsize => ?_⟩
    omega
  | succ count ih =>
    obtain ⟨hsize, hrows⟩ := ih (low + 1) (by omega)
    rw [List.range'_succ, List.foldr_cons]
    generalize (List.range' (low + 1) count).foldr _ _ = rows at *
    refine ⟨by rw [Array.size_setIfInBounds, hsize], fun i hi hlt j => ?_⟩
    rw [Leads, row_setIfInBounds _ (by omega)]
    by_cases hsame : i = low
    · subst hsame
      rw [if_pos rfl]
      exact testBit_newRow hstep hR hlt hrows j
    · rw [if_neg hsame]
      exact hrows i (by omega) hlt j

/-- The row of a position holds what any number of steps reaches. -/
theorem leads_closure (hstep : Along size step R) (hR : Forwards size R) {i : Nat}
    (hi : i < size) (j : Nat) : Leads (closure size step) i j ↔ ReflTransGen R i j := by
  have hrows := leads_foldr hstep hR 0 size (by omega)
  rw [← List.range_eq_range'] at hrows
  exact hrows.2 i (Nat.zero_le i) hi j

theorem size_closure (hstep : Along size step R) (hR : Forwards size R) :
    (closure size step).size = size := by
  have hrows := leads_foldr hstep hR 0 size (by omega)
  rw [← List.range_eq_range'] at hrows
  exact hrows.1

/-- Gathering the rows of a closure leads along walks of any length. -/
theorem along_gatherClosed (hstep : Along size step R) (hR : Forwards size R) :
    Along size (fun s => (closure size step).gatherClosed (closure size step).size s 0)
      (ReflTransGen R) := by
  intro s hs j
  have hclosed : ClosedFrom size 0 (closure size step) :=
    closedFrom_of_leads hR fun i _ hi j => leads_closure hstep hR hi j
  dsimp only
  rw [size_closure hstep hR, testBit_gatherClosed hclosed (by omega) (fun i _ => Nat.zero_le i) hs
    (fun i _ => by simp)]
  simp only [Nat.zero_testBit, Bool.false_eq_true, false_or]
  refine exists_congr fun i => and_congr_right fun hi => ?_
  exact leads_closure hstep hR (hs i hi) j

end Rows

theorem reflTransGen_iff_walk {R : Nat → Nat → Prop} {i j : Nat} :
    Relation.ReflTransGen R i j ↔ ∃ n, Walk R n i j := by
  constructor
  · intro h
    induction h using Relation.ReflTransGen.head_induction_on with
    | refl => exact ⟨0, rfl⟩
    | head hik _ ih =>
      obtain ⟨n, hn⟩ := ih
      exact ⟨n + 1, _, hik, hn⟩
  · rintro ⟨n, hwalk⟩
    induction n generalizing i with
    | zero => exact hwalk ▸ .refl
    | succ n ih =>
      obtain ⟨k, hik, hkj⟩ := hwalk
      exact .head hik (ih hkj)

/-- Some steps, and then any number of others. -/
theorem exists_walk_reflTransGen_iff {R : Nat → Nat → Prop} {n i j : Nat} :
    (∃ k, Walk R n i k ∧ Relation.ReflTransGen R k j) ↔ ∃ m, n ≤ m ∧ Walk R m i j := by
  constructor
  · rintro ⟨k, hik, hkj⟩
    obtain ⟨m, hm⟩ := reflTransGen_iff_walk.mp hkj
    exact ⟨n + m, Nat.le_add_right n m, (walk_add _ _ _ _).mpr ⟨k, hik, hm⟩⟩
  · rintro ⟨m, hm, hwalk⟩
    obtain ⟨m, rfl⟩ := Nat.exists_eq_add_of_le hm
    obtain ⟨k, hik, hkj⟩ := (walk_add _ _ _ _).mp hwalk
    exact ⟨k, hik, reflTransGen_iff_walk.mpr ⟨m, hkj⟩⟩

end BuildTelemetry.Pattern
