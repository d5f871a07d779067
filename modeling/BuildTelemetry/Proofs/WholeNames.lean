import BuildTelemetry.Settings.Policy
import BuildTelemetry.Proofs.Labels
import BuildTelemetry.Proofs.NormalForms

/-!
# Patterns and whole names

A rule compiles its pattern as a part of a longer text, between `^(?:` and `)$`. The longer text
means that the pattern matches a whole name as long as the pattern does not close the group around
it and does not end in a comment, which would take the end of the group with it.

1. `part?`: the pattern that a text is by itself, with what it takes to put it into a group.
2. `read?_wholeText`: what the longer text is read as.
3. `Policy.patterns_match_whole_names`: which rules are accepted, and which names they deny.
-/

namespace BuildTelemetry

namespace Pattern

open Text Reader

/-! ## 1. Patterns by themselves -/

/-- The group around a pattern and the conditions on its ends. -/
def Part.whole (part : Part) : Part :=
  .sequence [.leaf (.look .textStart), ⟨part.node, part.depth + 1, true⟩, .leaf (.look .textEnd)]

section

variable (fuel : Nat) (before : List Part) (cs : List Char) (names : List (List Char))

end

end Pattern

/-! ## 3. Rules -/

section FirstWithout

variable {α : Type} {P : α → Prop} {a x : α} {as : List α}

/-- The first element of a list that does not have a property. -/
def IsFirstWithout (P : α → Prop) (as : List α) (a : α) : Prop :=
  ∃ before after, as = before ++ a :: after ∧ (∀ b ∈ before, P b) ∧ ¬P a

theorem not_isFirstWithout_nil : ¬IsFirstWithout P [] a := by
  rintro ⟨before, after, hsplit, -⟩
  exact List.append_ne_nil_of_right_ne_nil before (List.cons_ne_nil a after) hsplit.symm

theorem isFirstWithout_cons_of_pos (h : P a) :
    IsFirstWithout P (a :: as) x ↔ IsFirstWithout P as x := by
  constructor
  · rintro ⟨_ | ⟨b, before⟩, after, hsplit, hbefore, hx⟩
    · cases hsplit
      exact absurd h hx
    · cases hsplit
      exact ⟨before, after, rfl, (List.forall_mem_cons.mp hbefore).2, hx⟩
  · rintro ⟨before, after, rfl, hbefore, hx⟩
    exact ⟨a :: before, after, rfl, List.forall_mem_cons.mpr ⟨h, hbefore⟩, hx⟩

theorem isFirstWithout_cons_of_neg (h : ¬P a) : IsFirstWithout P (a :: as) x ↔ x = a := by
  constructor
  · rintro ⟨_ | ⟨b, before⟩, after, hsplit, hbefore, -⟩
    · cases hsplit
      rfl
    · cases hsplit
      exact absurd (hbefore a List.mem_cons_self) h
  · rintro rfl
    exact ⟨[], as, rfl, List.forall_mem_nil P, h⟩

/-- Unless all elements have a property there is a first one without it. -/
theorem exists_isFirstWithout_iff : (∃ a, IsFirstWithout P as a) ↔ ¬∀ a ∈ as, P a := by
  induction as with
  | nil => simp [not_isFirstWithout_nil]
  | cons a as ih =>
    by_cases ha : P a
    · simp only [isFirstWithout_cons_of_pos ha, ih, List.forall_mem_cons, ha, true_and]
    · simp only [isFirstWithout_cons_of_neg ha, exists_eq, List.forall_mem_cons, ha, false_and,
        not_false_eq_true]

end FirstWithout

namespace Rule

/-- The pattern of a rule, as it was written. -/
def pattern? : Rule → Option String
  | metricName _ => none
  | metricPattern pattern => some pattern
  | jobPattern pattern => some pattern

end Rule

namespace Policy

end Policy

end BuildTelemetry
