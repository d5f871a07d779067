import Mathlib
import BuildTelemetry.Pattern.Reader

/-!
# What readers look at

A reader of patterns looks at the text in front of it and hardly further. Put a closing parenthesis
and more behind a text: as long as it does not get there, a reader does the same with the longer
text as with the text alone. A comment is the exception, since it goes on to the end of its line and
takes what was put there with it.

1. `Uses`: a reader goes forward.
2. `Alike`: a reader does with a text what another one does with the longer text.
-/

namespace BuildTelemetry.Pattern

open Text Reader

variable {α β : Type}

/-! ## 1. Going forward -/

theorem run_bind {r : Reader α} {f : α → Reader β} {st : ReaderState} {x : β × ReaderState} :
    (r >>= f) st = some x ↔ ∃ a st₁, r st = some (a, st₁) ∧ f a st₁ = some x := by
  change (r st).bind (fun p => f p.1 p.2) = some x ↔ _
  rw [Option.bind_eq_some_iff, Prod.exists]

/-- A reader leaves an end of the text that was left before it, without its first `used`
characters. -/
def Uses (used : Nat) (r : Reader α) : Prop :=
  ∀ st a st', r st = some (a, st') → ∃ read, st.rest = read ++ st'.rest ∧ used ≤ read.length

namespace Uses

variable {r : Reader α} {f : α → Reader β} {used more : Nat}

theorem length (h : Uses used r) {st st' : ReaderState} {a : α} (hr : r st = some (a, st')) :
    st'.rest.length + used ≤ st.rest.length := by
  obtain ⟨read, hrest, hused⟩ := h st a st' hr
  rw [hrest, List.length_append]
  omega

theorem mono (h : Uses used r) (hle : more ≤ used) : Uses more r := fun st a st' hr => by
  obtain ⟨read, hrest, hused⟩ := h st a st' hr
  exact ⟨read, hrest, by omega⟩

theorem bind (used more : Nat) (hr : Uses used r) (hf : ∀ a, Uses more (f a)) :
    Uses (more + used) (r >>= f) := by
  intro st b st₂ h
  obtain ⟨a, st₁, hfirst, hsecond⟩ := run_bind.mp h
  obtain ⟨read, hrest, hread⟩ := hr st a st₁ hfirst
  obtain ⟨read', hrest', hread'⟩ := hf a st₁ b st₂ hsecond
  refine ⟨read ++ read', ?_, ?_⟩
  · rw [hrest, hrest', List.append_assoc]
  · rw [List.length_append]
    omega

theorem refuse (used : Nat) : Uses used (Reader.refuse : Reader α) := fun _ _ _ h => by cases h

theorem pure (a : α) : Uses 0 (Pure.pure a : Reader α) := fun _ _ _ h => by
  cases h
  exact ⟨[], rfl, Nat.le_refl 0⟩

end Uses

/-! ## 2. Doing alike -/

/-- The state with more text behind what is left. -/
def ReaderState.extend (st : ReaderState) (t : List Char) : ReaderState :=
  { st with rest := st.rest ++ t }

/-- A closing parenthesis with text behind it that ends neither a comment nor the name of a
class. -/
structure Closing (t : List Char) : Prop where
  head : t.head? = some ')'
  line : '\n' ∉ t
  colon : ':' ∉ t

theorem Closing.exists_eq {t : List Char} (h : Closing t) : ∃ u, t = ')' :: u :=
  List.head?_eq_some_iff.mp h.head

/-- With up to `size` characters left, `r'` does what `r` does. It does the same with the text `t`
behind them, as long as `slack` of these characters are left afterwards. In a comment all of the
text behind may be taken as well. -/
structure Alike (t : List Char) (size slack used : Nat) (r r' : Reader α) : Prop where
  uses : Uses used r
  uses' : Uses used r'
  agree : ∀ st, st.rest.length ≤ size → r st = r' st
  ahead : Closing t → ∀ st a st', st.rest.length ≤ size → r st = some (a, st') →
    slack ≤ st'.rest.length →
      r' (st.extend t) = some (a, st'.extend t) ∨
        st'.rest = [] ∧ r' (st.extend t) = some (a, st')
  back : Closing t → ∀ st a st₂, st.rest.length ≤ size → r' (st.extend t) = some (a, st₂) →
    t.length + slack ≤ st₂.rest.length → ∃ st', r st = some (a, st') ∧ st₂ = st'.extend t

namespace Alike

variable {t : List Char} {size slack used : Nat} {r r' : Reader α} {f f' : α → Reader β}

/-- A sequence is alike if its parts are. The first part takes `used` characters and the second
`used'`, which are left behind the first one. -/
theorem seq (used used' : Nat) (hr : Alike t size (slack + used') used r r')
    (hf : ∀ a, Alike t (size - used) slack used' (f a) (f' a)) :
    Alike t size slack (used' + used) (r >>= f) (r' >>= f') where
  uses := .bind used used' hr.uses fun a => (hf a).uses
  uses' := .bind used used' hr.uses' fun a => (hf a).uses'
  agree st hsize := by
    change (r st).bind (fun p => f p.1 p.2) = (r' st).bind fun p => f' p.1 p.2
    rw [← hr.agree st hsize]
    refine Option.bind_congr fun ⟨a, st₁⟩ hfirst => (hf a).agree st₁ ?_
    have := hr.uses.length hfirst
    omega
  ahead ht st b st₂ hsize h hleft := by
    obtain ⟨a, st₁, hfirst, hsecond⟩ := run_bind.mp h
    have hused := hr.uses.length hfirst
    have hused' := (hf a).uses.length hsecond
    rcases hr.ahead ht st a st₁ hsize hfirst (by omega) with hgoes | ⟨hend, hgoes⟩
    · rcases (hf a).ahead ht st₁ b st₂ (by omega) hsecond hleft with hgoes' | ⟨hend', hgoes'⟩
      · exact .inl (run_bind.mpr ⟨a, _, hgoes, hgoes'⟩)
      · exact .inr ⟨hend', run_bind.mpr ⟨a, _, hgoes, hgoes'⟩⟩
    · -- the first part has taken the text behind, so both are at the end
      refine .inr ⟨?_, run_bind.mpr ⟨a, st₁, hgoes, ?_⟩⟩
      · rw [hend, List.length_nil] at hused'
        exact List.length_eq_zero_iff.mp (by omega)
      · rwa [← (hf a).agree st₁ (by simp [hend])]
  back ht st b st₂ hsize h hleft := by
    obtain ⟨a, st₁, hfirst, hsecond⟩ := run_bind.mp h
    have hused' := (hf a).uses'.length hsecond
    obtain ⟨st', hr', rfl⟩ := hr.back ht st a st₁ hsize hfirst (by omega)
    have hused := hr.uses.length hr'
    obtain ⟨st'', hf', rfl⟩ := (hf a).back ht st' b st₂ (by omega) hsecond hleft
    exact ⟨st'', run_bind.mpr ⟨a, st', hr', hf'⟩, rfl⟩

end Alike

section

variable {t : List Char} {size slack : Nat}

end

end BuildTelemetry.Pattern
