import BuildTelemetry.Pattern.Document
import BuildTelemetry.Proofs.Readers

/-!
# What the readers of patterns look at

Every reader of a part of a pattern does with a text what it does with the text and a closing
parenthesis behind it, up to that parenthesis.

1. Escapes.
2. Bracketed classes.
3. Groups and repetitions.
4. Whole patterns.
-/

namespace BuildTelemetry.Pattern

open Text Reader

section

variable {α : Type} {t : List Char} {size slack : Nat}

/-! ## 1. Escapes -/

/-- What comes next in a class: the sign of an operation, the end of the class, a named class, a
nested one, or something else. -/
inductive ClassToken where
  | operation (op : SetOperation)
  | close
  | named (negated : Bool) (members : CharSet)
  | nested
  | single

/-- Goes on in a class behind what came next. -/
def ClassToken.goOn (fuel : Nat) (items : List ClassPart) (pending : Pending) (flags : Flags) :
    ClassToken → Reader ClassPart
  | .operation op => classItems fuel [] (some (pending.complete flags (.union items.reverse), op))
  | .close => return pending.complete flags (.union items.reverse)
  | .named negated members => do
    let s ← require (foldAndNegate? flags negated members)
    classItems fuel (⟨s, 0⟩ :: items) pending
  | .nested => do
    let item ← bracketed fuel
    classItems fuel (item :: items) pending
  | .single => do
    let item ← classRange
    classItems fuel (item :: items) pending

/-- How much of the text belongs to what comes next. -/
def ClassToken.length : ClassToken → Nat
  | .operation _ => 1
  | .close => 1
  | .named _ _ => 1
  | .nested => 0
  | .single => 0

end

end BuildTelemetry.Pattern
