import Mathlib.Data.List.Basic
import Mathlib.Tactic.SplitIfs

/-!
# The order of bytes

Text is kept in the order of its characters. This is the order of the bytes that encode it, so lists
of label values are in the lexicographic order of bytes, too.

1. Of two characters the smaller has the smaller bytes, whatever follows them
   (`utf8EncodeChar_append_lt`).
2. The order of texts is that of their bytes (`lt_iff_bytes_lt`), and the order of lists of texts is
   the lexicographic one that comes from it (`lt_iff_bytesBefore`).
-/

namespace BuildTelemetry

/-! ## 1. Characters -/

theorem cons_ofNat_lt {a b : Nat} {x y : List UInt8} (hle : a ≤ b) (hb : b < 256)
    (h : a = b → x < y) : UInt8.ofNat a :: x < UInt8.ofNat b :: y := by
  rw [List.cons_lt_cons_iff, UInt8.lt_iff_toNat_lt, UInt8.toNat_ofNat_of_lt' hb,
    UInt8.toNat_ofNat_of_lt' (Nat.lt_of_le_of_lt hle hb)]
  rcases Nat.lt_or_eq_of_le hle with hlt | heq
  · exact .inl hlt
  · exact .inr ⟨congrArg UInt8.ofNat heq, h heq⟩

/-- The bytes of a smaller character are smaller, and none are the beginning of the other. -/
theorem utf8EncodeChar_append_lt {c d : Char} (h : c < d) (x y : List UInt8) :
    String.utf8EncodeChar c ++ x < String.utf8EncodeChar d ++ y := by
  have hlt : c.val.toNat < d.val.toNat := h
  have hbound : d.val.toNat < 1114112 := by
    rcases d.valid with hd | hd
    · exact Nat.lt_trans hd (by decide)
    · exact hd.2
  unfold String.utf8EncodeChar
  dsimp only
  generalize c.val.toNat = v at *
  generalize d.val.toNat = w at *
  split_ifs
  -- the first byte tells the number of bytes, and more bytes have a greater first one; with the
  -- same number of bytes these are the digits of the two numbers
  all_goals
    simp only [List.cons_append, List.nil_append]
    repeat' first
      | exact absurd hlt (by omega)
      | refine cons_ofNat_lt (by omega) (by omega) fun _ => ?_

/-! ## 2. Texts and lists of texts -/

theorem flatMap_utf8EncodeChar_lt {cs ds : List Char} (h : cs < ds) :
    cs.flatMap String.utf8EncodeChar < ds.flatMap String.utf8EncodeChar := by
  induction cs generalizing ds with
  | nil =>
    cases ds with
    | nil => exact absurd h (List.lt_irrefl _)
    | cons d ds =>
      rw [List.flatMap_nil, List.flatMap_cons]
      cases hd : String.utf8EncodeChar d with
      | nil => exact absurd hd String.utf8EncodeChar_ne_nil
      | cons byte bytes => exact List.nil_lt_cons _ _
  | cons c cs ih =>
    cases ds with
    | nil => exact absurd h (List.not_lt_nil _)
    | cons d ds =>
      rw [List.flatMap_cons, List.flatMap_cons]
      rcases List.cons_lt_cons_iff.mp h with hlt | ⟨rfl, hrest⟩
      · exact utf8EncodeChar_append_lt hlt _ _
      · exact List.append_left_lt (ih hrest)

/-- The bytes that encode a text. -/
def bytesOf (text : String) : List UInt8 := text.toUTF8.data.toList

theorem bytesOf_eq (text : String) : bytesOf text = text.toList.flatMap String.utf8EncodeChar := by
  rw [bytesOf, String.toUTF8_eq_toByteArray, ← String.utf8Encode_toList, List.utf8Encode,
    List.data_toByteArray]

/-- Texts are in the order of their bytes. -/
theorem lt_iff_bytes_lt {a b : String} : a < b ↔ bytesOf a < bytesOf b := by
  rw [bytesOf_eq, bytesOf_eq]
  constructor
  · exact flatMap_utf8EncodeChar_lt
  · intro h
    by_contra hnot
    by_cases hgt : b < a
    · exact List.lt_asymm h (flatMap_utf8EncodeChar_lt hgt)
    · obtain rfl : a = b := Std.Trichotomous.trichotomous (r := (· < ·)) a b hnot hgt
      exact List.lt_irrefl _ h

/-- Lists of texts in the lexicographic order of their bytes. -/
def BytesBefore : List String → List String → Prop := List.Lex fun a b => bytesOf a < bytesOf b

theorem lt_iff_bytesBefore {as bs : List String} : as < bs ↔ BytesBefore as bs := by
  have hsame : (fun a b : String => a < b) = fun a b => bytesOf a < bytesOf b :=
    funext fun _ => funext fun _ => propext lt_iff_bytes_lt
  rw [BytesBefore, ← hsame]
  rfl

end BuildTelemetry
