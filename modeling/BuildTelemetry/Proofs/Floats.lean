import Mathlib

/-!
# Floats without a sign

A float is packed into bits and unpacked again for each operation. Whole numbers have no negative
sign, and neither have the products and quotients of floats without one. Whole numbers are numbers,
too.

* `Unsigned.unpack_pack`: packing keeps the sign.
* `Unsigned.mul`, `Unsigned.div`: so do the operations before they pack their result.
* `isNaN_unpack_pack`: packing keeps numbers.
* `NotNegative`: the same for floats, with `notNegative_toFloat` and `isNaN_toFloat` for whole
  numbers.
-/

namespace BuildTelemetry

/-! ## 1. Unpacked floats -/

section Unpacked

open Float.Model
open Float.Model.UnpackedFloat (Sign Accuracy)

/-- An unpacked float without a negative sign. What is not a number has no sign. -/
def Unsigned : UnpackedFloat → Prop
  | .notANumber => True
  | .infinity s | .zero s | .finite s _ _ _ => s = .positive

theorem unsigned_unpack {spec : Format} {bits : BitVec spec.numBits}
    (h : UnpackedFloat.unpackSign bits = 0#1) : Unsigned (UnpackedFloat.unpack spec bits) := by
  have hsign : Sign.ofBitVec (UnpackedFloat.unpackSign bits) = .positive := if_pos h
  unfold UnpackedFloat.unpack
  dsimp only
  rw [hsign]
  split
  · split <;> trivial
  · split
    · split <;> rfl
    · rfl

namespace Unsigned

variable {spec : Format} {u v : UnpackedFloat}

theorem unpackSign_pack (h : Unsigned u) :
    UnpackedFloat.unpackSign (UnpackedFloat.pack spec u) = 0#1 := by
  cases u with
  | notANumber => exact UnpackedFloat.unpackSign_packComponents .positive _ _
  | infinity s | zero s =>
    obtain rfl : s = .positive := h
    exact UnpackedFloat.unpackSign_packComponents .positive _ _
  | finite s m e hm =>
    obtain rfl : s = .positive := h
    unfold UnpackedFloat.pack
    dsimp only
    split
    · exact UnpackedFloat.unpackSign_packComponents .positive _ _
    · split <;> exact UnpackedFloat.unpackSign_packComponents .positive _ _

/-- Packing keeps the sign. -/
theorem unpack_pack (h : Unsigned u) :
    Unsigned (UnpackedFloat.unpack spec (UnpackedFloat.pack spec u)) :=
  unsigned_unpack h.unpackSign_pack

/-- Rounding keeps the sign. -/
theorem roundWithAccuracy (m : Nat) (e : Int) (accuracy : Accuracy) :
    Unsigned (UnpackedFloat.roundWithAccuracy spec .positive m e accuracy) := by
  unfold UnpackedFloat.roundWithAccuracy
  dsimp only
  split <;> rfl

theorem mul (hu : Unsigned u) (hv : Unsigned v) : Unsigned (UnpackedFloat.mul spec u v) := by
  cases u <;> cases v
  case finite.finite =>
    obtain ⟨rfl, rfl⟩ := And.intro hu hv
    exact roundWithAccuracy ..
  -- all others are infinite, zero or not a number, with the product of the signs
  all_goals first
    | trivial
    | obtain ⟨rfl, rfl⟩ := And.intro hu hv
      rfl

theorem div (hu : Unsigned u) (hv : Unsigned v) : Unsigned (UnpackedFloat.div spec u v) := by
  cases u <;> cases v
  case finite.finite =>
    obtain ⟨rfl, rfl⟩ := And.intro hu hv
    exact roundWithAccuracy ..
  all_goals first
    | trivial
    | obtain ⟨rfl, rfl⟩ := And.intro hu hv
      rfl

theorem ofNat (n : Nat) : Unsigned (UnpackedFloat.ofNat spec n) := by
  unfold UnpackedFloat.ofNat UnpackedFloat.ofInt UnpackedFloat.normalize
  split
  · next hlt =>
    have hnegative : (n : Int) < 0 := Int.compare_eq_lt.mp hlt
    omega
  · rfl
  · exact roundWithAccuracy ..

end Unsigned

/-! ### Numbers -/

section Numbers

variable {spec : Format} {u : UnpackedFloat}

/-- What has the greatest exponent only with an empty mantissa is a number. -/
theorem isNaN_unpack {bits : BitVec spec.numBits}
    (h : UnpackedFloat.unpackExponent bits = -1#_ → UnpackedFloat.unpackMantissa bits = 0#_) :
    (UnpackedFloat.unpack spec bits).isNaN = false := by
  unfold UnpackedFloat.unpack
  dsimp only
  split
  · next hexponent =>
    rw [if_pos (h hexponent)]
    rfl
  · split
    · split <;> rfl
    · rfl

/-- Packing keeps numbers. -/
theorem isNaN_unpack_pack (h : u.isNaN = false) :
    (UnpackedFloat.unpack spec (UnpackedFloat.pack spec u)).isNaN = false := by
  refine isNaN_unpack fun hgreatest => ?_
  have hzero : (0#_ : BitVec spec.exponentBits) ≠ -1#_ := by
    simp [Nat.pos_iff_ne_zero.mp spec.he]
  fun_cases UnpackedFloat.pack with
  | case1 => cases h
  | case2 | case4 => simp [UnpackedFloat.packedInfinity]
  | case3 => simp [UnpackedFloat.packedZero]
  | case5 s m e hm bits exponent hle hbits =>
    -- a greater exponent would have been packed as infinity
    rw [UnpackedFloat.pack, if_neg hle, if_pos hbits, UnpackedFloat.unpackExponent_packComponents,
      BitVec.neg_one_eq_allOnes, ← BitVec.toNat_inj, BitVec.toNat_ofNat, BitVec.toNat_allOnes,
      Nat.mod_eq_of_lt (by omega)] at hgreatest
    omega
  | case6 s m e hm bits exponent hle hbits =>
    rw [UnpackedFloat.pack, if_neg hle, if_neg hbits,
      UnpackedFloat.unpackExponent_packComponents] at hgreatest
    exact absurd hgreatest hzero

theorem isNaN_roundWithAccuracy (s : Sign) (m : Nat) (e : Int) (accuracy : Accuracy) :
    (UnpackedFloat.roundWithAccuracy spec s m e accuracy).isNaN = false := by
  unfold UnpackedFloat.roundWithAccuracy
  dsimp only
  split <;> rfl

theorem isNaN_ofNat (n : Nat) : (UnpackedFloat.ofNat spec n).isNaN = false := by
  unfold UnpackedFloat.ofNat UnpackedFloat.ofInt UnpackedFloat.normalize
  split
  · exact isNaN_roundWithAccuracy ..
  · rfl
  · exact isNaN_roundWithAccuracy ..

end Numbers

end Unpacked

/-! ## 2. Floats -/

theorem isNaN_toFloat (n : UInt64) : n.toFloat.isNaN = false :=
  isNaN_unpack_pack (isNaN_ofNat n.toNat)

/-- A float without a negative sign. -/
def NotNegative (a : Float) : Prop := Unsigned a.toModel.unpack

theorem notNegative_toFloat (n : UInt64) : NotNegative n.toFloat :=
  (Unsigned.ofNat n.toNat).unpack_pack

theorem NotNegative.mul {a b : Float} (ha : NotNegative a) (hb : NotNegative b) :
    NotNegative (a * b) :=
  Unsigned.unpack_pack (Unsigned.mul ha hb)

theorem NotNegative.div {a b : Float} (ha : NotNegative a) (hb : NotNegative b) :
    NotNegative (a / b) :=
  Unsigned.unpack_pack (Unsigned.div ha hb)

end BuildTelemetry
