import Mathlib
import BuildTelemetry.Metric.Measure

/-!
# Scaling whole numbers

A usage in KiB becomes one in bytes by a product of floats. A whole number becomes a float by
rounding it to 53 bits, and the product with a power of two is not rounded once more: it is the
float of the greater whole number (`kibiBytes_eq`).

1. Rounding. Bits that are shifted out without a trace might as well be in the exponent
   (`roundWithAccuracy_mul_two_pow`), what has enough bits is rounded to 53 of them
   (`exists_roundWithAccuracy`), and then it is not rounded any more
   (`roundWithAccuracy_of_log2_eq`). All of this is far from the smallest floats.
2. Packing keeps a float of 53 bits (`unpack_pack_of_log2_eq`).
3. Whole numbers. All products of a whole number and a power of two have one mantissa
   (`exists_ofNat_mul_two_pow`), so the product can be taken of the floats (`ofModel_ofNat_mul`).
-/

namespace BuildTelemetry

open Float.Model
open Float.Model.UnpackedFloat (Sign Accuracy ExtendedMantissa)

/-! ## 1. Rounding -/

/-- A mantissa without bits behind it. -/
def wholeMantissa (m : Nat) : ExtendedMantissa := ⟨m, false, false⟩

section Shifts

variable (em : ExtendedMantissa)

theorem shiftRight_succ (n : Nat) : em >>> (n + 1) = (em >>> n).shiftRightOne := rfl

theorem shiftRight_add (k n : Nat) : em >>> (k + n) = (em >>> k) >>> n := by
  induction n with
  | zero => rfl
  | succ n ih => rw [← Nat.add_assoc, shiftRight_succ, shiftRight_succ, ih]

theorem mantissa_shiftRight (n : Nat) : (em >>> n).mantissa = em.mantissa / 2 ^ n := by
  induction n with
  | zero => exact (Nat.div_one _).symm
  | succ n ih =>
    rw [shiftRight_succ, pow_succ, ← Nat.div_div_eq_div_mul, ← ih]
    rfl

theorem wholeMantissa_shiftRight (m k : Nat) :
    wholeMantissa (m * 2 ^ k) >>> k = wholeMantissa m := by
  induction k generalizing m with
  | zero => exact congrArg wholeMantissa (mul_one m)
  | succ k ih =>
    rw [shiftRight_succ, pow_succ', ← mul_assoc, ih]
    simp [wholeMantissa, ExtendedMantissa.shiftRightOne]

theorem roundedMantissa_bounds :
    em.mantissa ≤ em.roundedMantissa ∧ em.roundedMantissa ≤ em.mantissa + 1 := by
  rcases em with ⟨m, _ | _, _ | _⟩ <;>
    simp only [ExtendedMantissa.roundedMantissa, ExtendedMantissa.accuracy,
      Accuracy.roundToNearestEven] <;> omega

end Shifts

section Bits

variable {m : Nat}

theorem log2_mul_two_pow (hm : m ≠ 0) (k : Nat) : (m * 2 ^ k).log2 = m.log2 + k := by
  induction k with
  | zero => rw [pow_zero, mul_one, add_zero]
  | succ k ih =>
    rw [pow_succ', ← mul_assoc, mul_comm m 2, mul_assoc, Nat.log2_two_mul (by positivity), ih]
    rfl

/-- The bits from the 53rd on are shifted out. -/
theorem log2_div_two_pow (hm : 52 ≤ m.log2) : (m / 2 ^ (m.log2 - 52)).log2 = 52 := by
  have hne : m ≠ 0 := by
    rintro rfl
    simp at hm
  obtain ⟨hle, hlt⟩ := (Nat.log2_eq_iff hne).mp rfl
  have hsplit : 2 ^ m.log2 = 2 ^ 52 * 2 ^ (m.log2 - 52) := by
    rw [← pow_add, Nat.add_sub_cancel' hm]
  have hpos : 0 < 2 ^ (m.log2 - 52) := by positivity
  have hlow : 2 ^ 52 ≤ m / 2 ^ (m.log2 - 52) := by
    rw [Nat.le_div_iff_mul_le hpos, ← hsplit]
    exact hle
  have hhigh : m / 2 ^ (m.log2 - 52) < 2 ^ (52 + 1) := by
    rw [Nat.div_lt_iff_lt_mul hpos, pow_succ, mul_right_comm, ← hsplit, ← pow_succ]
    exact hlt
  exact (Nat.log2_eq_iff (by omega)).mpr ⟨hlow, hhigh⟩

end Bits

section Rounding

variable {m : Nat} {e : Int}

/-- The exponent that leaves 53 bits of a mantissa. -/
theorem targetExponent_eq (he : -1000 ≤ e) :
    Format.binary64.targetExponent (totalExponent m e) = m.log2 + e - 52 := by
  have hbits : (Format.binary64.mantissaBits : Int) = 53 := rfl
  have hmin : Format.binary64.minExponent = -1074 := rfl
  rw [Format.targetExponent, totalExponent, hbits, hmin]
  omega

theorem shiftToTargetExponent_eq (he : -1000 ≤ e) (m : Nat) :
    UnpackedFloat.shiftToTargetExponent .binary64 m e .exact =
      (wholeMantissa m >>> (m.log2 - 52), e + (m.log2 - 52 : Nat)) := by
  have hamount : ((m.log2 : Int) + e - 52 - e).toNat = m.log2 - 52 := by omega
  unfold UnpackedFloat.shiftToTargetExponent UnpackedFloat.shiftToExponent
  rw [targetExponent_eq he]
  dsimp only
  rw [hamount]
  rfl

/-- Bits that are shifted out without a trace might as well be in the exponent. -/
theorem roundWithAccuracy_mul_two_pow (hm : 52 ≤ m.log2) (he : -1000 ≤ e) (s : Sign) (k : Nat) :
    UnpackedFloat.roundWithAccuracy .binary64 s (m * 2 ^ k) e .exact =
      UnpackedFloat.roundWithAccuracy .binary64 s m (e + k) .exact := by
  have hne : m ≠ 0 := by
    rintro rfl
    simp at hm
  have hshift : UnpackedFloat.shiftToTargetExponent .binary64 (m * 2 ^ k) e .exact =
      UnpackedFloat.shiftToTargetExponent .binary64 m (e + k) .exact := by
    have hsplit : m.log2 + k - 52 = k + (m.log2 - 52) := by omega
    rw [shiftToTargetExponent_eq he, shiftToTargetExponent_eq (by omega), log2_mul_two_pow hne,
      hsplit, shiftRight_add, wholeMantissa_shiftRight, Nat.cast_add, add_assoc]
  unfold UnpackedFloat.roundWithAccuracy
  rw [hshift]

/-- A mantissa of 53 bits is not rounded. -/
theorem roundWithAccuracy_of_log2_eq (hm : m.log2 = 52) (he : -1000 ≤ e) (s : Sign)
    (hpos : 0 < m) :
    UnpackedFloat.roundWithAccuracy .binary64 s m e .exact = .finite s m e hpos := by
  have hshift :
      UnpackedFloat.shiftToTargetExponent .binary64 m e .exact = (wholeMantissa m, e) := by
    rw [shiftToTargetExponent_eq he, hm]
    exact Prod.ext rfl (add_zero e)
  have hrounded : (wholeMantissa m).roundedMantissa = m := rfl
  unfold UnpackedFloat.roundWithAccuracy
  rw [hshift]
  dsimp only
  rw [hrounded, hshift]
  exact dif_neg hpos.ne'

/-- The product with a power of two only has a greater exponent. -/
theorem mul_two_pow (hm : m.log2 = 52) (he : -900 ≤ e) (hpos : 0 < m) (j : Nat) :
    UnpackedFloat.mul .binary64 (.finite .positive m e hpos)
        (.finite .positive (2 ^ 52) (-52 + j) (by positivity)) =
      .finite .positive m (e + j) hpos := by
  have hexponent : e + (-52 + j) + (52 : Nat) = e + j := by omega
  have hround := roundWithAccuracy_mul_two_pow (e := e + (-52 + j)) hm.ge (by omega) .positive 52
  rw [hexponent, roundWithAccuracy_of_log2_eq hm (by omega) .positive hpos] at hround
  exact hround

/-- A mantissa with enough bits is rounded to 53 of them, whatever the exponent is. -/
theorem exists_roundWithAccuracy (hm : 52 ≤ m.log2) :
    ∃ (m' d : Nat) (hpos : 0 < m'), m'.log2 = 52 ∧ d ≤ m.log2 ∧ ∀ (s : Sign) (e : Int),
      -1000 ≤ e → UnpackedFloat.roundWithAccuracy .binary64 s m e .exact =
        .finite s m' (e + d) hpos := by
  have hbits : (m / 2 ^ (m.log2 - 52)).log2 = 52 := log2_div_two_pow hm
  have hne : m / 2 ^ (m.log2 - 52) ≠ 0 := by
    intro hzero
    simp [hzero] at hbits
  obtain ⟨hle, hlt⟩ := (Nat.log2_eq_iff hne).mp hbits
  have hmantissa : (wholeMantissa m >>> (m.log2 - 52)).mantissa = m / 2 ^ (m.log2 - 52) :=
    mantissa_shiftRight ..
  obtain ⟨hlow, hhigh⟩ := roundedMantissa_bounds (wholeMantissa m >>> (m.log2 - 52))
  rw [hmantissa] at hlow hhigh
  -- rounding may leave one more bit than 53, which is shifted out
  generalize hr : (wholeMantissa m >>> (m.log2 - 52)).roundedMantissa = r at hlow hhigh
  have hrne : r ≠ 0 := (Nat.pos_of_ne_zero hne |>.trans_le hlow).ne'
  have hrlow : 52 ≤ r.log2 := (Nat.le_log2 hrne).mpr (hle.trans hlow)
  have hrhigh : r.log2 < 54 := (Nat.log2_lt hrne).mpr (by omega)
  have hfinal : (r / 2 ^ (r.log2 - 52)).log2 = 52 := log2_div_two_pow hrlow
  have hpos : 0 < r / 2 ^ (r.log2 - 52) := by
    refine Nat.pos_of_ne_zero fun hzero => ?_
    simp [hzero] at hfinal
  refine ⟨_, (m.log2 - 52) + (r.log2 - 52), hpos, hfinal, by omega, fun s e he => ?_⟩
  unfold UnpackedFloat.roundWithAccuracy
  rw [shiftToTargetExponent_eq he]
  dsimp only
  rw [hr, shiftToTargetExponent_eq (by omega)]
  dsimp only
  simp only [mantissa_shiftRight]
  rw [Nat.cast_add, ← add_assoc]
  exact dif_neg hpos.ne'

end Rounding

/-! ## 2. Packing -/

section Packing

variable {spec : Format}

/-- The first bit of a mantissa is not packed. -/
theorem toNat_one_append_ofNat {m w : Nat} (hpos : 0 < m) (hm : m.log2 = w) :
    (1#1 ++ BitVec.ofNat w m).toNat = m := by
  obtain ⟨hle, hlt⟩ := (Nat.log2_eq_iff hpos.ne').mp hm
  rw [pow_succ] at hlt
  have hrest : (BitVec.ofNat w m).toNat = m - 2 ^ w := by
    rw [BitVec.toNat_ofNat, Nat.mod_eq_sub_mod hle, Nat.mod_eq_of_lt (by omega)]
  have hfirst : (1#1).toNat <<< w = 2 ^ w := by
    rw [Nat.shiftLeft_eq]
    exact one_mul _
  rw [BitVec.toNat_append, hrest, ← Nat.shiftLeft_add_eq_or_of_lt (by omega), hfirst]
  omega

theorem unpack_packComponents {exponent : BitVec spec.exponentBits} (s : Sign)
    (mantissa : BitVec spec.mantissaBitsWithoutImplicit) (hgreatest : exponent ≠ -1#_)
    (hzero : exponent ≠ 0#_) :
    UnpackedFloat.unpack spec (UnpackedFloat.packComponents spec s exponent mantissa) =
      .finite s (1#1 ++ mantissa).toNat
        (exponent.toNat - (spec.exponentBias + spec.mantissaBitsWithoutImplicit)) (by simp) := by
  have hsign : Sign.ofBitVec s.toBitVec = s := by cases s <;> rfl
  unfold UnpackedFloat.unpack
  simp only [UnpackedFloat.unpackExponent_packComponents,
    UnpackedFloat.unpackMantissa_packComponents, UnpackedFloat.unpackSign_packComponents,
    if_neg hgreatest, if_neg hzero, hsign]

/-- Packing keeps what has all bits of the format and an exponent between the smallest and the
greatest. -/
theorem unpack_pack_of_log2_eq {s : Sign} {m : Nat} {e : Int} {hpos : 0 < m}
    (hm : m.log2 = spec.mantissaBitsWithoutImplicit)
    (hlow : 0 < e + spec.exponentBias + spec.mantissaBitsWithoutImplicit)
    (hhigh : e + spec.exponentBias + spec.mantissaBitsWithoutImplicit + 1 <
      (2 ^ spec.exponentBits : Nat)) :
    UnpackedFloat.unpack spec (UnpackedFloat.pack spec (.finite s m e hpos)) =
      .finite s m e hpos := by
  obtain ⟨biased, hbiased⟩ := Int.eq_ofNat_of_zero_le hlow.le
  have htoNat : (BitVec.ofNat spec.exponentBits biased).toNat = biased := by
    rw [BitVec.toNat_ofNat, Nat.mod_eq_of_lt (by omega)]
  have hgreatest : BitVec.ofNat spec.exponentBits biased ≠ -1#_ := by
    rw [BitVec.neg_one_eq_allOnes, ne_eq, ← BitVec.toNat_inj, htoNat, BitVec.toNat_allOnes]
    omega
  have hzero : BitVec.ofNat spec.exponentBits biased ≠ 0#_ := by
    rw [ne_eq, ← BitVec.toNat_inj, htoNat, BitVec.toNat_zero]
    omega
  have hbits : m.log2 + 1 = spec.mantissaBits := by rw [hm, Format.mantissaBits, Nat.add_comm]
  have hpack : UnpackedFloat.pack spec (.finite s m e hpos) =
      UnpackedFloat.packComponents spec s (BitVec.ofNat _ biased) (BitVec.ofNat _ m) := by
    unfold UnpackedFloat.pack
    dsimp only
    rw [hbiased, Int.toNat_natCast, if_neg (by omega), if_pos hbits]
  rw [hpack, unpack_packComponents s _ hgreatest hzero]
  congr 1
  · exact toNat_one_append_ofNat hpos hm
  · omega

end Packing

/-! ## 3. Whole numbers -/

section Whole

variable {n : Nat}

/-- A whole number is rounded with 52 zeros behind it, which are enough bits. -/
theorem ofNat_eq_roundWithAccuracy (hn : n ≠ 0) :
    UnpackedFloat.ofNat .binary64 n =
      UnpackedFloat.roundWithAccuracy .binary64 .positive (n * 2 ^ 52) (-52) .exact := by
  have hround : UnpackedFloat.ofNat .binary64 n = UnpackedFloat.round .binary64 .positive n 0 := by
    have hcompare : compare (n : Int) 0 = .gt := Int.compare_eq_gt.mpr (by omega)
    unfold UnpackedFloat.ofNat UnpackedFloat.ofInt UnpackedFloat.normalize
    rw [hcompare]
    rfl
  -- rounding itself puts only as many zeros behind it as are needed
  rw [hround, UnpackedFloat.round, targetExponent_eq (by omega)]
  unfold UnpackedFloat.decreaseExponent
  dsimp only
  generalize hz : (0 - ((n.log2 : Int) + 0 - 52)).toNat = z
  have hlog : (n * 2 ^ z).log2 = n.log2 + z := log2_mul_two_pow hn z
  have hzeros : n * 2 ^ 52 = n * 2 ^ z * 2 ^ (52 - z) := by
    rw [mul_assoc, ← pow_add, Nat.add_sub_cancel' (by omega)]
  have hexponent : (-52 : Int) + (52 - z : Nat) = 0 - z := by omega
  rw [hzeros, roundWithAccuracy_mul_two_pow (by omega) (by omega), hexponent, Nat.shiftLeft_eq]

/-- The products of a whole number and the powers of two differ in their exponents only. -/
theorem exists_ofNat_mul_two_pow (hn : n ≠ 0) :
    ∃ (m d : Nat) (hpos : 0 < m), m.log2 = 52 ∧ d ≤ n.log2 + 52 ∧
      ∀ j : Nat, UnpackedFloat.ofNat .binary64 (n * 2 ^ j) =
        .finite .positive m (-52 + j + d) hpos := by
  have hlog : (n * 2 ^ 52).log2 = n.log2 + 52 := log2_mul_two_pow hn 52
  obtain ⟨m, d, hpos, hm, hd, hround⟩ := exists_roundWithAccuracy (hlog ▸ Nat.le_add_left 52 n.log2)
  refine ⟨m, d, hpos, hm, hlog ▸ hd, fun j => ?_⟩
  rw [ofNat_eq_roundWithAccuracy (by positivity), mul_right_comm,
    roundWithAccuracy_mul_two_pow (by omega) (by omega), hround _ _ (by omega)]

/-- Packing keeps what a whole number of a word is rounded to. -/
theorem unpack_ofNat (hn : n ≠ 0) (hsmall : n < 2 ^ 64) :
    (Float.Model.ofNat n).unpack = UnpackedFloat.ofNat .binary64 n := by
  have hlog : n.log2 < 64 := (Nat.log2_lt hn).mpr hsmall
  obtain ⟨m, d, hpos, hm, hd, hofNat⟩ := exists_ofNat_mul_two_pow hn
  have hfinite : UnpackedFloat.ofNat .binary64 n = .finite .positive m (-52 + d) hpos := by
    simpa using hofNat 0
  have hbias : (Format.binary64.exponentBias : Int) = 1023 := rfl
  have hwidth : (Format.binary64.mantissaBitsWithoutImplicit : Int) = 52 := rfl
  have hgreatest : 2 ^ Format.binary64.exponentBits = 2048 := rfl
  rw [Float.Model.unpack, Float.Model.ofNat, hfinite]
  refine unpack_pack_of_log2_eq hm ?_ ?_ <;> rw [hbias, hwidth]
  · omega
  · rw [hgreatest]
    omega

/-- The product of a whole number and a power of two can be taken of their floats. -/
theorem ofModel_ofNat_mul (hsmall : n < 2 ^ 64) {j : Nat} {b : Float}
    (hb : b.toModel.unpack = .finite .positive (2 ^ 52) (-52 + j) (by positivity)) :
    Float.ofModel (.ofNat n) * b = Float.ofModel (.ofNat (n * 2 ^ j)) := by
  have hmul : Float.ofModel (.ofNat n) * b = Float.ofModel (.pack
      (UnpackedFloat.mul .binary64 (Float.Model.ofNat n).unpack b.toModel.unpack)) := rfl
  rw [hmul, hb]
  rcases eq_or_ne n 0 with rfl | hn
  · rw [zero_mul]
    rfl
  · obtain ⟨m, d, hpos, hm, hd, hofNat⟩ := exists_ofNat_mul_two_pow hn
    have hfinite : UnpackedFloat.ofNat .binary64 n = .finite .positive m (-52 + d) hpos := by
      simpa using hofNat 0
    rw [unpack_ofNat hn hsmall, hfinite, mul_two_pow hm (by omega), add_right_comm, ← hofNat]
    rfl

/-- A decimal number without a fraction is the whole number. -/
theorem ofScientific_zero (hn : n ≠ 0) :
    UnpackedFloat.ofScientific .binary64 n 0 = UnpackedFloat.ofNat .binary64 n := by
  have hlog : (n * 2 ^ 52).log2 = n.log2 + 52 := log2_mul_two_pow hn 52
  have hpositive : (0 : Int) ≤ 2 ^ Format.binary64.exponentBits := by positivity
  have hshift : n <<< Format.binary64.mantissaBits * 10 ^ (0 : Int).toNat =
      n * 2 ^ 52 * 2 ^ 1 := by
    rw [Nat.shiftLeft_eq, mul_assoc, mul_assoc]
    rfl
  have hround := roundWithAccuracy_mul_two_pow (e := -53) (hlog ▸ Nat.le_add_left 52 n.log2)
    (by omega) .positive 1
  rw [ofNat_eq_roundWithAccuracy hn]
  refine Eq.trans ?_ hround
  unfold UnpackedFloat.ofScientific
  rw [dif_neg hn, if_neg (by omega), if_neg (by omega), if_pos le_rfl, UnpackedFloat.mul, hshift]
  rfl

/-- A whole number becomes the float that it is rounded to. -/
theorem toFloat_eq_ofNat (n : Nat) : n.toFloat = Float.ofModel (.ofNat n) := by
  rcases eq_or_ne n 0 with rfl | hn
  · rfl
  show Float.ofScientific n false 0 = _
  unfold Float.ofScientific
  split
  · next h =>
    -- few bits are converted at once, and multiplied by one
    have hword : n.toUInt64.toFloat = Float.ofModel (.ofNat n.toUInt64.toNat) := rfl
    have hsame : n.toUInt64.toNat = n := UInt64.toNat_ofNat_of_lt' (h.1.trans (by decide))
    have hone : Float.exactlyRepresentablePowersOfTen[0].toModel.unpack =
      .finite .positive (2 ^ 52) (-52 + (0 : Nat)) (by decide) := rfl
    dsimp only
    rw [if_neg Bool.false_ne_true, hword, hsame, ofModel_ofNat_mul (by omega) hone, pow_zero,
      mul_one]
  · exact congrArg (fun u => Float.ofModel (.pack u)) (ofScientific_zero hn)

end Whole

/-- A usage in KiB is shown as the float next to the whole number of bytes. -/
theorem kibiBytes_eq (kib : UInt64) : kibiBytes kib = (kib.toNat * 1024).toFloat := by
  have hword : kib.toFloat = Float.ofModel (.ofNat kib.toNat) := rfl
  have hfactor : (1024.0 : Float).toModel.unpack =
    .finite .positive (2 ^ 52) (-52 + (10 : Nat)) (by decide) := rfl
  have hpower : 1024 = 2 ^ 10 := rfl
  rw [kibiBytes, hword, ofModel_ofNat_mul kib.toNat_lt hfactor, toFloat_eq_ofNat, hpower]

end BuildTelemetry
