import Mathlib
import TypedBlocks.Proofs.Number.Digits

/-!
# Whole numbers within the range of doubles

**A whole number below two to the power of 53 is in the range of doubles** (`isSome_scaled?_ofNat`).
The scaling step computes with doubles, so this is about their arithmetic: what is followed through
rounding, packing and multiplication is the exponent alone (`Within`), by bounds that are coarse but
stay far below that of the greatest double.
-/

namespace TypedBlocks

namespace Double

open Float.Model (Format UnpackedFloat)
open Float.Model.UnpackedFloat

/-- Is a double finite, with an exponent of at most `bound`? The exponent is that of its last
place. -/
inductive Within (bound : Int) : UnpackedFloat → Prop
  | zero (s : UnpackedFloat.Sign) : Within bound (.zero s)
  | finite {s : UnpackedFloat.Sign} {m : Nat} {e : Int} (hm : 0 < m) (h : e ≤ bound) :
    Within bound (.finite s m e hm)

/-- What is within a bound is not infinite. -/
theorem Within.isInf {bound : Int} {u : UnpackedFloat} (h : Within bound u) : u.isInf = false := by
  cases h <;> rfl

/-! ## Packing -/

/-- The last place of the smallest double has the exponent -1074, that of the greatest has 970. -/
theorem within_unpack {bound : Int} {b : BitVec Format.binary64.numBits}
    (hexponent : ((unpackExponent b).toNat : Int) ≤ bound + 1075) (hlow : -1074 ≤ bound)
    (hhigh : bound ≤ 970) : Within bound (unpack .binary64 b) := by
  have hfinite : unpackExponent b ≠ -1#_ := by
    intro h
    rw [h] at hexponent
    simp at hexponent
    omega
  simp only [unpack, hfinite, if_false]
  split_ifs with hzero hmantissa
  · exact .zero _
  · refine .finite _ ?_
    simp [hzero, Format.exponentBias]
    omega
  · refine .finite _ ?_
    simp [Format.exponentBias]
    omega

/-- Packing keeps an exponent that fits. -/
theorem Within.pack {bound : Int} {u : UnpackedFloat} (h : Within bound u) (hlow : -1074 ≤ bound)
    (hhigh : bound ≤ 970) : Within bound (Float.Model.pack u).unpack := by
  apply within_unpack _ hlow hhigh
  simp only [Float.Model.pack, UInt64.toBitVec_ofBitVec]
  cases h with
  | zero s =>
    simp [UnpackedFloat.pack, packedZero]
    omega
  | finite hm h =>
    simp only [UnpackedFloat.pack]
    split_ifs with hbig hnormal
    · simp [Format.exponentBias] at hbig
      omega
    · simp [Format.exponentBias] at hbig ⊢
      omega
    · simp
      omega

/-- The mantissa of a double has 53 bits at most. -/
theorem mantissa_lt {b : BitVec Format.binary64.numBits} {s : UnpackedFloat.Sign} {m : Nat}
    {e : Int} {hm : 0 < m} (h : unpack .binary64 b = .finite s m e hm) : m < 2 ^ 53 := by
  simp only [unpack] at h
  split_ifs at h
  · cases h
    exact Nat.lt_of_lt_of_le (BitVec.isLt _) (by decide)
  · cases h
    exact BitVec.isLt _

/-! ## Rounding -/

theorem mantissa_shiftRight_le (em : ExtendedMantissa) (k : Nat) :
    (em >>> k).mantissa ≤ em.mantissa := by
  change (k.repeat ExtendedMantissa.shiftRightOne em).mantissa ≤ em.mantissa
  induction k with
  | zero => exact Nat.le_refl _
  | succ k ih => exact Nat.le_trans (Nat.div_le_self _ 2) ih

/-- Rounding adds one to the mantissa at most. -/
theorem roundedMantissa_le (em : ExtendedMantissa) : em.roundedMantissa ≤ em.mantissa + 1 := by
  obtain ⟨m, roundBit, stickyBit⟩ := em
  cases roundBit <;> cases stickyBit <;>
    simp only [ExtendedMantissa.roundedMantissa, ExtendedMantissa.accuracy,
      Accuracy.roundToNearestEven] <;> omega

theorem log2_le_of_lt {m bits : Nat} (h : m < 2 ^ (bits + 1)) : m.log2 ≤ bits := by
  by_cases hm : m = 0
  · simp [hm]
  · exact Nat.le_of_lt_succ ((Nat.log2_lt hm).mpr h)

theorem targetExponent_le {m bits : Nat} {e bound : Int} (hm : m < 2 ^ (bits + 1))
    (he : e ≤ bound) (hbound : 0 ≤ bound) :
    Format.binary64.targetExponent (Float.Model.totalExponent m e) ≤ bound + bits := by
  have hlog := log2_le_of_lt hm
  simp only [Format.targetExponent, Float.Model.totalExponent, Format.mantissaBits,
    Format.minExponent]
  omega

/-- Shifting to the exponent that a format asks for makes the mantissa no greater, and raises the
exponent by no more than the length of the mantissa. -/
theorem shiftToTargetExponent_le {m bits : Nat} {e bound : Int} (a : Accuracy)
    (hm : m < 2 ^ (bits + 1)) (he : e ≤ bound) (hbound : 0 ≤ bound) :
    (shiftToTargetExponent .binary64 m e a).1.mantissa ≤ m ∧
      (shiftToTargetExponent .binary64 m e a).2 ≤ bound + bits := by
  have htarget := targetExponent_le hm he hbound
  constructor
  · refine Nat.le_trans (mantissa_shiftRight_le _ _) (Nat.le_of_eq ?_)
    cases a with
    | exact => rfl
    | inexact o => cases o <;> rfl
  · simp only [shiftToTargetExponent, shiftToExponent]
    omega

/-- A mantissa is shifted twice, in between it grows by one at most. -/
theorem within_roundWithAccuracy {m bits : Nat} {e bound : Int} (s : UnpackedFloat.Sign)
    (a : Accuracy) (hm : m < 2 ^ bits) (he : e ≤ bound) (hbound : 0 ≤ bound) :
    Within (bound + 2 * bits) (roundWithAccuracy .binary64 s m e a) := by
  have hm' : m < 2 ^ (bits + 1) := by omega
  obtain ⟨hmantissa, hfirst⟩ := shiftToTargetExponent_le a hm' he hbound
  generalize hem : shiftToTargetExponent .binary64 m e a = first at hmantissa hfirst
  obtain ⟨em, e₁⟩ := first
  dsimp only at hmantissa hfirst
  have hrounded : em.roundedMantissa < 2 ^ (bits + 1) := by
    have := roundedMantissa_le em
    omega
  have hsecond := (shiftToTargetExponent_le .exact hrounded hfirst (by omega)).2
  rw [roundWithAccuracy, hem]
  simp only
  split_ifs with hzero
  · exact .zero s
  · exact .finite _ (by omega)

/-! ## Arithmetic -/

/-- A product has 106 places before it is rounded. -/
theorem Within.mul {x y : Float} {a b : Int} (hx : Within a x.toModel.unpack)
    (hy : Within b y.toModel.unpack) (hlow : 0 ≤ a + b) (hhigh : a + b + 212 ≤ 970) :
    Within (a + b + 212) (x * y).toModel.unpack := by
  apply Within.pack _ (by omega) hhigh
  generalize hu : x.toModel.unpack = u at hx
  generalize hv : y.toModel.unpack = v at hy
  cases hx with
  | zero s =>
    cases hy with
    | zero t => exact .zero (s * t)
    | @finite t => exact .zero (s * t)
  | @finite s m e hm he =>
    cases hy with
    | zero t => exact .zero (s * t)
    | @finite t n f hn hf =>
      have hproduct : m * n < 2 ^ 53 * 2 ^ 53 :=
        Nat.mul_lt_mul'' (mantissa_lt hu) (mantissa_lt hv)
      rw [← Nat.pow_add] at hproduct
      exact within_roundWithAccuracy (s * t) .exact hproduct (by omega : e + f ≤ a + b) hlow

/-- A number below `2 ^ 53` is a double well within range; `212` leaves room for the multiplication
by a power of ten. -/
theorem within_toFloat {n : Nat} (h : n < 2 ^ 53) :
    Within 212 n.toUInt64.toFloat.toModel.unpack := by
  have hn : n.toUInt64.toNat = n := Nat.mod_eq_of_lt (by omega)
  have hmodel : n.toUInt64.toFloat.toModel =
      Float.Model.pack (UnpackedFloat.normalize .binary64 n.toUInt64.toNat 0 .positive) := rfl
  rw [hmodel, hn]
  apply Within.pack _ (by omega) (by omega)
  rcases Nat.eq_zero_or_pos n with rfl | hpos
  · exact .zero .positive
  have hsign : compare (n : Int) 0 = .gt := compare_gt_iff_gt.mpr (by omega)
  simp only [UnpackedFloat.normalize, hsign, UnpackedFloat.round, decreaseExponent,
    Int.toNat_natCast]
  generalize htarget : Format.binary64.targetExponent (Float.Model.totalExponent n 0) = target
  -- the mantissa is shifted to the left until it fills its 53 places, by 52 of them at most
  have hshift : (0 - target).toNat ≤ 52 := by
    rw [← htarget]
    simp only [Format.targetExponent, Float.Model.totalExponent, Format.mantissaBits]
    omega
  have hmantissa : n <<< (0 - target).toNat < 2 ^ 106 := by
    rw [Nat.shiftLeft_eq]
    calc n * 2 ^ (0 - target).toNat
      _ < 2 ^ 53 * 2 ^ 53 := Nat.mul_lt_mul'' h (Nat.pow_lt_pow_right (by omega) (by omega))
      _ = 2 ^ 106 := by rw [← Nat.pow_add]
  exact within_roundWithAccuracy .positive .exact hmantissa (by omega) (Int.le_refl 0)

/-! ## Scaling -/

theorem unpack_one : (Float.ofBits 0x3FF0000000000000).toModel.unpack =
    .finite .positive (2 ^ 52) (-52) (by decide) := rfl

theorem unpack_powerOfTen_zero : (Numeral.powerOfTen 0).toModel.unpack =
    .finite .positive (2 ^ 52) (-52) (by decide) := rfl

/-- So such a number, read with an exponent of zero, is never taken for an infinite one. -/
theorem isInf_ofNat_mul {n : Nat} (h : n < 2 ^ 53) :
    (Float.ofNat n * Numeral.powerOfTen 0).isInf = false := by
  have hone : Within (-52) (Float.ofBits 0x3FF0000000000000).toModel.unpack := by
    rw [unpack_one]
    exact .finite _ (Int.le_refl _)
  have hpower : Within (-52) (Numeral.powerOfTen 0).toModel.unpack := by
    rw [unpack_powerOfTen_zero]
    exact .finite _ (Int.le_refl _)
  have hofNat : Float.ofNat n = n.toUInt64.toFloat * Float.ofBits 0x3FF0000000000000 := by
    simp only [Float.ofNat, OfScientific.ofScientific, Float.ofScientific, h, Nat.zero_le, and_self]
    rfl
  have hproduct := (within_toFloat h).mul hone (by omega) (by omega)
  rw [hofNat]
  exact (hproduct.mul hpower (by omega) (by omega)).isInf

end Double

/-- **A whole number below two to the power of 53 is in the range of doubles.** -/
theorem Numeral.isSome_scaled?_ofNat {n : Nat} (h : n < 2 ^ 53) :
    (Numeral.ofNat n).scaled?.isSome = true := by
  have hword : appendDigits 0 (digitsOf n) < wordSize := by
    rw [appendDigits_digitsOf, wordSize]
    omega
  have hkeep := keepWhole_eq hword
  rw [appendDigits_digitsOf] at hkeep
  have hstretch : (stretch? (Float.ofNat n) 0).isSome = true := by
    simp [stretch?, Double.isInf_ofNat_mul h]
  simpa [scaled?, ofNat, hkeep, keepFraction, exponentLimit] using hstretch

end TypedBlocks
