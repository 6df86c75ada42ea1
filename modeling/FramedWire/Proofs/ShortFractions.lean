import FramedWire.Bytes
import FramedWire.Number.Binary64
import Mathlib.Algebra.Order.Field.Basic
import Mathlib.Data.Rat.Lemmas
import Mathlib.Tactic.FieldSimp
import Mathlib.Tactic.Linarith
import Mathlib.Tactic.Ring

/-!
# Rationals that are binary numbers

A rational with a numerator below `2 ^ 53` over a power of two is not rounded: its digits are
moved up to 53 places, and the exponent makes up for that. The denominator may be as large as
`2 ^ 1022`, so that the number is never below the normal ones.
-/
namespace FramedWire.Binary64

theorem twoPow_eq_zpow (e : ℤ) : twoPow e = 2 ^ e := by
  unfold twoPow
  split
  · rename_i h
    obtain ⟨n, rfl⟩ := Int.eq_ofNat_of_zero_le h
    rw [Int.toNat_natCast, zpow_natCast, Nat.cast_pow, Nat.cast_ofNat]
  · rename_i h
    obtain ⟨n, hn⟩ := Int.eq_ofNat_of_zero_le (show 0 ≤ -e by omega)
    have he : e = -(n : ℤ) := by omega
    subst he
    rw [neg_neg, Int.toNat_natCast, zpow_neg, zpow_natCast, Nat.cast_pow, Nat.cast_ofNat,
      one_div]

variable {negative : Bool} {bits num j : ℕ}

theorem toNat_ofMagnitudeBits (h : bits < signBit) :
    (ofMagnitudeBits negative bits).bits.toNat = if negative then signBit + bits else bits := by
  unfold signBit at h
  simp only [ofMagnitudeBits, UInt64.toNat_ofNat', signBit]
  split <;> omega

theorem magnitudeBits_ofMagnitudeBits (h : bits < signBit) :
    (ofMagnitudeBits negative bits).magnitudeBits = bits := by
  rw [magnitudeBits, toNat_ofMagnitudeBits h]
  unfold signBit at *
  split <;> omega

theorem isNegative_ofMagnitudeBits (h : bits < signBit) :
    (ofMagnitudeBits negative bits).isNegative = negative := by
  rw [isNegative, toNat_ofMagnitudeBits h]
  cases negative
  · simpa using h
  · simp

theorem toRat_ofMagnitudeBits_normal {e m : ℕ} (hlow : 2 ^ 52 ≤ m) (hhigh : m < 2 ^ 53)
    (he : e < 2046) :
    (ofMagnitudeBits negative (e * 2 ^ 52 + m)).toRat =
      (if negative then -1 else 1) * (m * 2 ^ ((e : ℤ) - 1074)) := by
  have hbits : e * 2 ^ 52 + m < signBit := by
    unfold signBit
    omega
  have hquot : (e * 2 ^ 52 + m) / 2 ^ 52 = e + 1 := by omega
  have hrest : (e * 2 ^ 52 + m) % 2 ^ 52 + 2 ^ 52 = m := by omega
  have hnormal : ¬ e * 2 ^ 52 + m < 2 ^ 52 := by omega
  have hexp : ((e + 1 : ℕ) : ℤ) - 1075 = (e : ℤ) - 1074 := by omega
  simp only [toRat, significand, exponent, magnitudeBits_ofMagnitudeBits hbits,
    isNegative_ofMagnitudeBits hbits, if_neg hnormal, hquot, hrest, hexp, twoPow_eq_zpow]
  cases negative <;> simp

theorem roundHalfEven_mul {den : ℕ} (h : 0 < den) (m : ℕ) : roundHalfEven (m * den) den = m := by
  simp [roundHalfEven, Nat.mul_div_cancel m h, h]

theorem floorLog2_two_pow (h : num ≠ 0) : floorLog2 num (2 ^ j) = (num.log2 : ℤ) - j := by
  have hlog : 2 ^ num.log2 ≤ num := Nat.log2_self_le h
  simp only [floorLog2, Nat.log2_two_pow]
  split <;> rename_i hsign
  · obtain ⟨n, hn⟩ := Int.eq_ofNat_of_zero_le hsign
    have hsum : j + n = num.log2 := by omega
    have hreach : 2 ^ j * 2 ^ n ≤ num := by rwa [← pow_add, hsum]
    simp [hn, hreach]
  · obtain ⟨n, hn⟩ := Int.eq_ofNat_of_zero_le (show 0 ≤ -((num.log2 : ℤ) - j) by omega)
    have hsum : num.log2 + n = j := by omega
    have hreach : 2 ^ j ≤ num * 2 ^ n := by
      rw [← hsum, pow_add]
      exact Nat.mul_le_mul_right _ hlog
    simp [hn, hreach]

/-- The digits of a short numerator, moved up to 53 places. -/
theorem normalized_bounds (hpos : num ≠ 0) (hnum : num < 2 ^ 53) :
    num.log2 ≤ 52 ∧ 2 ^ 52 ≤ num * 2 ^ (52 - num.log2) ∧ num * 2 ^ (52 - num.log2) < 2 ^ 53 := by
  have hlog : num.log2 < 53 := (Nat.log2_lt hpos).mpr hnum
  have hlow : 2 ^ num.log2 ≤ num := Nat.log2_self_le hpos
  have hhigh : num < 2 ^ (num.log2 + 1) := Nat.lt_log2_self
  refine ⟨by omega, ?_, ?_⟩
  · calc 2 ^ 52 = 2 ^ num.log2 * 2 ^ (52 - num.log2) := by rw [← pow_add]; congr 1; omega
      _ ≤ num * 2 ^ (52 - num.log2) := Nat.mul_le_mul_right _ hlow
  · calc num * 2 ^ (52 - num.log2)
        < 2 ^ (num.log2 + 1) * 2 ^ (52 - num.log2) := Nat.mul_lt_mul_of_pos_right hhigh (by positivity)
      _ = 2 ^ 53 := by rw [← pow_add]; congr 1; omega

theorem ofFraction_two_pow (hpos : num ≠ 0) (hnum : num < 2 ^ 53) (hj : j ≤ 1022) :
    ofFraction negative num (2 ^ j) =
      ofMagnitudeBits negative ((num.log2 + 1022 - j) * 2 ^ 52 + num * 2 ^ (52 - num.log2)) := by
  obtain ⟨hlog, -, hhigh⟩ := normalized_bounds hpos hnum
  have hmax : max ((num.log2 : ℤ) - j) (-1022) = (num.log2 : ℤ) - j := by omega
  have hbiased : ((num.log2 : ℤ) - j + 1022).toNat = num.log2 + 1022 - j := by omega
  have hfinite : (num.log2 + 1022 - j) * 2 ^ 52 + num * 2 ^ (52 - num.log2) ≤ infiniteBits := by
    unfold infiniteBits
    omega
  have hround : (if 0 ≤ (num.log2 : ℤ) - j - 52 then
      roundHalfEven num (2 ^ j * 2 ^ ((num.log2 : ℤ) - j - 52).toNat)
      else roundHalfEven (num * 2 ^ (-((num.log2 : ℤ) - j - 52)).toNat) (2 ^ j)) =
      num * 2 ^ (52 - num.log2) := by
    split
    · have hfull : num.log2 = 52 := by omega
      have hwhole : j = 0 := by omega
      subst hwhole
      rw [hfull]
      simpa using roundHalfEven_mul Nat.one_pos num
    · have hshift : (-((num.log2 : ℤ) - j - 52)).toNat = 52 - num.log2 + j := by omega
      rw [hshift, pow_add, ← mul_assoc]
      exact roundHalfEven_mul (by positivity) _
  simp only [ofFraction, if_neg hpos, floorLog2_two_pow hpos, hmax, hround, hbiased,
    Nat.min_eq_left hfinite]

theorem toRat_ofFraction_two_pow (hnum : num < 2 ^ 53) (hj : j ≤ 1022) :
    (ofFraction negative num (2 ^ j)).toRat = (if negative then -1 else 1) * (num / 2 ^ j) := by
  by_cases hpos : num = 0
  · subst hpos
    have hzero : (ofMagnitudeBits negative 0).toRat = 0 := by
      cases negative <;> decide +kernel
    rw [ofFraction, if_pos rfl, hzero, Nat.cast_zero, zero_div, mul_zero]
  obtain ⟨hlog, hlow, hhigh⟩ := normalized_bounds hpos hnum
  have hexp : ((num.log2 + 1022 - j : ℕ) : ℤ) - 1074 = -((52 - num.log2 : ℕ) : ℤ) - j := by omega
  rw [ofFraction_two_pow hpos hnum hj, toRat_ofMagnitudeBits_normal hlow hhigh (by omega), hexp,
    zpow_sub₀ two_ne_zero, zpow_neg, zpow_natCast, zpow_natCast]
  push_cast
  field_simp

theorem isFinite_ofFraction_two_pow (hnum : num < 2 ^ 53) (hj : j ≤ 1022) :
    (ofFraction negative num (2 ^ j)).isFinite = true := by
  by_cases hpos : num = 0
  · subst hpos
    rw [ofFraction, if_pos rfl]
    cases negative <;> decide
  obtain ⟨hlog, -, hhigh⟩ := normalized_bounds hpos hnum
  have hbits : (num.log2 + 1022 - j) * 2 ^ 52 + num * 2 ^ (52 - num.log2) < infiniteBits := by
    unfold infiniteBits
    omega
  have hsign : (num.log2 + 1022 - j) * 2 ^ 52 + num * 2 ^ (52 - num.log2) < signBit :=
    hbits.trans (by decide)
  rw [ofFraction_two_pow hpos hnum hj, isFinite, magnitudeBits_ofMagnitudeBits hsign]
  exact decide_eq_true hbits

/-- A rational with a numerator of at most 53 digits over a power of two is a binary number. -/
theorem toRat_ofRat {q : ℚ} (hnum : q.num.natAbs < 2 ^ 53) (hden : q.den = 2 ^ j)
    (hj : j ≤ 1022) : (ofRat q).toRat = q := by
  have hmagnitude : (q.num.natAbs : ℚ) / 2 ^ j = |q| := by
    conv_rhs => rw [← Rat.num_div_den q]
    rw [abs_div, Nat.abs_cast, Nat.cast_natAbs, Int.cast_abs, hden, Nat.cast_pow, Nat.cast_ofNat]
  rw [ofRat, hden, toRat_ofFraction_two_pow hnum hj, hmagnitude]
  rcases lt_or_ge q 0 with hq | hq
  · have hneg : decide (q.num < 0) = true := decide_eq_true (Rat.num_neg.mpr hq)
    rw [hneg, if_pos rfl, abs_of_neg hq]
    ring
  · have hneg : decide (q.num < 0) = false := decide_eq_false (not_lt.mpr (Rat.num_nonneg.mpr hq))
    rw [hneg, abs_of_nonneg hq]
    simp

end FramedWire.Binary64
