import FramedWire.Fixed
import FramedWire.Proofs.ShortFractions
import Mathlib.Data.Nat.Prime.Basic
import Mathlib.Data.Rat.Floor
import Mathlib.Tactic.Linarith
import Mathlib.Tactic.NormNum
import Mathlib.Tactic.Ring

/-!
# What fixed-point numbers keep

A number is its bits over 256, which a binary number holds exactly. A rational is made into a number
of its whole part, cut toward zero, and its rest, rounded to steps of a 256th and held below the
next whole number. The rest carries no sign, so a negative number comes back only if it is whole.
-/
namespace FramedWire

namespace Fixed

variable {x y : Fixed} {q r : ℚ}

theorem ext_toInt (h : x.bits.toInt = y.bits.toInt) : x = y :=
  congrArg Fixed.mk (Int32.toInt_inj.mp h)

theorem le_iff_toInt : x ≤ y ↔ x.bits.toInt ≤ y.bits.toInt := Int32.le_iff_toInt_le

theorem lt_iff_toInt : x < y ↔ x.bits.toInt < y.bits.toInt := Int32.lt_iff_toInt_lt

theorem toRat_eq (x : Fixed) : x.toRat = (x.bits.toInt : ℚ) / 256 := by
  have hfraction : ((x.bits.toInt % 256).toNat : ℤ) = x.bits.toInt % 256 := by omega
  have hparts : x.bits.toInt = 256 * (x.bits.toInt / 256) + ((x.bits.toInt % 256).toNat : ℤ) := by
    omega
  rw [toRat, integer, fraction]
  conv_rhs => rw [hparts]
  push_cast
  ring

theorem natAbs_num_toRat_le (x : Fixed) : x.toRat.num.natAbs ≤ x.bits.toInt.natAbs := by
  rcases eq_or_ne x.bits.toInt 0 with hzero | hne
  · rw [toRat_eq, hzero]
    simp
  · have hdvd : x.toRat.num ∣ x.bits.toInt := by
      rw [toRat_eq, ← Int.cast_ofNat, ← Rat.divInt_eq_div]
      exact Rat.num_dvd _ (by decide)
    exact Nat.le_of_dvd (Int.natAbs_pos.mpr hne) (Int.natAbs_dvd_natAbs.mpr hdvd)

theorem exists_den_toRat (x : Fixed) : ∃ j ≤ 8, x.toRat.den = 2 ^ j := by
  have hdvd : (x.toRat.den : ℤ) ∣ 256 := by
    rw [toRat_eq, ← Int.cast_ofNat, ← Rat.divInt_eq_div]
    exact Rat.den_dvd _ _
  exact (Nat.dvd_prime_pow Nat.prime_two).mp (by exact_mod_cast hdvd)

/-- No number is rounded when it is read. -/
theorem toBinary64_exact (x : Fixed) :
    x.toBinary64.isFinite = true ∧ x.toBinary64.toRat = x.toRat := by
  have hlow : -2 ^ 31 ≤ x.bits.toInt := Int32.le_toInt x.bits
  have hhigh : x.bits.toInt < 2 ^ 31 := Int32.toInt_lt x.bits
  have hnum : x.toRat.num.natAbs < 2 ^ 53 := by
    have hle := natAbs_num_toRat_le x
    omega
  obtain ⟨j, hj, hden⟩ := exists_den_toRat x
  have hsmall : j ≤ 1022 := hj.trans (by decide)
  refine ⟨?_, Binary64.toRat_ofRat hnum hden hsmall⟩
  rw [toBinary64, Binary64.ofRat, hden]
  exact Binary64.isFinite_ofFraction_two_pow hnum hsmall

theorem ofBinary64_of_isFinite {v : Binary64} (h : v.isFinite = true) :
    ofBinary64 v = ofRat v.toRat := by
  have hlt : v.magnitudeBits < Binary64.infiniteBits := of_decide_eq_true h
  have hnumber : v.isNaN = false := decide_eq_false (by omega)
  have hbounded : v.isInfinite = false := beq_false_of_ne (by omega)
  simp only [ofBinary64, hnumber, hbounded, Bool.false_eq_true, if_false]

theorem truncate_eq (q : ℚ) : truncate q = if 0 ≤ q then ⌊q⌋ else ⌈q⌉ := by
  unfold truncate
  split
  · rfl
  · rw [← neg_neg ⌈q⌉, ← Int.floor_neg]
    rfl

/-- What is left of `q` without its whole part. -/
def rest (q : ℚ) : ℚ := |q - truncate q|

theorem rest_of_nonneg (h : 0 ≤ q) : rest q = Int.fract q := by
  rw [rest, truncate_eq, if_pos h, Int.self_sub_floor, abs_of_nonneg (Int.fract_nonneg q)]

theorem rest_lt_one (q : ℚ) : rest q < 1 := by
  rcases le_or_gt 0 q with hq | hq
  · rw [rest_of_nonneg hq]
    exact Int.fract_lt_one q
  · have hceil : q ≤ ⌈q⌉ := Int.le_ceil q
    have hnext : (⌈q⌉ : ℚ) < q + 1 := Int.ceil_lt_add_one q
    rw [rest, truncate_eq, if_neg (not_le.mpr hq), abs_of_nonpos (by linarith)]
    linarith

/-- How many steps the rest of `q` is rounded to. -/
def steps (q : ℚ) : ℕ := (min (roundHalfUp (rest q * 256)) 255).toNat

theorem coe_steps (q : ℚ) : (steps q : ℤ) = min ⌊rest q * 256 + 1 / 2⌋ 255 := by
  have hnonneg : 0 ≤ ⌊rest q * 256 + 1 / 2⌋ := by
    apply Int.floor_nonneg.mpr
    have hrest : 0 ≤ rest q := abs_nonneg _
    linarith
  exact Int.toNat_of_nonneg (le_min hnonneg (by decide))

theorem steps_lt (q : ℚ) : steps q < 256 := by
  have hsteps := coe_steps q
  omega

/-- The steps are less than one step away from the rest, also where they are held at 255. -/
theorem abs_steps_sub_rest_lt (q : ℚ) : |(steps q : ℚ) / 256 - rest q| < 1 / 256 := by
  have hone := rest_lt_one q
  have hfloor : (⌊rest q * 256 + 1 / 2⌋ : ℚ) ≤ rest q * 256 + 1 / 2 := Int.floor_le _
  have hnext : rest q * 256 + 1 / 2 < ⌊rest q * 256 + 1 / 2⌋ + 1 := Int.lt_floor_add_one _
  have hsteps := coe_steps q
  rw [abs_lt]
  rcases le_or_gt ⌊rest q * 256 + 1 / 2⌋ 255 with hle | hgt
  · rw [min_eq_left hle] at hsteps
    have hcast : (steps q : ℚ) = ⌊rest q * 256 + 1 / 2⌋ := by exact_mod_cast hsteps
    rw [hcast]
    constructor <;> linarith
  · rw [min_eq_right hgt.le] at hsteps
    have hcast : (steps q : ℚ) = 255 := by exact_mod_cast hsteps
    have hlarge : (256 : ℚ) ≤ ⌊rest q * 256 + 1 / 2⌋ := by exact_mod_cast hgt
    rw [hcast]
    constructor <;> linarith

theorem steps_mono (h : rest q ≤ rest r) : steps q ≤ steps r := by
  have hfloor : ⌊rest q * 256 + 1 / 2⌋ ≤ ⌊rest r * 256 + 1 / 2⌋ := by
    apply Int.floor_le_floor
    linarith
  have hq := coe_steps q
  have hr := coe_steps r
  omega

theorem steps_of_rest_eq {n : ℕ} (h : rest q = n / 256) (hn : n < 256) : steps q = n := by
  have hfloor : ⌊rest q * 256 + 1 / 2⌋ = (n : ℤ) := by
    rw [h, Int.floor_eq_iff]
    push_cast
    constructor <;> linarith
  have hsteps := coe_steps q
  omega

theorem toInt_bits_ofRat (hlow : -2 ^ 23 ≤ truncate q) (hhigh : truncate q < 2 ^ 23) :
    (ofRat q).bits.toInt = truncate q * 256 + steps q := by
  have hrest : (if 0 ≤ q - truncate q then q - truncate q else -(q - truncate q)) = rest q := by
    rw [rest]
    split
    · rw [abs_of_nonneg ‹_›]
    · rw [abs_of_neg (not_le.mp ‹_›)]
  have hparts : ofRat q = ofParts (saturate (truncate q)) (steps q) := by
    rw [ofRat, hrest, steps]
  have hsteps := steps_lt q
  have hsat : saturate (truncate q) = truncate q := by
    rw [saturate, Int32.toInt_minValue, Int32.toInt_maxValue]
    omega
  rw [hparts, hsat, ofParts, Int32.toInt_ofInt_of_le (by omega) (by omega)]

theorem truncate_bounds (h : |q| < 2 ^ 23) : -2 ^ 23 ≤ truncate q ∧ truncate q < 2 ^ 23 := by
  obtain ⟨hlow, hhigh⟩ := abs_lt.mp h
  rw [truncate_eq]
  split
  · refine ⟨?_, Int.floor_lt.mpr (by exact_mod_cast hhigh)⟩
    have hnonneg : 0 ≤ ⌊q⌋ := Int.floor_nonneg.mpr ‹_›
    omega
  · refine ⟨?_, ?_⟩
    · have hlt : (-2 ^ 23 : ℤ) < ⌈q⌉ := Int.lt_ceil.mpr (by push_cast; exact hlow)
      exact hlt.le
    · have hle : ⌈q⌉ ≤ 0 := Int.ceil_le.mpr (by push_cast; linarith)
      omega

theorem integer_ofRat (h : |q| < 2 ^ 23) : (ofRat q).integer = truncate q := by
  obtain ⟨hlow, hhigh⟩ := truncate_bounds h
  have hsteps := steps_lt q
  rw [integer, toInt_bits_ofRat hlow hhigh]
  omega

theorem toRat_ofRat (h : |q| < 2 ^ 23) : (ofRat q).toRat = truncate q + (steps q : ℚ) / 256 := by
  obtain ⟨hlow, hhigh⟩ := truncate_bounds h
  rw [toRat_eq, toInt_bits_ofRat hlow hhigh]
  push_cast
  ring

theorem abs_toRat_ofRat_sub_lt (hq : 0 ≤ q) (h : q < 2 ^ 23) : |(ofRat q).toRat - q| < 1 / 256 := by
  have hsplit : (ofRat q).toRat - q = (steps q : ℚ) / 256 - rest q := by
    rw [toRat_ofRat (by rwa [abs_of_nonneg hq]), rest_of_nonneg hq, truncate_eq, if_pos hq,
      ← Int.self_sub_floor]
    ring
  rw [hsplit]
  exact abs_steps_sub_rest_lt q

theorem ofRat_mono (hq : 0 ≤ q) (hle : q ≤ r) (h : r < 2 ^ 23) : ofRat q ≤ ofRat r := by
  have hr : 0 ≤ r := hq.trans hle
  obtain ⟨hlow, hhigh⟩ := truncate_bounds (q := q) (by rw [abs_of_nonneg hq]; linarith)
  obtain ⟨hlow', hhigh'⟩ := truncate_bounds (q := r) (by rwa [abs_of_nonneg hr])
  have hfloor : ⌊q⌋ ≤ ⌊r⌋ := Int.floor_le_floor hle
  have hsteps := steps_lt q
  rw [le_iff_toInt, toInt_bits_ofRat hlow hhigh, toInt_bits_ofRat hlow' hhigh', truncate_eq,
    truncate_eq, if_pos hq, if_pos hr]
  rcases hfloor.lt_or_eq with hlt | heq
  · omega
  · have hrest : rest q ≤ rest r := by
      rw [rest_of_nonneg hq, rest_of_nonneg hr, ← Int.self_sub_floor, ← Int.self_sub_floor, heq]
      linarith
    have hmono := steps_mono hrest
    omega

theorem floor_toRat (x : Fixed) : ⌊x.toRat⌋ = x.integer := by
  rw [toRat_eq]
  exact_mod_cast Rat.floor_intCast_div_natCast x.bits.toInt 256

theorem toRat_eq_integer_iff : x.toRat = x.integer ↔ 256 ∣ x.bits.toInt := by
  rw [toRat_eq, div_eq_iff (by norm_num), integer]
  norm_cast
  omega

theorem truncate_toRat (h : 0 ≤ x.bits.toInt ∨ 256 ∣ x.bits.toInt) :
    truncate x.toRat = x.integer := by
  rw [truncate_eq]
  split
  · exact floor_toRat x
  · rename_i hneg
    have hdvd : 256 ∣ x.bits.toInt := by
      refine h.resolve_left fun hnonneg => hneg ?_
      rw [toRat_eq]
      exact div_nonneg (by exact_mod_cast hnonneg) (by norm_num)
    rw [toRat_eq_integer_iff.mpr hdvd, Int.ceil_intCast]

theorem nonneg_or_dvd_of_kept (h : ofRat x.toRat = x) : 0 ≤ x.bits.toInt ∨ 256 ∣ x.bits.toInt := by
  have hlow : -2 ^ 31 ≤ x.bits.toInt := Int32.le_toInt x.bits
  by_contra hlost
  rw [not_or, not_le] at hlost
  obtain ⟨hneg, hndvd⟩ := hlost
  have hcast : (x.bits.toInt : ℚ) < 0 := by exact_mod_cast hneg
  -- The least number is whole, so that the others lie within the bounds.
  have hbound : |x.toRat| < 2 ^ 23 := by
    have hleast : -2 ^ 31 < x.bits.toInt := by omega
    have hcast' : ((-2 ^ 31 : ℤ) : ℚ) < x.bits.toInt := by exact_mod_cast hleast
    rw [toRat_eq, abs_lt]
    push_cast at hcast'
    constructor <;> linarith
  have hbelow : ¬ 0 ≤ x.toRat := by
    rw [toRat_eq, not_le]
    exact div_neg_of_neg_of_pos hcast (by norm_num)
  have hwhole : ⌈x.toRat⌉ = x.integer := by
    have hinteger := integer_ofRat hbound
    rwa [h, truncate_eq, if_neg hbelow, eq_comm] at hinteger
  apply hndvd
  rw [← toRat_eq_integer_iff]
  apply le_antisymm
  · rw [← hwhole]
    exact Int.le_ceil _
  · rw [← floor_toRat]
    exact Int.floor_le _

theorem ofRat_toRat (h : 0 ≤ x.bits.toInt ∨ 256 ∣ x.bits.toInt) : ofRat x.toRat = x := by
  have hlow : -2 ^ 31 ≤ x.bits.toInt := Int32.le_toInt x.bits
  have hhigh : x.bits.toInt < 2 ^ 31 := Int32.toInt_lt x.bits
  have htruncate := truncate_toRat h
  have hinteger : x.integer = x.bits.toInt / 256 := rfl
  have hrest : rest x.toRat = (x.fraction : ℚ) / 256 := by
    rw [rest, htruncate, toRat, add_sub_cancel_left, abs_of_nonneg (by positivity)]
  have hfraction : (x.fraction : ℤ) = x.bits.toInt % 256 :=
    Int.toNat_of_nonneg (Int.emod_nonneg _ (by decide))
  apply ext_toInt
  rw [toInt_bits_ofRat (by omega) (by omega), htruncate, steps_of_rest_eq hrest (by omega)]
  omega

/-- Just the numbers that are not negative and the whole ones are kept. -/
theorem ofRat_toRat_iff : ofRat x.toRat = x ↔ 0 ≤ x.bits.toInt ∨ 256 ∣ x.bits.toInt :=
  ⟨nonneg_or_dvd_of_kept, ofRat_toRat⟩

/-- Reading a number is exact, and so it keeps numbers apart and in order. Making one of what was
read gives the number back if it is not negative or if it is whole, and otherwise never does. A
rational of at most 23 binary digits before the point is cut toward zero to its whole part; if it
is not negative, the number made of it is less than one step away from it, and larger rationals
make no smaller numbers. -/
theorem conversions_exact :
    (∀ x : Fixed, x.toBinary64.isFinite = true ∧
      x.toBinary64.toRat = (x.bits.toInt : ℚ) / 256) ∧
    Function.Injective toBinary64 ∧
    (∀ x y : Fixed, (x ≤ y ↔ x.toBinary64.toRat ≤ y.toBinary64.toRat) ∧
      (x < y ↔ x.toBinary64.toRat < y.toBinary64.toRat)) ∧
    (∀ x : Fixed, ofBinary64 x.toBinary64 = x ↔ 0 ≤ x.bits.toInt ∨ 256 ∣ x.bits.toInt) ∧
    (∀ v : Binary64, v.isFinite = true → ofBinary64 v = ofRat v.toRat) ∧
    (∀ q : ℚ, |q| < 2 ^ 23 → (ofRat q).integer = if 0 ≤ q then ⌊q⌋ else ⌈q⌉) ∧
    (∀ q : ℚ, 0 ≤ q → q < 2 ^ 23 → |(ofRat q).toBinary64.toRat - q| < 1 / 256) ∧
    ∀ q r : ℚ, 0 ≤ q → q ≤ r → r < 2 ^ 23 → ofRat q ≤ ofRat r := by
  have hread : ∀ x : Fixed, x.toBinary64.toRat = (x.bits.toInt : ℚ) / 256 := fun x =>
    (toBinary64_exact x).2.trans (toRat_eq x)
  have hle : ∀ x y : Fixed, x ≤ y ↔ x.toBinary64.toRat ≤ y.toBinary64.toRat := by
    intro x y
    rw [hread, hread, div_le_div_iff_of_pos_right (by norm_num), Int.cast_le, le_iff_toInt]
  refine ⟨fun x => ⟨(toBinary64_exact x).1, hread x⟩, ?_, ?_, ?_, fun v => ofBinary64_of_isFinite,
    ?_, ?_, fun q r => ofRat_mono⟩
  · intro x y h
    have hvalue : x.toBinary64.toRat = y.toBinary64.toRat := congrArg Binary64.toRat h
    rw [hread, hread, div_left_inj' (by norm_num)] at hvalue
    exact ext_toInt (by exact_mod_cast hvalue)
  · intro x y
    refine ⟨hle x y, ?_⟩
    rw [← not_le, ← hle, lt_iff_toInt, le_iff_toInt, not_le]
  · intro x
    rw [ofBinary64_of_isFinite (toBinary64_exact x).1, (toBinary64_exact x).2, ofRat_toRat_iff]
  · intro q h
    rw [integer_ofRat h, truncate_eq]
  · intro q hq h
    rw [(toBinary64_exact _).2]
    exact abs_toRat_ofRat_sub_lt hq h

/-- A rest that would be rounded up to the next whole number is held below it, and the fraction of
a negative number loses its sign. -/
example : ofRat (2999 / 1000) = ⟨767⟩ ∧ (ofRat (-3 / 2)).toRat = -1 / 2 := by decide +kernel

end Fixed

end FramedWire
