import GridQuery.Number.Whole
import GridQuery.Proofs.Number.Rounding
import Mathlib.Data.Nat.Cast.Field

/-! Whole numbers from floating point, told by the values. -/

namespace GridQuery.Number

theorem cast_signedNat (negative : Bool) (n : Nat) :
    (signedNat negative n : ℚ) = signed negative n := by
  cases negative with
  | false => simp [signedNat, signed]
  | true => simp [signedNat, signed]

theorem natAbs_signedNat (negative : Bool) (n : Nat) : (signedNat negative n).natAbs = n := by
  cases negative with
  | false => simp [signedNat]
  | true => simp [signedNat]

namespace Finite64

/-- The number that it stands for. -/
def value (x : Finite64) : ℚ :=
  signed x.negative x.magnitude

variable {x y : Finite64} {i : ℤ}

theorem cast_ratio_pos (x : Finite64) : (0 : ℚ) < x.ratio.2 := by
  exact_mod_cast x.ratio_pos

theorem value_mul_ratio (x : Finite64) : x.value * x.ratio.2 = signedNat x.negative x.ratio.1 := by
  rw [cast_signedNat, value, signed_mul, ← ratio_div, div_mul_cancel₀ _ x.cast_ratio_pos.ne']

theorem compare_eq_lt_iff : x.compare y = .lt ↔ x.value < y.value := by
  have hcross (x y : Finite64) : x.value * (x.ratio.2 * y.ratio.2) =
      signedNat x.negative (x.ratio.1 * y.ratio.2) := by
    rw [← mul_assoc, value_mul_ratio, cast_signedNat, cast_signedNat, signed_mul, Nat.cast_mul]
  have hpos : (0 : ℚ) < x.ratio.2 * y.ratio.2 := mul_pos x.cast_ratio_pos y.cast_ratio_pos
  have hy := hcross y x
  rw [mul_comm (y.ratio.2 : ℚ)] at hy
  rw [← mul_lt_mul_iff_left₀ hpos, hcross x y, hy, Int.cast_lt]
  unfold compare
  simp only
  split
  · next h => exact iff_of_true rfl h
  · next h =>
    split
    · exact iff_of_false (by decide) h
    · exact iff_of_false (by decide) h

theorem value_eq_trunc (h : x.hasFraction = false) : x.value = x.trunc := by
  have hmod : x.ratio.1 % x.ratio.2 = 0 := by simpa [hasFraction] using h
  have hdvd := Nat.dvd_of_mod_eq_zero hmod
  rw [trunc, cast_signedNat, value, ← ratio_div, Nat.cast_div hdvd x.cast_ratio_pos.ne']

/-- A value that is a whole number has no fraction. -/
theorem hasFraction_eq_false (h : x.value = i) : x.hasFraction = false := by
  have hmul : i * (x.ratio.2 : ℤ) = signedNat x.negative x.ratio.1 := by
    have hvalue := x.value_mul_ratio
    rw [h] at hvalue
    exact_mod_cast hvalue
  have hdvd : x.ratio.2 ∣ x.ratio.1 := by
    have hnatAbs := congrArg Int.natAbs hmul
    rw [natAbs_signedNat, Int.natAbs_mul, Int.natAbs_natCast] at hnatAbs
    exact Dvd.intro_left _ hnatAbs
  simpa [hasFraction] using Nat.mod_eq_zero_of_dvd hdvd

end Finite64

namespace Binary64

variable {x y : Finite64} {i : ℤ} {n k : Nat}

theorem lt_finite : lt (finite x) (finite y) = true ↔ x.value < y.value := by
  rw [← Finite64.compare_eq_lt_iff, lt, compare?, beq_iff_eq, Option.some_inj]

theorem ge_finite : ge (finite x) (finite y) = true ↔ y.value ≤ x.value := by
  rw [← not_lt, ← Finite64.compare_eq_lt_iff, ge, compare?]
  cases x.compare y with
  | lt => decide
  | eq => decide
  | gt => decide

theorem isWhole_finite : (finite x).isWhole = true ↔ ∃ i : ℤ, x.value = i := by
  rw [isWhole, Bool.not_eq_true']
  constructor
  · intro h
    exact ⟨_, Finite64.value_eq_trunc h⟩
  · intro h
    obtain ⟨i, hi⟩ := h
    exact Finite64.hasFraction_eq_false hi

theorem toSigned_finite {bits : Nat} (h : x.value = i) (hlow : leastSigned bits ≤ i)
    (hhigh : i ≤ greatestSigned bits) : (finite x).toSigned bits = i := by
  have htrunc : x.trunc = i := by
    have hvalue := Finite64.value_eq_trunc (Finite64.hasFraction_eq_false h)
    rw [h] at hvalue
    exact_mod_cast hvalue.symm
  rw [toSigned, htrunc, min_eq_right hhigh, max_eq_right hlow]

/-- A power of two is a floating-point value itself, so nothing is rounded past it. -/
theorem two_pow_le_magnitude (hn : 2 ^ k ≤ n) (h : ofNat n = .finite x) :
    (2 : ℚ) ^ k ≤ x.magnitude := by
  obtain ⟨-, hdist⟩ := dist_of_ofRatio Nat.one_pos h
  have hcast : (2 : ℚ) ^ k ≤ n := by exact_mod_cast hn
  have hpos := two_zpow_pos x.exponent
  by_contra hlt
  rw [not_le] at hlt
  -- below the power of two there is room for one more step, but the number is half a step away
  have hstep : x.magnitude + 2 ^ x.exponent ≤ 2 ^ k := by
    rcases le_or_gt x.exponent k with hle | hgt
    · obtain ⟨j, hj⟩ := Int.eq_ofNat_of_zero_le (sub_nonneg.mpr hle)
      have hsplit : (2 : ℚ) ^ k = ((2 ^ j : Nat) : ℚ) * 2 ^ x.exponent := by
        rw [Nat.cast_pow, Nat.cast_ofNat, ← zpow_natCast, ← zpow_natCast, ← zpow_add₀ (by norm_num)]
        congr 1
        omega
      rw [Finite64.magnitude, hsplit] at hlt
      have hM : x.significand < 2 ^ j := by exact_mod_cast lt_of_mul_lt_mul_right hlt hpos.le
      have hM' : (x.significand : ℚ) + 1 ≤ (2 ^ j : Nat) := by exact_mod_cast hM
      rw [Finite64.magnitude, hsplit]
      nlinarith
    · have hM : x.significand = 0 := by
        by_contra hne
        have hone : (1 : ℚ) ≤ x.significand := by exact_mod_cast Nat.pos_of_ne_zero hne
        have hpow : (2 : ℚ) ^ k ≤ 2 ^ x.exponent := by
          rw [← zpow_natCast]
          exact zpow_le_zpow_right₀ (by norm_num) hgt.le
        rw [Finite64.magnitude] at hlt
        nlinarith
      rcases x.canonical.2.2.2 with hlarge | hleast
      · have := twoTo_pos 52
        omega
      · omega
  rw [Nat.cast_one, div_one] at hdist
  have hhalf := (abs_le.mp hdist).2
  linarith

end Binary64

end GridQuery.Number
