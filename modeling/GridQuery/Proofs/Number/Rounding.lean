import GridQuery.Proofs.Number.Value

/-!
Rounding to binary floating point, told by the exact quotient alone, however it is split into digits
and exponent.
-/

namespace GridQuery.Number

/-- `m` is the nearest natural number to `v`, and the even one of two. -/
structure RoundsTo (v : ℚ) (m : Nat) : Prop where
  near : |v - m| ≤ 1 / 2
  even : |v - m| = 1 / 2 → m % 2 = 0

namespace RoundsTo

variable {v : ℚ} {m n : Nat}

theorem of_lt (h : |v - m| < 1 / 2) : RoundsTo v m :=
  ⟨h.le, fun heq => absurd heq h.ne⟩

theorem not_lt (h : RoundsTo v m) (h' : RoundsTo v n) : ¬ m < n := by
  intro hlt
  obtain ⟨hlow, -⟩ := abs_le.mp h'.near
  obtain ⟨-, hhigh⟩ := abs_le.mp h.near
  have hcast : (m : ℚ) + 1 ≤ n := by exact_mod_cast hlt
  -- Two neighbours are both nearest only at the middle between them, and one of them is odd.
  have hn : (n : ℚ) = m + 1 := by linarith
  have hv : v = m + 1 / 2 := by linarith
  have hm := h.even (by rw [hv, add_sub_cancel_left, abs_of_pos (by norm_num)])
  have hn' := h'.even (by rw [hv, hn, show (m : ℚ) + 1 / 2 - (m + 1) = -(1 / 2) by ring, abs_neg,
    abs_of_pos (by norm_num)])
  have : n = m + 1 := by exact_mod_cast hn
  omega

theorem unique (h : RoundsTo v m) (h' : RoundsTo v n) : m = n :=
  Nat.le_antisymm (Nat.le_of_not_lt (h'.not_lt h)) (Nat.le_of_not_lt (h.not_lt h'))

end RoundsTo

/-- How far a quotient is from the natural numbers below and above it. -/
theorem quotient_dist (num : Nat) {den : Nat} (hden : 0 < den) :
    |(num : ℚ) / den - (num / den : Nat)| = (num % den : Nat) / den ∧
      |(num : ℚ) / den - (num / den + 1 : Nat)| = (den - (num % den : Nat)) / den := by
  have hd : (0 : ℚ) < den := by exact_mod_cast hden
  have hsplit : (num : ℚ) = den * (num / den : Nat) + (num % den : Nat) := by
    exact_mod_cast (Nat.div_add_mod num den).symm
  have hbelow : (num : ℚ) / den - (num / den : Nat) = (num % den : Nat) / den := by
    rw [sub_eq_iff_eq_add, div_eq_iff hd.ne', add_mul, div_mul_cancel₀ _ hd.ne']
    linarith
  have habove : (num : ℚ) / den - (num / den + 1 : Nat) = -((den - (num % den : Nat)) / den) := by
    rw [Nat.cast_add_one, ← sub_sub, hbelow, sub_div, div_self hd.ne']
    ring
  have hlt : ((num % den : Nat) : ℚ) < den := by exact_mod_cast Nat.mod_lt num hden
  constructor
  · rw [hbelow, abs_of_nonneg (by positivity)]
  · rw [habove, abs_neg, abs_of_nonneg (div_nonneg (by linarith) hd.le)]

theorem roundsTo_roundEven (num : Nat) {den : Nat} (hden : 0 < den) :
    RoundsTo ((num : ℚ) / den) (roundEven num den) := by
  have hd : (0 : ℚ) < den := by exact_mod_cast hden
  obtain ⟨hdown, hup⟩ := quotient_dist num hden
  unfold roundEven
  simp only
  split
  · next h =>
    have h' : (2 : ℚ) * (num % den : Nat) < den := by exact_mod_cast h
    exact .of_lt (by rw [hdown, div_lt_iff₀ hd]; linarith)
  · split
    · next h =>
      have h' : (den : ℚ) < 2 * (num % den : Nat) := by exact_mod_cast h
      exact .of_lt (by rw [hup, div_lt_iff₀ hd]; linarith)
    · next h h' =>
      have hhalf : (2 : ℚ) * (num % den : Nat) = den := by
        exact_mod_cast Nat.le_antisymm (Nat.le_of_not_lt h') (Nat.le_of_not_lt h)
      split
      · next heven =>
        refine ⟨?_, fun _ => heven⟩
        rw [hdown, div_le_iff₀ hd]
        linarith
      · next hodd =>
        refine ⟨?_, fun _ => by omega⟩
        rw [hup, div_le_iff₀ hd]
        linarith

/-- At this exponent the significand of `v` has 53 bits, or it is the least exponent. -/
structure Binade (v : ℚ) (e : ℤ) : Prop where
  least : -1074 ≤ e
  upper : v / 2 ^ e < 2 ^ 53
  lower : e = -1074 ∨ 2 ^ 52 ≤ v / 2 ^ e

theorem two_zpow_pos (e : ℤ) : (0 : ℚ) < 2 ^ e := by positivity

namespace Binade

variable {v : ℚ} {e f : ℤ}

theorem not_lt (h : Binade v e) (h' : Binade v f) : ¬ e < f := by
  intro hlt
  rcases h'.lower with hf | hf
  · have := h.least
    omega
  · have hupper := (div_lt_iff₀ (two_zpow_pos e)).mp h.upper
    have hlower := (le_div_iff₀ (two_zpow_pos f)).mp hf
    have hstep : (2 : ℚ) ^ (e + 1) ≤ 2 ^ f := zpow_le_zpow_right₀ (by norm_num) hlt
    rw [zpow_add_one₀ (by norm_num)] at hstep
    linarith

theorem unique (h : Binade v e) (h' : Binade v f) : e = f :=
  le_antisymm (le_of_not_gt (h'.not_lt h)) (le_of_not_gt (h.not_lt h'))

theorem of_exact (hlow : 2 ^ 52 ≤ v / 2 ^ e) (hhigh : v / 2 ^ e < 2 ^ 53) :
    Binade v (max (-1074) e) := by
  rcases le_total (-1074) e with hle | hle
  · rw [max_eq_right hle]
    exact ⟨hle, hhigh, .inr hlow⟩
  · rw [max_eq_left hle]
    refine ⟨le_refl _, ?_, .inl rfl⟩
    have hstep : (2 : ℚ) ^ e ≤ 2 ^ (-1074 : ℤ) := zpow_le_zpow_right₀ (by norm_num) hle
    rw [div_lt_iff₀ (two_zpow_pos _)] at hhigh ⊢
    linarith

end Binade

theorem scaleDown_div (num den : Nat) (e : ℤ) :
    ((scaleDown num den e).1 : ℚ) / (scaleDown num den e).2 = (num : ℚ) / den / 2 ^ e := by
  have hpow := twoTo_div_twoTo (-e)
  rw [neg_neg, zpow_neg] at hpow
  rw [scaleDown, Nat.cast_mul, Nat.cast_mul, mul_div_mul_comm, hpow, div_eq_mul_inv _ ((2 : ℚ) ^ e)]

theorem scaleDown_pos (num : Nat) {den : Nat} (hden : 0 < den) (e : ℤ) :
    0 < (scaleDown num den e).2 :=
  Nat.mul_pos hden (twoTo_pos _)

/-- The exponent guessed from the lengths of numerator and denominator is right or one too small. -/
theorem quotient_log2_bounds {num den : Nat} (hnum : 0 < num) (hden : 0 < den) :
    (2 : ℚ) ^ 52 < (num : ℚ) / den / 2 ^ ((Nat.log2 num : ℤ) - Nat.log2 den - 53) ∧
      (num : ℚ) / den / 2 ^ ((Nat.log2 num : ℤ) - Nat.log2 den - 53) < 2 ^ 54 := by
  have hd : (0 : ℚ) < den := by exact_mod_cast hden
  have hnumLow : (2 : ℚ) ^ Nat.log2 num ≤ num := by exact_mod_cast Nat.log2_self_le hnum.ne'
  have hnumHigh : (num : ℚ) < 2 ^ (Nat.log2 num + 1) := by exact_mod_cast Nat.lt_log2_self
  have hdenLow : (2 : ℚ) ^ Nat.log2 den ≤ den := by exact_mod_cast Nat.log2_self_le hden.ne'
  have hdenHigh : (den : ℚ) < 2 ^ (Nat.log2 den + 1) := by exact_mod_cast Nat.lt_log2_self
  have hscale : (2 : ℚ) ^ ((Nat.log2 num : ℤ) - Nat.log2 den - 53) =
      2 ^ Nat.log2 num / 2 ^ Nat.log2 den / 2 ^ 53 := by
    rw [zpow_sub₀ (by norm_num), zpow_sub₀ (by norm_num), zpow_natCast, zpow_natCast]
    norm_num
  have ha : (0 : ℚ) < 2 ^ Nat.log2 num := by positivity
  have hb : (0 : ℚ) < 2 ^ Nat.log2 den := by positivity
  have hquotient : (num : ℚ) / den / 2 ^ ((Nat.log2 num : ℤ) - Nat.log2 den - 53) =
      num * 2 ^ Nat.log2 den * 2 ^ 53 / (den * 2 ^ Nat.log2 num) := by
    rw [hscale]
    field_simp
  rw [pow_succ] at hnumHigh hdenHigh
  rw [hquotient, lt_div_iff₀ (mul_pos hd ha), div_lt_iff₀ (mul_pos hd ha)]
  have hlow : (den : ℚ) * 2 ^ Nat.log2 num < 2 ^ Nat.log2 den * 2 * num :=
    mul_lt_mul hdenHigh hnumLow ha (by positivity)
  have hhigh : (num : ℚ) * 2 ^ Nat.log2 den < 2 ^ Nat.log2 num * 2 * den :=
    mul_lt_mul hnumHigh hdenLow hb (by positivity)
  constructor <;> linarith

theorem binade_targetExponent {num den : Nat} (hnum : 0 < num) (hden : 0 < den) :
    Binade ((num : ℚ) / den) (targetExponent num den) := by
  obtain ⟨hlow, hhigh⟩ := quotient_log2_bounds hnum hden
  have hsplit := scaleDown_div num den ((Nat.log2 num : ℤ) - Nat.log2 den - 53)
  have hpos := scaleDown_pos num hden ((Nat.log2 num : ℤ) - Nat.log2 den - 53)
  unfold targetExponent
  simp only
  generalize (Nat.log2 num : ℤ) - Nat.log2 den - 53 = guess at *
  have hfits : (scaleDown num den guess).1 / (scaleDown num den guess).2 < twoTo 53 ↔
      (num : ℚ) / den / 2 ^ guess < 2 ^ 53 := by
    have hposq : (0 : ℚ) < (scaleDown num den guess).2 := by exact_mod_cast hpos
    rw [← hsplit, div_lt_iff₀ hposq, Nat.div_lt_iff_lt_mul hpos]
    exact_mod_cast Iff.rfl
  have hnext : (num : ℚ) / den / 2 ^ (guess + 1) = (num : ℚ) / den / 2 ^ guess / 2 := by
    rw [zpow_add_one₀ (by norm_num), div_mul_eq_div_div]
  split
  · next hlt => exact .of_exact hlow.le (hfits.mp hlt)
  · next hge =>
    have hge' := not_lt.mp (mt hfits.mpr hge)
    refine .of_exact ?_ ?_ <;> rw [hnext] <;> linarith

namespace Binary64

/-- The value of a rounded significand; one of 54 bits moves to the next exponent. -/
def ofRounded (negative : Bool) (m : Nat) (e : Int) : Binary64 :=
  let (m, e) := if m = twoTo 53 then (twoTo 52, e + 1) else (m, e)
  if h : Canonical64 m e then .finite ⟨negative, m, e, h⟩ else .infinite negative

variable {negative : Bool} {num den num' den' m : Nat} {e : ℤ} {x : Finite64}

theorem exists_ofRounded (hnum : 0 < num) (hden : 0 < den) :
    ∃ m e, Binade ((num : ℚ) / den) e ∧ RoundsTo ((num : ℚ) / den / 2 ^ e) m ∧
      ∀ negative, ofRatio negative num den = ofRounded negative m e := by
  have hround := roundsTo_roundEven (scaleDown num den (targetExponent num den)).1
    (scaleDown_pos num hden (targetExponent num den))
  rw [scaleDown_div] at hround
  refine ⟨_, _, binade_targetExponent hnum hden, hround, fun negative => ?_⟩
  rw [ofRatio, if_neg hnum.ne']
  rfl

theorem ofRatio_eq_ofRounded (hnum : 0 < num) (hden : 0 < den) (he : Binade ((num : ℚ) / den) e)
    (hm : RoundsTo ((num : ℚ) / den / 2 ^ e) m) :
    ofRatio negative num den = ofRounded negative m e := by
  obtain ⟨m', e', he', hm', h⟩ := exists_ofRounded hnum hden
  obtain rfl := he.unique he'
  obtain rfl := hm.unique hm'
  exact h negative

/-- Only the quotient counts. -/
theorem ofRatio_congr (hden : 0 < den) (hden' : 0 < den')
    (h : (num : ℚ) / den = (num' : ℚ) / den') :
    ofRatio negative num den = ofRatio negative num' den' := by
  have hd : (0 : ℚ) < den := by exact_mod_cast hden
  have hd' : (0 : ℚ) < den' := by exact_mod_cast hden'
  rcases Nat.eq_zero_or_pos num with rfl | hnum
  · have hzero : num' = 0 := by
      have hquotient : (num' : ℚ) / den' = 0 := by rw [← h, Nat.cast_zero, zero_div]
      have := (div_eq_zero_iff.mp hquotient).resolve_right hd'.ne'
      exact_mod_cast this
    rw [hzero, ofRatio, ofRatio, if_pos rfl, if_pos rfl]
  · have hnum' : 0 < num' := by
      have hpos : (0 : ℚ) < (num' : ℚ) / den' := by
        rw [← h]
        exact div_pos (by exact_mod_cast hnum) hd
      have := (div_pos_iff_of_pos_right hd').mp hpos
      exact_mod_cast this
    obtain ⟨m, e, he, hm, hround⟩ := exists_ofRounded hnum hden
    rw [hround negative, ofRatio_eq_ofRounded hnum' hden' (h ▸ he) (h ▸ hm)]

/-- A result is at most half a step away. -/
theorem dist_of_ofRatio (hden : 0 < den) (h : ofRatio negative num den = .finite x) :
    x.negative = negative ∧ |(num : ℚ) / den - x.magnitude| ≤ 2 ^ x.exponent / 2 := by
  rcases Nat.eq_zero_or_pos num with rfl | hnum
  · rw [ofRatio, if_pos rfl] at h
    cases h
    refine ⟨rfl, ?_⟩
    simp only [Finite64.magnitude, Finite64.zero, Nat.cast_zero, zero_div, zero_mul, sub_zero,
      abs_zero]
    positivity
  · obtain ⟨m, e, -, hm, hround⟩ := exists_ofRounded hnum hden
    have hpos := two_zpow_pos e
    have hscaled : |(num : ℚ) / den - m * 2 ^ e| ≤ 2 ^ e / 2 := by
      have hsplit : (num : ℚ) / den - m * 2 ^ e = ((num : ℚ) / den / 2 ^ e - m) * 2 ^ e := by
        field_simp
      rw [hsplit, abs_mul, abs_of_pos hpos]
      nlinarith [hm.near]
    rw [hround negative, ofRounded] at h
    simp only at h
    split at h
    · next hcarry =>
      split at h
      · cases h
        refine ⟨rfl, ?_⟩
        simp only [Finite64.magnitude]
        have hvalue : ((twoTo 52 : Nat) : ℚ) * 2 ^ (e + 1) = m * 2 ^ e := by
          rw [hcarry, zpow_add_one₀ (by norm_num)]
          norm_num [twoTo]
          ring
        rw [hvalue, zpow_add_one₀ (by norm_num)]
        linarith
      · cases h
    · split at h
      · cases h
        exact ⟨rfl, hscaled⟩
      · cases h

theorem ofRatio_of_binade (hnum : 0 < num) (hden : 0 < den)
    (he : Binade ((num : ℚ) / den) x.exponent)
    (hnear : |(num : ℚ) / den / 2 ^ x.exponent - x.significand| < 1 / 2) :
    ofRatio negative num den = .finite { x with negative := negative } := by
  rw [ofRatio_eq_ofRounded hnum hden he (.of_lt hnear), ofRounded]
  simp only [if_neg x.canonical.1.ne, dif_pos x.canonical]

/-- The least significand of 53 bits is also reached from the binade below. -/
theorem ofRatio_of_binade_below (hnum : 0 < num) (hden : 0 < den) (hM : x.significand = twoTo 52)
    (he : Binade ((num : ℚ) / den) (x.exponent - 1))
    (hnear : |(num : ℚ) / den / 2 ^ (x.exponent - 1) - 2 ^ 53| < 1 / 2) :
    ofRatio negative num den = .finite { x with negative := negative } := by
  have hcast : ((twoTo 53 : Nat) : ℚ) = 2 ^ 53 := by exact_mod_cast rfl
  rw [← hcast] at hnear
  have hcanonical : Canonical64 (twoTo 52) (x.exponent - 1 + 1) := by
    rw [sub_add_cancel, ← hM]
    exact x.canonical
  rw [ofRatio_eq_ofRounded hnum hden he (.of_lt hnear), ofRounded]
  simp only [if_true, dif_pos hcanonical]
  simp [hM]

/-- A quotient that differs from a floating-point value in its seventeenth digit only is rounded
to it. -/
theorem ofRatio_of_near (hx : x.isZero = false) (hden : 0 < den)
    (h : |(num : ℚ) / den - x.magnitude| ≤ x.magnitude / (2 * 10 ^ 16)) :
    ofRatio negative num den = .finite { x with negative := negative } := by
  obtain ⟨hM, hleast, -, hnormal⟩ := x.canonical
  have hpos := two_zpow_pos x.exponent
  have hd : (0 : ℚ) < den := by exact_mod_cast hden
  have hnum : 0 < num := by
    have hmagnitude := Finite64.magnitude_pos hx
    have hquotient : (0 : ℚ) < (num : ℚ) / den := by linarith [(abs_le.mp h).1]
    exact_mod_cast (div_pos_iff_of_pos_right hd).mp hquotient
  have hM' : (x.significand : ℚ) + 1 ≤ 2 ^ 53 := by exact_mod_cast hM
  set w := (num : ℚ) / den / 2 ^ x.exponent with hw
  have hclose : |w - x.significand| ≤ x.significand / (2 * 10 ^ 16) := by
    have hsplit : (num : ℚ) / den - x.magnitude = (w - x.significand) * 2 ^ x.exponent := by
      rw [hw, Finite64.magnitude]
      field_simp
    rw [hsplit, abs_mul, abs_of_pos hpos, Finite64.magnitude, mul_div_right_comm] at h
    exact le_of_mul_le_mul_right h hpos
  obtain ⟨hlow, hhigh⟩ := abs_le.mp hclose
  by_cases hbin : x.exponent = -1074 ∨ 2 ^ 52 ≤ w
  · exact ofRatio_of_binade hnum hden ⟨hleast, by linarith, hbin⟩ (by linarith)
  · -- The quotient is below the least normal significand, where steps are half as wide.
    obtain ⟨hne, hbelow⟩ := not_or.mp hbin
    have hM52 : x.significand = twoTo 52 := by
      refine Nat.le_antisymm (Nat.le_of_not_lt fun hlt => hbelow ?_) (hnormal.resolve_right hne)
      have hlt' : (2 : ℚ) ^ 52 + 1 ≤ x.significand := by exact_mod_cast hlt
      linarith
    have hM52' : (x.significand : ℚ) = 2 ^ 52 := by exact_mod_cast hM52
    have hhalf : (num : ℚ) / den / 2 ^ (x.exponent - 1) = 2 * w := by
      rw [hw, zpow_sub_one₀ (by norm_num)]
      field_simp
    rw [not_le] at hbelow
    refine ofRatio_of_binade_below hnum hden hM52 ⟨by omega, ?_, .inr ?_⟩ ?_
    · rw [hhalf]
      linarith
    · rw [hhalf]
      linarith
    · rw [hhalf, abs_lt]
      constructor <;> linarith

theorem ofRatio_eq_zero (hden : 0 < den) (h : (num : ℚ) / den < 2 ^ (-1075 : ℤ)) :
    ofRatio negative num den = .finite (.zero negative) := by
  rcases Nat.eq_zero_or_pos num with rfl | hnum
  · rw [ofRatio, if_pos rfl]
  · have hnonneg : (0 : ℚ) ≤ (num : ℚ) / den := by positivity
    have hpos := two_zpow_pos (-1074)
    have hsmall : (num : ℚ) / den / 2 ^ (-1074 : ℤ) < 1 / 2 := by
      rw [div_lt_iff₀ hpos]
      rw [show (-1075 : ℤ) = -1074 - 1 by rfl, zpow_sub_one₀ (by norm_num)] at h
      linarith
    have he : Binade ((num : ℚ) / den) (-1074) :=
      ⟨le_refl _, hsmall.trans (by norm_num), .inl rfl⟩
    have hm : RoundsTo ((num : ℚ) / den / 2 ^ (-1074 : ℤ)) 0 := by
      refine .of_lt ?_
      rwa [Nat.cast_zero, sub_zero, abs_of_nonneg (by positivity)]
    rw [ofRatio_eq_ofRounded hnum hden he hm]
    rfl

theorem ofRatio_eq_infinite (hden : 0 < den) (h : 2 ^ (1024 : ℤ) ≤ (num : ℚ) / den) :
    ofRatio negative num den = .infinite negative := by
  have hd : (0 : ℚ) < den := by exact_mod_cast hden
  have hnum : 0 < num := by
    have hpos := (div_pos_iff_of_pos_right hd).mp ((two_zpow_pos 1024).trans_le h)
    exact_mod_cast hpos
  obtain ⟨m, e, he, -, hround⟩ := exists_ofRounded hnum hden
  have hexponent : 971 < e := by
    have hupper := (div_lt_iff₀ (two_zpow_pos e)).mp he.upper
    have hlt : (2 : ℚ) ^ (1024 : ℤ) < 2 ^ (53 + e) := by
      rw [zpow_add₀ (by norm_num)]
      exact h.trans_lt (by exact_mod_cast hupper)
    have := (zpow_lt_zpow_iff_right₀ (by norm_num)).mp hlt
    omega
  rw [hround negative, ofRounded]
  simp only
  split
  · exact dif_neg fun hc => absurd hc.2.2.1 (by omega)
  · exact dif_neg fun hc => absurd hc.2.2.1 (by omega)

/-- What is small enough for the largest binade has a finite result. -/
theorem exists_finite_ofRatio (hden : 0 < den) (h : (num : ℚ) / den < 2 ^ (1023 : ℤ)) :
    ∃ x, ofRatio negative num den = .finite x := by
  rcases Nat.eq_zero_or_pos num with rfl | hnum
  · exact ⟨_, by rw [ofRatio, if_pos rfl]⟩
  · obtain ⟨m, e, he, hm, hround⟩ := exists_ofRounded hnum hden
    have hleast := he.least
    have hexponent : e ≤ 970 := by
      rcases he.lower with hlow | hlow
      · omega
      · have hpow : (2 : ℚ) ^ (52 + e) < 2 ^ (1023 : ℤ) := by
          rw [zpow_add₀ (by norm_num)]
          exact ((le_div_iff₀ (two_zpow_pos e)).mp (by exact_mod_cast hlow)).trans_lt h
        have := (zpow_lt_zpow_iff_right₀ (by norm_num)).mp hpow
        omega
    obtain ⟨hbelow, habove⟩ := abs_le.mp hm.near
    have hhigh : m ≤ twoTo 53 := by
      have hcast : ((twoTo 53 : Nat) : ℚ) = 2 ^ 53 := by exact_mod_cast rfl
      by_contra hlt
      have hlt' : ((twoTo 53 : Nat) : ℚ) + 1 ≤ m := by exact_mod_cast Nat.lt_of_not_le hlt
      linarith [he.upper]
    have hlow : twoTo 52 ≤ m ∨ e = -1074 := by
      refine he.lower.symm.imp_left ?_
      intro hlow
      have hcast : ((twoTo 52 : Nat) : ℚ) = 2 ^ 52 := by exact_mod_cast rfl
      by_contra hlt
      have hlt' : (m : ℚ) + 1 ≤ (twoTo 52 : Nat) := by exact_mod_cast Nat.lt_of_not_le hlt
      linarith
    rw [hround negative, ofRounded]
    simp only
    by_cases hcarry : m = twoTo 53
    · have hc : Canonical64 (twoTo 52) (e + 1) :=
        ⟨by decide, by omega, by omega, .inl (Nat.le_refl _)⟩
      exact ⟨_, by rw [if_pos hcarry]; exact dif_pos hc⟩
    · have hc : Canonical64 m e :=
        ⟨Nat.lt_of_le_of_ne hhigh hcarry, hleast, by omega, hlow⟩
      exact ⟨_, by rw [if_neg hcarry]; exact dif_pos hc⟩

theorem ofRounded_of_false (h : ofRounded false m e = .finite { x with negative := false }) :
    ofRounded negative m e = .finite { x with negative := negative } := by
  unfold ofRounded at h ⊢
  generalize (if m = twoTo 53 then (twoTo 52, e + 1) else (m, e)) = p at h ⊢
  obtain ⟨m', e'⟩ := p
  simp only at h ⊢
  split at h
  · next hc =>
    cases h
    exact dif_pos hc
  · cases h

/-- The sign is no part of the rounding. -/
theorem ofRatio_of_false (hden : 0 < den)
    (h : ofRatio false num den = .finite { x with negative := false }) :
    ofRatio negative num den = .finite { x with negative := negative } := by
  obtain ⟨_, _, _, _⟩ := x
  rcases Nat.eq_zero_or_pos num with rfl | hnum
  · rw [ofRatio, if_pos rfl] at h ⊢
    cases h
    rfl
  · obtain ⟨m, e, -, -, hround⟩ := exists_ofRounded hnum hden
    rw [hround] at h ⊢
    exact ofRounded_of_false h

variable {n n' : Nat} {k k' : ℤ}

theorem decimal_quotient (n : Nat) (k : ℤ) :
    ((n * tenTo k.toNat : Nat) : ℚ) / tenTo (-k).toNat = n * 10 ^ k := by
  rw [← tenTo_div_tenTo, Nat.cast_mul, mul_div_assoc]

theorem two_pow_lt_ten_pow {a b : Nat} (h : a < 3 * b) : (2 : ℚ) ^ a < 10 ^ b :=
  calc (2 : ℚ) ^ a < 2 ^ (3 * b) := pow_lt_pow_right₀ (by norm_num) h
    _ = 8 ^ b := by rw [pow_mul]; norm_num
    _ ≤ 10 ^ b := pow_le_pow_left₀ (by norm_num) (by norm_num) b

/-- The first digit of so large a number stands beyond all finite values. -/
theorem overflow_of_log2 (hn : n ≠ 0) (h : 400 < k + (Nat.log2 n : ℤ) / 4) :
    (2 : ℚ) ^ (1024 : ℤ) ≤ n * 10 ^ k := by
  have hdigits : (10 : ℚ) ^ ((Nat.log2 n : ℤ) / 4) ≤ n := by
    have hlog : (10 : Nat) ^ (Nat.log2 n / 4) ≤ n :=
      calc (10 : Nat) ^ (Nat.log2 n / 4) ≤ (2 ^ 4) ^ (Nat.log2 n / 4) :=
            Nat.pow_le_pow_left (by norm_num) _
        _ = 2 ^ (4 * (Nat.log2 n / 4)) := (pow_mul 2 4 _).symm
        _ ≤ 2 ^ Nat.log2 n := Nat.pow_le_pow_right (by norm_num) (Nat.mul_div_le _ 4)
        _ ≤ n := Nat.log2_self_le hn
    have hcast : (10 : ℚ) ^ ((Nat.log2 n : ℤ) / 4) = ((10 ^ (Nat.log2 n / 4) : Nat) : ℚ) := by
      rw [Nat.cast_pow, ← zpow_natCast]
      norm_num
    rw [hcast]
    exact_mod_cast hlog
  calc (2 : ℚ) ^ (1024 : ℤ) ≤ 10 ^ (401 : ℤ) := by
        rw [zpow_ofNat, zpow_ofNat]
        exact (two_pow_lt_ten_pow (by norm_num)).le
    _ ≤ 10 ^ ((Nat.log2 n : ℤ) / 4 + k) := zpow_le_zpow_right₀ (by norm_num) (by omega)
    _ = 10 ^ ((Nat.log2 n : ℤ) / 4) * 10 ^ k := zpow_add₀ (by norm_num) _ _
    _ ≤ n * 10 ^ k := mul_le_mul_of_nonneg_right hdigits (by positivity)

theorem underflow_of_log2 (h : k + (Nat.log2 n : ℤ) < -400) :
    (n : ℚ) * 10 ^ k < 2 ^ (-1075 : ℤ) := by
  have hdigits : (n : ℚ) ≤ 10 ^ ((Nat.log2 n : ℤ) + 1) := by
    have hlog : n ≤ 10 ^ (Nat.log2 n + 1) :=
      Nat.lt_log2_self.le.trans (Nat.pow_le_pow_left (by norm_num) _)
    rw [show (Nat.log2 n : ℤ) + 1 = ((Nat.log2 n + 1 : Nat) : ℤ) by simp, zpow_natCast]
    exact_mod_cast hlog
  calc (n : ℚ) * 10 ^ k ≤ 10 ^ ((Nat.log2 n : ℤ) + 1) * 10 ^ k :=
        mul_le_mul_of_nonneg_right hdigits (by positivity)
    _ = 10 ^ ((Nat.log2 n : ℤ) + 1 + k) := (zpow_add₀ (by norm_num) _ _).symm
    _ ≤ 10 ^ (-400 : ℤ) := zpow_le_zpow_right₀ (by norm_num) (by omega)
    _ < 2 ^ (-1075 : ℤ) := by
        rw [zpow_neg, zpow_neg, zpow_ofNat, zpow_ofNat]
        exact inv_strictAnti₀ (by positivity) (two_pow_lt_ten_pow (by norm_num))

/-- The exponents that are settled beforehand are settled as rounding would have it. -/
theorem ofDecimal_eq_ofRatio (negative : Bool) (n : Nat) (k : ℤ) :
    ofDecimal negative n k = ofRatio negative (n * tenTo k.toNat) (tenTo (-k).toNat) := by
  have hquotient := decimal_quotient n k
  have hden := tenTo_pos (-k).toNat
  unfold ofDecimal
  split
  · next hn => rw [hn, Nat.zero_mul, ofRatio, if_pos rfl]
  · next hn =>
    simp only
    split
    · next hover =>
      exact (ofRatio_eq_infinite hden (hquotient ▸ overflow_of_log2 hn hover)).symm
    · split
      · next hunder => exact (ofRatio_eq_zero hden (hquotient ▸ underflow_of_log2 hunder)).symm
      · rfl

/-- Only the value of a decimal counts. -/
theorem ofDecimal_congr (h : (n : ℚ) * 10 ^ k = n' * 10 ^ k') :
    ofDecimal negative n k = ofDecimal negative n' k' := by
  rw [ofDecimal_eq_ofRatio, ofDecimal_eq_ofRatio]
  refine ofRatio_congr (tenTo_pos _) (tenTo_pos _) ?_
  rw [decimal_quotient, decimal_quotient, h]

theorem dist_of_ofDecimal (h : ofDecimal negative n k = .finite x) :
    |(n : ℚ) * 10 ^ k - x.magnitude| ≤ 2 ^ x.exponent / 2 := by
  rw [ofDecimal_eq_ofRatio] at h
  have hdist := (dist_of_ofRatio (tenTo_pos _) h).2
  rwa [decimal_quotient] at hdist

theorem ofDecimal_of_near (hx : x.isZero = false)
    (h : |(n : ℚ) * 10 ^ k - x.magnitude| ≤ x.magnitude / (2 * 10 ^ 16)) :
    ofDecimal negative n k = .finite { x with negative := negative } := by
  rw [ofDecimal_eq_ofRatio]
  exact ofRatio_of_near hx (tenTo_pos _) (by rwa [decimal_quotient])

theorem ofDecimal_of_false (h : ofDecimal false n k = .finite { x with negative := false }) :
    ofDecimal negative n k = .finite { x with negative := negative } := by
  rw [ofDecimal_eq_ofRatio] at h ⊢
  exact ofRatio_of_false (tenTo_pos _) h

end Binary64

end GridQuery.Number
