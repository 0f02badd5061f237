import GridQuery.Proofs.Number.Rounding
import Mathlib.Tactic.LinearCombination

/-!
The shortest decimals of floating-point values. Seventeen digits always suffice, and among large and
very small numbers no value lies halfway between two decimals that are both rounded to it.
-/

namespace GridQuery.Number

theorem findSome?_congr {α β : Type} {f g : α → Option β} {l : List α}
    (h : ∀ a ∈ l, f a = g a) : l.findSome? f = l.findSome? g := by
  induction l with
  | nil => rfl
  | cons a r ih =>
    obtain ⟨ha, hr⟩ := List.forall_mem_cons.mp h
    rw [List.findSome?_cons, List.findSome?_cons, ha, ih hr]

namespace Decimal

theorem value_stripZeros (fuel : Nat) (d : Decimal) : (d.stripZeros fuel).value = d.value := by
  induction fuel generalizing d with
  | zero => rfl
  | succ fuel ih =>
    rw [stripZeros]
    split
    · next h =>
      have hdigits : (d.digits : ℚ) = (d.digits / 10 : Nat) * 10 := by
        exact_mod_cast (Nat.div_mul_cancel (Nat.dvd_of_mod_eq_zero h.2)).symm
      rw [ih, value, value, zpow_add_one₀ (by norm_num), hdigits]
      simp only
      ring
    · rfl

theorem digits_stripZeros_le (fuel : Nat) (d : Decimal) :
    (d.stripZeros fuel).digits ≤ d.digits := by
  induction fuel generalizing d with
  | zero => exact Nat.le_refl _
  | succ fuel ih =>
    rw [stripZeros]
    split
    · exact (ih _).trans (Nat.div_le_self _ _)
    · exact Nat.le_refl _

theorem digits_stripZeros_pos (fuel : Nat) {d : Decimal} (h : 0 < d.digits) :
    0 < (d.stripZeros fuel).digits := by
  induction fuel generalizing d with
  | zero => exact h
  | succ fuel ih =>
    rw [stripZeros]
    split
    · next h' => exact ih (by simp only; omega)
    · exact h

end Decimal

namespace Finite64

variable {x : Finite64} {e : ℤ} {d : Decimal} {tie tie' : Tie}

/-- A quotient and its divisor, told by the number of digits. -/
theorem length_digits_div {n d : Nat} (hd : 0 < d) (h : d ≤ n) :
    d * 10 ^ ((digits (n / d)).length - 1) ≤ n ∧ n < d * 10 ^ (digits (n / d)).length := by
  have hlow := pow_length_digits_le (Nat.div_pos h hd)
  have hhigh := lt_pow_length_digits (n / d)
  rw [Nat.le_div_iff_mul_le hd, Nat.mul_comm] at hlow
  rw [Nat.div_lt_iff_lt_mul hd, Nat.mul_comm] at hhigh
  exact ⟨hlow, hhigh⟩

theorem decimalPoint_bounds (hx : x.isZero = false) :
    (10 : ℚ) ^ (x.decimalPoint - 1) ≤ x.magnitude ∧ x.magnitude < 10 ^ x.decimalPoint := by
  have hn := ratio_fst_pos hx
  have hd := x.ratio_pos
  rw [← x.ratio_div]
  unfold decimalPoint
  generalize x.ratio = p at hn hd ⊢
  obtain ⟨n, d⟩ := p
  simp only at hn hd ⊢
  have hnq : (0 : ℚ) < n := by exact_mod_cast hn
  have hdq : (0 : ℚ) < d := by exact_mod_cast hd
  split
  · next hle =>
    obtain ⟨hlow, hhigh⟩ := length_digits_div hd hle
    have hpos := length_digits_pos (n / d)
    generalize (digits (n / d)).length = len at hlow hhigh hpos ⊢
    rw [show (len : ℤ) - 1 = ((len - 1 : Nat) : ℤ) by omega, zpow_natCast, zpow_natCast,
      le_div_iff₀' hdq, div_lt_iff₀' hdq]
    exact ⟨by exact_mod_cast hlow, by exact_mod_cast hhigh⟩
  · next hlt =>
    obtain ⟨hlow, hhigh⟩ := length_digits_div hn (by omega : n ≤ d - 1)
    have hpos := length_digits_pos ((d - 1) / n)
    generalize (digits ((d - 1) / n)).length = len at hlow hhigh hpos ⊢
    have hlow' : n * 10 ^ (len - 1) < d := by omega
    have hhigh' : d ≤ n * 10 ^ len := by omega
    rw [show 1 - (len : ℤ) - 1 = -(len : ℤ) by ring,
      show 1 - (len : ℤ) = -((len - 1 : Nat) : ℤ) by omega, zpow_neg, zpow_neg, zpow_natCast,
      zpow_natCast, inv_le_iff_one_le_mul₀ (by positivity), div_lt_iff₀ hdq,
      inv_mul_eq_div, lt_div_iff₀ (by positivity), div_mul_eq_mul_div, one_le_div hdq]
    exact ⟨by exact_mod_cast hhigh', by exact_mod_cast hlow'⟩

/-- The digits of the greatest decimal on the grid `10 ^ e` that is no larger than the value. -/
def below (x : Finite64) (e : ℤ) : Nat :=
  x.ratio.1 * tenTo (-e).toNat / (x.ratio.2 * tenTo e.toNat)

theorem grid_pos (x : Finite64) (e : ℤ) : 0 < x.ratio.2 * tenTo e.toNat :=
  Nat.mul_pos x.ratio_pos (tenTo_pos _)

theorem grid_quotient (x : Finite64) (e : ℤ) :
    ((x.ratio.1 * tenTo (-e).toNat : Nat) : ℚ) / (x.ratio.2 * tenTo e.toNat : Nat) =
      x.magnitude / 10 ^ e := by
  have hpow := tenTo_div_tenTo (-e)
  rw [neg_neg, zpow_neg] at hpow
  rw [Nat.cast_mul, Nat.cast_mul, mul_div_mul_comm, hpow, ratio_div, div_eq_mul_inv]

theorem below_bounds (x : Finite64) (e : ℤ) :
    (x.below e : ℚ) * 10 ^ e ≤ x.magnitude ∧ x.magnitude < (x.below e + 1) * 10 ^ e := by
  have hpos : (0 : ℚ) < 10 ^ e := by positivity
  rw [← le_div_iff₀ hpos, ← div_lt_iff₀ hpos, ← grid_quotient]
  refine ⟨Nat.cast_div_le, ?_⟩
  have hden : (0 : ℚ) < (x.ratio.2 * tenTo e.toNat : Nat) := by exact_mod_cast x.grid_pos e
  rw [div_lt_iff₀ hden]
  exact_mod_cast (Nat.div_lt_iff_lt_mul (x.grid_pos e)).mp (Nat.lt_succ_self _)

theorem readsBack_iff :
    x.readsBack d = true ↔
      Binary64.ofDecimal false d.digits d.exponent = .finite { x with negative := false } :=
  decide_eq_true_iff

theorem isSome_onGrid? (tie : Tie) (x : Finite64) (e : ℤ) :
    (x.onGrid? tie e).isSome =
      (x.readsBack ⟨x.below e, e⟩ || x.readsBack ⟨x.below e + 1, e⟩) := by
  unfold onGrid? below
  simp only
  split
  · next h h' => simp [h, h']
  · next h h' => simp [h, h']
  · next h h' => simp [h, h']
  · next h h' =>
    rw [h, h']
    split
    · rfl
    · rfl
    · split <;> rfl

theorem of_onGrid? (h : x.onGrid? tie e = some d) :
    d.exponent = e ∧ x.readsBack d = true ∧ x.below e ≤ d.digits ∧ d.digits ≤ x.below e + 1 := by
  unfold onGrid? at h
  simp only at h
  rw [← below] at h
  split at h
  · cases h
  · next hbelow _ =>
    cases h
    exact ⟨rfl, hbelow, Nat.le_refl _, Nat.le_succ _⟩
  · next _ habove =>
    cases h
    exact ⟨rfl, habove, Nat.le_succ _, Nat.le_refl _⟩
  · next hbelow habove =>
    have hone : d = ⟨x.below e, e⟩ ∨ d = ⟨x.below e + 1, e⟩ := by
      split at h
      · exact .inl (Option.some.inj h).symm
      · exact .inr (Option.some.inj h).symm
      · split at h
        · exact .inr (Option.some.inj h).symm
        · split at h
          · exact .inl (Option.some.inj h).symm
          · exact .inr (Option.some.inj h).symm
    rcases hone with rfl | rfl
    · exact ⟨rfl, hbelow, Nat.le_refl _, Nat.le_succ _⟩
    · exact ⟨rfl, habove, Nat.le_succ _, Nat.le_refl _⟩

/-- The value lies halfway between its neighbours on the grid, and both are rounded to it. -/
def HasTie (x : Finite64) (e : ℤ) : Prop :=
  x.readsBack ⟨x.below e, e⟩ = true ∧ x.readsBack ⟨x.below e + 1, e⟩ = true ∧
    2 * (x.ratio.1 * tenTo (-e).toNat) = (2 * x.below e + 1) * (x.ratio.2 * tenTo e.toNat)

theorem onGrid?_congr (h : ¬ x.HasTie e) : x.onGrid? tie e = x.onGrid? tie' e := by
  unfold onGrid?
  simp only
  rw [← below]
  split
  · rfl
  · rfl
  · rfl
  · next hbelow habove =>
    split
    · rfl
    · rfl
    · next heq => exact absurd ⟨hbelow, habove, Nat.compare_eq_eq.mp heq⟩ h

/-- At the places that are tried, the grid gives one digit more each time. -/
theorem below_range (hx : x.isZero = false) (i : Nat) :
    10 ^ i ≤ x.below (x.decimalPoint - (i + 1 : Nat)) ∧
      x.below (x.decimalPoint - (i + 1 : Nat)) < 10 ^ (i + 1) := by
  obtain ⟨hfirst, hpoint⟩ := decimalPoint_bounds hx
  set e := x.decimalPoint - (i + 1 : Nat) with he
  obtain ⟨hlow, hhigh⟩ := x.below_bounds e
  have hpos : (0 : ℚ) < 10 ^ e := by positivity
  have hfirst' : (10 : ℚ) ^ i * 10 ^ e ≤ x.magnitude := by
    rw [← zpow_natCast, ← zpow_add₀ (by norm_num)]
    rwa [show (i : ℤ) + e = x.decimalPoint - 1 by omega]
  have hpoint' : x.magnitude < (10 : ℚ) ^ (i + 1) * 10 ^ e := by
    rw [← zpow_natCast, ← zpow_add₀ (by norm_num)]
    rwa [show ((i + 1 : Nat) : ℤ) + e = x.decimalPoint by omega]
  have hleast : (10 : ℚ) ^ i < x.below e + 1 :=
    lt_of_mul_lt_mul_right (hfirst'.trans_lt hhigh) hpos.le
  have hmost : (x.below e : ℚ) < 10 ^ (i + 1) :=
    lt_of_mul_lt_mul_right (hlow.trans_lt hpoint') hpos.le
  exact ⟨Nat.lt_succ_iff.mp (by exact_mod_cast hleast), by exact_mod_cast hmost⟩

/-- One of the two neighbours with seventeen digits is rounded to the value. -/
theorem readsBack_seventeen (hx : x.isZero = false) :
    x.readsBack ⟨x.below (x.decimalPoint - 17), x.decimalPoint - 17⟩ = true ∨
      x.readsBack ⟨x.below (x.decimalPoint - 17) + 1, x.decimalPoint - 17⟩ = true := by
  obtain ⟨hfirst, -⟩ := decimalPoint_bounds hx
  set e := x.decimalPoint - 17 with he
  obtain ⟨hlow, hhigh⟩ := x.below_bounds e
  have hstep : (10 : ℚ) ^ e / 2 ≤ x.magnitude / (2 * 10 ^ 16) := by
    rw [show x.decimalPoint - 1 = ((16 : Nat) : ℤ) + e by omega, zpow_add₀ (by norm_num),
      zpow_natCast] at hfirst
    rw [le_div_iff₀ (by positivity)]
    linarith
  by_cases hnear : x.magnitude - x.below e * 10 ^ e ≤ 10 ^ e / 2
  · refine .inl (readsBack_iff.mpr (Binary64.ofDecimal_of_near hx ?_))
    rw [abs_le]
    constructor <;> linarith
  · refine .inr (readsBack_iff.mpr (Binary64.ofDecimal_of_near hx ?_))
    rw [not_le] at hnear
    rw [Nat.cast_add_one, abs_le]
    constructor <;> linarith

theorem exists_shortest (tie : Tie) (hx : x.isZero = false) :
    ∃ i < 17, ∃ d, x.onGrid? tie (x.decimalPoint - (i + 1 : Nat)) = some d ∧
      x.shortest tie = d.stripZeros 400 := by
  have hlast : (x.onGrid? tie (x.decimalPoint - (16 + 1 : Nat))).isSome := by
    rw [isSome_onGrid?, Bool.or_eq_true]
    exact readsBack_seventeen hx
  have hfound : ((List.range 17).findSome? fun i : Nat =>
      x.onGrid? tie (x.decimalPoint - (i + 1 : Nat))).isSome := by
    rw [List.findSome?_isSome_iff]
    exact ⟨16, by simp, hlast⟩
  obtain ⟨d, hd⟩ := Option.isSome_iff_exists.mp hfound
  obtain ⟨i, hi, hgrid⟩ := List.exists_of_findSome?_eq_some hd
  refine ⟨i, List.mem_range.mp hi, d, hgrid, ?_⟩
  rw [shortest, hd]
  rfl

theorem readsBack_shortest (tie : Tie) (hx : x.isZero = false) :
    x.readsBack (x.shortest tie) = true := by
  obtain ⟨i, -, d, hd, hshortest⟩ := exists_shortest tie hx
  have hvalue := d.value_stripZeros 400
  rw [← hshortest] at hvalue
  rw [readsBack_iff, Binary64.ofDecimal_congr hvalue]
  exact readsBack_iff.mp (of_onGrid? hd).2.1

theorem digits_shortest_pos (tie : Tie) (hx : x.isZero = false) :
    0 < (x.shortest tie).digits := by
  obtain ⟨i, -, d, hd, hshortest⟩ := exists_shortest tie hx
  obtain ⟨-, -, hlow, -⟩ := of_onGrid? hd
  rw [hshortest]
  have hpos : 0 < 10 ^ i := by positivity
  have hrange := (below_range hx i).1
  exact Decimal.digits_stripZeros_pos 400 (by omega)

theorem digits_shortest_le (tie : Tie) (hx : x.isZero = false) :
    (x.shortest tie).digits ≤ 10 ^ 17 := by
  obtain ⟨i, hi, d, hd, hshortest⟩ := exists_shortest tie hx
  obtain ⟨he, -, -, hhigh⟩ := of_onGrid? hd
  rw [hshortest]
  have hrange := (below_range hx i).2
  have hpow : 10 ^ (i + 1) ≤ 10 ^ 17 := Nat.pow_le_pow_right (by norm_num) hi
  exact (d.digits_stripZeros_le 400).trans (by omega)

theorem decimalPoint_le_shortest (tie : Tie) (hx : x.isZero = false) :
    (10 : ℚ) ^ (x.decimalPoint - 1) ≤ (x.shortest tie).value := by
  obtain ⟨i, -, d, hd, hshortest⟩ := exists_shortest tie hx
  obtain ⟨he, -, hlow, -⟩ := of_onGrid? hd
  have hdigits : ((10 : ℚ)) ^ i ≤ d.digits := by exact_mod_cast (below_range hx i).1.trans hlow
  rw [hshortest, Decimal.value_stripZeros, Decimal.value, he,
    show x.decimalPoint - 1 = (i : ℤ) + (x.decimalPoint - (i + 1 : Nat)) by omega,
    zpow_add₀ (by norm_num), zpow_natCast]
  exact mul_le_mul_of_nonneg_right hdigits (by positivity)

theorem shortest_congr (h : ∀ i < 17, ¬ x.HasTie (x.decimalPoint - (i + 1 : Nat))) :
    x.shortest tie = x.shortest tie' := by
  unfold shortest
  simp only
  rw [findSome?_congr fun i hi => onGrid?_congr (h i (List.mem_range.mp hi))]

theorem HasTie.magnitude_eq (h : x.HasTie e) : 2 * x.magnitude = (2 * x.below e + 1) * 10 ^ e := by
  obtain ⟨-, -, hmiddle⟩ := h
  have hquotient := grid_quotient x e
  have hden : (0 : ℚ) < (x.ratio.2 * tenTo e.toNat : Nat) := by exact_mod_cast x.grid_pos e
  rw [div_eq_div_iff hden.ne' (by positivity)] at hquotient
  have hcast : (2 : ℚ) * (x.ratio.1 * tenTo (-e).toNat : Nat) =
      (2 * x.below e + 1) * (x.ratio.2 * tenTo e.toNat : Nat) := by exact_mod_cast hmiddle
  refine mul_right_cancel₀ hden.ne' ?_
  linear_combination 10 ^ e * hcast - 2 * hquotient

/-- The grid of a tie is no wider than a step of floating point. -/
theorem HasTie.grid_le (h : x.HasTie e) : (10 : ℚ) ^ e ≤ 2 ^ x.exponent := by
  have hdist := Binary64.dist_of_ofDecimal (readsBack_iff.mp h.1)
  change |(x.below e : ℚ) * 10 ^ e - x.magnitude| ≤ 2 ^ x.exponent / 2 at hdist
  linarith [(abs_le.mp hdist).1, h.magnitude_eq]

/-- A whole number is an even multiple of half of any grid that is as fine as its own. -/
theorem not_hasTie_of_whole (hx : 0 ≤ x.exponent) : ¬ x.HasTie e := by
  intro h
  have hgrid := h.grid_le
  have hratio := h.2.2
  obtain ⟨q, hq⟩ := Int.eq_ofNat_of_zero_le hx
  have hone : twoTo (-(q : ℤ)).toNat = 1 := by simp [twoTo]
  rw [ratio, hq, hone, Int.toNat_natCast, Nat.one_mul] at hratio
  obtain ⟨g, rfl | rfl⟩ := e.eq_nat_or_neg
  · have hle : 10 ^ g ≤ 2 ^ q := by
      rw [hq, zpow_natCast, zpow_natCast] at hgrid
      exact_mod_cast hgrid
    have hgq : g ≤ q :=
      (Nat.pow_le_pow_iff_right (by norm_num)).mp
        ((Nat.pow_le_pow_left (by norm_num : 2 ≤ 10) g).trans hle)
    have hsplit : twoTo q = 2 ^ (q - g) * 2 ^ g := (Nat.pow_sub_mul_pow 2 hgq).symm
    have hten : tenTo (g : ℤ).toNat = 5 ^ g * 2 ^ g := Nat.mul_pow 5 2 g
    have hzero : tenTo (-(g : ℤ)).toNat = 1 := by simp [tenTo]
    rw [hsplit, hten, hzero] at hratio
    have hodd : 2 * (x.significand * 2 ^ (q - g)) = (2 * x.below g + 1) * 5 ^ g :=
      Nat.eq_of_mul_eq_mul_right (by positivity : 0 < 2 ^ g) (by linarith)
    have hparity : Odd ((2 * x.below g + 1) * 5 ^ g) :=
      (odd_two_mul_add_one _).mul (Odd.pow (by decide))
    rw [← hodd] at hparity
    exact absurd (even_two_mul _) (Nat.not_even_iff_odd.mpr hparity)
  · have hzero : tenTo (-(g : ℤ)).toNat = 1 := by simp [tenTo]
    rw [hzero] at hratio
    omega

/-- A value halfway between two decimals so far behind the point has more digits than they have. -/
theorem not_hasTie_of_small (he : e ≤ -25) (hdigits : x.below e < 10 ^ 17) : ¬ x.HasTie e := by
  intro h
  have hratio := h.2.2
  obtain ⟨g, rfl⟩ : ∃ g : Nat, e = -(g : ℤ) := ⟨(-e).toNat, by omega⟩
  have hone : tenTo (-(g : ℤ)).toNat = 1 := by simp [tenTo]
  have hten : tenTo (- -(g : ℤ)).toNat = 5 ^ g * 2 ^ g := by
    rw [neg_neg]
    exact Nat.mul_pow 5 2 g
  rw [hone, hten, Nat.mul_one] at hratio
  have hfive : 5 ^ g ∣ (2 * x.below (-g) + 1) * x.ratio.2 :=
    ⟨2 * (x.ratio.1 * 2 ^ g), by rw [← hratio]; ring⟩
  have hcoprime : Nat.Coprime (5 ^ g) x.ratio.2 := Nat.Coprime.pow _ _ (by decide)
  have hle := Nat.le_of_dvd (Nat.succ_pos _) (hcoprime.dvd_of_dvd_mul_right hfive)
  have hpow : 5 ^ 25 ≤ 5 ^ g := Nat.pow_le_pow_right (by norm_num) (by omega)
  norm_num at hpow hdigits
  omega

/-- Among large numbers it does not matter which way ties go. -/
theorem shortest_of_large (hx : x.isZero = false) (h : 10 ^ 16 ≤ (x.shortest tie).value) :
    x.shortest tie' = x.shortest tie := by
  refine shortest_congr fun _ _ => not_hasTie_of_whole ?_
  by_contra hneg
  have hdist := Binary64.dist_of_ofDecimal (readsBack_iff.mp (readsBack_shortest tie hx))
  change |(x.shortest tie).value - x.significand * 2 ^ x.exponent| ≤ 2 ^ x.exponent / 2 at hdist
  have hstep : (2 : ℚ) ^ x.exponent ≤ 1 := zpow_le_one_of_nonpos₀ (by norm_num) (by omega)
  have hsignificand : (x.significand : ℚ) ≤ 2 ^ 53 := by exact_mod_cast x.canonical.1.le
  have hmagnitude : (x.significand : ℚ) * 2 ^ x.exponent ≤ 2 ^ 53 * 1 :=
    mul_le_mul hsignificand hstep (by positivity) (by positivity)
  linarith [(abs_le.mp hdist).2]

/-- Among very small numbers it does not matter either. -/
theorem shortest_of_small (hx : x.isZero = false)
    (h : (x.shortest tie).value < 10 ^ (-28 : ℤ)) : x.shortest tie' = x.shortest tie := by
  have hpoint := (zpow_lt_zpow_iff_right₀ (by norm_num)).mp
    ((decimalPoint_le_shortest tie hx).trans_lt h)
  refine shortest_congr fun i hi => not_hasTie_of_small (by omega) ?_
  exact (below_range hx i).2.trans_le (Nat.pow_le_pow_right (by norm_num) hi)

end Finite64

end GridQuery.Number
