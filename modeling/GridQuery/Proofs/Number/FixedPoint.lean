import GridQuery.Proofs.Number.Value
import Mathlib.Tactic.NormNum

/-!
What is read as a fixed-point decimal, and with which value. An exponent that lowers the point costs
at most half of the last place.
-/

namespace GridQuery.Number.Fixed96

variable {negative b : Bool} {m k d N s : Nat} {v g : ℚ} {ds es cs rest : List Char}

/-- Some decimal has this absolute value. -/
def Fits (v : ℚ) : Prop :=
  ∃ M j : Nat, M < mantissaLimit ∧ j ≤ maxScale ∧ v = M / 10 ^ j

/-- What reading makes of an absolute value: nothing if it would be rounded to the limit, else a
decimal that has the value if any decimal has. -/
structure Reads (negative : Bool) (v : ℚ) (result : Option Fixed96) : Prop where
  none_iff : result = none ↔ 2 ^ 96 - 1 / 2 ≤ v
  value_iff : ∀ y, result = some y → (y.value = signed negative v ↔ Fits v)

theorem cast_lt_mantissaLimit (h : m < mantissaLimit) : (m : ℚ) ≤ 2 ^ 96 - 1 := by
  have hnat : m + 1 ≤ mantissaLimit := h
  have hcast : ((m + 1 : Nat) : ℚ) ≤ ((mantissaLimit : Nat) : ℚ) := by exact_mod_cast hnat
  have hlimit : ((mantissaLimit : Nat) : ℚ) = 2 ^ 96 := by norm_num [mantissaLimit, twoTo]
  rw [hlimit, Nat.cast_add_one] at hcast
  linarith

theorem mantissaLimit_le_cast (h : mantissaLimit ≤ m) : (2 : ℚ) ^ 96 ≤ m := by
  have hcast : ((mantissaLimit : Nat) : ℚ) ≤ m := by exact_mod_cast h
  have hlimit : ((mantissaLimit : Nat) : ℚ) = 2 ^ 96 := by norm_num [mantissaLimit, twoTo]
  rwa [hlimit] at hcast

theorem div_ten_pow_le (hv : 0 ≤ v) (k : Nat) : v / 10 ^ k ≤ v :=
  div_le_self hv (one_le_pow₀ (by norm_num))

theorem Fits.lt (h : Fits v) : v < 2 ^ 96 - 1 / 2 := by
  obtain ⟨M, j, hM, -, rfl⟩ := h
  have hle := div_ten_pow_le M.cast_nonneg j
  linarith [cast_lt_mantissaLimit hM]

theorem Fits.units (h : Fits v) (negative : Bool) :
    ∃ i : ℤ, signed negative v * 10 ^ 28 = i := by
  obtain ⟨M, j, -, hj, rfl⟩ := h
  have hdecimal : (M : ℚ) / 10 ^ j = Decimal.value ⟨M, -j⟩ := by
    rw [Decimal.value, zpow_neg, zpow_natCast, div_eq_mul_inv]
  rw [maxScale] at hj
  rw [hdecimal]
  exact Decimal.units (by simp only; omega) negative

/-- Seventeen digits that end before the point or soon after it are digits of a decimal. -/
theorem fits_value {d : Decimal} (hd : d.digits ≤ 10 ^ 17) (hlow : -28 ≤ d.exponent)
    (hhigh : d.value < 10 ^ 17) : Fits d.value := by
  have hlimit : 10 ^ 17 < mantissaLimit := by decide +kernel
  obtain ⟨k, hk | hk⟩ := d.exponent.eq_nat_or_neg
  · have hvalue : d.value = (d.digits * 10 ^ k : Nat) := by
      rw [Decimal.value, hk, zpow_natCast]
      push_cast
      rfl
    rw [hvalue] at hhigh ⊢
    have hfew : d.digits * 10 ^ k < 10 ^ 17 := by exact_mod_cast hhigh
    exact ⟨_, 0, hfew.trans hlimit, Nat.zero_le _, by rw [pow_zero, div_one]⟩
  · refine ⟨d.digits, k, hd.trans_lt hlimit, ?_, ?_⟩
    · rw [maxScale]
      omega
    · rw [Decimal.value, hk, zpow_neg, zpow_natCast, div_eq_mul_inv]

namespace Reads

theorem of_some (hN : N < mantissaLimit) (hs : s ≤ maxScale) (hv : v < 2 ^ 96 - 1 / 2)
    (hexact : Fits v → v = N / 10 ^ s) : Reads negative v (some (make negative N s)) := by
  refine ⟨iff_of_false (Option.some_ne_none _) (not_le.mpr hv), ?_⟩
  rintro _ ⟨⟩
  rw [value_make, signed_inj]
  exact ⟨fun h => ⟨N, s, hN, hs, h.symm⟩, fun h => (hexact h).symm⟩

theorem of_none (hv : 2 ^ 96 - 1 / 2 ≤ v) : Reads negative v none :=
  ⟨iff_of_true rfl hv, fun _ h => nomatch h⟩

theorem exists_of_fits {result : Option Fixed96} (h : Reads negative v result) (hv : Fits v) :
    ∃ y, result = some y ∧ y.value = signed negative v := by
  cases hr : result with
  | none => exact absurd (h.none_iff.mp hr) (not_le.mpr hv.lt)
  | some y => exact ⟨y, rfl, (h.value_iff y hr).mpr hv⟩

end Reads

/-- A value that fits has nothing behind the place where reading stops. -/
theorem eq_zero_of_fits (hstop : k = maxScale ∨ mantissaLimit ≤ 10 * m + d) (hg : 0 ≤ g)
    (hlt : (d + g) / 10 < 1) (h : Fits ((m + (d + g) / 10) / 10 ^ k)) : (d + g) / 10 = 0 := by
  obtain ⟨M, j, hM, hj, heq⟩ := h
  have hnonneg : 0 ≤ (d + g) / 10 := by positivity
  rw [div_eq_div_iff (by positivity) (by positivity)] at heq
  by_cases hjk : j ≤ k
  · have hsplit : (10 : ℚ) ^ k = 10 ^ (k - j) * 10 ^ j := (pow_sub_mul_pow 10 hjk).symm
    rw [hsplit, ← mul_assoc] at heq
    have hwhole := mul_right_cancel₀ (by positivity) heq
    have hlow : m ≤ M * 10 ^ (k - j) := by
      have hle : (m : ℚ) ≤ M * 10 ^ (k - j) := by linarith
      exact_mod_cast hle
    have hhigh : M * 10 ^ (k - j) < m + 1 := by
      have hle : (M : ℚ) * 10 ^ (k - j) < m + 1 := by linarith
      exact_mod_cast hle
    have hnat : (M : ℚ) * 10 ^ (k - j) = m := by
      exact_mod_cast (by omega : M * 10 ^ (k - j) = m)
    linarith
  · have hlimit := mantissaLimit_le_cast (hstop.resolve_left (by omega))
    push_cast at hlimit
    have hsplit : (10 : ℚ) ^ j = 10 ^ (j - k) * 10 ^ k := (pow_sub_mul_pow 10 (by omega)).symm
    rw [hsplit, ← mul_assoc] at heq
    have hwhole := mul_right_cancel₀ (by positivity) heq
    have hten : (10 : ℚ) ^ 1 ≤ 10 ^ (j - k) := pow_le_pow_right₀ (by norm_num) (by omega)
    have hM' := cast_lt_mantissaLimit hM
    nlinarith

theorem reads_roundLast (hm : m < mantissaLimit) (hk : k ≤ maxScale)
    (hstop : k = maxScale ∨ mantissaLimit ≤ 10 * m + d) (hd : d < 10) (hg : 0 ≤ g) (hg1 : g < 1) :
    Reads negative ((m + (d + g) / 10) / 10 ^ k) (roundLast negative m k d) := by
  have hd9 : (d : ℚ) ≤ 9 := by exact_mod_cast Nat.le_of_lt_succ hd
  have hf : 0 ≤ (d + g) / 10 := by positivity
  have hlt : (d + g) / 10 < 1 := by linarith
  have hm' := cast_lt_mantissaLimit hm
  have hle := div_ten_pow_le (add_nonneg (Nat.cast_nonneg m) hf) k
  have hzero := eq_zero_of_fits hstop hg hlt
  unfold roundLast
  split
  · next h5 =>
    have hd4 : (d : ℚ) ≤ 4 := by exact_mod_cast Nat.le_of_lt_succ h5
    exact .of_some hm hk (by linarith) fun h => by rw [hzero h, add_zero]
  · next h5 =>
    have hd5 : (5 : ℚ) ≤ d := by exact_mod_cast Nat.le_of_not_lt h5
    have hfits : ¬ Fits ((m + (d + g) / 10) / 10 ^ k) := fun h => by linarith [hzero h]
    split
    · next hnext =>
      have hnext' := cast_lt_mantissaLimit hnext
      push_cast at hnext'
      exact .of_some hnext hk (by linarith) fun h => absurd h hfits
    · next hnext =>
      split
      · next h0 =>
        have hlimit := mantissaLimit_le_cast (Nat.le_of_not_lt hnext)
        push_cast at hlimit
        refine .of_none ?_
        rw [h0, pow_zero, div_one]
        linarith
      · next h0 =>
        have hN : (m + 1 + 4) / 10 < mantissaLimit := by omega
        have hs : k - 1 ≤ maxScale := (Nat.sub_le k 1).trans hk
        refine Reads.of_some hN hs ?_ fun h => absurd h hfits
        have hten : (10 : ℚ) ^ 1 ≤ 10 ^ k := pow_le_pow_right₀ (by norm_num) (by omega)
        have hscaled : (2 ^ 96 - 1 / 2 : ℚ) * 10 ^ 1 ≤ (2 ^ 96 - 1 / 2) * 10 ^ k :=
          mul_le_mul_of_nonneg_left hten (by norm_num)
        rw [div_lt_iff₀ (by positivity)]
        linarith

theorem isTail_of_digits (hd : ∀ c ∈ ds, isDigit c = true) : isTail ds = true :=
  List.all_eq_true.mpr fun c hc => by rw [hd c hc, Bool.true_or]

/-- Behind the point: what has been read so far is the beginning of the value. -/
theorem reads_places (hd : ∀ c ∈ es, isDigit c = true) (hm : m < mantissaLimit) (hk : k ≤ maxScale)
    (hb : b = true ∨ es ≠ []) :
    Reads negative (digitsValue m es / 10 ^ (k + es.length))
      (readPlaces negative ⟨m, k, true, b⟩ es) := by
  induction es generalizing m k b with
  | nil =>
    obtain rfl : b = true := by simpa using hb
    have hle := div_ten_pow_le (m.cast_nonneg) k
    have hm' := cast_lt_mantissaLimit hm
    change Reads negative ((m : ℚ) / 10 ^ k) (some (make negative m k))
    exact .of_some hm hk (by linarith) fun _ => rfl
  | cons c r ih =>
    obtain ⟨hc, hr⟩ := List.forall_mem_cons.mp hd
    rw [readPlaces, if_pos hc]
    simp only [true_and, if_true]
    split
    · next hstop =>
      rw [if_pos (isTail_of_digits hr)]
      have hsplit : (digitsValue m (c :: r) : ℚ) / 10 ^ (k + (c :: r).length) =
          (m + (digitValue c + digitsValue 0 r / 10 ^ r.length) / 10) / 10 ^ k := by
        rw [digitsValue_cons, digitsValue_eq, List.length_cons]
        push_cast
        field_simp
        ring
      rw [hsplit]
      refine reads_roundLast hm hk ?_ (digitValue_lt hc) (by positivity) ?_
      · rcases hstop with h | h
        · exact .inl (Nat.le_antisymm hk h)
        · exact .inr h
      · rw [div_lt_one (by positivity)]
        exact_mod_cast digitsValue_lt hr
    · next hstop =>
      obtain ⟨hscale, hnext⟩ := not_or.mp hstop
      rw [if_neg hnext, digitsValue_cons, List.length_cons]
      rw [show k + (r.length + 1) = k + 1 + r.length by omega]
      exact ih hr (Nat.lt_of_not_le hnext) (Nat.lt_of_not_le hscale) (.inl rfl)

theorem le_digitsValue (m : Nat) (ds : List Char) : m ≤ digitsValue m ds := by
  rw [digitsValue_eq]
  exact (Nat.le_mul_of_pos_right m (by positivity)).trans (Nat.le_add_right _ _)

/-- Before the point nothing is rounded: a number that reaches the limit is not read. -/
theorem readPlaces_whole (hd : ∀ c ∈ ds, isDigit c = true) (hm : m < mantissaLimit) :
    readPlaces negative ⟨m, 0, false, b⟩ (ds ++ rest) =
      if digitsValue m ds < mantissaLimit then
        readPlaces negative ⟨digitsValue m ds, 0, false, b || !ds.isEmpty⟩ rest
      else none := by
  induction ds generalizing m b with
  | nil =>
    change _ = if m < mantissaLimit then _ else none
    rw [if_pos hm, List.isEmpty_nil, Bool.not_true, Bool.or_false]
    rfl
  | cons c r ih =>
    obtain ⟨hc, hr⟩ := List.forall_mem_cons.mp hd
    rw [List.cons_append, readPlaces, if_pos hc, digitsValue_cons]
    simp only [Bool.false_eq_true, false_and, if_false]
    split
    · next hlimit =>
      have hle := le_digitsValue (10 * m + digitValue c) r
      rw [if_neg (Nat.not_lt.mpr (hlimit.trans hle))]
    · next hlimit =>
      rw [ih hr (Nat.lt_of_not_le hlimit)]
      simp

theorem mantissaLimit_pos : 0 < mantissaLimit := twoTo_pos 96

theorem reads_whole (hd : ∀ c ∈ ds, isDigit c = true) (hne : ds ≠ []) :
    Reads negative (digitsValue 0 ds) (readPlaces negative ⟨0, 0, false, false⟩ ds) := by
  have hwhole := @readPlaces_whole negative false 0 ds [] hd mantissaLimit_pos
  rw [List.append_nil] at hwhole
  rw [hwhole]
  split
  · next hlt =>
    have hb : (false || !ds.isEmpty) = true := by simpa using hne
    rw [hb]
    refine .of_some hlt (Nat.zero_le _) ?_ fun _ => by rw [pow_zero, div_one]
    linarith [cast_lt_mantissaLimit hlt]
  · next hge => exact .of_none (by linarith [mantissaLimit_le_cast (Nat.le_of_not_lt hge)])

theorem reads_pointed (hd : ∀ c ∈ ds ++ es, isDigit c = true) (hne : ds ++ es ≠ []) :
    Reads negative (digitsValue 0 (ds ++ es) / 10 ^ es.length)
      (readPlaces negative ⟨0, 0, false, false⟩ (ds ++ '.' :: es)) := by
  obtain ⟨hds, hes⟩ := List.forall_mem_append.mp hd
  rw [readPlaces_whole hds mantissaLimit_pos, digitsValue_append]
  split
  · next hlt =>
    have hb : (false || !ds.isEmpty) = true ∨ es ≠ [] := by
      by_cases hnil : ds = []
      · exact .inr (by simpa [hnil] using hne)
      · exact .inl (by simpa using hnil)
    have hplaces := @reads_places negative _ _ 0 _ hes hlt (Nat.zero_le _) hb
    rwa [Nat.zero_add] at hplaces
  · next hge =>
    refine .of_none ?_
    have hlimit := mantissaLimit_le_cast (Nat.le_of_not_lt hge)
    rw [digitsValue_eq, le_div_iff₀ (by positivity)]
    push_cast
    have hpow : (0 : ℚ) ≤ 10 ^ es.length := by positivity
    have hplaces : (0 : ℚ) ≤ digitsValue 0 es := Nat.cast_nonneg _
    linarith [mul_le_mul_of_nonneg_right hlimit hpow]

/-- An exponent mark is no part of a decimal. -/
theorem readPlaces_mark (p : Progress) (cs rest : List Char) :
    readPlaces negative p (cs ++ 'e' :: rest) = none := by
  have htail (r : List Char) : isTail (r ++ 'e' :: rest) = false := by
    simp [isTail, isDigit]
  induction cs generalizing p with
  | nil => rfl
  | cons c r ih =>
    rw [List.cons_append, readPlaces]
    simp only [ih, htail, Bool.false_eq_true, if_false, ite_self]

theorem roundUp_near (num : Nat) {den : Nat} (hden : 0 < den) :
    |(roundUp num den : ℚ) - num / den| ≤ 1 / 2 := by
  have hd : (0 : ℚ) < den := by exact_mod_cast hden
  have hlow : roundUp num den * (2 * den) ≤ 2 * num + den := Nat.div_mul_le_self _ _
  have hhigh : 2 * num + den < (roundUp num den + 1) * (2 * den) :=
    (Nat.div_lt_iff_lt_mul (by omega)).mp (Nat.lt_succ_self _)
  have hlow' : (roundUp num den : ℚ) * (2 * den) ≤ 2 * num + den := by exact_mod_cast hlow
  have hhigh' : (2 : ℚ) * num + den < (roundUp num den + 1) * (2 * den) := by exact_mod_cast hhigh
  have hsplit : (roundUp num den : ℚ) - num / den = (roundUp num den * den - num) / den := by
    rw [sub_div, mul_div_cancel_right₀ _ hd.ne']
  rw [hsplit, abs_div, abs_of_pos hd, div_le_iff₀ hd, abs_le]
  constructor <;> linarith

/-- Lowering the point rounds to units of the last place there is. -/
theorem shiftDown_units (x : Fixed96) (n : Nat) :
    ∃ N : Nat, (x.shiftDown n).value * 10 ^ 28 = signed x.negative N ∧
      |signed x.negative N - x.value / 10 ^ n * 10 ^ 28| ≤ 1 / 2 := by
  have hx : x.value / 10 ^ n * 10 ^ 28 =
      signed x.negative (x.mantissa / 10 ^ (x.scale + n) * 10 ^ 28) := by
    rw [value, signed_div, signed_mul, div_div, ← pow_add]
  rw [hx]
  unfold shiftDown
  simp only
  split
  · next h =>
    have hscale : x.scale + n ≤ 28 := Nat.le_of_sub_eq_zero h
    have hunits : (x.mantissa : ℚ) / 10 ^ (x.scale + n) * 10 ^ 28 =
        (x.mantissa * 10 ^ (28 - (x.scale + n)) : Nat) := by
      rw [← pow_sub_mul_pow (10 : ℚ) hscale]
      push_cast
      field_simp
    refine ⟨_, by rw [value, signed_mul, hunits], ?_⟩
    rw [hunits, sub_self, abs_zero]
    norm_num
  · next h =>
    have hscale : x.scale + n = x.scale + n - 28 + 28 := by
      rw [maxScale] at h
      omega
    have hunits : (x.mantissa : ℚ) / 10 ^ (x.scale + n) * 10 ^ 28 =
        x.mantissa / tenTo (x.scale + n - 28) := by
      have hten : (tenTo (x.scale + n - 28) : ℚ) = 10 ^ (x.scale + n - 28) := by simp [tenTo]
      rw [hten]
      nth_rewrite 1 [hscale]
      rw [pow_add]
      field_simp
    refine ⟨_, by rw [value_make, maxScale, signed_mul, div_mul_cancel₀ _ (by norm_num)], ?_⟩
    rw [hunits, signed_sub]
    exact roundUp_near _ (tenTo_pos _)

/-- So the value is kept if it is a multiple of that unit, and only then. -/
theorem shiftDown_value (x : Fixed96) (n : Nat) :
    |(x.shiftDown n).value - x.value / 10 ^ n| ≤ 1 / 2 / 10 ^ 28 ∧
      ((x.shiftDown n).value = x.value / 10 ^ n ↔ ∃ i : ℤ, x.value / 10 ^ n * 10 ^ 28 = i) := by
  obtain ⟨N, hvalue, hnear⟩ := shiftDown_units x n
  have hunit : (0 : ℚ) < 10 ^ 28 := by norm_num
  obtain ⟨J, hJ⟩ := exists_signed_natCast x.negative N
  rw [hJ] at hvalue hnear
  constructor
  · rw [le_div_iff₀ hunit, ← abs_of_pos hunit, ← abs_mul, sub_mul, hvalue]
    exact hnear
  · constructor
    · intro h
      exact ⟨J, by rw [← h, hvalue]⟩
    · rintro ⟨i, hi⟩
      -- Two whole numbers half a unit apart are one.
      rw [hi] at hnear
      have hlt : |J - i| < 1 := by
        have hcast : |((J - i : ℤ) : ℚ)| < 1 := by
          push_cast
          linarith
        exact_mod_cast hcast
      have heq : J = i := by
        rw [abs_lt] at hlt
        omega
      refine mul_right_cancel₀ hunit.ne' ?_
      rw [hvalue, hi, heq]

theorem shiftUp?_value {x y : Fixed96} {n : Nat} (h : x.shiftUp? n = some y) :
    y.value = x.value * 10 ^ n := by
  unfold shiftUp? at h
  split at h
  · next hle =>
    cases h
    simp only [value]
    rw [signed_mul, ← pow_sub_mul_pow (10 : ℚ) hle]
    field_simp
  · next hlt =>
    simp only at h
    split at h
    · cases h
      rw [value_make, value, signed_mul, pow_zero, div_one, tenTo, Nat.pow_eq]
      rw [not_le] at hlt
      rw [← pow_sub_mul_pow (10 : ℚ) hlt.le]
      push_cast
      field_simp
    · cases h

theorem readBelow_go {bound acc : Nat} (hd : ∀ c ∈ ds, isDigit c = true) (hacc : acc < bound) :
    readBelow.go bound acc ds =
      if digitsValue acc ds < bound then .ok (digitsValue acc ds) else .error .tooLarge := by
  induction ds generalizing acc with
  | nil => exact (if_pos hacc).symm
  | cons c r ih =>
    obtain ⟨hc, hr⟩ := List.forall_mem_cons.mp hd
    rw [readBelow.go, if_pos hc, digitsValue_cons]
    simp only
    split
    · next hlt => rw [ih hr hlt]
    · next hge =>
      have hle := le_digitsValue (10 * acc + digitValue c) r
      rw [if_neg (by omega)]

/-- The size of a written exponent, if it is at most 28. -/
def exponentPlaces? (e : List Char) : Option Nat :=
  match readBelow (twoTo 32) (String.ofList e) with
  | .ok n => if n ≤ maxScale then some n else none
  | .error _ => none

theorem exponentPlaces?_of_readBelow {cs : List Char} (hd : ∀ c ∈ ds, isDigit c = true)
    (h : readBelow (twoTo 32) (String.ofList cs) = readBelow.go (twoTo 32) 0 ds) :
    exponentPlaces? cs =
      if digitsValue 0 ds ≤ maxScale then some (digitsValue 0 ds) else none := by
  rw [exponentPlaces?, h, readBelow_go hd (twoTo_pos 32)]
  split
  · next n heq =>
    split at heq
    · cases heq
      rfl
    · cases heq
  · next heq =>
    split at heq
    · cases heq
    · next hge =>
      have hbound : maxScale < twoTo 32 := by decide
      rw [if_neg (by omega)]

theorem exponentPlaces?_digits (hd : ∀ c ∈ ds, isDigit c = true) (hne : ds ≠ []) :
    exponentPlaces? ds = if digitsValue 0 ds ≤ maxScale then some (digitsValue 0 ds) else none := by
  refine exponentPlaces?_of_readBelow hd ?_
  rw [readBelow, String.toList_ofList]
  cases ds with
  | nil => exact absurd rfl hne
  | cons c r =>
    have hplus : c ≠ '+' := by
      rintro rfl
      exact absurd (hd '+' (by simp)) (by decide)
    split
    · next heq => simp_all
    · simp_all

theorem exponentPlaces?_plus (hd : ∀ c ∈ ds, isDigit c = true) (hne : ds ≠ []) :
    exponentPlaces? ('+' :: ds) =
      if digitsValue 0 ds ≤ maxScale then some (digitsValue 0 ds) else none := by
  refine exponentPlaces?_of_readBelow hd ?_
  rw [readBelow, String.toList_ofList]
  exact if_neg hne

theorem ofScientific?_append (hcs : ∀ c ∈ cs, c ≠ 'e' ∧ c ≠ 'E') (exponent : List Char) :
    ofScientific? (cs ++ 'e' :: exponent) = (ofPlain? cs).bind fun x =>
      match exponent with
      | '-' :: e => (exponentPlaces? e).map x.shiftDown
      | e => (exponentPlaces? e).bind x.shiftUp? := by
  have hmark (c : Char) (hc : c ∈ cs) : (!(c == 'e' || c == 'E')) = true := by
    simpa using hcs c hc
  have htake : (cs ++ 'e' :: exponent).takeWhile (fun c => !(c == 'e' || c == 'E')) = cs := by
    rw [List.takeWhile_append_of_pos hmark]
    simp
  have hdrop : (cs ++ 'e' :: exponent).dropWhile (fun c => !(c == 'e' || c == 'E')) =
      'e' :: exponent := by
    rw [List.dropWhile_append_of_pos hmark]
    rfl
  rw [ofScientific?]
  simp only [htake, hdrop]
  rfl

theorem ofScientific?_lower (hcs : ∀ c ∈ cs, c ≠ 'e' ∧ c ≠ 'E')
    (hd : ∀ c ∈ ds, isDigit c = true) (hne : ds ≠ []) :
    ofScientific? (cs ++ 'e' :: '-' :: ds) = (ofPlain? cs).bind fun x =>
      if digitsValue 0 ds ≤ maxScale then some (x.shiftDown (digitsValue 0 ds)) else none := by
  rw [ofScientific?_append hcs]
  simp only
  rw [exponentPlaces?_digits hd hne]
  split <;> rfl

theorem ofScientific?_raise (hcs : ∀ c ∈ cs, c ≠ 'e' ∧ c ≠ 'E')
    (hd : ∀ c ∈ ds, isDigit c = true) (hne : ds ≠ []) :
    ofScientific? (cs ++ 'e' :: '+' :: ds) = (ofPlain? cs).bind fun x =>
      if digitsValue 0 ds ≤ maxScale then x.shiftUp? (digitsValue 0 ds) else none := by
  have hplus := exponentPlaces?_plus hd hne
  rw [ofScientific?_append hcs]
  change (ofPlain? cs).bind (fun x => (exponentPlaces? ('+' :: ds)).bind x.shiftUp?) = _
  rw [hplus]
  split <;> rfl

end GridQuery.Number.Fixed96
