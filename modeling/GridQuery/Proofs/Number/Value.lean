import GridQuery.Number.Fixed96
import GridQuery.Number.Shortest
import Mathlib.Algebra.Order.Field.Power
import Mathlib.Algebra.Order.Field.Rat
import Mathlib.Data.List.Induction
import Mathlib.Data.Nat.Cast.Order.Field
import Mathlib.Data.Nat.Digits.Defs
import Mathlib.Tactic.FieldSimp
import Mathlib.Tactic.Linarith
import Mathlib.Tactic.Positivity
import Mathlib.Tactic.Ring

/-!
The rational numbers that digit strings, decimals and floating-point values stand for. The powers
and quotients of natural numbers that are computed with become powers with integer exponents here.
-/

namespace GridQuery.Number

theorem pow_toNat_div_pow_toNat (b : ℚ) (e : ℤ) : b ^ e.toNat / b ^ (-e).toNat = b ^ e := by
  obtain ⟨n, rfl | rfl⟩ := e.eq_nat_or_neg
  · simp
  · simp

theorem twoTo_div_twoTo (e : ℤ) : (twoTo e.toNat : ℚ) / twoTo (-e).toNat = 2 ^ e := by
  simpa [twoTo] using pow_toNat_div_pow_toNat 2 e

theorem tenTo_div_tenTo (e : ℤ) : (tenTo e.toNat : ℚ) / tenTo (-e).toNat = 10 ^ e := by
  simpa [tenTo] using pow_toNat_div_pow_toNat 10 e

theorem digitsValue_append (acc : Nat) (ds es : List Char) :
    digitsValue acc (ds ++ es) = digitsValue (digitsValue acc ds) es := by
  simp only [digitsValue, List.foldl_append]

theorem digitsValue_cons (acc : Nat) (c : Char) (ds : List Char) :
    digitsValue acc (c :: ds) = digitsValue (10 * acc + digitValue c) ds := by
  simp only [digitsValue, List.foldl_cons]

/-- The number that digits stand for, the first being the highest. -/
def placeValue (ds : List Char) : Nat :=
  Nat.ofDigits 10 (ds.reverse.map digitValue)

theorem digitsValue_eq_placeValue (ds : List Char) : digitsValue 0 ds = placeValue ds := by
  induction ds using List.reverseRecOn with
  | nil => rfl
  | append_singleton r c ih =>
    rw [digitsValue_append, ih, placeValue, placeValue, List.reverse_append, List.reverse_singleton,
      List.singleton_append, List.map_cons, Nat.ofDigits_cons, Nat.add_comm]
    rfl

/-- What has been read so far moves up by one place for every digit to come. -/
theorem digitsValue_eq (acc : Nat) (ds : List Char) :
    digitsValue acc ds = acc * 10 ^ ds.length + digitsValue 0 ds := by
  induction ds generalizing acc with
  | nil => rw [List.length_nil, pow_zero, Nat.mul_one]; rfl
  | cons c r ih =>
    rw [digitsValue_cons, digitsValue_cons, ih, ih (10 * 0 + digitValue c), List.length_cons]
    ring

theorem toNat_of_isDigit {c : Char} (h : isDigit c = true) : 48 ≤ c.toNat ∧ c.toNat ≤ 57 := by
  simpa [isDigit, Char.le_def, UInt32.le_iff_toNat_le] using h

theorem digitValue_lt {c : Char} (h : isDigit c = true) : digitValue c < 10 := by
  have hc := toNat_of_isDigit h
  have h0 : ('0' : Char).toNat = 48 := rfl
  rw [digitValue, h0]
  omega

theorem digitsValue_lt {ds : List Char} (h : ∀ c ∈ ds, isDigit c = true) :
    digitsValue 0 ds < 10 ^ ds.length := by
  induction ds with
  | nil => simp [digitsValue]
  | cons c r ih =>
    obtain ⟨hc, hr⟩ := List.forall_mem_cons.mp h
    have hdigit := digitValue_lt hc
    have hrest := ih hr
    rw [digitsValue_cons, digitsValue_eq, List.length_cons, pow_succ]
    nlinarith

theorem digitsValue_zeros (acc n : Nat) :
    digitsValue acc (List.replicate n '0') = acc * 10 ^ n := by
  have hzero : digitValue '0' = 0 := rfl
  induction n generalizing acc with
  | zero => simp [digitsValue]
  | succ n ih =>
    rw [List.replicate_succ, digitsValue_cons, ih, hzero]
    ring

theorem digitsValue_zeros_append (n : Nat) (ds : List Char) :
    digitsValue 0 (List.replicate n '0' ++ ds) = digitsValue 0 ds := by
  rw [digitsValue_append, digitsValue_zeros, Nat.zero_mul]

theorem digitsValue_digits (n : Nat) : digitsValue 0 (digits n) = n :=
  Nat.ofDigitChars_toDigits (by decide) (Nat.le_refl 10)

theorem length_digits_le_iff {n k : Nat} (hk : 0 < k) : (digits n).length ≤ k ↔ n < 10 ^ k :=
  Nat.length_toDigits_le_iff (by decide) hk

theorem length_digits_pos (n : Nat) : 0 < (digits n).length :=
  Nat.length_toDigits_pos

/-- The number of digits of a positive number is where its first digit stands. -/
theorem pow_length_digits_le {n : Nat} (hn : 0 < n) : 10 ^ ((digits n).length - 1) ≤ n := by
  by_contra hlt
  rw [Nat.not_le] at hlt
  rcases Nat.eq_zero_or_pos ((digits n).length - 1) with hzero | hpos
  · rw [hzero] at hlt
    omega
  · have hle := (length_digits_le_iff hpos).mpr hlt
    omega

theorem lt_pow_length_digits (n : Nat) : n < 10 ^ (digits n).length :=
  (length_digits_le_iff (length_digits_pos n)).mp (Nat.le_refl _)

/-- The number with this sign and absolute value. -/
def signed (negative : Bool) (v : ℚ) : ℚ :=
  if negative then -v else v

@[simp] theorem signed_zero (negative : Bool) : signed negative 0 = 0 := by
  cases negative <;> simp [signed]

theorem abs_signed (negative : Bool) (v : ℚ) : |signed negative v| = |v| := by
  cases negative <;> simp [signed]

theorem signed_inj {negative : Bool} {v w : ℚ} : signed negative v = signed negative w ↔ v = w := by
  cases negative <;> simp [signed]

theorem signed_mul (negative : Bool) (v w : ℚ) :
    signed negative v * w = signed negative (v * w) := by
  cases negative <;> simp [signed]

theorem signed_div (negative : Bool) (v w : ℚ) :
    signed negative v / w = signed negative (v / w) := by
  rw [div_eq_mul_inv, signed_mul, div_eq_mul_inv]

theorem signed_sub (negative : Bool) (v w : ℚ) :
    |signed negative v - signed negative w| = |v - w| := by
  cases negative
  · rfl
  · rw [signed, signed, if_pos rfl, if_pos rfl, neg_sub_neg, abs_sub_comm]

theorem exists_signed_natCast (negative : Bool) (n : Nat) :
    ∃ i : ℤ, signed negative (n : ℚ) = i := by
  cases negative with
  | false => exact ⟨n, rfl⟩
  | true => exact ⟨-n, by rw [signed, if_pos rfl]; push_cast; rfl⟩

namespace Decimal

def value (d : Decimal) : ℚ :=
  d.digits * 10 ^ d.exponent

theorem value_nonneg (d : Decimal) : 0 ≤ d.value := by
  unfold value
  positivity

/-- The exponent of the first digit. -/
def lead (d : Decimal) : ℤ :=
  (Number.digits d.digits).length - 1 + d.exponent

theorem value_eq_lead (d : Decimal) :
    d.value = d.digits / 10 ^ ((Number.digits d.digits).length - 1) * 10 ^ d.lead := by
  have hlength := length_digits_pos d.digits
  rw [value, lead, zpow_add₀ (by norm_num), show ((Number.digits d.digits).length : ℤ) - 1 =
    (((Number.digits d.digits).length - 1 : Nat) : ℤ) by omega, zpow_natCast, ← mul_assoc,
    div_mul_cancel₀ _ (by positivity)]

theorem pow_lead_le {d : Decimal} (hd : 0 < d.digits) : (10 : ℚ) ^ d.lead ≤ d.value := by
  have hlow : (10 : ℚ) ^ ((Number.digits d.digits).length - 1) ≤ d.digits := by
    exact_mod_cast pow_length_digits_le hd
  rw [value_eq_lead]
  exact le_mul_of_one_le_left (by positivity) ((one_le_div (by positivity)).mpr hlow)

theorem lt_pow_lead (d : Decimal) : d.value < 10 ^ (d.lead + 1) := by
  have hhigh : (d.digits : ℚ) < 10 ^ (Number.digits d.digits).length := by
    exact_mod_cast lt_pow_length_digits d.digits
  rw [lead, add_right_comm, sub_add_cancel, zpow_add₀ (by norm_num), zpow_natCast]
  exact mul_lt_mul_of_pos_right hhigh (by positivity)

/-- A decimal of at most 28 places is a multiple of the last of them. -/
theorem units {d : Decimal} (h : -28 ≤ d.exponent) (negative : Bool) :
    ∃ i : ℤ, signed negative d.value * 10 ^ 28 = i := by
  obtain ⟨k, hk⟩ := Int.eq_ofNat_of_zero_le (by omega : 0 ≤ d.exponent + 28)
  have hpow : (10 : ℚ) ^ d.exponent * 10 ^ 28 = 10 ^ k := by
    rw [← zpow_natCast, ← zpow_natCast, ← hk, zpow_add₀ (by norm_num)]
    rfl
  have hunits : d.value * 10 ^ 28 = (d.digits * 10 ^ k : Nat) := by
    rw [value, mul_assoc, hpow]
    push_cast
    rfl
  rw [signed_mul, hunits]
  exact exists_signed_natCast negative _

end Decimal

namespace Fixed96

def value (x : Fixed96) : ℚ :=
  signed x.negative (x.mantissa / 10 ^ x.scale)

/-- The sign that a zero gives up does not change its value. -/
theorem value_make (negative : Bool) (mantissa scale : Nat) :
    (make negative mantissa scale).value = signed negative (mantissa / 10 ^ scale) := by
  rcases Nat.eq_zero_or_pos mantissa with rfl | hpos
  · simp [value, make]
  · have hne : (mantissa != 0) = true := by simpa using hpos.ne'
    simp [value, make, hne]

end Fixed96

namespace Finite64

/-- The absolute value. -/
def magnitude (x : Finite64) : ℚ :=
  x.significand * 2 ^ x.exponent

theorem magnitude_pos {x : Finite64} (h : x.isZero = false) : 0 < x.magnitude := by
  have hpos : 0 < x.significand := Nat.pos_of_ne_zero (by simpa [isZero] using h)
  unfold magnitude
  positivity

theorem ratio_pos (x : Finite64) : 0 < x.ratio.2 := twoTo_pos _

theorem ratio_fst_pos {x : Finite64} (h : x.isZero = false) : 0 < x.ratio.1 :=
  Nat.mul_pos (Nat.pos_of_ne_zero (by simpa [isZero] using h)) (twoTo_pos _)

theorem ratio_div (x : Finite64) : (x.ratio.1 : ℚ) / x.ratio.2 = x.magnitude := by
  rw [magnitude, ← twoTo_div_twoTo, ratio, Nat.cast_mul, mul_div_assoc]

end Finite64

end GridQuery.Number
