import GridQuery.Compile
import GridQuery.Proofs.Sql.ParseNumber

/-!
Keys of number columns, given as a JSON number and as the text of that number. The two literals may
differ, by half a unit of the twenty-eighth place at most.
-/

namespace GridQuery

open GridQuery.Number

namespace Text

theorem dropWhile_isBlank {cs : List Char} (h : ∀ c ∈ cs, isBlank c = false) :
    cs.dropWhile isBlank = cs := by
  cases cs with
  | nil => rfl
  | cons c r => exact List.dropWhile_cons_of_neg (by simp [h c (by simp)])

theorem trim_of_not_blank {s : String} (h : ∀ c ∈ s.toList, isBlank c = false) : trim s = s := by
  rw [trim, trimChars, dropWhile_isBlank h, dropWhile_isBlank (by simpa using h),
    List.reverse_reverse, String.ofList_toList]

end Text

namespace Sql

variable {s : String} {cs ds m : List Char} {negative : Bool} {v x : ℚ} {n : Nat}

theorem not_isBlank_of_isDigit {c : Char} (h : isDigit c = true) : Text.isBlank c = false := by
  have hc := toNat_of_isDigit h
  unfold Text.isBlank
  generalize c.toNat = n at hc ⊢
  simp only [Bool.or_eq_false_iff, Bool.and_eq_false_iff, decide_eq_false_iff_not,
    beq_eq_false_iff_ne]
  omega

theorem IsDigits.not_isBlank (h : IsDigits ds) : ∀ c ∈ ds, Text.isBlank c = false :=
  fun c hc => not_isBlank_of_isDigit (h.2 c hc)

theorem IsSign.not_isBlank (h : IsSign cs) : ∀ c ∈ cs, Text.isBlank c = false := by
  cases h with
  | absent => exact fun _ hc => nomatch hc
  | minus => exact List.forall_mem_singleton.mpr (by decide)
  | plus => exact List.forall_mem_singleton.mpr (by decide)

theorem IsNumeral.not_isBlank (h : IsNumeral cs) : ∀ c ∈ cs, Text.isBlank c = false := by
  obtain ⟨hs, hm⟩ := h
  obtain ⟨hw, hf, he⟩ := hm
  simp only [List.forall_mem_append]
  refine ⟨hs.not_isBlank, hw.not_isBlank, ?_, ?_⟩
  · cases hf with
    | absent => simp
    | places hd => exact List.forall_mem_cons.mpr ⟨by decide, hd.not_isBlank⟩
  · cases he with
    | absent => simp
    | @power mark sign es hmark hsign hd =>
      have hletter : Text.isBlank mark = false := by
        simp only [isExponentMark, Bool.or_eq_true, beq_iff_eq] at hmark
        rcases hmark with rfl | rfl <;> decide
      exact List.forall_mem_cons.mpr
        ⟨hletter, List.forall_mem_append.mpr ⟨hsign.not_isBlank, hd.not_isBlank⟩⟩

variable {f : Finite64}

theorem toList_finite (l : Layout) (hf : f.isZero = false) :
    (l.finite f).toList = (if f.negative then ['-'] else []) ++ l.decimal (f.shortest l.tie) := by
  rw [Layout.finite, String.toList_ofList, if_neg (by simp [hf] : ¬ f.isZero = true)]

theorem splitSign_finite (l : Layout) (hf : f.isZero = false) :
    splitSign (l.finite f).toList = (f.negative, l.decimal (f.shortest l.tie)) := by
  rw [toList_finite l hf, splitSign_ofNegative _ (stops_decimal l _)]

/-- A floating-point number is read back from its text, however the digits are set out. -/
theorem ofText?_finite (l : Layout) (hf : f.isZero = false) :
    Binary64.ofText? (l.finite f) = some (.finite f) := by
  obtain ⟨n, k, hvalue, hread⟩ := readMagnitude?_decimal l (f.shortest l.tie)
  have hback := Finite64.readsBack_iff.mp (Finite64.readsBack_shortest l.tie hf)
  rw [← Binary64.ofDecimal_congr hvalue] at hback
  rw [ofText?_eq_ofDecimal (splitSign_finite l hf) hread]
  exact congrArg some (Binary64.ofDecimal_of_false hback)

theorem point_mem_plain (l : Layout) (h : l.pointZero = true) (ds : List Char) (e : ℤ) :
    '.' ∈ l.plain ds e := by
  simp only [Layout.plain, h, if_true]
  split
  · simp
  · split <;> simp

namespace Literal

/-- The text is read as a number that differs from `x` by half a unit of the twenty-eighth place at
most, and not at all just if `x` is a multiple of that unit or smaller than it. -/
def Recovers (s : String) (x : ℚ) : Prop :=
  ∃ l y, parseNumber? s = some l ∧ l.value? = some (.number y) ∧
    (y = x ↔ |x| < 10 ^ (-28 : ℤ) ∨ ∃ i : ℤ, x * 10 ^ 28 = i) ∧ |y - x| ≤ 1 / 2 / 10 ^ 28

theorem Recovers.of_eq {l : Literal} (hl : parseNumber? s = some l)
    (hv : l.value? = some (.number x))
    (hx : |x| < 10 ^ (-28 : ℤ) ∨ ∃ i : ℤ, x * 10 ^ 28 = i) : Recovers s x :=
  ⟨l, x, hl, hv, iff_of_true rfl hx, by rw [sub_self, abs_zero]; norm_num⟩

theorem recovers_whole (ht : Text.trim s = s) (hs : splitSign s.toList = (negative, ds))
    (hd : IsDigits ds) (hbits : digitsValue 0 ds < 2 ^ 127) :
    Recovers s (signed negative (digitsValue 0 ds)) := by
  have hno : '.' ∉ ds := fun hmem => absurd (hd.2 '.' hmem) (by decide)
  have hlt : (digitsValue 0 ds : ℚ) < 2 ^ 127 := by exact_mod_cast hbits
  have hnonneg : (0 : ℚ) ≤ digitsValue 0 ds := Nat.cast_nonneg _
  have hrange : -2 ^ 127 ≤ signed negative (digitsValue 0 ds) ∧
      signed negative (digitsValue 0 ds) < 2 ^ 127 := by
    cases negative <;> simp only [signed, Bool.false_eq_true, if_false, if_true] <;>
      constructor <;> linarith
  rcases readSigned?_positional hs (.whole hd) with ⟨i, hread, hi, -⟩ | ⟨-, hout⟩
  · have hparse : parseNumber? s = some (number (intText i)) := by
      unfold parseNumber?
      simp only [ht, hread]
    refine .of_eq hparse ?_ (.inr ⟨i * 10 ^ 28, by rw [← hi]; push_cast; rfl⟩)
    rw [value?, numeralValue?_intText, hi]
    rfl
  · exact absurd ⟨hno, hrange⟩ hout

theorem parseNumber?_fixed {y : Fixed96} (ht : Text.trim s = s) (hread : readSigned? 128 s = none)
    (hfixed : Fixed96.ofText? s = some y) :
    ∃ l, parseNumber? s = some l ∧ l.value? = some (.number y.value) := by
  refine ⟨number y.text, ?_, ?_⟩
  · unfold parseNumber?
    simp only [ht, hread, hfixed]
  · rw [value?, numeralValue?_fixedText]
    rfl

theorem recovers_fixed {y : Fixed96} (ht : Text.trim s = s) (hread : readSigned? 128 s = none)
    (hfixed : Fixed96.ofText? s = some y) (hunits : ∃ i : ℤ, y.value * 10 ^ 28 = i) :
    Recovers s y.value := by
  obtain ⟨l, hparse, hvalue⟩ := parseNumber?_fixed ht hread hfixed
  exact .of_eq hparse hvalue (.inr hunits)

theorem recovers_positional (ht : Text.trim s = s) (hs : splitSign s.toList = (negative, m))
    (hm : IsPositional v m) (hpoint : '.' ∈ m) (hfits : Fixed96.Fits v) :
    Recovers s (signed negative v) := by
  have hread := readSigned?_eq_none hs hpoint (by decide) 128
  have hunits := hfits.units negative
  obtain ⟨y, hy, hvalue⟩ := (hm.ofPlain?_reads hs).exists_of_fits hfits
  rw [← hvalue] at hunits ⊢
  exact recovers_fixed ht hread (by rw [Fixed96.ofText?, hy, Option.some_or]) hunits

variable {d : Decimal}

theorem length_le (hd : d.digits ≤ 10 ^ 17) : (digits d.digits).length ≤ 18 :=
  (length_digits_le_iff (by norm_num)).mpr (by omega)

theorem recovers_plain (ht : Text.trim s = s)
    (hs : splitSign s.toList =
      (negative, JsonNumber.layout.plain (digits d.digits) d.exponent))
    (hd : d.digits ≤ 10 ^ 17) (hleast : -5 ≤ d.lead) (hmost : d.lead ≤ 15) :
    Recovers s (signed negative d.value) := by
  have hm := plain_positional JsonNumber.layout (isDigits_digits d.digits) d.exponent
  rw [digitsValue_digits] at hm
  have hlength := length_le hd
  have hexponent : -28 ≤ d.exponent := by
    rw [Decimal.lead] at hleast
    omega
  have hvalue : d.value < 10 ^ 17 := by
    refine d.lt_pow_lead.trans_le ?_
    exact_mod_cast zpow_le_zpow_right₀ (by norm_num : (1 : ℚ) ≤ 10) (by omega : d.lead + 1 ≤ 17)
  exact recovers_positional ht hs hm (point_mem_plain _ rfl _ _)
    (Fixed96.fits_value hd hexponent hvalue)

/-- A text in scientific layout as it is read: the digits first, then the exponent. -/
theorem ofText?_scientific (hd : d.digits ≤ 10 ^ 17)
    (hs : s.toList = (if negative then ['-'] else []) ++
      (leading (digits d.digits) ++ 'e' :: power d.lead)) :
    ∃ y : Fixed96, y.value = signed negative (d.digits / 10 ^ ((digits d.digits).length - 1)) ∧
      Fixed96.ofText? s =
        if d.lead.natAbs ≤ Fixed96.maxScale then
          if d.lead < 0 then some (y.shiftDown d.lead.natAbs) else y.shiftUp? d.lead.natAbs
        else none := by
  have hm := leading_positional (isDigits_digits d.digits)
  rw [digitsValue_digits] at hm
  have hlength := length_le hd
  have hfits : Fixed96.Fits (d.digits / 10 ^ ((digits d.digits).length - 1)) :=
    ⟨d.digits, _, hd.trans_lt (by decide +kernel), by rw [Fixed96.maxScale]; omega, rfl⟩
  have hstops := hm.stops_isSignChar []
  rw [List.append_nil] at hstops
  obtain ⟨y, hy, hvalue⟩ :=
    (hm.ofPlain?_reads (splitSign_ofNegative negative hstops)).exists_of_fits hfits
  refine ⟨y, hvalue, ?_⟩
  have hplain : Fixed96.ofPlain? s.toList = none := by
    rw [Fixed96.ofPlain?, hs, splitSign_ofNegative negative (hm.stops_isSignChar _)]
    exact Fixed96.readPlaces_mark _ _ _
  have hmark : ∀ c ∈ (if negative then ['-'] else []) ++ leading (digits d.digits),
      c ≠ 'e' ∧ c ≠ 'E' := by
    intro c hc
    have hnot : isExponentMark c = false := by
      rcases List.mem_append.mp hc with hc | hc
      · cases negative with
        | false => cases hc
        | true => rw [List.mem_singleton.mp hc]; rfl
      · exact hm.not_mark hc
    simpa [isExponentMark] using hnot
  have hn := isDigits_digits d.lead.natAbs
  rw [Fixed96.ofText?, hplain, Option.none_or, hs, ← List.append_assoc, power]
  by_cases hneg : d.lead < 0
  · rw [if_pos hneg, if_pos hneg, Fixed96.ofScientific?_lower hmark hn.2 hn.1, hy,
      digitsValue_digits, Option.bind_some]
  · rw [if_neg hneg, if_neg hneg, Fixed96.ofScientific?_raise hmark hn.2 hn.1, hy,
      digitsValue_digits, Option.bind_some]

/-- So an exponent is lowered with a loss, raised without one, or left to floating point. -/
theorem ofText?_scientific_cases (hd : d.digits ≤ 10 ^ 17)
    (hs : s.toList = (if negative then ['-'] else []) ++
      (leading (digits d.digits) ++ 'e' :: power d.lead)) :
    (d.lead < 0 ∧ -28 ≤ d.lead ∧ ∃ (y : Fixed96) (n : Nat),
        Fixed96.ofText? s = some (y.shiftDown n) ∧ y.value / 10 ^ n = signed negative d.value) ∨
      (0 ≤ d.lead ∧ ∃ y, Fixed96.ofText? s = some y ∧ y.value = signed negative d.value) ∨
      Fixed96.ofText? s = none ∧ (d.lead < -28 ∨ 0 ≤ d.lead) := by
  obtain ⟨y, hy, hfixed⟩ := ofText?_scientific hd hs
  by_cases hplaces : d.lead.natAbs ≤ Fixed96.maxScale
  · rw [if_pos hplaces] at hfixed
    rw [Fixed96.maxScale] at hplaces
    by_cases hneg : d.lead < 0
    · rw [if_pos hneg] at hfixed
      have hpow : (10 : ℚ) ^ d.lead = (10 ^ d.lead.natAbs)⁻¹ := by
        rw [← zpow_natCast, ← zpow_neg]
        exact congrArg _ (by omega)
      refine .inl ⟨hneg, by omega, y, _, hfixed, ?_⟩
      rw [hy, signed_div, d.value_eq_lead, hpow, div_eq_mul_inv _ ((10 : ℚ) ^ d.lead.natAbs)]
    · rw [if_neg hneg] at hfixed
      have hpow : (10 : ℚ) ^ d.lead = 10 ^ d.lead.natAbs := by
        rw [← zpow_natCast]
        exact congrArg _ (by omega)
      cases hup : y.shiftUp? d.lead.natAbs with
      | some z =>
        refine .inr (.inl ⟨by omega, z, hfixed.trans hup, ?_⟩)
        rw [Fixed96.shiftUp?_value hup, hy, signed_mul, d.value_eq_lead, hpow]
      | none => exact .inr (.inr ⟨hfixed.trans hup, by omega⟩)
  · rw [if_neg hplaces] at hfixed
    rw [Fixed96.maxScale] at hplaces
    exact .inr (.inr ⟨hfixed, by omega⟩)

theorem trim_finite (f : Finite64) :
    Text.trim (JsonNumber.layout.finite f) = JsonNumber.layout.finite f :=
  Text.trim_of_not_blank (isNumeral_layout _ f).not_isBlank

/-- What is read as floating point is so large or so small that no tie can change its digits. -/
theorem recovers_ofText? (hf : f.isZero = false)
    (hread : readSigned? 128 (JsonNumber.layout.finite f) = none)
    (hfixed : Fixed96.ofText? (JsonNumber.layout.finite f) = none)
    (hlead : (f.shortest .toEven).lead < -28 ∨ 15 < (f.shortest .toEven).lead) :
    Recovers (JsonNumber.layout.finite f) (signed f.negative (f.shortest .toEven).value) := by
  have hparse : parseNumber? (JsonNumber.layout.finite f) = some (number (layout.finite f)) := by
    unfold parseNumber?
    simp only [trim_finite, hread, hfixed, ofText?_finite _ hf, Option.bind_some]
    rfl
  have hvalue : f.shortest layout.tie = f.shortest .toEven →
      (number (layout.finite f)).value? =
        some (.number (signed f.negative (f.shortest .toEven).value)) := by
    intro hsame
    rw [value?, numeralValue?_finite, hf, if_neg Bool.false_ne_true, hsame]
    rfl
  rcases hlead with hsmall | hlarge
  · have hlt : (f.shortest .toEven).value < 10 ^ (-28 : ℤ) :=
      (Decimal.lt_pow_lead _).trans_le (zpow_le_zpow_right₀ (by norm_num) (by omega))
    refine .of_eq hparse (hvalue (Finite64.shortest_of_small hf hlt)) (.inl ?_)
    rwa [abs_signed, abs_of_nonneg (Decimal.value_nonneg _)]
  · have hle : (10 : ℚ) ^ 16 ≤ (f.shortest .toEven).value := by
      refine le_trans ?_ (Decimal.pow_lead_le (Finite64.digits_shortest_pos .toEven hf))
      exact_mod_cast zpow_le_zpow_right₀ (by norm_num : (1 : ℚ) ≤ 10)
        (by omega : 16 ≤ (f.shortest .toEven).lead)
    have hexponent : -28 ≤ (f.shortest .toEven).exponent := by
      have hlength := length_le (Finite64.digits_shortest_le .toEven hf)
      rw [Decimal.lead] at hlarge
      omega
    exact .of_eq hparse (hvalue (Finite64.shortest_of_large hf hle))
      (.inr (Decimal.units hexponent _))

theorem recovers_lowered {y : Fixed96} (ht : Text.trim s = s) (hread : readSigned? 128 s = none)
    (hfixed : Fixed96.ofText? s = some (y.shiftDown n)) (hy : y.value / 10 ^ n = x)
    (hx : 10 ^ (-28 : ℤ) ≤ |x|) : Recovers s x := by
  obtain ⟨l, hparse, hvalue⟩ := parseNumber?_fixed ht hread hfixed
  obtain ⟨hnear, hexact⟩ := y.shiftDown_value n
  rw [hy] at hnear hexact
  exact ⟨l, _, hparse, hvalue, by rw [hexact, or_iff_right (not_lt.mpr hx)], hnear⟩

theorem recovers_scientific (hf : f.isZero = false)
    (hlead : (f.shortest .toEven).lead < -5 ∨ 15 < (f.shortest .toEven).lead)
    (hdecimal : JsonNumber.layout.decimal (f.shortest .toEven) =
      leading (digits (f.shortest .toEven).digits) ++ 'e' :: power (f.shortest .toEven).lead) :
    Recovers (JsonNumber.layout.finite f) (signed f.negative (f.shortest .toEven).value) := by
  have hs := splitSign_finite JsonNumber.layout hf
  have htext := toList_finite JsonNumber.layout hf
  change _ = (_, JsonNumber.layout.decimal (f.shortest .toEven)) at hs
  change _ = _ ++ JsonNumber.layout.decimal (f.shortest .toEven) at htext
  rw [hdecimal] at hs htext
  have hd := Finite64.digits_shortest_le .toEven hf
  have hread := readSigned?_eq_none hs (by simp : 'e' ∈ _) (by decide) 128
  rcases ofText?_scientific_cases hd htext with
    ⟨-, hleast, y, n, hfixed, hy⟩ | ⟨hnonneg, y, hfixed, hy⟩ | ⟨hfixed, hout⟩
  · refine recovers_lowered (trim_finite f) hread hfixed hy ?_
    rw [abs_signed, abs_of_nonneg (Decimal.value_nonneg _)]
    exact (zpow_le_zpow_right₀ (by norm_num) hleast).trans
      (Decimal.pow_lead_le (Finite64.digits_shortest_pos .toEven hf))
  · have hlength := length_le hd
    have hexponent : -28 ≤ (f.shortest .toEven).exponent := by
      rw [Decimal.lead] at hnonneg
      omega
    have hunits := Decimal.units hexponent f.negative
    rw [← hy] at hunits ⊢
    exact recovers_fixed (trim_finite f) hread hfixed hunits
  · exact recovers_ofText? hf hread hfixed (by omega)

theorem recovers_finite (hf : f.isZero = false) :
    Recovers (JsonNumber.layout.finite f) (signed f.negative (f.shortest .toEven).value) := by
  have hpositional : JsonNumber.layout.isPositional (f.shortest .toEven).lead = true ↔
      -5 ≤ (f.shortest .toEven).lead ∧ (f.shortest .toEven).lead ≤ 15 := by
    simp [Layout.isPositional, JsonNumber.layout]
  have hdecimal := decimal_eq JsonNumber.layout (f.shortest .toEven)
  by_cases hlead : JsonNumber.layout.isPositional (f.shortest .toEven).lead = true
  · obtain ⟨hleast, hmost⟩ := hpositional.mp hlead
    have hs := splitSign_finite JsonNumber.layout hf
    change _ = (_, JsonNumber.layout.decimal (f.shortest .toEven)) at hs
    rw [hdecimal, if_pos hlead] at hs
    exact recovers_plain (trim_finite f) hs (Finite64.digits_shortest_le .toEven hf) hleast hmost
  · rw [if_neg hlead] at hdecimal
    rw [hpositional] at hlead
    exact recovers_scientific hf (by omega) hdecimal

theorem recovers_zero (hf : f.isZero = true) : Recovers (JsonNumber.layout.finite f) 0 := by
  have hm := plain_positional JsonNumber.layout isDigits_zero 0
  have hzero : digitsValue 0 ['0'] = 0 := digitsValue_zeros 0 1
  rw [hzero, Nat.cast_zero, zero_mul] at hm
  have hstops := hm.stops_isSignChar []
  rw [List.append_nil] at hstops
  have hs : splitSign (JsonNumber.layout.finite f).toList =
      (f.negative, JsonNumber.layout.plain ['0'] 0) := by
    rw [Layout.finite, String.toList_ofList, if_pos hf, splitSign_ofNegative _ hstops]
  have hfits : Fixed96.Fits 0 := ⟨0, 0, Fixed96.mantissaLimit_pos, Nat.zero_le _, by simp⟩
  have hrecovers := recovers_positional (trim_finite f) hs hm (point_mem_plain _ rfl _ _) hfits
  rwa [signed_zero] at hrecovers

/-- A number that a request can hold is recovered from its text. -/
theorem recovers_json (n : JsonNumber) :
    ∃ x, (ofJson n).value? = some (.number x) ∧ Recovers n.text x := by
  cases n with
  | natural n hn =>
    have ht := Text.trim_of_not_blank (isNumeral_natText n).not_isBlank
    have hs : splitSign (natText n).toList = (false, digits n) := by
      rw [natText, String.toList_ofList, splitSign_of_stops (stops_digits n)]
    have hbits : digitsValue 0 (digits n) < 2 ^ 127 := by
      rw [digitsValue_digits]
      exact lt_trans hn (by decide +kernel)
    refine ⟨_, ?_, recovers_whole ht hs (isDigits_digits n) hbits⟩
    rw [ofJson, value?, JsonNumber.text, numeralValue?_natText, digitsValue_digits]
    rfl
  | negative n hn =>
    have ht := Text.trim_of_not_blank (isNumeral_jsonText (.negative n hn)).not_isBlank
    have hs : splitSign ("-" ++ natText n).toList = (true, digits n) := by
      simp [natText, splitSign]
    have hbits : digitsValue 0 (digits n) < 2 ^ 127 := by
      rw [digitsValue_digits]
      exact lt_of_le_of_lt hn.2 (by decide +kernel)
    refine ⟨_, ?_, recovers_whole ht hs (isDigits_digits n) hbits⟩
    rw [ofJson, value?, JsonNumber.text, numeralValue?_neg_natText, digitsValue_digits]
    rfl
  | float f =>
    have hvalue : (ofJson (.float f)).value? = some (.number
        (signed f.negative (if f.isZero then 0 else (f.shortest .toEven).value))) := by
      rw [ofJson, value?, JsonNumber.text, numeralValue?_finite]
      rfl
    refine ⟨_, hvalue, ?_⟩
    cases hf : f.isZero with
    | true =>
      rw [if_pos rfl, signed_zero]
      exact recovers_zero hf
    | false => exact recovers_finite hf

end Literal

end Sql

namespace GroupKey

open Sql

/-- A number as the key of a number column, and its text as such a key: how far their literals
agree. -/
theorem literal_display (n : JsonNumber) {c : Column} (hc : c.type = .number) :
    ∃ l l' x y, (GroupKey.number n).literal c = .ok l ∧
      (GroupKey.text (GroupKey.number n).display).literal c = .ok l' ∧
      l.value? = some (.number x) ∧ l'.value? = some (.number y) ∧
      (y = x ↔ |x| < 10 ^ (-28 : ℤ) ∨ ∃ i : ℤ, x * 10 ^ 28 = i) ∧
      |y - x| ≤ 1 / 2 / 10 ^ 28 := by
  obtain ⟨x, hx, l, y, hl, hy, hiff, hnear⟩ := Literal.recovers_json n
  refine ⟨.ofJson n, l, x, y, ?_, ?_, hx, hy, hiff, hnear⟩
  · unfold literal
    simp only [hc]
  · unfold literal
    simp only [hc, display, hl]

/-- A column of very small numbers. -/
def mass : Column where
  id := "m"
  displayName := ""
  field := "mass"
  aggregate := none
  type := .number

/-- The number `1.5e-27`. -/
def proton : JsonNumber :=
  .float ⟨false, 8362779449448984, -142, by decide⟩

/-- The number `2.5e-28`. -/
def lighter : JsonNumber :=
  .float ⟨false, 5575186299632656, -144, by decide⟩

theorem literal_display_proton :
    mass.type = .number ∧ proton.text = "1.5e-27" ∧
      ∃ l l' x y, (GroupKey.number proton).literal mass = .ok l ∧
        (GroupKey.text (GroupKey.number proton).display).literal mass = .ok l' ∧
        l.value? = some (.number x) ∧ l'.value? = some (.number y) ∧
        (y = x ↔ |x| < 10 ^ (-28 : ℤ) ∨ ∃ i : ℤ, x * 10 ^ 28 = i) ∧
        |y - x| ≤ 1 / 2 / 10 ^ 28 :=
  ⟨rfl, by decide +kernel, literal_display proton rfl⟩

/-- Its twenty-ninth place is lost in the text. -/
theorem literal_display_lighter :
    lighter.text = "2.5e-28" ∧ (GroupKey.number lighter).literal mass = .ok (.number "2.5e-28") ∧
      (GroupKey.text (GroupKey.number lighter).display).literal mass =
        .ok (.number "0.0000000000000000000000000003") ∧
      (Literal.number "2.5e-28").value? = some (.number (25 / 10 ^ 29)) ∧
      (Literal.number "0.0000000000000000000000000003").value? = some (.number (3 / 10 ^ 28)) ∧
      (25 / 10 ^ 29 : ℚ) ≠ 3 / 10 ^ 28 := by
  have htext : lighter.text = "2.5e-28" := by decide +kernel
  have hparse : Literal.parseNumber? "2.5e-28" =
      some (.number "0.0000000000000000000000000003") := by decide +kernel
  refine ⟨htext, ?_, ?_, by decide +kernel, by decide +kernel, by norm_num⟩
  · exact congrArg (fun t => Except.ok (Literal.number t)) htext
  · rw [display, htext]
    unfold literal
    simp only [mass, hparse]

end GroupKey

end GridQuery
