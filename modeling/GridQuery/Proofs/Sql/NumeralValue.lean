import GridQuery.Proofs.Number.Shortest
import GridQuery.Proofs.Sql.Meaning
import Mathlib.Data.Rat.Lemmas

/-!
The values of the numerals that are written: a floating-point number is written with the value of
its shortest decimal, however the digits are set out.
-/

namespace GridQuery.Sql

open GridQuery.Number

variable {ds es rest cs : List Char} {negative : Bool} {n : Nat} {e : ℤ}
  {v : ℚ}

theorem decimalValue_eq (negative : Bool) (n : Nat) (e : ℤ) :
    decimalValue negative n e = signed negative (n * 10 ^ e) := by
  rw [decimalValue, Rat.mkRat_eq_div, ← tenTo_div_tenTo, ← mul_div_assoc]
  cases negative with
  | false => simp [signed]
  | true => simp [signed, neg_div]

def isSignChar (c : Char) : Bool :=
  c == '-' || c == '+'

theorem splitSign_of_stops (h : Stops isSignChar cs) : splitSign cs = (false, cs) := by
  unfold splitSign
  split
  · simp [isSignChar] at h
  · simp [isSignChar] at h
  · rfl

theorem splitSign_ofNegative (negative : Bool) (h : Stops isSignChar cs) :
    splitSign ((if negative then ['-'] else []) ++ cs) = (negative, cs) := by
  cases negative with
  | false => exact splitSign_of_stops h
  | true => rfl

theorem not_isSignChar_of_isDigit {c : Char} (h : isDigit c = true) : isSignChar c = false := by
  by_contra hc
  rw [Bool.not_eq_false, isSignChar, Bool.or_eq_true, beq_iff_eq, beq_iff_eq] at hc
  rcases hc with rfl | rfl <;> revert h <;> decide

theorem IsDigits.stops_isSignChar (h : IsDigits ds) : Stops isSignChar (ds ++ rest) := by
  obtain ⟨c, r, rfl⟩ := List.exists_cons_of_ne_nil h.1
  exact (stops_cons _ _ _).mpr (not_isSignChar_of_isDigit (h.2 c (by simp)))

theorem numeralValue?_of (hs : splitSign cs = (negative, rest))
    (hm : readMagnitude? rest = some (n, e)) :
    numeralValue? cs = some (signed negative (n * 10 ^ e)) := by
  rw [numeralValue?, hs]
  simp only
  rw [hm, Option.map_some, decimalValue_eq]

theorem spanDigits_of_forall (hd : ∀ c ∈ ds, isDigit c = true) (h : Stops isDigit rest) :
    spanDigits (ds ++ rest) = (ds, rest) :=
  Prod.ext (takeWhile_append_stops hd h) (dropWhile_append_stops hd h)

theorem readMagnitude?_whole (hd : IsDigits ds) (h : Stops isDigit rest)
    (hp : Stops (· == '.') rest) :
    readMagnitude? (ds ++ rest) = (readExponent? rest).map fun e => (digitsValue 0 ds, e) := by
  rw [readMagnitude?, spanDigits_append hd h]
  cases rest with
  | nil => simp [hd.1, digitsValue]
  | cons c r =>
    have hc : c ≠ '.' := by simpa using hp
    simp [hd.1, hc, digitsValue]

/-- On one side of the point there may be no digits. -/
theorem readMagnitude?_pointed (hd : IsDigits (ds ++ es)) (h : Stops isDigit rest) :
    readMagnitude? (ds ++ '.' :: (es ++ rest)) =
      (readExponent? rest).map fun e : ℤ => (digitsValue 0 (ds ++ es), e - (es.length : ℤ)) := by
  have hds : ∀ c ∈ ds, isDigit c = true := fun c hc => hd.2 c (List.mem_append_left _ hc)
  have hes : ∀ c ∈ es, isDigit c = true := fun c hc => hd.2 c (List.mem_append_right _ hc)
  have hne : ¬ (ds = [] ∧ es = []) := by simpa using hd.1
  rw [readMagnitude?, spanDigits_of_forall hds (by simp [isDigit])]
  simp only
  rw [spanDigits_of_forall hes h, digitsValue_append]
  exact if_neg hne

theorem readDigits?_eq (hd : IsDigits ds) : readDigits? ds = some (digitsValue 0 ds) :=
  if_pos ⟨hd.1, List.all_eq_true.mpr hd.2⟩

/-- A signed exponent, as it stands behind the mark. -/
def power (e : ℤ) : List Char :=
  (if e < 0 then '-' else '+') :: digits e.natAbs

theorem readExponent?_power (e : ℤ) : readExponent? ('e' :: power e) = some e := by
  have hread := readDigits?_eq (isDigits_digits e.natAbs)
  rw [digitsValue_digits] at hread
  rw [readExponent?, if_pos (.inl rfl), power]
  split
  · next h =>
    simp only [readInt?, splitSign, hread, if_true]
    exact congrArg some (show -(e.natAbs : ℤ) = e by omega)
  · next h =>
    simp only [readInt?, splitSign, hread, Bool.false_eq_true, if_false]
    exact congrArg some (show (e.natAbs : ℤ) = e by omega)

theorem readMagnitude?_digits (n : Nat) : readMagnitude? (digits n) = some (n, 0) := by
  have h := @readMagnitude?_whole _ [] (isDigits_digits n) (stops_nil _) (stops_nil _)
  rwa [List.append_nil, digitsValue_digits] at h

theorem stops_digits (n : Nat) : Stops isSignChar (digits n) := by
  simpa using @IsDigits.stops_isSignChar _ [] (isDigits_digits n)

theorem numeralValue?_natText (n : Nat) : numeralValue? (natText n).toList = some (n : ℚ) := by
  rw [natText, String.toList_ofList,
    numeralValue?_of (splitSign_of_stops (stops_digits n)) (readMagnitude?_digits n)]
  simp [signed]

theorem numeralValue?_neg_natText (n : Nat) :
    numeralValue? ("-" ++ natText n).toList = some (-(n : ℚ)) := by
  have hsplit : splitSign ("-" ++ natText n).toList = (true, digits n) := by
    simp [natText, splitSign]
  rw [numeralValue?_of hsplit (readMagnitude?_digits n)]
  simp [signed]

theorem numeralValue?_intText (i : Int) : numeralValue? (intText i).toList = some (i : ℚ) := by
  unfold intText
  split
  · next h =>
    rw [numeralValue?_neg_natText, Nat.cast_natAbs, abs_of_neg h, Int.cast_neg, neg_neg]
  · next h => rw [numeralValue?_natText, Nat.cast_natAbs, abs_of_nonneg (not_lt.mp h)]

theorem numeralValue?_fixedText (x : Fixed96) : numeralValue? x.text.toList = some x.value := by
  have hd : IsDigits (paddedDigits (x.scale + 1) x.mantissa) :=
    (isDigits_digits x.mantissa).zeros_append _
  have hvalue : digitsValue 0 (paddedDigits (x.scale + 1) x.mantissa) = x.mantissa := by
    rw [paddedDigits, digitsValue_zeros_append, digitsValue_digits]
  have hlen : x.scale < (paddedDigits (x.scale + 1) x.mantissa).length := by
    simp only [paddedDigits, List.length_append, List.length_replicate]
    omega
  rw [Fixed96.text, String.toList_ofList, List.append_assoc, Fixed96.value]
  generalize paddedDigits (x.scale + 1) x.mantissa = ds at hd hvalue hlen ⊢
  have hwhole : IsDigits (ds.take (ds.length - x.scale)) := hd.take (by omega)
  rw [numeralValue?_of (splitSign_ofNegative x.negative hwhole.stops_isSignChar)
    (n := x.mantissa) (e := -(x.scale : ℤ))]
  · rw [zpow_neg, zpow_natCast, div_eq_mul_inv]
  · split
    · next h =>
      rw [h, Nat.sub_zero, List.take_length, readMagnitude?_whole hd (stops_nil _) (stops_nil _),
        hvalue]
      rfl
    · next h =>
      have htake := List.take_append_drop (ds.length - x.scale) ds
      have hpointed := @readMagnitude?_pointed _ _ [] (htake.symm ▸ hd) (stops_nil _)
      rw [List.append_nil, htake, hvalue, List.length_drop] at hpointed
      rw [hpointed, readExponent?, Option.map_some]
      congr 2
      omega

/-- Digits with at most one point among them, for this value; on one side of the point there may be
none. -/
inductive IsPositional : ℚ → List Char → Prop
  | whole {ds : List Char} : IsDigits ds → IsPositional (digitsValue 0 ds) ds
  | pointed {ds es : List Char} : IsDigits (ds ++ es) →
      IsPositional (digitsValue 0 (ds ++ es) / 10 ^ es.length) (ds ++ '.' :: es)

namespace IsPositional

theorem of_whole (hd : IsDigits ds) (hv : (digitsValue 0 ds : ℚ) = v) : IsPositional v ds :=
  hv ▸ .whole hd

theorem of_pointed (hd : IsDigits (ds ++ es))
    (hv : (digitsValue 0 (ds ++ es) : ℚ) / 10 ^ es.length = v) :
    IsPositional v (ds ++ '.' :: es) :=
  hv ▸ .pointed hd

theorem stops_isSignChar (h : IsPositional v cs) (rest : List Char) :
    Stops isSignChar (cs ++ rest) := by
  cases h with
  | whole hd => exact hd.stops_isSignChar
  | @pointed ds es hd =>
    cases ds with
    | nil => simp [isSignChar]
    | cons c r => simpa using not_isSignChar_of_isDigit (hd.2 c (by simp))

theorem readMagnitude? (h : IsPositional v cs) (hd : Stops isDigit rest)
    (hp : Stops (· == '.') rest) :
    ∃ (n : Nat) (k : ℤ), (n : ℚ) * 10 ^ k = v ∧
      Number.readMagnitude? (cs ++ rest) = (readExponent? rest).map fun e : ℤ => (n, e + k) := by
  cases h with
  | whole hds =>
    refine ⟨_, 0, by rw [zpow_zero, mul_one], ?_⟩
    simpa using readMagnitude?_whole hds hd hp
  | @pointed ds es hds =>
    refine ⟨_, -(es.length : ℤ), by rw [zpow_neg, zpow_natCast, ← div_eq_mul_inv], ?_⟩
    rw [List.append_assoc, List.cons_append]
    exact readMagnitude?_pointed hds hd

theorem readMagnitude?_self (h : IsPositional v cs) :
    ∃ (n : Nat) (k : ℤ), (n : ℚ) * 10 ^ k = v ∧ Number.readMagnitude? cs = some (n, k) := by
  obtain ⟨n, k, hvalue, hread⟩ := h.readMagnitude? (stops_nil _) (stops_nil _)
  refine ⟨n, k, hvalue, ?_⟩
  rw [← List.append_nil cs, hread, readExponent?, Option.map_some, zero_add]

end IsPositional

theorem plain_whole (l : Layout) (hd : IsDigits ds) (m : Nat) :
    IsPositional (digitsValue 0 ds * 10 ^ m) (l.plain ds m) := by
  have hw : IsDigits (ds ++ List.replicate m '0') := hd.append fun c hc => isDigit_of_mem_zeros hc
  have hvalue : digitsValue 0 (ds ++ List.replicate m '0') = digitsValue 0 ds * 10 ^ m := by
    rw [digitsValue_append, digitsValue_zeros]
  rw [Layout.plain, if_pos (Int.natCast_nonneg m), Int.toNat_natCast]
  split
  · refine .of_pointed (hw.append isDigits_zero.2) ?_
    rw [digitsValue_append, hvalue, show ['0'] = List.replicate 1 '0' from rfl, digitsValue_zeros,
      List.length_replicate]
    push_cast
    exact mul_div_cancel_right₀ _ (by norm_num)
  · rw [List.append_nil]
    exact .of_whole hw (by rw [hvalue]; push_cast; rfl)

theorem plain_positional (l : Layout) (hd : IsDigits ds) (e : ℤ) :
    IsPositional (digitsValue 0 ds * 10 ^ e) (l.plain ds e) := by
  by_cases he : 0 ≤ e
  · obtain ⟨m, rfl⟩ := Int.eq_ofNat_of_zero_le he
    exact_mod_cast plain_whole l hd m
  · obtain ⟨k, rfl⟩ : ∃ k : Nat, e = -(k : ℤ) := ⟨e.natAbs, by omega⟩
    rw [Layout.plain, if_neg he, zpow_neg, zpow_natCast, ← div_eq_mul_inv]
    split
    · have hlen : k ≤ ds.length := by omega
      have htake := List.take_append_drop (ds.length - k) ds
      rw [show ((ds.length : ℤ) + -(k : ℤ)).toNat = ds.length - k by omega]
      refine .of_pointed (htake.symm ▸ hd) ?_
      rw [htake, List.length_drop, Nat.sub_sub_self hlen]
    · have hlen : ds.length ≤ k := by omega
      rw [show (-((ds.length : ℤ) + -(k : ℤ))).toNat = k - ds.length by omega]
      refine @IsPositional.of_pointed ['0'] _ _ (isDigits_zero.append (hd.zeros_append _).2) ?_
      rw [show ['0'] = List.replicate 1 '0' from rfl, digitsValue_zeros_append,
        digitsValue_zeros_append, List.length_append, List.length_replicate,
        Nat.sub_add_cancel hlen]

/-- The first digit, and the others behind a point. -/
def leading (ds : List Char) : List Char :=
  ds.take 1 ++ if ds.drop 1 = [] then [] else '.' :: ds.drop 1

theorem leading_positional (hd : IsDigits ds) :
    IsPositional (digitsValue 0 ds / 10 ^ (ds.length - 1)) (leading ds) := by
  have htake := List.take_append_drop 1 ds
  unfold leading
  split
  · next h =>
    rw [h, List.append_nil] at htake
    rw [List.append_nil, htake]
    refine .of_whole hd ?_
    rw [← List.length_drop, h, List.length_nil, pow_zero, div_one]
  · refine .of_pointed (htake.symm ▸ hd) ?_
    rw [htake, List.length_drop]

theorem decimal_eq (l : Layout) (d : Decimal) :
    l.decimal d = if l.isPositional d.lead then l.plain (digits d.digits) d.exponent
      else leading (digits d.digits) ++ 'e' :: power d.lead :=
  rfl

theorem readMagnitude?_decimal (l : Layout) (d : Decimal) :
    ∃ (n : Nat) (k : ℤ), (n : ℚ) * 10 ^ k = d.value ∧
      readMagnitude? (l.decimal d) = some (n, k) := by
  have hd := isDigits_digits d.digits
  rw [decimal_eq]
  split
  · obtain ⟨n, k, hvalue, hread⟩ := (plain_positional l hd d.exponent).readMagnitude?_self
    rw [digitsValue_digits] at hvalue
    exact ⟨n, k, hvalue, hread⟩
  · have hstops (p : Char → Bool) (hp : p 'e' = false) : Stops p ('e' :: power d.lead) :=
      (stops_cons _ _ _).mpr hp
    obtain ⟨n, k, hvalue, hread⟩ := (leading_positional hd).readMagnitude?
      (hstops isDigit (by decide)) (hstops (· == '.') (by decide))
    rw [readExponent?_power, Option.map_some] at hread
    refine ⟨n, _, ?_, hread⟩
    rw [digitsValue_digits] at hvalue
    rw [zpow_add₀ (by norm_num), mul_left_comm, hvalue, d.value_eq_lead, mul_comm]

theorem stops_decimal (l : Layout) (d : Decimal) : Stops isSignChar (l.decimal d) := by
  have hd := isDigits_digits d.digits
  rw [decimal_eq]
  split
  · simpa using (plain_positional l hd d.exponent).stops_isSignChar []
  · exact (leading_positional hd).stops_isSignChar _

/-- The value that a floating-point number is written with. -/
theorem numeralValue?_finite (l : Layout) (x : Finite64) :
    numeralValue? (l.finite x).toList =
      some (signed x.negative (if x.isZero then 0 else (x.shortest l.tie).value)) := by
  rw [Layout.finite, String.toList_ofList]
  cases hx : x.isZero with
  | true =>
    have hplain := plain_positional l isDigits_zero 0
    have hzero : digitsValue 0 ['0'] = 0 := digitsValue_zeros 0 1
    rw [hzero, Nat.cast_zero, zero_mul] at hplain
    obtain ⟨n, k, hvalue, hread⟩ := hplain.readMagnitude?_self
    have hstops := hplain.stops_isSignChar []
    rw [List.append_nil] at hstops
    rw [if_pos rfl, if_pos rfl, numeralValue?_of (splitSign_ofNegative _ hstops) hread, hvalue]
  | false =>
    obtain ⟨n, k, hvalue, hread⟩ := readMagnitude?_decimal l (x.shortest l.tie)
    rw [if_neg Bool.false_ne_true, if_neg Bool.false_ne_true,
      numeralValue?_of (splitSign_ofNegative _ (stops_decimal l _)) hread, hvalue]

end GridQuery.Sql
