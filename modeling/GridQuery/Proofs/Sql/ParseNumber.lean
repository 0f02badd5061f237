import GridQuery.Proofs.Number.FixedPoint
import GridQuery.Proofs.Sql.NumeralValue
import Mathlib.Data.List.TakeWhile

/-! Numbers read from text, and which texts of digits keep their value. -/

namespace GridQuery.Sql

open GridQuery.Number

variable {s : String} {cs m rest : List Char} {negative : Bool} {v x : ℚ} {n : Nat} {k : ℤ}

theorem readDigits?_eq_none {c : Char} (hc : c ∈ m) (h : isDigit c = false) :
    readDigits? m = none :=
  if_neg fun hd => Bool.false_ne_true (h.symm.trans (List.all_eq_true.mp hd.2 c hc))

theorem readInt?_eq_none {c : Char} (hs : splitSign cs = (negative, m)) (hc : c ∈ m)
    (h : isDigit c = false) : readInt? cs = none := by
  rw [readInt?, hs]
  simp only
  rw [readDigits?_eq_none hc h]
  rfl

theorem readSigned?_eq_none {c : Char} (hs : splitSign s.toList = (negative, m)) (hc : c ∈ m)
    (h : isDigit c = false) (bits : Nat) : readSigned? bits s = none := by
  rw [readSigned?, readInt?_eq_none hs hc h]
  rfl

theorem readInt?_digits (hs : splitSign cs = (negative, m)) (hd : IsDigits m) :
    ∃ i : ℤ, readInt? cs = some i ∧ (i : ℚ) = signed negative (digitsValue 0 m) := by
  rw [readInt?, hs]
  simp only
  rw [readDigits?_eq hd]
  refine ⟨_, rfl, ?_⟩
  cases negative <;> simp [signed]

theorem head_of_readMagnitude? {c : Char} {r : List Char} {p : Nat × ℤ}
    (h : readMagnitude? (c :: r) = some p) : isDigit c = true ∨ c = '.' := by
  by_contra hc
  obtain ⟨hdigit, hpoint⟩ := not_or.mp hc
  rw [Bool.not_eq_true] at hdigit
  simp [readMagnitude?, spanDigits, hdigit, hpoint] at h

theorem toLower_of_numeral {c : Char} (h : isDigit c = true ∨ c = '.') : c.toLower = c := by
  refine dif_neg ?_
  rcases h with h | rfl
  · have hc : c.val.toNat ≤ 57 := (toNat_of_isDigit h).2
    have hA : ('A' : Char).val.toNat = 65 := rfl
    rw [ge_iff_le, UInt32.le_iff_toNat_le, hA]
    omega
  · decide

/-- No word that stands for a floating-point value begins like a numeral. -/
theorem lowerAscii_ne {p : Nat × ℤ} (h : readMagnitude? m = some p) {w : String} {c : Char}
    (hw : w.toList.head? = some c) (hdigit : isDigit c = false) (hpoint : c ≠ '.') :
    Text.lowerAscii (String.ofList m) ≠ w := by
  rintro rfl
  cases m with
  | nil => cases h
  | cons d r =>
    have hd := head_of_readMagnitude? h
    have hhead : d.toLower = c := by simpa [Text.lowerAscii] using hw
    rw [toLower_of_numeral hd] at hhead
    subst hhead
    rcases hd with hd | hd
    · exact Bool.false_ne_true (hdigit.symm.trans hd)
    · exact hpoint hd

theorem ofText?_eq_ofDecimal (hs : splitSign s.toList = (negative, m))
    (hm : readMagnitude? m = some (n, k)) :
    Binary64.ofText? s = some (.ofDecimal negative n k) := by
  have hinf := @lowerAscii_ne _ _ hm "inf" 'i' rfl rfl (by decide)
  have hinfinity := @lowerAscii_ne _ _ hm "infinity" 'i' rfl rfl (by decide)
  have hnan := @lowerAscii_ne _ _ hm "nan" 'n' rfl rfl (by decide)
  rw [Binary64.ofText?, hs]
  simp only
  rw [if_neg (not_or.mpr ⟨hinf, hinfinity⟩), if_neg hnan, hm]
  rfl

/-- A whole number is read as such unless it has a point or too many bits. -/
theorem readSigned?_positional (hs : splitSign s.toList = (negative, m)) (h : IsPositional v m) :
    (∃ i : ℤ, readSigned? 128 s = some i ∧ (i : ℚ) = signed negative v ∧ '.' ∉ m ∧
        -2 ^ 127 ≤ signed negative v ∧ signed negative v < 2 ^ 127) ∨
      readSigned? 128 s = none ∧
        ¬ ('.' ∉ m ∧ -2 ^ 127 ≤ signed negative v ∧ signed negative v < 2 ^ 127) := by
  cases h with
  | whole hd =>
    obtain ⟨i, hread, hi⟩ := readInt?_digits hs hd
    have hno : '.' ∉ m := fun hmem => absurd (hd.2 '.' hmem) (by decide)
    have hbits : isSigned 128 i = true ↔ (-2 ^ 127 : ℚ) ≤ i ∧ (i : ℚ) < 2 ^ 127 := by
      rw [isSigned, Bool.and_eq_true, decide_eq_true_eq, decide_eq_true_eq]
      norm_num [twoTo]
      norm_cast
    rw [readSigned?, hread, ← hi, ← hbits]
    cases hsigned : isSigned 128 i with
    | true => exact .inl ⟨i, by simp [hsigned], rfl, hno, rfl⟩
    | false => exact .inr ⟨by simp [hsigned], fun hin => Bool.false_ne_true hin.2⟩
  | @pointed ds es hd =>
    have hpoint : '.' ∈ ds ++ '.' :: es := List.mem_append_right _ List.mem_cons_self
    exact .inr ⟨readSigned?_eq_none hs hpoint (by decide) 128, fun hin => hin.1 hpoint⟩

theorem IsPositional.reads (h : IsPositional v m) :
    Fixed96.Reads negative v (Fixed96.readPlaces negative ⟨0, 0, false, false⟩ m) := by
  cases h with
  | whole hd => exact Fixed96.reads_whole hd.2 hd.1
  | pointed hd => exact Fixed96.reads_pointed hd.2 hd.1

theorem IsPositional.ofPlain?_reads (hs : splitSign cs = (negative, m)) (h : IsPositional v m) :
    Fixed96.Reads negative v (Fixed96.ofPlain? cs) := by
  rw [Fixed96.ofPlain?, hs]
  exact h.reads

theorem ofScientific?_eq_none (h : ∀ c ∈ cs, isExponentMark c = false) :
    Fixed96.ofScientific? cs = none := by
  have hdrop : cs.dropWhile (fun c => !(c == 'e' || c == 'E')) = [] :=
    List.dropWhile_eq_nil_iff.mpr fun c hc => by simpa [isExponentMark] using h c hc
  rw [Fixed96.ofScientific?]
  simp only [hdrop]

/-- An optional sign and digits with at most one point among them, for this number. -/
inductive IsFixedPoint : ℚ → List Char → Prop
  | unsigned {v : ℚ} {cs : List Char} : IsPositional v cs → IsFixedPoint v cs
  | plus {v : ℚ} {cs : List Char} : IsPositional v cs → IsFixedPoint v ('+' :: cs)
  | minus {v : ℚ} {cs : List Char} : IsPositional v cs → IsFixedPoint (-v) ('-' :: cs)

theorem IsPositional.nonneg (h : IsPositional v m) : 0 ≤ v := by
  cases h with
  | whole => exact Nat.cast_nonneg _
  | pointed => positivity

theorem IsPositional.not_mark (h : IsPositional v m) {c : Char} (hc : c ∈ m) :
    isExponentMark c = false := by
  have hchar : isDigit c = true ∨ c = '.' := by
    cases h with
    | whole hd => exact .inl (hd.2 c hc)
    | @pointed ds es hd =>
      have hmem : c = '.' ∨ c ∈ ds ++ es := by
        simp only [List.mem_append, List.mem_cons] at hc ⊢
        tauto
      exact hmem.symm.imp_left (hd.2 c)
  by_contra hmark
  obtain ⟨hdigit, hpoint⟩ := isDigit_of_isExponentMark (Bool.not_eq_false _ ▸ hmark)
  rcases hchar with hchar | rfl
  · exact Bool.false_ne_true (hdigit.symm.trans hchar)
  · cases hpoint

theorem IsFixedPoint.split (h : IsFixedPoint x cs) :
    ∃ negative v m, splitSign cs = (negative, m) ∧ IsPositional v m ∧ x = signed negative v ∧
      ('.' ∈ cs ↔ '.' ∈ m) ∧ ∀ c ∈ cs, isExponentMark c = false := by
  cases h with
  | unsigned hm =>
    have hstops := hm.stops_isSignChar []
    rw [List.append_nil] at hstops
    exact ⟨false, _, _, splitSign_of_stops hstops, hm, rfl, Iff.rfl, fun _ => hm.not_mark⟩
  | plus hm =>
    exact ⟨false, _, _, rfl, hm, rfl, by simp,
      List.forall_mem_cons.mpr ⟨by decide, fun _ => hm.not_mark⟩⟩
  | minus hm =>
    exact ⟨true, _, _, rfl, hm, rfl, by simp,
      List.forall_mem_cons.mpr ⟨by decide, fun _ => hm.not_mark⟩⟩

namespace Literal

/-- What is read as floating point keeps its value exactly if a floating-point number is written
with that value. -/
theorem value_ofBinary64?_iff (hv : 0 < v) (hnk : (n : ℚ) * 10 ^ k = v) :
    (∃ l, ofBinary64? (.ofDecimal negative n k) = some l ∧
        l.value? = some (.number (signed negative v))) ↔
      ∃ f : Finite64, (number (layout.finite f)).value? = some (.number (signed negative v)) := by
  constructor
  · rintro ⟨l, hl, hvalue⟩
    generalize Binary64.ofDecimal negative n k = b at hl
    cases b with
    | finite f =>
      cases hl
      exact ⟨f, hvalue⟩
    | nan => cases hl
    | infinite => cases hl
  · rintro ⟨f, hf⟩
    rw [value?, numeralValue?_finite, Option.map_some, Option.some_inj, Value.number.injEq] at hf
    have habs := congrArg abs hf
    rw [abs_signed, abs_signed, abs_of_pos hv] at habs
    have hzero : f.isZero = false := by
      by_contra hz
      rw [Bool.not_eq_false] at hz
      rw [if_pos hz, abs_zero] at habs
      exact hv.ne habs
    rw [if_neg (by simp [hzero]), abs_of_nonneg (Decimal.value_nonneg _)] at habs
    have hback := Finite64.readsBack_iff.mp (Finite64.readsBack_shortest layout.tie hzero)
    have hsame : (n : ℚ) * 10 ^ k = (f.shortest layout.tie).value := by rw [hnk, habs]
    rw [← Binary64.ofDecimal_congr hsame] at hback
    have hround : Binary64.ofDecimal negative n k = .finite { f with negative := negative } :=
      Binary64.ofDecimal_of_false hback
    refine ⟨_, by rw [hround]; rfl, ?_⟩
    have hshortest : Finite64.shortest layout.tie { f with negative := negative } =
      f.shortest layout.tie := rfl
    have hzero' : ({ f with negative := negative } : Finite64).isZero = false := hzero
    rw [value?, numeralValue?_finite, hzero', hshortest, if_neg Bool.false_ne_true, habs]
    rfl

/-- The digits that a text keeps. -/
theorem parseNumber?_keeps_iff (h : IsFixedPoint x (Text.trim s).toList) :
    (∃ l, parseNumber? s = some l ∧ l.value? = some (.number x)) ↔
      ('.' ∉ (Text.trim s).toList ∧ -2 ^ 127 ≤ x ∧ x < 2 ^ 127) ∨ Fixed96.Fits |x| ∨
        2 ^ 96 - 1 / 2 ≤ |x| ∧
          ∃ f : Finite64, (number (layout.finite f)).value? = some (.number x) := by
  obtain ⟨negative, v, m, hsplit, hm, rfl, hpoint, hmark⟩ := h.split
  have hreads := hm.ofPlain?_reads hsplit
  rw [abs_signed, abs_of_nonneg hm.nonneg]
  unfold parseNumber?
  simp only
  rcases readSigned?_positional hsplit hm with ⟨i, hread, hi, hno, hrange⟩ | ⟨hread, hout⟩
  · rw [hread]
    refine iff_of_true ⟨_, rfl, ?_⟩ (.inl ⟨mt hpoint.mp hno, hrange⟩)
    rw [value?, numeralValue?_intText, hi]
    rfl
  · have hfirst : ¬ ('.' ∉ (Text.trim s).toList ∧ -2 ^ 127 ≤ signed negative v ∧
        signed negative v < 2 ^ 127) := by
      rw [hpoint]
      exact hout
    rw [hread, or_iff_right hfirst, Fixed96.ofText?, ofScientific?_eq_none hmark, Option.or_none]
    cases hfixed : Fixed96.ofPlain? (Text.trim s).toList with
    | some y =>
      rw [hfixed] at hreads
      have hsmall := mt hreads.none_iff.mpr (Option.some_ne_none y)
      rw [or_iff_left (fun hlarge => hsmall hlarge.1), ← hreads.value_iff y rfl]
      simp only [Option.some_inj, exists_eq_left', value?, numeralValue?_fixedText, Option.map_some,
        Value.number.injEq]
    | none =>
      have hlarge := hreads.none_iff.mp hfixed
      obtain ⟨n, k, hnk, hmagnitude⟩ := hm.readMagnitude?_self
      simp only
      rw [or_iff_right (fun hfits : Fixed96.Fits v => not_lt.mpr hlarge hfits.lt),
        and_iff_right hlarge, ofText?_eq_ofDecimal hsplit hmagnitude, Option.bind_some]
      exact value_ofBinary64?_iff (by linarith) hnk

/-- The digits of a decimal are kept, with its sign. -/
theorem parseNumber?_keeps_quarter :
    IsFixedPoint (-49382715604938269 / 4) (Text.trim " -12345678901234567.25").toList ∧
      ∃ l, parseNumber? " -12345678901234567.25" = some l ∧
        l.value? = some (.number (-49382715604938269 / 4)) := by
  have htext : (Text.trim " -12345678901234567.25").toList =
      '-' :: ("12345678901234567".toList ++ '.' :: "25".toList) := by decide +kernel
  have hdigits : IsDigits ("12345678901234567".toList ++ "25".toList) :=
    ⟨by decide, List.all_eq_true.mp (by decide +kernel)⟩
  have hvalue :
      digitsValue 0 ("12345678901234567".toList ++ "25".toList) = 1234567890123456725 := by
    decide +kernel
  have hplaces : "25".toList.length = 2 := rfl
  have hx : IsFixedPoint (-49382715604938269 / 4) (Text.trim " -12345678901234567.25").toList := by
    rw [htext, neg_div]
    refine .minus (.of_pointed hdigits ?_)
    rw [hvalue, hplaces]
    norm_num
  have hfits : Fixed96.Fits |(-49382715604938269 / 4 : ℚ)| :=
    ⟨1234567890123456725, 2, by decide +kernel, by decide, by norm_num [abs_div]⟩
  exact ⟨hx, (parseNumber?_keeps_iff hx).mpr (.inr (.inl hfits))⟩

/-- The digit at the twenty-ninth place is lost. -/
theorem parseNumber?_drops_place :
    IsFixedPoint (1 / 10 ^ 29) (Text.trim "0.00000000000000000000000000001").toList ∧
      parseNumber? "0.00000000000000000000000000001" =
        some (.number "0.0000000000000000000000000000") ∧
      ¬ ∃ l, parseNumber? "0.00000000000000000000000000001" = some l ∧
        l.value? = some (.number (1 / 10 ^ 29)) := by
  have htext : (Text.trim "0.00000000000000000000000000001").toList =
      "0".toList ++ '.' :: "00000000000000000000000000001".toList := by decide +kernel
  have hdigits : IsDigits ("0".toList ++ "00000000000000000000000000001".toList) :=
    ⟨by decide, List.all_eq_true.mp (by decide +kernel)⟩
  have hvalue : digitsValue 0 ("0".toList ++ "00000000000000000000000000001".toList) = 1 := by
    decide +kernel
  have hplaces : "00000000000000000000000000001".toList.length = 29 := rfl
  have hparse : parseNumber? "0.00000000000000000000000000001" =
      some (.number "0.0000000000000000000000000000") := by decide +kernel
  have hzero : (number "0.0000000000000000000000000000").value? = some (.number 0) := by
    decide +kernel
  refine ⟨?_, hparse, ?_⟩
  · rw [htext]
    refine .unsigned (.of_pointed hdigits ?_)
    rw [hvalue, hplaces, Nat.cast_one]
  · rintro ⟨l, hl, hlvalue⟩
    rw [hparse] at hl
    cases hl
    rw [hzero] at hlvalue
    norm_num at hlvalue

end Literal

end GridQuery.Sql
