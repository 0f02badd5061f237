import GridQuery.Proofs.Sql.Numeral
import GridQuery.Sql.Literal

/-!
The text of every number is a numeral, however the number came about: a whole number, a fixed-point
decimal with all its places, or a floating-point value in any layout.
-/

namespace GridQuery.Sql

open GridQuery.Number

theorem IsDigits.append {ds es : List Char} (hd : IsDigits ds) (he : ∀ c ∈ es, isDigit c = true) :
    IsDigits (ds ++ es) := by
  refine ⟨by simp [hd.1], ?_⟩
  intro c hc
  rcases List.mem_append.mp hc with hc | hc
  · exact hd.2 c hc
  · exact he c hc

theorem IsDigits.take {ds : List Char} (hd : IsDigits ds) {n : Nat} (hn : 0 < n) :
    IsDigits (ds.take n) := by
  refine ⟨?_, fun c hc => hd.2 c (List.mem_of_mem_take hc)⟩
  simp only [ne_eq, List.take_eq_nil_iff, not_or]
  exact ⟨Nat.pos_iff_ne_zero.mp hn, hd.1⟩

theorem IsDigits.drop {ds : List Char} (hd : IsDigits ds) {n : Nat} (hn : n < ds.length) :
    IsDigits (ds.drop n) :=
  ⟨by simpa using hn, fun c hc => hd.2 c (List.mem_of_mem_drop hc)⟩

theorem isDigit_of_mem_zeros {n : Nat} {c : Char} (hc : c ∈ List.replicate n '0') :
    isDigit c = true := by
  rw [(List.mem_replicate.mp hc).2]
  decide

theorem IsDigits.zeros_append {ds : List Char} (hd : IsDigits ds) (n : Nat) :
    IsDigits (List.replicate n '0' ++ ds) := by
  refine ⟨by simp [hd.1], ?_⟩
  intro c hc
  rcases List.mem_append.mp hc with hc | hc
  · exact isDigit_of_mem_zeros hc
  · exact hd.2 c hc

theorem isDigits_digits (n : Nat) : IsDigits (digits n) := by
  refine ⟨Nat.toDigits_ne_nil, ?_⟩
  intro c hc
  have h := Nat.isDigit_of_mem_toDigits (by decide) (Nat.le_refl 10) hc
  simpa [isDigit, Char.isDigit, Char.le_def] using h

theorem IsNumeral.ofDigits {ds : List Char} (hd : IsDigits ds) : IsNumeral ds := by
  simpa using IsNumeral.mk .absent (.mk hd .absent .absent)

theorem isNumeral_natText (n : Nat) : IsNumeral (natText n).toList := by
  simpa [natText] using IsNumeral.ofDigits (isDigits_digits n)

theorem isNumeral_intText (i : Int) : IsNumeral (intText i).toList := by
  unfold intText
  split
  · simpa [natText] using
      IsNumeral.mk .minus (.mk (isDigits_digits i.natAbs) .absent .absent)
  · exact isNumeral_natText _

theorem isSign_ofNegative (b : Bool) : IsSign (if b then ['-'] else []) := by
  cases b with
  | false => exact .absent
  | true => exact .minus

theorem isNumeral_fixedText (x : Fixed96) : IsNumeral x.text.toList := by
  have hd : IsDigits (paddedDigits (x.scale + 1) x.mantissa) :=
    (isDigits_digits x.mantissa).zeros_append _
  have hlen : x.scale < (paddedDigits (x.scale + 1) x.mantissa).length := by
    simp only [paddedDigits, List.length_append, List.length_replicate]
    omega
  generalize hds : paddedDigits (x.scale + 1) x.mantissa = ds at hd hlen
  have hwhole : IsDigits (ds.take (ds.length - x.scale)) := hd.take (by omega)
  have hfraction :
      IsFraction (if x.scale = 0 then [] else '.' :: ds.drop (ds.length - x.scale)) := by
    split
    · exact .absent
    · exact .places (hd.drop (by omega))
  simpa [Fixed96.text, hds] using
    IsNumeral.mk (isSign_ofNegative x.negative) (.mk hwhole hfraction .absent)

theorem isDigits_zero : IsDigits ['0'] := by
  refine ⟨List.cons_ne_nil _ _, ?_⟩
  intro c hc
  rw [List.mem_singleton.mp hc]
  decide

theorem isMagnitude_plain (l : Layout) {ds : List Char} (hd : IsDigits ds) (exponent : Int) :
    IsMagnitude (l.plain ds exponent) := by
  unfold Layout.plain
  split
  · have hf : IsFraction (if l.pointZero then ['.', '0'] else []) := by
      split
      · exact .places isDigits_zero
      · exact .absent
    simpa using IsMagnitude.mk (hd.append fun c hc => isDigit_of_mem_zeros hc) hf .absent
  · simp only
    split
    · have hlt : ((ds.length : Int) + exponent).toNat < ds.length := by omega
      have hpos : 0 < ((ds.length : Int) + exponent).toNat := by omega
      simpa using IsMagnitude.mk (hd.take hpos) (.places (hd.drop hlt)) .absent
    · have hz := hd.zeros_append (-((ds.length : Int) + exponent)).toNat
      simpa using IsMagnitude.mk isDigits_zero (.places hz) .absent

theorem isMagnitude_scientific {ds : List Char} (hd : IsDigits ds) (lead : Int) :
    IsMagnitude (Layout.scientific ds lead) := by
  have hf : IsFraction (if ds.drop 1 = [] then [] else '.' :: ds.drop 1) := by
    split
    · exact .absent
    · next h => exact .places ⟨h, fun c hc => hd.2 c (List.mem_of_mem_drop hc)⟩
  have hs : IsSign [if lead < 0 then '-' else '+'] := by
    split
    · exact .minus
    · exact .plus
  have he : IsExponent ('e' :: ([if lead < 0 then '-' else '+'] ++ digits lead.natAbs)) :=
    .power (by decide) hs (isDigits_digits _)
  simpa [Layout.scientific] using IsMagnitude.mk (hd.take Nat.one_pos) hf he

theorem isNumeral_layout (l : Layout) (x : Finite64) : IsNumeral (l.finite x).toList := by
  have hm : IsMagnitude (if x.isZero then l.plain ['0'] 0 else l.decimal (x.shortest l.tie)) := by
    unfold Layout.decimal
    split
    · exact isMagnitude_plain l isDigits_zero 0
    · simp only
      split
      · exact isMagnitude_plain l (isDigits_digits _) _
      · exact isMagnitude_scientific (isDigits_digits _) _
  simpa [Layout.finite] using IsNumeral.mk (isSign_ofNegative x.negative) hm

theorem isNumeral_jsonText (n : JsonNumber) : IsNumeral n.text.toList := by
  cases n with
  | natural n _ => exact isNumeral_natText n
  | negative n _ =>
    simpa [JsonNumber.text, natText] using
      IsNumeral.mk .minus (.mk (isDigits_digits n) .absent .absent)
  | float x => exact isNumeral_layout _ x

/-- A number literal holds a numeral. -/
def Literal.IsWritten : Literal → Prop
  | .text _ => True
  | .number ds => IsNumeral ds.toList

theorem Literal.isWritten_ofJson (n : JsonNumber) : (Literal.ofJson n).IsWritten :=
  isNumeral_jsonText n

theorem Literal.isWritten_of_ofBinary64? {x : Binary64} {l : Literal}
    (h : Literal.ofBinary64? x = some l) : l.IsWritten := by
  cases x with
  | finite x =>
    cases h
    exact isNumeral_layout _ x
  | nan => cases h
  | infinite s => cases h

theorem Literal.isWritten_of_parseNumber? {s : String} {l : Literal}
    (h : Literal.parseNumber? s = some l) : l.IsWritten := by
  unfold Literal.parseNumber? at h
  simp only at h
  split at h
  · cases h
    exact isNumeral_intText _
  · split at h
    · cases h
      exact isNumeral_fixedText _
    · obtain ⟨x, _, hx⟩ := Option.bind_eq_some_iff.mp h
      exact Literal.isWritten_of_ofBinary64? hx

end GridQuery.Sql
