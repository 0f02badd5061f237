import GridQuery.Number.Numeral
import Mathlib.Data.List.Basic

/-!
Numerals of SQL text: an optional sign, digits, an optional fraction and an optional exponent. The
scanner takes a whole numeral off whatever text it stands before, as long as that text cannot
continue it.
-/

namespace GridQuery.Sql

open GridQuery.Number

/-- The text is over, or its first character is not of the kind `p`. -/
def Stops (p : Char → Bool) (cs : List Char) : Prop :=
  ∀ c ∈ cs.head?, p c = false

@[simp] theorem stops_nil (p : Char → Bool) : Stops p [] := by
  simp [Stops]

@[simp] theorem stops_cons (p : Char → Bool) (c : Char) (cs : List Char) :
    Stops p (c :: cs) ↔ p c = false := by
  simp [Stops]

theorem Stops.mono {p q : Char → Bool} {cs : List Char} (h : Stops q cs)
    (hpq : ∀ c, p c = true → q c = true) : Stops p cs := by
  intro c hc
  cases hp : p c with
  | false => rfl
  | true => exact absurd (hpq c hp) (by simp [h c hc])

theorem takeWhile_append_stops {p : Char → Bool} {w rest : List Char}
    (hw : ∀ c ∈ w, p c = true) (h : Stops p rest) : (w ++ rest).takeWhile p = w := by
  rw [List.takeWhile_append_of_pos hw]
  cases rest with
  | nil => simp
  | cons c r => rw [List.takeWhile_cons_of_neg (by simpa using h), List.append_nil]

theorem dropWhile_append_stops {p : Char → Bool} {w rest : List Char}
    (hw : ∀ c ∈ w, p c = true) (h : Stops p rest) : (w ++ rest).dropWhile p = rest := by
  rw [List.dropWhile_append_of_pos hw]
  cases rest with
  | nil => rfl
  | cons c r => exact List.dropWhile_cons_of_neg (by simpa using h)

/-- One or more digits. -/
def IsDigits (cs : List Char) : Prop :=
  cs ≠ [] ∧ ∀ c ∈ cs, isDigit c = true

theorem spanDigits_append {ds rest : List Char} (hd : IsDigits ds) (h : Stops isDigit rest) :
    spanDigits (ds ++ rest) = (ds, rest) :=
  Prod.ext (takeWhile_append_stops hd.2 h) (dropWhile_append_stops hd.2 h)

/-- The digits taken off and the rest make up the text. -/
theorem spanDigits_eq (cs : List Char) : (spanDigits cs).1 ++ (spanDigits cs).2 = cs :=
  List.takeWhile_append_dropWhile

inductive IsSign : List Char → Prop
  | absent : IsSign []
  | minus : IsSign ['-']
  | plus : IsSign ['+']

inductive IsFraction : List Char → Prop
  | absent : IsFraction []
  | places {ds : List Char} : IsDigits ds → IsFraction ('.' :: ds)

def isExponentMark (c : Char) : Bool :=
  c == 'e' || c == 'E'

inductive IsExponent : List Char → Prop
  | absent : IsExponent []
  | power {mark : Char} {sign ds : List Char} : isExponentMark mark = true → IsSign sign →
      IsDigits ds → IsExponent (mark :: (sign ++ ds))

inductive IsMagnitude : List Char → Prop
  | mk {whole fraction exponent : List Char} : IsDigits whole → IsFraction fraction →
      IsExponent exponent → IsMagnitude (whole ++ (fraction ++ exponent))

inductive IsNumeral : List Char → Prop
  | mk {sign magnitude : List Char} : IsSign sign → IsMagnitude magnitude →
      IsNumeral (sign ++ magnitude)

/-- A sign, if there is one, and what follows it; the other scanners give parts in the same way. -/
def scanSign : List Char → List Char × List Char
  | '-' :: r => (['-'], r)
  | '+' :: r => (['+'], r)
  | r => ([], r)

/-- A point and the digits behind it; nothing, if there are none. -/
def scanFraction : List Char → List Char × List Char
  | '.' :: r =>
    match spanDigits r with
    | ([], _) => ([], '.' :: r)
    | (ds, rest) => ('.' :: ds, rest)
  | r => ([], r)

/-- A mark, perhaps a sign, and digits; nothing, if there are none. -/
def scanExponent : List Char → List Char × List Char
  | [] => ([], [])
  | c :: r =>
    if isExponentMark c then
      match scanSign r with
      | (sign, r') =>
        match spanDigits r' with
        | ([], _) => ([], c :: r)
        | (ds, rest) => (c :: (sign ++ ds), rest)
    else ([], c :: r)

/-- The longest numeral in front, and what follows it. -/
def scanNumeral (cs : List Char) : Option (List Char × List Char) :=
  match scanSign cs with
  | (sign, r) =>
    match spanDigits r with
    | ([], _) => none
    | (whole, r) =>
      match scanFraction r with
      | (fraction, r) =>
        match scanExponent r with
        | (exponent, rest) => some (sign ++ (whole ++ (fraction ++ exponent)), rest)

/-- What may stand behind a numeral without being read as more of it. -/
def continuesNumeral (c : Char) : Bool :=
  isDigit c || c == '.' || isExponentMark c

theorem scanSign_eq (cs : List Char) : (scanSign cs).1 ++ (scanSign cs).2 = cs := by
  unfold scanSign
  split <;> rfl

theorem scanFraction_eq (cs : List Char) : (scanFraction cs).1 ++ (scanFraction cs).2 = cs := by
  unfold scanFraction
  split
  · next r =>
    split
    · rfl
    · next ds rest _ heq =>
      have hr := spanDigits_eq r
      rw [heq] at hr
      exact congrArg ('.' :: ·) hr
  · rfl

theorem scanExponent_eq (cs : List Char) : (scanExponent cs).1 ++ (scanExponent cs).2 = cs := by
  unfold scanExponent
  split
  · rfl
  · next c r =>
    split
    · split
      next sign r' hsign =>
      have hs := scanSign_eq r
      rw [hsign] at hs
      split
      · rfl
      · next ds rest _ hspan =>
        have hd := spanDigits_eq r'
        rw [hspan] at hd
        simp only [List.cons_append, List.append_assoc]
        rw [hd, hs]
    · rfl

theorem scanNumeral_eq {cs w rest : List Char} (h : scanNumeral cs = some (w, rest)) :
    w ++ rest = cs ∧ w ≠ [] := by
  unfold scanNumeral at h
  have hs := scanSign_eq cs
  have hd := spanDigits_eq (scanSign cs).2
  have hf := scanFraction_eq (spanDigits (scanSign cs).2).2
  have he := scanExponent_eq (scanFraction (spanDigits (scanSign cs).2).2).2
  simp only at h
  split at h
  · cases h
  · next whole r hne heq =>
    rw [heq] at hd hf he
    simp only at hd hf he h
    cases h
    refine ⟨?_, ?_⟩
    · simp only [List.append_assoc]
      rw [he, hf, hd, hs]
    · have hw : whole ≠ [] := by rintro rfl; exact hne rfl
      simp [hw]

theorem IsDigits.scanSign {ds rest : List Char} (h : IsDigits ds) :
    scanSign (ds ++ rest) = ([], ds ++ rest) := by
  obtain ⟨c, r, rfl⟩ := List.exists_cons_of_ne_nil h.1
  have hc : isDigit c = true := h.2 c (by simp)
  unfold Sql.scanSign
  split
  · next heq => simp_all [isDigit]
  · next heq => simp_all [isDigit]
  · rfl

theorem scanSign_append {sign ds rest : List Char} (hs : IsSign sign) (hd : IsDigits ds) :
    scanSign (sign ++ (ds ++ rest)) = (sign, ds ++ rest) := by
  cases hs with
  | absent => exact hd.scanSign
  | minus => rfl
  | plus => rfl

/-- What stands behind digits ends them. -/
theorem IsFraction.stops {fraction rest : List Char} (hf : IsFraction fraction)
    (h : Stops isDigit rest) : Stops isDigit (fraction ++ rest) := by
  cases hf with
  | absent => exact h
  | places hd => simp [isDigit]

theorem IsExponent.stops {exponent rest : List Char} {p : Char → Bool} (he : IsExponent exponent)
    (hp : ∀ c, isExponentMark c = true → p c = false) (h : Stops p rest) :
    Stops p (exponent ++ rest) := by
  cases he with
  | absent => exact h
  | power hm hs hd => simpa using hp _ hm

theorem scanFraction_append {fraction rest : List Char} (hf : IsFraction fraction)
    (hd : Stops isDigit rest) (hp : Stops (· == '.') rest) :
    scanFraction (fraction ++ rest) = (fraction, rest) := by
  cases hf with
  | absent =>
    rw [List.nil_append]
    unfold scanFraction
    split
    · simp at hp
    · rfl
  | places hds =>
    simp only [List.cons_append, scanFraction]
    rw [spanDigits_append hds hd]
    split
    · next heq => exact absurd (congrArg Prod.fst heq) hds.1
    · next heq => cases heq; rfl

theorem scanExponent_append {exponent rest : List Char} (he : IsExponent exponent)
    (hd : Stops isDigit rest) (hm : Stops isExponentMark rest) :
    scanExponent (exponent ++ rest) = (exponent, rest) := by
  cases he with
  | absent =>
    cases rest with
    | nil => rfl
    | cons c r => simp [scanExponent, (stops_cons _ _ _).mp hm]
  | power hmark hs hds =>
    simp only [List.cons_append, scanExponent, hmark, if_true, List.append_assoc]
    rw [scanSign_append hs hds, spanDigits_append hds hd]
    split
    · next heq => exact absurd (congrArg Prod.fst heq) hds.1
    · next heq => cases heq; rfl

theorem isDigit_of_isExponentMark {c : Char} (h : isExponentMark c = true) :
    isDigit c = false ∧ (c == '.') = false := by
  simp only [isExponentMark, Bool.or_eq_true, beq_iff_eq] at h
  rcases h with rfl | rfl <;> decide

theorem scanNumeral_append {w rest : List Char} (hw : IsNumeral w)
    (h : Stops continuesNumeral rest) : scanNumeral (w ++ rest) = some (w, rest) := by
  have hd : Stops isDigit rest := h.mono fun c hc => by simp [continuesNumeral, hc]
  have hp : Stops (· == '.') rest := h.mono fun c hc => by simp [continuesNumeral, hc]
  have hm : Stops isExponentMark rest := h.mono fun c hc => by simp [continuesNumeral, hc]
  obtain ⟨hs, hwhole, hf, he⟩ := hw
  have hed := he.stops (fun _ hc => (isDigit_of_isExponentMark hc).1) hd
  have hep := he.stops (fun _ hc => (isDigit_of_isExponentMark hc).2) hp
  simp only [List.append_assoc, scanNumeral]
  rw [scanSign_append hs hwhole, spanDigits_append hwhole (hf.stops hed)]
  split
  · next heq => exact absurd (congrArg Prod.fst heq) hwhole.1
  · next heq =>
    cases heq
    rw [scanFraction_append hf hed hep, scanExponent_append he hd hm]

end GridQuery.Sql
