import GridQuery.Proofs.DataLake.FeatureIndex
import GridQuery.Proofs.Number.Whole
import GridQuery.Proofs.Sql.NumeralValue

/-!
The mileages of the data lake: which values stand for a whole number of 64 bits, as numbers or as
text, and that the last mileage of each key is kept.
-/

namespace GridQuery

open GridQuery.Number GridQuery.Sql

/-- Digits, perhaps with a sign, and the integer that they denote. -/
inductive IsWholeText : List Char → Int → Prop where
  | plain {ds : List Char} (h : IsDigits ds) : IsWholeText ds (placeValue ds)
  | plus {ds : List Char} (h : IsDigits ds) : IsWholeText ('+' :: ds) (placeValue ds)
  | minus {ds : List Char} (h : IsDigits ds) : IsWholeText ('-' :: ds) (-(placeValue ds : Int))

theorem readDigits?_eq_some_iff {ds : List Char} {n : Nat} :
    readDigits? ds = some n ↔ IsDigits ds ∧ placeValue ds = n := by
  rw [readDigits?, Option.ite_none_right_eq_some, Option.some_inj, List.all_eq_true,
    digitsValue_eq_placeValue]
  rfl

theorem splitSign_cases (cs : List Char) :
    (∃ r, cs = '-' :: r ∧ splitSign cs = (true, r)) ∨
      (∃ r, cs = '+' :: r ∧ splitSign cs = (false, r)) ∨ splitSign cs = (false, cs) := by
  unfold splitSign
  split
  · exact .inl ⟨_, rfl, rfl⟩
  · exact .inr (.inl ⟨_, rfl, rfl⟩)
  · exact .inr (.inr rfl)

theorem readInt?_of_split {cs r : List Char} {negative : Bool} {i : Int}
    (hs : splitSign cs = (negative, r)) :
    readInt? cs = some i ↔ IsDigits r ∧ signedNat negative (placeValue r) = i := by
  have hmap : readInt? cs = (readDigits? r).map (signedNat negative) := by
    rw [readInt?, hs]
    cases h : readDigits? r with
    | none => simp [h]
    | some n => simp [h, signedNat]
  rw [hmap, Option.map_eq_some_iff]
  constructor
  · intro h
    obtain ⟨n, hn, hi⟩ := h
    obtain ⟨hd, rfl⟩ := readDigits?_eq_some_iff.mp hn
    exact ⟨hd, hi⟩
  · intro h
    exact ⟨_, readDigits?_eq_some_iff.mpr ⟨h.1, rfl⟩, h.2⟩

theorem readInt?_eq_some_iff {cs : List Char} {i : Int} :
    readInt? cs = some i ↔ IsWholeText cs i := by
  constructor
  · intro h
    rcases splitSign_cases cs with ⟨r, rfl, hs⟩ | ⟨r, rfl, hs⟩ | hs
    · obtain ⟨hd, rfl⟩ := (readInt?_of_split hs).mp h
      exact .minus hd
    · obtain ⟨hd, rfl⟩ := (readInt?_of_split hs).mp h
      exact .plus hd
    · obtain ⟨hd, rfl⟩ := (readInt?_of_split hs).mp h
      exact .plain hd
  · intro h
    cases h with
    | plain hd =>
      have hs := splitSign_of_stops (@IsDigits.stops_isSignChar _ [] hd)
      rw [List.append_nil] at hs
      exact (readInt?_of_split hs).mpr ⟨hd, rfl⟩
    | plus hd => exact (readInt?_of_split rfl).mpr ⟨hd, rfl⟩
    | minus hd => exact (readInt?_of_split rfl).mpr ⟨hd, rfl⟩

/-- An integer of 64 bits, the sign among them. -/
def IsInt64 (i : Int) : Prop :=
  -2 ^ 63 ≤ i ∧ i ≤ 2 ^ 63 - 1

theorem isSigned_iff {i : Int} : isSigned 64 i = true ↔ IsInt64 i := by
  have htwo : twoTo (64 - 1) = 2 ^ 63 := rfl
  rw [isSigned, IsInt64, Bool.and_eq_true, decide_eq_true_eq, decide_eq_true_eq, htwo]
  omega

theorem readSigned?_eq_some_iff {s : String} {i : Int} :
    readSigned? 64 s = some i ↔ IsWholeText s.toList i ∧ IsInt64 i := by
  rw [readSigned?, Option.filter_eq_some_iff, readInt?_eq_some_iff, isSigned_iff]

/-- The number that it stands for. -/
def JsonNumber.value : JsonNumber → ℚ
  | natural n _ => n
  | negative n _ => -(n : ℚ)
  | float x => x.value

/-- The value stands for this mileage. -/
inductive IsMileage : Json → Int → Prop where
  | number {n : JsonNumber} {m : Int} (hvalue : n.value = m) (hm : IsInt64 m) :
    IsMileage (.number n) m
  | text {s : String} {m : Int} (hdigits : IsWholeText (Text.trim s).toList m) (hm : IsInt64 m) :
    IsMileage (.text s) m

namespace Movement

variable {m : Int} {n : Nat} {x : Finite64}

/-- The bounds in floating point; the upper one is rounded to the first integer that is too
large. -/
theorem bounds_finite :
    ∃ least bound : Finite64, Binary64.ofInt (leastSigned 64) = .finite least ∧
      Binary64.ofInt (greatestSigned 64) = .finite bound ∧
        least.value = -2 ^ 63 ∧ bound.value = 2 ^ 63 := by
  refine ⟨⟨true, twoTo 52, 11, by decide +kernel⟩, ⟨false, twoTo 52, 11, by decide +kernel⟩,
    by decide +kernel, by decide +kernel, ?_, ?_⟩
  · norm_num [Finite64.value, Finite64.magnitude, signed, twoTo]
  · norm_num [Finite64.value, Finite64.magnitude, signed, twoTo]

theorem wholeNumber?_eq_some_iff :
    wholeNumber? (.finite x) = some m ↔ x.value = m ∧ IsInt64 m := by
  obtain ⟨least, bound, hleast, hbound, hlow, hhigh⟩ := bounds_finite
  rw [wholeNumber?, hleast, hbound, Option.ite_none_right_eq_some, Bool.and_eq_true,
    Bool.and_eq_true, Binary64.isWhole_finite, Binary64.ge_finite, Binary64.lt_finite, hlow, hhigh,
    Option.some_inj]
  have hto {i : Int} (hi : x.value = i) (hi64 : IsInt64 i) :
      (Binary64.finite x).toSigned 64 = i := by
    have hleast : leastSigned 64 = -2 ^ 63 := rfl
    have hgreatest : greatestSigned 64 = 2 ^ 63 - 1 := rfl
    exact Binary64.toSigned_finite hi (hleast ▸ hi64.1) (hgreatest ▸ hi64.2)
  constructor
  · intro h
    obtain ⟨⟨⟨⟨i, hi⟩, hge⟩, hlt⟩, hm⟩ := h
    rw [hi] at hge hlt
    have hge' : -2 ^ 63 ≤ i := by exact_mod_cast hge
    have hlt' : i < 2 ^ 63 := by exact_mod_cast hlt
    have hi64 : IsInt64 i := ⟨hge', by omega⟩
    rw [hto hi hi64] at hm
    subst hm
    exact ⟨hi, hi64⟩
  · intro h
    obtain ⟨hi, hi64⟩ := h
    obtain ⟨hge, hle⟩ := hi64
    refine ⟨⟨⟨⟨m, hi⟩, ?_⟩, ?_⟩, hto hi ⟨hge, hle⟩⟩
    · rw [hi]
      exact_mod_cast hge
    · have hlt : m < 2 ^ 63 := by omega
      rw [hi]
      exact_mod_cast hlt

/-- An integer that does not fit is not rounded to one that does. -/
theorem wholeNumber?_ofNat (hn : 2 ^ 63 ≤ n) : wholeNumber? (.ofNat n) = none := by
  obtain ⟨least, bound, hleast, hbound, -, hhigh⟩ := bounds_finite
  cases h : Binary64.ofNat n with
  | nan => rfl
  | infinite s => rfl
  | finite x =>
    have hnegative := (Binary64.dist_of_ofRatio Nat.one_pos h).1
    have hvalue : x.value = x.magnitude := by
      rw [Finite64.value, hnegative, signed, if_neg Bool.false_ne_true]
    have hmagnitude := Binary64.two_pow_le_magnitude hn h
    have hnot : ¬ (Binary64.finite x).lt (.finite bound) = true := by
      rw [Binary64.lt_finite, hvalue, hhigh]
      exact not_lt.mpr hmagnitude
    rw [wholeNumber?, hbound, if_neg (by simp [hnot])]

theorem mileage?_eq_some_iff {v : Json} : mileage? v = some m ↔ IsMileage v m := by
  have hnumber (n : JsonNumber) : n.toInt64?.or (wholeNumber? n.toBinary64) = some m ↔
      n.value = m ∧ IsInt64 m := by
    cases n with
    | natural n hn =>
      rw [JsonNumber.toInt64?, JsonNumber.value]
      have htwo : twoTo 63 = 2 ^ 63 := rfl
      by_cases hfits : n < 2 ^ 63
      · rw [if_pos (htwo ▸ hfits), Option.some_or, Option.some_inj]
        constructor
        · intro h
          subst h
          exact ⟨by push_cast; rfl, by unfold IsInt64; omega⟩
        · intro h
          exact_mod_cast h.1
      · rw [if_neg (htwo ▸ hfits), Option.none_or, JsonNumber.toBinary64,
          wholeNumber?_ofNat (Nat.le_of_not_lt hfits)]
        refine iff_of_false (Option.some_ne_none m).symm ?_
        intro h
        have hm : (n : ℤ) = m := by exact_mod_cast h.1
        have hhigh := h.2.2
        omega
    | negative n hn =>
      rw [JsonNumber.toInt64?, JsonNumber.value, Option.some_or, Option.some_inj]
      constructor
      · intro h
        subst h
        have htwo : twoTo 63 = 2 ^ 63 := rfl
        exact ⟨by push_cast; rfl, by unfold IsInt64; omega⟩
      · intro h
        exact_mod_cast h.1
    | float x => exact wholeNumber?_eq_some_iff
  constructor
  · intro h
    cases v with
    | number n =>
      obtain ⟨hvalue, hm⟩ := (hnumber n).mp h
      exact .number hvalue hm
    | text s =>
      obtain ⟨hdigits, hm⟩ := readSigned?_eq_some_iff.mp h
      exact .text hdigits hm
    | null => cases h
    | bool b => cases h
    | array items => cases h
    | object members => cases h
  · intro h
    cases h with
    | number hvalue hm => exact (hnumber _).mpr ⟨hvalue, hm⟩
    | text hdigits hm => exact readSigned?_eq_some_iff.mpr ⟨hdigits, hm⟩

end Movement

namespace Row

/-- The row says that the key has come to this mileage. -/
def Records (r : Row) (k : String) (m : Int) : Prop :=
  r.HasKey "key" k ∧ ∃ v, r.get? "mileage" = some v ∧ IsMileage v m

end Row

namespace Movement

variable {rows : List Row} {r : Row} {e : Movement} {k : String} {m : Int}

theorem ofRow?_eq_some_iff : ofRow? r = some e ↔ r.Records e.key e.mileage := by
  simp only [ofRow?, Option.bind_eq_some_iff, Option.map_eq_some_iff, keyText?_eq_some_iff,
    mileage?_eq_some_iff]
  constructor
  · intro h
    obtain ⟨v, hv, key, hkey, w, hw, m, hm, rfl⟩ := h
    exact ⟨⟨v, hv, hkey⟩, w, hw, hm⟩
  · intro h
    obtain ⟨⟨v, hv, hkey⟩, w, hw, hm⟩ := h
    exact ⟨v, hv, e.key, hkey, w, hw, e.mileage, hm, rfl⟩

theorem records_iff (h : ofRow? r = some e) : r.Records k m ↔ e = ⟨k, m⟩ := by
  rw [← Option.some_inj, ← h]
  exact (@ofRow?_eq_some_iff r ⟨k, m⟩).symm

theorem not_records (h : ofRow? r = none) : ¬ r.Records k m := by
  intro hr
  have hsome := (@ofRow?_eq_some_iff r ⟨k, m⟩).mpr hr
  rw [h] at hsome
  cases hsome

/-- The last row that records a mileage of the key records this one. -/
def Latest (rows : List Row) (k : String) (m : Int) : Prop :=
  ∃ before r after, rows = before ++ r :: after ∧ r.Records k m ∧
    ∀ r' ∈ after, ∀ m', ¬ r'.Records k m'

theorem latest_concat :
    Latest (rows ++ [r]) k m ↔
      r.Records k m ∨ (∀ m', ¬ r.Records k m') ∧ Latest rows k m := by
  constructor
  · intro h
    obtain ⟨before, r', after, hrows, hr', hafter⟩ := h
    rcases List.eq_nil_or_concat after with rfl | ⟨after, last, rfl⟩
    · obtain ⟨-, hlast⟩ := List.append_inj' hrows rfl
      cases hlast
      exact .inl hr'
    · rw [List.concat_eq_append] at hrows hafter
      rw [← List.cons_append, ← List.append_assoc] at hrows
      obtain ⟨hrest, hlast⟩ := List.append_inj' hrows rfl
      cases hlast
      refine .inr ⟨hafter _ (by simp), before, r', after, hrest, hr', ?_⟩
      intro r'' hr''
      exact hafter r'' (List.mem_append_left _ hr'')
  · intro h
    rcases h with hr | ⟨hnone, before, r', after, rfl, hr', hafter⟩
    · exact ⟨rows, r, [], rfl, hr, by simp⟩
    · refine ⟨before, r', after ++ [r], by simp, hr', ?_⟩
      intro r'' hr''
      rcases List.mem_append.mp hr'' with hr'' | hr''
      · exact hafter r'' hr''
      · rw [List.mem_singleton.mp hr'']
        exact hnone

end Movement

namespace DataLake

variable {rows : List Row} {r : Row} {e : Movement} {k : String} {m : Int}

theorem movementIndex_of_none (h : Movement.ofRow? r = none) :
    movementIndex (rows ++ [r]) = movementIndex rows := by
  rw [movementIndex, List.filterMap_append, List.filterMap_cons_none h, List.filterMap_nil,
    List.append_nil]
  rfl

theorem movementIndex_of_some (h : Movement.ofRow? r = some e) :
    movementIndex (rows ++ [r]) = OrderedMap.put e.key e.mileage (movementIndex rows) := by
  rw [movementIndex, List.filterMap_append, List.filterMap_cons_some h, List.filterMap_nil,
    Movement.index, List.foldl_append]
  rfl

theorem get?_movementIndex :
    OrderedMap.get? k (movementIndex rows) = some m ↔ Movement.Latest rows k m := by
  induction rows using List.reverseRecOn with
  | nil =>
    refine iff_of_false (Option.some_ne_none m).symm ?_
    intro h
    obtain ⟨before, r, after, hrows, -⟩ := h
    simp at hrows
  | append_singleton rows r ih =>
    rw [Movement.latest_concat]
    cases hr : Movement.ofRow? r with
    | none =>
      rw [movementIndex_of_none hr, ih, or_iff_right (Movement.not_records hr)]
      exact (and_iff_right fun m' => Movement.not_records hr).symm
    | some e =>
      rw [movementIndex_of_some hr]
      by_cases hk : e.key = k
      · subst hk
        have hown : r.Records e.key e.mileage := Movement.ofRow?_eq_some_iff.mp hr
        rw [OrderedMap.get?_put_self, or_iff_left fun h => h.1 _ hown, Movement.records_iff hr,
          Option.some_inj]
        constructor
        · rintro rfl
          rfl
        · intro he
          exact congrArg Movement.mileage he
      · have hnot : ∀ m', ¬ r.Records k m' := by
          intro m' h
          exact hk (congrArg Movement.key ((Movement.records_iff hr).mp h))
        rw [OrderedMap.get?_put_of_ne hk, ih, or_iff_right (hnot m), and_iff_right hnot]

theorem mem_keys_movementIndex :
    k ∈ (movementIndex rows).map Prod.fst ↔ ∃ r ∈ rows, ∃ m, r.Records k m := by
  rw [movementIndex, Movement.index, OrderedMap.mem_keys_foldl]
  constructor
  · intro h
    obtain ⟨e, he, rfl⟩ := h
    obtain ⟨r, hr, hof⟩ := List.mem_filterMap.mp he
    exact ⟨r, hr, e.mileage, Movement.ofRow?_eq_some_iff.mp hof⟩
  · intro h
    obtain ⟨r, hr, m, hm⟩ := h
    exact ⟨⟨k, m⟩, List.mem_filterMap.mpr ⟨r, hr, Movement.ofRow?_eq_some_iff.mpr hm⟩, rfl⟩

end DataLake

namespace Movement

/-- The index holds the latest mileages of the rows and nothing else. -/
structure Kept (rows : List Row) (index : List (String × Int)) : Prop where
  distinct : (index.map Prod.fst).Nodup
  keys : ∀ k, k ∈ index.map Prod.fst ↔ ∃ r ∈ rows, ∃ m, r.Records k m
  latest : ∀ k m, OrderedMap.get? k index = some m ↔ Latest rows k m

/-- A mileage is exact in a row, and a run that has succeeded leaves the latest ones of its rows. -/
theorem kept_of_refresh :
    (∀ (r : Row) (e : Movement), ofRow? r = some e ↔ r.Records e.key e.mileage) ∧
      ∀ (l l' : DataLake) (s : Settings) (dialect : Dialect) (today : Date) (es : List Event),
        (l.refresh s dialect today .movements).Plays es (l', true) →
          ∃ sql rows, es = [.sent sql (.ok rows)] ∧ Kept rows l'.movements.current := by
  refine ⟨fun r e => ofRow?_eq_some_iff, ?_⟩
  intro l l' s dialect today es h
  cases DataLake.plays_refresh_iff.mp h with
  | @loaded sql hquery rows =>
    refine ⟨sql, rows, rfl, ?distinct, ?keys, ?latest⟩
    case distinct => exact OrderedMap.nodup_keys_foldl _
    case keys => exact fun k => DataLake.mem_keys_movementIndex
    case latest => exact fun k m => DataLake.get?_movementIndex

/-- Mileages at the bounds, one of them under a key that is written in two ways, and some that are
too large, have a fraction, or are no numbers. -/
def trips : List Row :=
  [[("key", .text "T1"), ("mileage", .ofNat 9223372036854775807)],
    [("key", .ofNat 7), ("mileage", .ofBinary64 (.ofNat 99))],
    [("key", .text "7"), ("mileage", .text " -9223372036854775808 ")],
    [("key", .text "T1"), ("mileage", .ofNat 9223372036854775808)],
    [("key", .text "T1"), ("mileage", .ofBinary64 (.ofNat 9223372036854775808))],
    [("key", .text "T2"), ("mileage", .ofBinary64 (.ofRatio false 199 2))],
    [("key", .text "T2"), ("mileage", .text "12.5")]]

theorem kept_of_refresh_trips :
    ∃ l, (DataLake.empty.refresh nightly .mysql tenthOfJanuary .movements).Plays
        [.sent "SELECT * FROM movements" (.ok trips)] (l, true) ∧
      l.movements.current =
        [("T1", 9223372036854775807), ("7", -9223372036854775808)] ∧
        Kept trips l.movements.current := by
  have hplays : (DataLake.empty.refresh nightly .mysql tenthOfJanuary .movements).Plays
      [.sent "SELECT * FROM movements" (.ok trips)]
      (DataLake.empty.load nightly .movements trips, true) :=
    DataLake.plays_refresh_iff.mpr (.loaded rfl trips)
  obtain ⟨_, _, hes, hkept⟩ := kept_of_refresh.2 _ _ _ _ _ _ hplays
  cases hes
  exact ⟨_, hplays, by decide +kernel, hkept⟩

end Movement

end GridQuery
