import GridQuery.Settings.Address
import GridQuery.Proofs.Number.Value
import GridQuery.Proofs.Sql.Literal
import Mathlib.Data.List.TakeWhile

/-! The texts of socket addresses, and that exactly these are read. -/

namespace GridQuery.SocketAddress

open GridQuery.Number GridQuery.Sql

variable {bound n limit : Nat} {cs ds rest text : List Char} {c : Char} {first mapped : Bool}
  {gs : List Nat}

theorem readChar_eq_some_iff : readChar c cs = some rest ↔ cs = c :: rest := by
  cases cs with
  | nil => simp [readChar]
  | cons d r =>
    rw [readChar, Option.ite_none_right_eq_some, Option.some_inj, List.cons_eq_cons, @eq_comm _ c]

theorem stops_dropWhile (p : Char → Bool) (cs : List Char) : Stops p (cs.dropWhile p) := by
  intro c hc
  have hhead := List.head?_dropWhile_not p cs
  rw [Option.mem_def.mp hc] at hhead
  exact hhead

theorem readNumber_eq_some_iff :
    readNumber bound cs = some (n, rest) ↔
      ∃ ds, (IsDigits ds ∧ placeValue ds = n ∧ n < bound) ∧ cs = ds ++ rest ∧
        Stops isDigit rest := by
  rw [readNumber, Option.ite_none_right_eq_some, digitsValue_eq_placeValue, Option.some_inj,
    Prod.mk.injEq]
  constructor
  · rintro ⟨⟨hne, hlt⟩, rfl, rfl⟩
    exact ⟨cs.takeWhile isDigit, ⟨⟨hne, fun c hc => List.mem_takeWhile_imp hc⟩, rfl, hlt⟩,
      List.takeWhile_append_dropWhile.symm, stops_dropWhile isDigit cs⟩
  · rintro ⟨ds, ⟨hd, rfl, hlt⟩, rfl, hstops⟩
    rw [takeWhile_append_stops hd.2 hstops, dropWhile_append_stops hd.2 hstops]
    exact ⟨⟨hd.1, hlt⟩, rfl, rfl⟩

theorem digits_digitValue (hc : isDigit c = true) : digits (digitValue c) = [c] := by
  have hcode := toNat_of_isDigit hc
  have hzero : ('0' : Char).toNat = 48 := rfl
  have hchar : (digitValue c).digitChar = c := by
    rw [← Char.toNat_inj, Nat.toNat_digitChar_of_lt_ten (digitValue_lt hc), digitValue, hzero]
    omega
  rw [digits, Nat.toDigits_of_lt_base (digitValue_lt hc), hchar]

/-- Digits without a needless zero in front are the digits of what they denote. -/
theorem digits_placeValue (hd : IsDigits ds) (hzero : ¬ (ds.head? = some '0' ∧ 1 < ds.length)) :
    digits (placeValue ds) = ds := by
  induction ds using List.reverseRecOn with
  | nil => exact absurd rfl hd.1
  | append_singleton r c ih =>
    have hc : isDigit c = true := hd.2 c (by simp)
    have hvalue : placeValue (r ++ [c]) = 10 * placeValue r + digitValue c := by
      rw [← digitsValue_eq_placeValue, ← digitsValue_eq_placeValue, digitsValue_append]
      rfl
    rw [hvalue]
    by_cases hr : r = []
    · subst hr
      exact (congrArg digits (Nat.zero_add _)).trans (digits_digitValue hc)
    · have hlength : 0 < r.length := List.length_pos_iff.mpr hr
      have hfirst : r.head? ≠ some '0' := by
        intro hhead
        refine hzero ⟨?_, by simpa using hlength⟩
        rw [List.head?_append, hhead]
        rfl
      have hdigits := ih ⟨hr, fun d hd' => hd.2 d (by simp [hd'])⟩ fun h => hfirst h.1
      have hpos : 0 < placeValue r := by
        rw [Nat.pos_iff_ne_zero]
        intro hvalue
        rw [hvalue] at hdigits
        exact hfirst (hdigits ▸ rfl)
      rw [digits, ← Nat.toDigits_append_toDigits (by decide) hpos (digitValue_lt hc)]
      exact congrArg₂ (· ++ ·) hdigits (digits_digitValue hc)

/-- An octet has the digits of its value, and no others. -/
theorem readOctet_eq_some_iff :
    readOctet cs = some (n, rest) ↔ n < 256 ∧ cs = digits n ++ rest ∧ Stops isDigit rest := by
  rw [readOctet, Option.ite_none_left_eq_some]
  constructor
  · rintro ⟨hshort, hread⟩
    obtain ⟨ds, ⟨hd, rfl, hlt⟩, rfl, hstops⟩ := readNumber_eq_some_iff.mp hread
    rw [takeWhile_append_stops hd.2 hstops, not_or] at hshort
    rw [digits_placeValue hd hshort.2]
    exact ⟨hlt, rfl, hstops⟩
  · rintro ⟨hlt, rfl, hstops⟩
    have hd := isDigits_digits n
    have hlead : ∀ m < 256, ¬ ((digits m).head? = some '0' ∧ 1 < (digits m).length) := by
      decide +kernel
    have hlength : (digits n).length ≤ 3 := (length_digits_le_iff (by decide)).mpr (by omega)
    rw [takeWhile_append_stops hd.2 hstops, not_or, not_lt]
    have hvalue : placeValue (digits n) = n := by
      rw [← digitsValue_eq_placeValue, digitsValue_digits]
    exact ⟨⟨hlength, hlead n hlt⟩,
      readNumber_eq_some_iff.mpr ⟨digits n, ⟨hd, hvalue, hlt⟩, rfl, hstops⟩⟩

/-- Four octets, each with its own digits only. -/
inductive IsV4 : List Char → List Nat → Prop where
  | mk {a b c d : Nat} (ha : a < 256) (hb : b < 256) (hc : c < 256) (hd : d < 256) :
    IsV4 (digits a ++ '.' :: digits b ++ '.' :: digits c ++ '.' :: digits d) [a, b, c, d]

theorem stops_point (r : List Char) : Stops isDigit ('.' :: r) :=
  (stops_cons _ _ _).mpr (by decide)

theorem readV4_eq_some_iff :
    readV4 cs = some (gs, rest) ↔
      ∃ text, IsV4 text gs ∧ cs = text ++ rest ∧ Stops isDigit rest := by
  unfold readV4
  simp only [Option.bind_eq_bind, Option.bind_eq_some_iff, Prod.exists, readOctet_eq_some_iff,
    readChar_eq_some_iff, Option.pure_def, Option.some_inj, Prod.mk.injEq]
  constructor
  · rintro ⟨a, _, ⟨ha, rfl, -⟩, _, rfl, b, _, ⟨hb, rfl, -⟩, _, rfl, c, _, ⟨hc, rfl, -⟩, _, rfl,
      d, _, ⟨hd, rfl, hstops⟩, rfl, rfl⟩
    exact ⟨_, .mk ha hb hc hd, by simp, hstops⟩
  · rintro ⟨text, ⟨ha, hb, hc, hd⟩, rfl, hstops⟩
    refine ⟨_, _, ⟨ha, ?_, stops_point _⟩, _, rfl, _, _, ⟨hb, rfl, stops_point _⟩, _, rfl, _, _,
      ⟨hc, rfl, stops_point _⟩, _, rfl, _, _, ⟨hd, rfl, hstops⟩, rfl, rfl⟩
    simp

def isHexDigit (c : Char) : Bool :=
  (hexDigitValue? c).isSome

/-- One to four hexadecimal digits. -/
structure IsGroup (text : List Char) (n : Nat) : Prop where
  nonempty : text ≠ []
  short : text.length ≤ 4
  hex : ∀ c ∈ text, isHexDigit c = true
  value : Nat.ofDigits 16 (text.reverse.map fun c => (hexDigitValue? c).getD 0) = n

theorem foldl_hexDigits (ds : List Char) :
    ds.foldl (fun n c => 16 * n + (hexDigitValue? c).getD 0) 0 =
      Nat.ofDigits 16 (ds.reverse.map fun c => (hexDigitValue? c).getD 0) := by
  induction ds using List.reverseRecOn with
  | nil => rfl
  | append_singleton r c ih =>
    rw [List.foldl_append, ih, List.reverse_append, List.reverse_singleton, List.singleton_append,
      List.map_cons, Nat.ofDigits_cons, Nat.add_comm]
    rfl

theorem readGroup_eq_some_iff :
    readGroup cs = some (n, rest) ↔
      ∃ text, IsGroup text n ∧ cs = text ++ rest ∧ Stops isHexDigit rest := by
  rw [readGroup, Option.ite_none_left_eq_some, Option.some_inj, Prod.mk.injEq, foldl_hexDigits,
    not_or, not_lt]
  constructor
  · rintro ⟨⟨hne, hshort⟩, hvalue, hrest⟩
    have hsplit : cs.takeWhile isHexDigit ++ cs.dropWhile isHexDigit = cs :=
      List.takeWhile_append_dropWhile
    have hdrop : (cs.takeWhile isHexDigit ++ cs.dropWhile isHexDigit).drop
        (cs.takeWhile isHexDigit).length = cs.dropWhile isHexDigit := List.drop_left
    rw [hsplit] at hdrop
    rw [← hrest]
    refine ⟨cs.takeWhile isHexDigit, ⟨hne, hshort, fun c hc => List.mem_takeWhile_imp hc, hvalue⟩,
      ?_, ?_⟩
    · exact hsplit.symm.trans (congrArg _ hdrop.symm)
    · exact hdrop ▸ stops_dropWhile isHexDigit cs
  · rintro ⟨text, ⟨hne, hshort, hhex, hvalue⟩, rfl, hstops⟩
    have htake : (text ++ rest).takeWhile (fun c => (hexDigitValue? c).isSome) = text :=
      takeWhile_append_stops hhex hstops
    rw [htake]
    exact ⟨⟨hne, hshort⟩, hvalue, List.drop_left⟩

/-- What stands before a group: a colon, except before the first one. -/
def separator (first : Bool) : List Char :=
  if first then [] else [':']

theorem readSeparator_eq_some_iff :
    readSeparator first cs = some rest ↔ cs = separator first ++ rest := by
  cases first with
  | true => exact Option.some_inj
  | false => exact readChar_eq_some_iff

/-- Groups with colons between them; an IPv4 address may stand for the last two. -/
inductive IsGroups : Bool → List Char → List Nat → Bool → Prop where
  | done {first : Bool} : IsGroups first [] [] false
  | mapped {first : Bool} {text : List Char} {a b c d : Nat} (h : IsV4 text [a, b, c, d]) :
    IsGroups first (separator first ++ text) [256 * a + b, 256 * c + d] true
  | group {first mapped : Bool} {text r : List Char} {g : Nat} {gs : List Nat}
    (hgroup : IsGroup text g) (h : IsGroups false r gs mapped) :
    IsGroups first (separator first ++ (text ++ r)) (g :: gs) mapped

theorem isGroups_of_readGroups (h : readGroups first limit cs = (gs, mapped, rest)) :
    (∃ text, IsGroups first text gs mapped ∧ cs = text ++ rest) ∧ gs.length ≤ limit := by
  induction limit generalizing first cs gs with
  | zero =>
    cases h
    exact ⟨⟨[], .done, rfl⟩, le_refl 0⟩
  | succ limit ih =>
    rw [readGroups] at h
    split at h
    · next a b c d r hv4 =>
      cases h
      rw [Option.ite_none_left_eq_some, Option.bind_eq_some_iff] at hv4
      obtain ⟨hlimit, r', hseparator, hread⟩ := hv4
      obtain ⟨text, htext, rfl, -⟩ := readV4_eq_some_iff.mp hread
      obtain rfl := readSeparator_eq_some_iff.mp hseparator
      refine ⟨⟨_, .mapped htext, (List.append_assoc _ _ _).symm⟩, ?_⟩
      have hpos := Nat.pos_of_ne_zero hlimit
      exact Nat.succ_le_succ hpos
    · split at h
      · next g r hgroup =>
        obtain ⟨r', hseparator, hread⟩ := Option.bind_eq_some_iff.mp hgroup
        obtain ⟨text, htext, rfl, -⟩ := readGroup_eq_some_iff.mp hread
        obtain rfl := readSeparator_eq_some_iff.mp hseparator
        cases hlater : readGroups false limit r with
        | mk gs' p =>
          obtain ⟨mapped', rest'⟩ := p
          rw [hlater] at h
          cases h
          obtain ⟨⟨texts, htexts, rfl⟩, hlength⟩ := ih hlater
          exact ⟨⟨_, .group htext htexts, by simp⟩, Nat.succ_le_succ hlength⟩
      · cases h
        exact ⟨⟨[], .done, rfl⟩, Nat.zero_le _⟩

/-- No group and no IPv4 address goes on like this. -/
def isGroupPart (c : Char) : Bool :=
  isHexDigit c || c == '.'

theorem isGroupPart_of_isHexDigit (h : isHexDigit c = true) : isGroupPart c = true := by
  rw [isGroupPart, h, Bool.true_or]

theorem isHexDigit_of_isDigit (h : isDigit c = true) : isHexDigit c = true := by
  rw [isHexDigit, hexDigitValue?, if_pos h]
  rfl

/-- What ends the groups: the bracket, the mark of a scope, or a gap. -/
inductive Closes : List Char → Prop where
  | bracket (r : List Char) : Closes (']' :: r)
  | scope (r : List Char) : Closes ('%' :: r)
  | gap (r : List Char) : Closes (':' :: ':' :: r)

theorem Closes.stops (h : Closes rest) : Stops isGroupPart rest := by
  cases h with
  | bracket r => exact (stops_cons _ _ _).mpr (by decide)
  | scope r => exact (stops_cons _ _ _).mpr (by decide)
  | gap r => exact (stops_cons _ _ _).mpr (by decide)

theorem Closes.stops_separated (h : Closes rest) {r : List Char}
    (hr : readSeparator first rest = some r) : Stops isGroupPart r := by
  obtain rfl := readSeparator_eq_some_iff.mp hr
  cases first with
  | true => exact h.stops
  | false =>
    cases h with
    | gap r => exact (stops_cons _ _ _).mpr (by decide)

theorem stops_isHexDigit (h : Stops isGroupPart rest) : Stops isHexDigit rest :=
  h.mono fun _ => isGroupPart_of_isHexDigit

theorem stops_isDigit (h : Stops isGroupPart rest) : Stops isDigit rest :=
  (stops_isHexDigit h).mono fun _ => isHexDigit_of_isDigit

/-- A group is no octet of an IPv4 address unless a point follows it. -/
theorem readV4_eq_none (htext : ∀ c ∈ text, isHexDigit c = true) (hrest : Stops isGroupPart rest) :
    readV4 (text ++ rest) = none := by
  rw [Option.eq_none_iff_forall_ne_some]
  rintro ⟨gs, r⟩ hread
  obtain ⟨_, ⟨ha, hb, hc, hd⟩, heq, -⟩ := readV4_eq_some_iff.mp hread
  rename_i a b c d
  have hdigits : ∀ c ∈ digits a, isHexDigit c = true := by
    intro c hc
    exact isHexDigit_of_isDigit ((isDigits_digits a).2 c hc)
  have hpoint (r : List Char) : Stops isHexDigit ('.' :: r) := (stops_cons _ _ _).mpr (by decide)
  have hdrop := congrArg (List.dropWhile isHexDigit) heq
  rw [dropWhile_append_stops htext (stops_isHexDigit hrest)] at hdrop
  simp only [List.append_assoc, List.cons_append] at hdrop
  rw [dropWhile_append_stops hdigits (hpoint _)] at hdrop
  rw [hdrop, stops_cons] at hrest
  exact absurd hrest (by decide)

theorem readGroup_eq_none (hrest : Stops isHexDigit rest) : readGroup rest = none := by
  have htake : rest.takeWhile (fun c => (hexDigitValue? c).isSome) = [] :=
    takeWhile_append_stops (List.forall_mem_nil _) hrest
  rw [readGroup, htake]
  exact if_pos (.inl rfl)

theorem IsGroups.stops (h : IsGroups false text gs mapped) (hrest : Closes rest) :
    Stops isGroupPart (text ++ rest) := by
  cases h with
  | done => exact hrest.stops
  | mapped _ => exact (stops_cons _ _ _).mpr (by decide)
  | group _ _ => exact (stops_cons _ _ _).mpr (by decide)

theorem readGroups_closes (hrest : Closes rest) :
    readGroups first limit rest = ([], false, rest) := by
  cases limit with
  | zero => rfl
  | succ limit =>
    have hv4 : (readSeparator first rest).bind readV4 = none := by
      rw [Option.bind_eq_none_iff]
      intro r hr
      exact readV4_eq_none (List.forall_mem_nil _) (hrest.stops_separated hr)
    have hgroup : (readSeparator first rest).bind readGroup = none := by
      rw [Option.bind_eq_none_iff]
      intro r hr
      exact readGroup_eq_none (stops_isHexDigit (hrest.stops_separated hr))
    rw [readGroups, hv4, hgroup, ite_self]

theorem readGroups_of_isGroups (h : IsGroups first text gs mapped) (hlimit : gs.length ≤ limit)
    (hrest : Closes rest) : readGroups first limit (text ++ rest) = (gs, mapped, rest) := by
  induction h generalizing limit with
  | done => exact readGroups_closes hrest
  | @mapped first text a b c d hv4 =>
    obtain ⟨limit, rfl⟩ := Nat.exists_eq_add_of_le' hlimit
    have hread : (readSeparator first ((separator first ++ text) ++ rest)).bind readV4 =
        some ([a, b, c, d], rest) := by
      rw [List.append_assoc, readSeparator_eq_some_iff.mpr rfl]
      exact readV4_eq_some_iff.mpr ⟨text, hv4, rfl, stops_isDigit hrest.stops⟩
    rw [List.length_cons, List.length_singleton, ← Nat.add_assoc, readGroups,
      if_neg (Nat.succ_ne_zero _), hread]
  | @group first mapped text r g gs hgroup hr ih =>
    have hpos : limit ≠ 0 := by
      rintro rfl
      cases hlimit
    obtain ⟨limit, rfl⟩ := Nat.exists_eq_add_one_of_ne_zero hpos
    have hafter : Stops isGroupPart (r ++ rest) := hr.stops hrest
    have hsplit : (separator first ++ (text ++ r)) ++ rest =
        separator first ++ (text ++ (r ++ rest)) := by
      rw [List.append_assoc, List.append_assoc]
    have hseparator := readSeparator_eq_some_iff.mpr hsplit
    have hv4 : (readSeparator first ((separator first ++ (text ++ r)) ++ rest)).bind readV4 =
        none := by
      rw [hseparator]
      exact readV4_eq_none hgroup.hex hafter
    have hread : (readSeparator first ((separator first ++ (text ++ r)) ++ rest)).bind readGroup =
        some (g, r ++ rest) := by
      rw [hseparator]
      exact readGroup_eq_some_iff.mpr ⟨text, hgroup, rfl, stops_isHexDigit hafter⟩
    rw [readGroups, hv4, hread, ite_self]
    dsimp only
    rw [ih (by simpa using hlimit)]

/-- Eight groups, or fewer around a gap that stands for the others, which are zero. -/
inductive IsV6 : List Char → List Nat → Prop where
  | full {text : List Char} {gs : List Nat} {mapped : Bool} (h : IsGroups true text gs mapped)
    (hlength : gs.length = 8) : IsV6 text gs
  | gap {front back : List Char} {gs gs' : List Nat} {mapped : Bool}
    (hfront : IsGroups true front gs false) (hback : IsGroups true back gs' mapped)
    (hlength : gs.length + gs'.length ≤ 7) :
    IsV6 (front ++ ':' :: ':' :: back)
      (gs ++ List.replicate (8 - gs.length - gs'.length) 0 ++ gs')

theorem isV6_of_readV6 (h : readV6 cs = some (gs, rest)) :
    ∃ text, IsV6 text gs ∧ cs = text ++ rest := by
  rw [readV6] at h
  cases hread : readGroups true 8 cs with
  | mk front p =>
    obtain ⟨mapped, r⟩ := p
    obtain ⟨⟨text, htext, rfl⟩, hfront⟩ := isGroups_of_readGroups hread
    rw [hread] at h
    dsimp only at h
    split at h
    · next hlength =>
      cases h
      exact ⟨text, .full htext hlength, rfl⟩
    · next hshort =>
      rw [Option.ite_none_left_eq_some, Option.bind_eq_bind, Option.bind_eq_some_iff] at h
      obtain ⟨hmapped, r', hcolon, h⟩ := h
      rw [Option.bind_eq_some_iff] at h
      obtain ⟨r'', hcolon', h⟩ := h
      obtain rfl := Bool.eq_false_iff.mpr hmapped
      obtain rfl := readChar_eq_some_iff.mp hcolon
      obtain rfl := readChar_eq_some_iff.mp hcolon'
      cases hlater : readGroups true (7 - front.length) r'' with
      | mk back p =>
        obtain ⟨mapped', rest'⟩ := p
        rw [hlater] at h
        cases h
        obtain ⟨⟨text', htext', rfl⟩, hback⟩ := isGroups_of_readGroups hlater
        exact ⟨_, .gap htext htext' (by dsimp only; omega), by simp⟩

theorem readV6_of_isV6 (h : IsV6 text gs) (hrest : Closes rest) :
    readV6 (text ++ rest) = some (gs, rest) := by
  cases h with
  | full h hlength =>
    rw [readV6, readGroups_of_isGroups h (Nat.le_of_eq hlength) hrest]
    exact if_pos hlength
  | @gap front back gs gs' mapped hfront hback hlength =>
    have hsplit : (front ++ ':' :: ':' :: back) ++ rest =
        front ++ ':' :: ':' :: (back ++ rest) := by
      simp
    have hlater := readGroups_of_isGroups hback (by omega : gs'.length ≤ 7 - gs.length) hrest
    rw [hsplit, readV6, readGroups_of_isGroups hfront (by omega) (.gap _)]
    dsimp only
    rw [if_neg (by omega), if_neg Bool.false_ne_true, readChar_eq_some_iff.mpr rfl]
    dsimp only [Option.bind_eq_bind, Option.bind_some]
    rw [readChar_eq_some_iff.mpr rfl, Option.bind_some, hlater]
    rfl

/-- The scope of an IPv6 address, a number of 32 bits; none is zero. -/
inductive IsScope : List Char → Nat → Prop where
  | absent : IsScope [] 0
  | given {ds : List Char} (hd : IsDigits ds) (hbound : placeValue ds < 2 ^ 32) :
    IsScope ('%' :: ds) (placeValue ds)

/-- The texts of an address. -/
inductive IsSocket : List Char → SocketAddress → Prop where
  | v4 {text ds : List Char} {octets : List Nat} (h : IsV4 text octets) (hd : IsDigits ds)
    (hbound : placeValue ds < 2 ^ 16) :
    IsSocket (text ++ ':' :: ds) (.v4 octets (placeValue ds))
  | v6 {text scope ds : List Char} {groups : List Nat} {n : Nat} (h : IsV6 text groups)
    (hscope : IsScope scope n) (hd : IsDigits ds) (hbound : placeValue ds < 2 ^ 16) :
    IsSocket ('[' :: text ++ scope ++ ']' :: ':' :: ds) (.v6 groups n (placeValue ds))

theorem readPortNumber_eq_some_iff :
    readPortNumber cs = some (n, rest) ↔
      ∃ ds, (IsDigits ds ∧ placeValue ds = n ∧ n < 2 ^ 16) ∧ cs = ':' :: (ds ++ rest) ∧
        Stops isDigit rest := by
  have hbound : twoTo 16 = 2 ^ 16 := rfl
  rw [readPortNumber, Option.bind_eq_bind, Option.bind_eq_some_iff, hbound]
  simp only [readChar_eq_some_iff, readNumber_eq_some_iff]
  constructor
  · rintro ⟨_, rfl, ds, hds, rfl, hstops⟩
    exact ⟨ds, hds, rfl, hstops⟩
  · rintro ⟨ds, hds, rfl, hstops⟩
    exact ⟨_, rfl, ds, hds, rfl, hstops⟩

theorem isScope_readScope (cs : List Char) :
    ∃ text, IsScope text (readScope cs).1 ∧ cs = text ++ (readScope cs).2 := by
  have hbound : twoTo 32 = 2 ^ 32 := rfl
  rw [readScope, hbound]
  cases hread : (readChar '%' cs).bind (readNumber (2 ^ 32)) with
  | none => exact ⟨[], .absent, rfl⟩
  | some p =>
    obtain ⟨r, hmark, hnumber⟩ := Option.bind_eq_some_iff.mp hread
    obtain rfl := readChar_eq_some_iff.mp hmark
    obtain ⟨ds, ⟨hd, hvalue, hlt⟩, rfl, -⟩ := readNumber_eq_some_iff.mp hnumber
    refine ⟨'%' :: ds, ?_, rfl⟩
    rw [Option.getD_some, ← hvalue]
    exact .given hd (hvalue ▸ hlt)

theorem readScope_of_isScope (h : IsScope text n) (r : List Char) :
    readScope (text ++ ']' :: r) = (n, ']' :: r) := by
  have hbound : twoTo 32 = 2 ^ 32 := rfl
  cases h with
  | absent => rfl
  | @given ds hd hlt =>
    have hnumber : readNumber (twoTo 32) (ds ++ ']' :: r) = some (placeValue ds, ']' :: r) :=
      readNumber_eq_some_iff.mpr
        ⟨ds, ⟨hd, rfl, hbound ▸ hlt⟩, rfl, (stops_cons _ _ _).mpr (by decide)⟩
    rw [readScope, List.cons_append, readChar_eq_some_iff.mpr rfl, Option.bind_some, hnumber]
    rfl

theorem isSocket_of_readV4Socket {a : SocketAddress} (h : readV4Socket cs = some (a, rest)) :
    ∃ text, IsSocket text a ∧ cs = text ++ rest := by
  simp only [readV4Socket, Option.bind_eq_bind, Option.bind_eq_some_iff, Prod.exists,
    Option.pure_def, Option.some_inj, Prod.mk.injEq, readV4_eq_some_iff,
    readPortNumber_eq_some_iff] at h
  obtain ⟨octets, _, ⟨text, htext, rfl, -⟩, _, _, ⟨ds, ⟨hd, rfl, hlt⟩, rfl, -⟩, rfl, rfl⟩ := h
  exact ⟨_, .v4 htext hd hlt, by simp⟩

theorem isSocket_of_readV6Socket {a : SocketAddress} (h : readV6Socket cs = some (a, rest)) :
    ∃ text, IsSocket text a ∧ cs = text ++ rest := by
  simp only [readV6Socket, Option.bind_eq_bind, Option.bind_eq_some_iff, Prod.exists,
    Option.pure_def, Option.some_inj, Prod.mk.injEq, readChar_eq_some_iff,
    readPortNumber_eq_some_iff] at h
  obtain ⟨_, rfl, groups, r, hv6, _, hbracket, _, _, ⟨ds, ⟨hd, rfl, hlt⟩, rfl, -⟩, rfl, rfl⟩ := h
  obtain ⟨text, htext, rfl⟩ := isV6_of_readV6 hv6
  obtain ⟨scope, hscope, hr⟩ := isScope_readScope r
  refine ⟨_, .v6 htext hscope hd hlt, ?_⟩
  rw [hr, hbracket]
  simp

theorem readPortNumber_digits (hd : IsDigits ds) (hlt : placeValue ds < 2 ^ 16) :
    readPortNumber (':' :: ds) = some (placeValue ds, []) :=
  readPortNumber_eq_some_iff.mpr ⟨ds, ⟨hd, rfl, hlt⟩, by simp, stops_nil _⟩

theorem readV4Socket_of_isV4 {octets : List Nat} (h : IsV4 text octets) (hd : IsDigits ds)
    (hlt : placeValue ds < 2 ^ 16) :
    readV4Socket (text ++ ':' :: ds) = some (.v4 octets (placeValue ds), []) := by
  have hread : readV4 (text ++ ':' :: ds) = some (octets, ':' :: ds) :=
    readV4_eq_some_iff.mpr ⟨text, h, rfl, (stops_cons _ _ _).mpr (by decide)⟩
  rw [readV4Socket, hread, Option.bind_eq_bind, Option.bind_some]
  dsimp only
  rw [readPortNumber_digits hd hlt]
  rfl

theorem IsScope.closes (h : IsScope text n) (r : List Char) : Closes (text ++ ']' :: r) := by
  cases h with
  | absent => exact .bracket _
  | given _ _ => exact .scope _

theorem readV6Socket_of_isV6 {scope : List Char} (h : IsV6 text gs) (hscope : IsScope scope n)
    (hd : IsDigits ds) (hlt : placeValue ds < 2 ^ 16) :
    readV6Socket ('[' :: text ++ scope ++ ']' :: ':' :: ds) =
      some (.v6 gs n (placeValue ds), []) := by
  have hread : readV6 (text ++ scope ++ ']' :: ':' :: ds) =
      some (gs, scope ++ ']' :: ':' :: ds) := by
    rw [List.append_assoc]
    exact readV6_of_isV6 h (hscope.closes _)
  rw [readV6Socket, List.cons_append, List.cons_append, readChar_eq_some_iff.mpr rfl]
  dsimp only [Option.bind_eq_bind, Option.bind_some]
  rw [hread, Option.bind_some]
  dsimp only
  rw [readScope_of_isScope hscope, readChar_eq_some_iff.mpr rfl]
  dsimp only [Option.bind_some]
  rw [readPortNumber_digits hd hlt]
  rfl

theorem ofText?_eq_some_iff {s : String} {a : SocketAddress} :
    ofText? s = some a ↔ IsSocket s.toList a := by
  rw [ofText?]
  generalize s.toList = cs
  constructor
  · intro h
    split at h
    · next b hread =>
      cases h
      have hsocket : ∃ text, IsSocket text a ∧ cs = text ++ [] := by
        rcases Option.or_eq_some_iff.mp hread with hv4 | ⟨-, hv6⟩
        · exact isSocket_of_readV4Socket hv4
        · exact isSocket_of_readV6Socket hv6
      obtain ⟨text, htext, rfl⟩ := hsocket
      rwa [List.append_nil]
    · cases h
  · intro h
    cases h with
    | v4 hv4 hd hlt =>
      rw [readV4Socket_of_isV4 hv4 hd hlt]
      rfl
    | @v6 text scope ds groups n hv6 hscope hd hlt =>
      have hno : readV4Socket ('[' :: text ++ scope ++ ']' :: ':' :: ds) = none := rfl
      rw [hno, readV6Socket_of_isV6 hv6 hscope hd hlt]
      rfl

end GridQuery.SocketAddress
