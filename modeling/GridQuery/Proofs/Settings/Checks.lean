import GridQuery.Proofs.Outcome
import GridQuery.Proofs.Settings.Address
import GridQuery.Proofs.Settings.NameList
import GridQuery.Proofs.Settings.Whole
import GridQuery.Proofs.Text.Spelling

/-!
The settings that are checked, and what is valid for each. They are checked one after the other in a
fixed order, up to the first that is not valid.
-/

namespace GridQuery

open GridQuery.Number GridQuery.Sql GridQuery.Text

namespace SettingsError

/-- The name of the setting that an error is about. -/
def name : SettingsError → String
  | noDatabase => "DATABASE_URL"
  | rolloverRange _ => "MONTH_ROLLOVER_DAY"
  | badValue name _ _ => name
  | badPaging _ => "SQL_PAGING"
  | badSwitch name _ => name

/-- A message names the setting that it is about. -/
theorem name_infix_message (e : SettingsError) : e.name.toList <:+: e.message.toList := by
  unfold message
  cases e with
  | noDatabase =>
    have hfront : "DATABASE_URL".toList <:+: "DATABASE_URL must be set".toList := by
      decide +kernel
    exact hfront
  | rolloverRange day =>
    have hfront : "MONTH_ROLLOVER_DAY".toList <:+:
        "MONTH_ROLLOVER_DAY must be between 1 and 31, got ".toList := by
      decide +kernel
    rw [String.toList_append]
    exact hfront.trans (List.prefix_append _ _).isInfix
  | badValue name raw cause =>
    simp only [toString, String.toList_append, List.append_assoc]
    exact (List.prefix_append _ _).isInfix.trans (List.suffix_append _ _).isInfix
  | badPaging cause =>
    have hfront : "SQL_PAGING".toList <:+: "invalid SQL_PAGING: ".toList := by decide +kernel
    simp only [toString, String.toList_append]
    exact hfront.trans (List.prefix_append _ _).isInfix
  | badSwitch name word =>
    simp only [toString, String.toList_append, List.append_assoc]
    exact (List.prefix_append _ _).isInfix.trans (List.suffix_append _ _).isInfix

end SettingsError

/-- A setting that is checked. -/
inductive Setting where
  | databaseUrl
  | monthRolloverDay
  | maxConnections
  | bindAddress
  | paging
  | domainLifetime
  | refreshInterval
  | cacheInputFeatures
  | cacheOutputFeatures
deriving DecidableEq

namespace Setting

def name : Setting → String
  | databaseUrl => "DATABASE_URL"
  | monthRolloverDay => "MONTH_ROLLOVER_DAY"
  | maxConnections => "DB_MAX_CONNECTIONS"
  | bindAddress => "BIND_ADDR"
  | paging => "SQL_PAGING"
  | domainLifetime => "PIVOT_CACHE_TTL_SECS"
  | refreshInterval => "CACHE_REFRESH_SECS"
  | cacheInputFeatures => "CACHE_INPUT_FEATURES"
  | cacheOutputFeatures => "CACHE_OUTPUT_FEATURES"

/-- The settings that may be absent, in the order in which they are checked. -/
def optional : List Setting :=
  [monthRolloverDay, maxConnections, bindAddress, paging, domainLifetime, refreshInterval,
    cacheInputFeatures, cacheOutputFeatures]

/-- All settings that are checked, in their order. -/
def inOrder : List Setting :=
  databaseUrl :: optional

theorem mem_inOrder (s : Setting) : s ∈ inOrder := by
  cases s <;> decide

/-- The trimmed text of a setting is one that it may have. -/
def Admits : Setting → String → Prop
  | databaseUrl, _ => True
  | monthRolloverDay, t => ∃ n, IsNatural t.toList n ∧ n < 2 ^ 32 ∧ 1 ≤ n ∧ n ≤ 31
  | maxConnections, t => ∃ n, IsNatural t.toList n ∧ n < 2 ^ 32
  | bindAddress, t => ∃ a, SocketAddress.IsSocket t.toList a
  | paging, t => lowerAscii t ∈ ["bounds", "offset_count", "limit_offset"]
  | domainLifetime, t | refreshInterval, t => ∃ n, IsNatural t.toList n ∧ n < 2 ^ 64
  | cacheInputFeatures, t | cacheOutputFeatures, t =>
    lowerAscii t ∈ ["1", "true", "yes", "on", "0", "false", "no", "off"]

/-- Only the database has to be given; a value of blanks only is none. -/
def IsValid (s : Setting) : Option String → Prop
  | none => s ≠ databaseUrl
  | some v => if allBlank v then s ≠ databaseUrl else s.Admits (trim v)

theorem isValid_iff {s : Setting} {lookup : Settings.Lookup} :
    s.IsValid (lookup s.name) ↔
      match Settings.get? lookup s.name with
      | none => s ≠ databaseUrl
      | some raw => s.Admits (trim raw) := by
  rw [Settings.get?]
  cases lookup s.name with
  | none => rfl
  | some v =>
    rw [IsValid, Option.filter_some]
    cases allBlank v <;> rfl

end Setting

namespace Settings

variable {α β : Type} {lookup : Lookup} {settings settings' : List Setting}
  {x : Except SettingsError α} {f : α → Except SettingsError β} {name : String} {default : α}
  {read? : String → Option α}

/-- The error is about the first of these settings that is not valid, and says so. -/
def BlamesFirst (lookup : Lookup) (settings : List Setting) (e : SettingsError) : Prop :=
  ∃ before s after, settings = before ++ s :: after ∧
    (∀ s' ∈ before, s'.IsValid (lookup s'.name)) ∧ ¬ s.IsValid (lookup s.name) ∧
      e.name = s.name ∧ s.name.toList <:+: e.message.toList

/-- These settings are checked one after the other, up to the first that is not valid. -/
structure Checks (lookup : Lookup) (settings : List Setting) (x : Except SettingsError α) :
    Prop where
  succeeds_iff : Succeeds x ↔ ∀ s ∈ settings, s.IsValid (lookup s.name)
  blames : ∀ e, x = .error e → BlamesFirst lookup settings e

theorem checks_pure (a : α) : Checks lookup [] (pure a : Except SettingsError α) where
  succeeds_iff := iff_of_true (succeeds_pure a) fun _ hs => nomatch hs
  blames _ he := absurd he pure_ne_error

theorem checks_singleton {s : Setting} (hx : Succeeds x ↔ s.IsValid (lookup s.name))
    (hname : ∀ e, x = .error e → e.name = s.name) : Checks lookup [s] x where
  succeeds_iff := by
    rw [hx, List.forall_mem_singleton]
  blames e he := by
    have hfault : ¬ s.IsValid (lookup s.name) := by
      rw [← hx, he]
      exact not_succeeds_error e
    have hmessage := e.name_infix_message
    rw [hname e he] at hmessage
    exact ⟨[], s, [], rfl, List.forall_mem_nil _, hfault, hname e he, hmessage⟩

theorem Checks.bind (hx : Checks lookup settings x) (hf : ∀ a, Checks lookup settings' (f a)) :
    Checks lookup (settings ++ settings') (x >>= f) where
  succeeds_iff := by
    rw [List.forall_mem_append, ← hx.succeeds_iff, succeeds_bind]
    constructor
    · rintro ⟨a, ha, h⟩
      exact ⟨⟨a, ha⟩, (hf a).succeeds_iff.mp h⟩
    · rintro ⟨⟨a, ha⟩, h⟩
      exact ⟨a, ha, (hf a).succeeds_iff.mpr h⟩
  blames e he := by
    rcases bind_eq_error_iff.mp he with he | ⟨a, ha, he⟩
    · obtain ⟨before, s, after, rfl, h⟩ := hx.blames e he
      exact ⟨before, s, after ++ settings', by simp, h⟩
    · obtain ⟨before, s, after, rfl, hbefore, h⟩ := (hf a).blames e he
      have hsettings := hx.succeeds_iff.mp ⟨a, ha⟩
      exact ⟨settings ++ before, s, after, by simp,
        List.forall_mem_append.mpr ⟨hsettings, hbefore⟩, h⟩

/-- The setting is read as its default if it is absent, else as what its trimmed text is read as; an
error is about this setting. -/
structure ReadsSetting (lookup : Lookup) (name : String) (default : α) (read? : String → Option α)
    (x : Except SettingsError α) : Prop where
  toOption_eq : x.toOption = ((get? lookup name).map trim).elim (some default) read?
  name_eq : ∀ e, x = .error e → e.name = name

theorem ReadsSetting.checks {s : Setting} (h : ReadsSetting lookup s.name default read? x)
    (hs : s ≠ .databaseUrl) (hadmits : ∀ t, (read? t).isSome = true ↔ s.Admits t) :
    Checks lookup [s] x := by
  apply checks_singleton
  · rw [← isSome_toOption_iff, h.toOption_eq, Setting.isValid_iff]
    cases get? lookup s.name with
    | none => exact iff_of_true rfl hs
    | some raw => exact hadmits (trim raw)
  · exact h.name_eq

theorem readsSetting_parseOr (parse : String → Except ValueFault α) :
    ReadsSetting lookup name default (fun t => (parse t).toOption)
      (parseOr lookup name parse default) where
  toOption_eq := by
    unfold parseOr
    cases get? lookup name with
    | none => rfl
    | some raw => exact toOption_mapError _ _
  name_eq e he := by
    unfold parseOr at he
    split at he
    · cases he
    · obtain ⟨cause, rfl⟩ := exists_of_mapError_eq_error he
      rfl

theorem readsSetting_rolloverDay :
    ReadsSetting lookup "MONTH_ROLLOVER_DAY" 14
      (fun t => (number (twoTo 32) t).toOption.filter fun day => 1 ≤ day ∧ day ≤ 31)
      (rolloverDay lookup) where
  toOption_eq := by
    rw [rolloverDay, toOption_bind, (readsSetting_parseOr _).toOption_eq]
    cases get? lookup "MONTH_ROLLOVER_DAY" with
    | none => rfl
    | some raw =>
      dsimp only [Option.map_some, Option.elim_some]
      cases (number (twoTo 32) (trim raw)).toOption with
      | none => rfl
      | some day =>
        rw [Option.bind_some, Option.filter_some]
        by_cases hday : 1 ≤ day ∧ day ≤ 31
        · rw [if_pos hday, if_pos (decide_eq_true hday)]
          rfl
        · rw [if_neg hday, decide_eq_false hday]
          rfl
  name_eq e he := by
    rcases bind_eq_error_iff.mp he with he | ⟨day, -, he⟩
    · exact (readsSetting_parseOr _).name_eq e he
    · split at he
      · exact absurd he pure_ne_error
      · cases he
        rfl

theorem readsSetting_pagingStyle :
    ReadsSetting lookup "SQL_PAGING" none (fun t => (Paging.words.lookup (lowerAscii t)).map some)
      (pagingStyle lookup) where
  toOption_eq := by
    unfold pagingStyle
    cases get? lookup "SQL_PAGING" with
    | none => rfl
    | some raw =>
      dsimp only [Option.map_some, Option.elim_some]
      rw [toOption_mapError]
      unfold Paging.ofSetting
      dsimp only
      cases Paging.words.lookup (lowerAscii (trim raw)) <;> rfl
  name_eq e he := by
    unfold pagingStyle at he
    split at he
    · cases he
    · obtain ⟨cause, rfl⟩ := exists_of_mapError_eq_error he
      rfl

theorem readsSetting_switch :
    ReadsSetting lookup name false (fun t => switchWords.lookup (lower t))
      (switch lookup name) where
  toOption_eq := by
    unfold switch
    cases get? lookup name with
    | none => rfl
    | some raw =>
      dsimp only [Option.map_some, Option.elim_some]
      cases switchWords.lookup (lower (trim raw)) <;> rfl
  name_eq e he := by
    unfold switch at he
    split at he
    · cases he
    · dsimp only at he
      split at he
      · cases he
      · cases he
        rfl

theorem number_eq_ok_iff {bits n : Nat} {t : String} :
    number (twoTo bits) t = .ok n ↔ IsNatural t.toList n ∧ n < 2 ^ bits :=
  mapError_eq_ok_iff.trans (readBelow_eq_ok_iff (twoTo_pos bits))

theorem isSome_number_iff {bits : Nat} {t : String} :
    (number (twoTo bits) t).toOption.isSome = true ↔ ∃ n, IsNatural t.toList n ∧ n < 2 ^ bits :=
  isSome_toOption_iff.trans (exists_congr fun _ => number_eq_ok_iff)

theorem isSome_day_iff {t : String} :
    ((number (twoTo 32) t).toOption.filter fun day => 1 ≤ day ∧ day ≤ 31).isSome = true ↔
      Setting.monthRolloverDay.Admits t := by
  simp only [Option.isSome_iff_exists, Option.filter_eq_some_iff, toOption_eq_some_iff,
    number_eq_ok_iff, decide_eq_true_eq, and_assoc]
  rfl

theorem isSome_address_iff {t : String} :
    (address t).toOption.isSome = true ↔ ∃ a, SocketAddress.IsSocket t.toList a := by
  have haddress : (address t).toOption = SocketAddress.ofText? t := by
    rw [address]
    cases SocketAddress.ofText? t <;> rfl
  rw [haddress, Option.isSome_iff_exists]
  exact exists_congr fun _ => SocketAddress.ofText?_eq_some_iff

theorem isSome_lookup_iff {words : List (String × α)} {word : String} :
    (words.lookup word).isSome = true ↔ word ∈ words.map Prod.fst := by
  rw [List.lookup_isSome_iff, List.mem_map]
  exact exists_congr fun p => and_congr_right' (beq_iff_eq.trans eq_comm)

theorem isSome_paging_iff {t : String} :
    ((Paging.words.lookup (lowerAscii t)).map some).isSome = true ↔ Setting.paging.Admits t := by
  rw [Option.isSome_map, isSome_lookup_iff]
  rfl

theorem isSome_switchWord_iff {t : String} :
    (switchWords.lookup (lower t)).isSome = true ↔
      lowerAscii t ∈ ["1", "true", "yes", "on", "0", "false", "no", "off"] := by
  have hascii : ∀ word ∈ switchWords.map Prod.fst, word.toList.all isOnlyAscii = true := by
    decide +kernel
  rw [isSome_lookup_iff, lower_mem_iff hascii]
  rfl

theorem checks_requiredUrl (lookup : Lookup) :
    Checks lookup [.databaseUrl] (requiredUrl lookup) := by
  unfold requiredUrl
  apply checks_singleton
  · rw [Setting.isValid_iff, Setting.name]
    cases get? lookup "DATABASE_URL" with
    | none => exact iff_of_false (not_succeeds_error _) fun h => h rfl
    | some url => exact iff_of_true (succeeds_ok url) trivial
  · intro e he
    split at he
    · cases he
    · cases he
      rfl

theorem checks_read (lookup : Lookup) : Checks lookup Setting.inOrder (read lookup) := by
  have hparse {α : Type} (s : Setting) (hs : s ≠ .databaseUrl)
      (parse : String → Except ValueFault α)
      (hadmits : ∀ t, (parse t).toOption.isSome = true ↔ s.Admits t) (default : α) :
      Checks lookup [s] (parseOr lookup s.name parse default) :=
    (readsSetting_parseOr parse).checks hs hadmits
  have hswitch (s : Setting) (hs : s ≠ .databaseUrl)
      (hadmits : ∀ t, (switchWords.lookup (lower t)).isSome = true ↔ s.Admits t) :
      Checks lookup [s] (switch lookup s.name) :=
    readsSetting_switch.checks hs hadmits
  have hday : Checks lookup [.monthRolloverDay] (rolloverDay lookup) :=
    readsSetting_rolloverDay.checks (by decide) fun _ => isSome_day_iff
  have hpaging : Checks lookup [.paging] (pagingStyle lookup) :=
    readsSetting_pagingStyle.checks (by decide) fun _ => isSome_paging_iff
  unfold read
  refine (checks_requiredUrl lookup).bind fun _ => hday.bind fun _ => ?_
  refine (hparse .maxConnections (by decide) _ (fun _ => isSome_number_iff) 10).bind fun _ => ?_
  refine (hparse .bindAddress (by decide) _ (fun _ => isSome_address_iff) _).bind fun _ => ?_
  refine hpaging.bind fun _ => ?_
  refine (hparse .domainLifetime (by decide) _ (fun _ => isSome_number_iff) 300).bind fun _ => ?_
  refine (hparse .refreshInterval (by decide) _ (fun _ => isSome_number_iff) 35000).bind
    fun _ => ?_
  refine (hswitch .cacheInputFeatures (by decide) fun _ => isSome_switchWord_iff).bind
    fun _ => ?_
  refine (hswitch .cacheOutputFeatures (by decide) fun _ => isSome_switchWord_iff).bind
    fun _ => ?_
  exact checks_pure _

end Settings

end GridQuery
