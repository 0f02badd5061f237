import GridQuery.Proofs.Settings.Checks

/-! Which settings are accepted, and that blanks make no difference to it. -/

namespace GridQuery.Settings

open GridQuery.Number GridQuery.Sql GridQuery.Text

variable {α : Type} {lookup lookup' : Lookup} {name : String} {value value' : Option String}
  {settings : Settings} {items names : List String}

/-- A value of blanks only may be left out, and blanks may be put around a value where they do not
count. -/
inductive Respaced (name : String) : Option String → Option String → Prop where
  | same (value : Option String) : Respaced name value value
  | dropped {v : String} (hv : allBlank v = true) : Respaced name (some v) none
  | padded {before v after : String} (hname : name ∈ Setting.optional.map Setting.name)
      (hbefore : allBlank before = true) (hafter : allBlank after = true) :
      Respaced name (some v) (some (before ++ v ++ after))

def Respaces (lookup lookup' : Lookup) : Prop :=
  ∀ name, Respaced name (lookup name) (lookup' name)

theorem Respaced.filter_eq (h : Respaced name value value')
    (hname : name ∉ Setting.optional.map Setting.name) :
    value'.filter (fun v => !allBlank v) = value.filter fun v => !allBlank v := by
  cases h with
  | same => rfl
  | dropped hv => rw [Option.filter_none, Option.filter_some, hv]; rfl
  | padded hmem => exact absurd hmem hname

theorem Respaced.map_trim_filter (h : Respaced name value value') :
    (value'.filter fun v => !allBlank v).map trim =
      (value.filter fun v => !allBlank v).map trim := by
  cases h with
  | same => rfl
  | dropped hv => rw [Option.filter_none, Option.filter_some, hv]; rfl
  | @padded before v after _ hbefore hafter =>
    rw [Option.filter_some, Option.filter_some, allBlank_amid_blanks hbefore hafter]
    cases allBlank v with
    | true => rfl
    | false => exact congrArg some (trim_amid_blanks hbefore hafter v)

theorem Respaces.get?_eq (h : Respaces lookup lookup')
    (hname : name ∉ Setting.optional.map Setting.name) : get? lookup' name = get? lookup name :=
  (h name).filter_eq hname

theorem Respaces.map_trim_get? (h : Respaces lookup lookup') (name : String) :
    (get? lookup' name).map trim = (get? lookup name).map trim :=
  (h name).map_trim_filter

theorem ReadsSetting.toOption_congr {x x' : Except SettingsError α} {default : α}
    {read? : String → Option α} (hx : ReadsSetting lookup name default read? x)
    (hx' : ReadsSetting lookup' name default read? x') (h : Respaces lookup lookup') :
    x'.toOption = x.toOption := by
  rw [hx.toOption_eq, hx'.toOption_eq, h.map_trim_get?]

/-- Blanks that do not count change neither the settings nor whether they are accepted. -/
theorem toOption_read_of_respaces (h : Respaces lookup lookup') :
    (read lookup').toOption = (read lookup).toOption := by
  have hurl : requiredUrl lookup' = requiredUrl lookup := by
    unfold requiredUrl
    rw [h.get?_eq (by decide)]
  have hparse {α : Type} (name : String) (parse : String → Except ValueFault α) (default : α) :
      (parseOr lookup' name parse default).toOption =
        (parseOr lookup name parse default).toOption :=
    (readsSetting_parseOr parse).toOption_congr (readsSetting_parseOr parse) h
  have hday : (rolloverDay lookup').toOption = (rolloverDay lookup).toOption :=
    readsSetting_rolloverDay.toOption_congr readsSetting_rolloverDay h
  have hpaging : (pagingStyle lookup').toOption = (pagingStyle lookup).toOption :=
    readsSetting_pagingStyle.toOption_congr readsSetting_pagingStyle h
  have hswitch (name : String) :
      (switch lookup' name).toOption = (switch lookup name).toOption :=
    readsSetting_switch.toOption_congr readsSetting_switch h
  -- the other settings are not trimmed, but no blanks are put around them
  have hsame {name : String} (hname : name ∉ Setting.optional.map Setting.name) :
      get? lookup' name = get? lookup name :=
    h.get?_eq hname
  unfold read
  simp (disch := decide) only [toOption_bind, hurl, hday, hparse, hpaging, hswitch, hsame]

theorem inputFeatures_of_read (h : read lookup = .ok settings) :
    settings.inputFeatures = ((get? lookup "INPUT_FEATURES").map nameList).getD [] := by
  unfold read at h
  simp only [bind_eq_ok_iff, pure_eq_ok_iff] at h
  obtain ⟨_, -, _, -, _, -, _, -, _, -, _, -, _, -, _, -, _, -, rfl⟩ := h
  rfl

theorem inputFeatures_of_lookup {v : String} (h : read lookup = .ok settings)
    (hv : lookup "INPUT_FEATURES" = some v) : settings.inputFeatures = nameList v := by
  rw [inputFeatures_of_read h, get?, hv, Option.filter_some]
  cases hblank : allBlank v with
  | true => exact (nameList_of_allBlank hblank).symm
  | false => rfl

/-- Settings are accepted exactly if each one that is checked is valid, and else the error is about
the first that is not; blanks that do not count change nothing, and a list gives its names. -/
theorem read_accepts_valid (lookup : Lookup) :
    (Succeeds (read lookup) ↔ ∀ s : Setting, s.IsValid (lookup s.name)) ∧
    (∀ e, read lookup = .error e → BlamesFirst lookup Setting.inOrder e) ∧
    (∀ lookup', Respaces lookup lookup' → (read lookup').toOption = (read lookup).toOption) ∧
    ∀ settings items names, read lookup = .ok settings →
      lookup "INPUT_FEATURES" = some (",".intercalate items) → Itemizes items names →
        (∀ name ∈ names, IsListed name) → settings.inputFeatures = names := by
  have hchecks := checks_read lookup
  refine ⟨?_, hchecks.blames, fun _ => toOption_read_of_respaces, ?_⟩
  · rw [hchecks.succeeds_iff]
    exact forall_congr' fun s => imp_iff_right s.mem_inOrder
  · intro settings items names hread hlookup hitems hnames
    rw [inputFeatures_of_lookup hread hlookup, nameList_intercalate hitems hnames]

/-- A list of settings by name. -/
def given (pairs : List (String × String)) : Lookup :=
  fun name => pairs.lookup name

def lakeSettings : Lookup :=
  given [("DATABASE_URL", "mysql://lake"), ("MONTH_ROLLOVER_DAY", "+31"), ("BIND_ADDR", "[::1]:80"),
    ("SQL_PAGING", "Limit_Offset"), ("CACHE_INPUT_FEATURES", "TRUE"), ("MOVEMENTS_SQL", " "),
    ("INPUT_FEATURES", " speed, ,temp ")]

/-- The same with blanks around one value and without the value of blanks only. -/
def lakeSettingsRespaced : Lookup := fun name =>
  if name = "SQL_PAGING" then some (" " ++ "Limit_Offset" ++ "\t")
  else if name = "MOVEMENTS_SQL" then none
  else lakeSettings name

/-- Two settings that are not valid. -/
def twoFaults : Lookup :=
  given [("BIND_ADDR", "anywhere"), ("MONTH_ROLLOVER_DAY", "40"), ("DATABASE_URL", "mysql://lake")]

theorem respaces_lakeSettings : Respaces lakeSettings lakeSettingsRespaced := by
  intro name
  unfold lakeSettingsRespaced
  split
  · next hname =>
    subst hname
    exact .padded (by decide) (by decide) (by decide)
  · split
    · next hname =>
      subst hname
      exact .dropped (by decide)
    · exact .same _

theorem read_accepts_valid_lake :
    (∀ s : Setting, s.IsValid (lakeSettings s.name)) ∧
    read twoFaults = .error (.rolloverRange 40) ∧
    BlamesFirst twoFaults Setting.inOrder (.rolloverRange 40) ∧
    Respaces lakeSettings lakeSettingsRespaced ∧
    (read lakeSettingsRespaced).toOption = (read lakeSettings).toOption ∧
    ∃ settings, read lakeSettings = .ok settings ∧ settings.inputFeatures = ["speed", "temp"] := by
  obtain ⟨settings, hread⟩ : Succeeds (read lakeSettings) := succeeds_of_isOk (by decide +kernel)
  have hfault : read twoFaults = .error (.rolloverRange 40) := by decide +kernel
  have hlookup : lakeSettings "INPUT_FEATURES" =
      some (",".intercalate [" " ++ "speed" ++ "", " ", "" ++ "temp" ++ " "]) := by
    decide +kernel
  have hitems : Itemizes [" " ++ "speed" ++ "", " ", "" ++ "temp" ++ " "] ["speed", "temp"] :=
    .name (by decide) (by decide) (.empty (by decide) (.name (by decide) (by decide) .nil))
  have hlisted : ∀ name ∈ ["speed", "temp"], IsListed name := by decide +kernel
  obtain ⟨haccepts, -, hrespaced, hnames⟩ := read_accepts_valid lakeSettings
  have hblames := (read_accepts_valid twoFaults).2.1 _ hfault
  exact ⟨haccepts.mp ⟨settings, hread⟩, hfault, hblames, respaces_lakeSettings,
    hrespaced _ respaces_lakeSettings, settings, hread, hnames _ _ _ hread hlookup hitems hlisted⟩

end GridQuery.Settings
