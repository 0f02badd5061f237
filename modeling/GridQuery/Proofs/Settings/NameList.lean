import GridQuery.Proofs.Text.Blank
import GridQuery.Settings

/-!
Lists of names in one setting: names that are joined by commas are read back, with whatever blanks
around them and whatever empty items between them.
-/

namespace GridQuery.Settings

open GridQuery.Text

variable {items names : List String}

theorem splitCommas_eq_splitOn (cs : List Char) : splitCommas cs = cs.splitOn ',' := by
  induction cs with
  | nil => rfl
  | cons c r ih =>
    rw [splitCommas, ih, List.splitOn_cons_eq_if_modifyHead]
    by_cases hc : c = ','
    · rw [if_pos hc, if_pos (beq_iff_eq.mpr hc)]
    · rw [if_neg hc, if_neg (mt beq_iff_eq.mp hc)]
      cases h : r.splitOn ',' with
      | nil => exact absurd h (List.splitOn_ne_nil ',' r)
      | cons p ps => rfl

/-- The name that a piece between two commas holds, if any. -/
def pieceName? (piece : List Char) : Option String :=
  if trimChars piece = [] then none else some (String.ofList (trimChars piece))

theorem nameList_eq (s : String) : nameList s = (s.toList.splitOn ',').filterMap pieceName? := by
  rw [nameList, splitCommas_eq_splitOn, List.filterMap_map]
  rfl

/-- What is separated by commas: the names, with blanks around them, and items of blanks only. -/
inductive Itemizes : List String → List String → Prop where
  | nil : Itemizes [] []
  | empty {item : String} {items names : List String} (hitem : allBlank item = true)
    (h : Itemizes items names) : Itemizes (item :: items) names
  | name {before name after : String} {items names : List String}
    (hbefore : allBlank before = true) (hafter : allBlank after = true)
    (h : Itemizes items names) : Itemizes ((before ++ name ++ after) :: items) (name :: names)

/-- It can stand in a list: it is not empty, has no blanks at its ends and no comma. -/
def IsListed (name : String) : Prop :=
  name ≠ "" ∧ trim name = name ∧ ',' ∉ name.toList

instance (name : String) : Decidable (IsListed name) :=
  inferInstanceAs (Decidable (_ ∧ _ ∧ _))

theorem comma_notMem_of_allBlank {s : String} (h : allBlank s = true) : ',' ∉ s.toList := by
  intro hmem
  exact absurd (allBlank_iff.mp h ',' hmem) (by decide)

theorem Itemizes.comma_notMem (h : Itemizes items names)
    (hnames : ∀ name ∈ names, IsListed name) : ∀ item ∈ items, ',' ∉ item.toList := by
  induction h with
  | nil => exact fun _ hitem => nomatch hitem
  | empty hitem _ ih => exact List.forall_mem_cons.mpr ⟨comma_notMem_of_allBlank hitem, ih hnames⟩
  | name hbefore hafter _ ih =>
    obtain ⟨⟨-, -, hname⟩, hnames⟩ := List.forall_mem_cons.mp hnames
    refine List.forall_mem_cons.mpr ⟨?_, ih hnames⟩
    rw [String.toList_append, String.toList_append, List.mem_append, List.mem_append, not_or,
      not_or]
    exact ⟨⟨comma_notMem_of_allBlank hbefore, hname⟩, comma_notMem_of_allBlank hafter⟩

theorem pieceName?_of_allBlank {s : String} (h : allBlank s = true) :
    pieceName? s.toList = none :=
  if_pos (trimChars_blank (allBlank_iff.mp h))

theorem pieceName?_amid_blanks {before name after : String} (hbefore : allBlank before = true)
    (hafter : allBlank after = true) (hname : IsListed name) :
    pieceName? (before ++ name ++ after).toList = some name := by
  obtain ⟨hne, htrimmed, -⟩ := hname
  have htrim : trimChars (before ++ name ++ after).toList = name.toList := by
    have htext := trim_amid_blanks hbefore hafter name
    rw [htrimmed, trim, ← String.toList_inj, String.toList_ofList] at htext
    exact htext
  have hnil : ¬ name.toList = [] := by
    intro hnil
    exact hne (String.toList_inj.mp hnil)
  rw [pieceName?, htrim, if_neg hnil, String.ofList_toList]

theorem Itemizes.filterMap_pieceName? (h : Itemizes items names)
    (hnames : ∀ name ∈ names, IsListed name) :
    (items.map String.toList).filterMap pieceName? = names := by
  induction h with
  | nil => rfl
  | empty hitem _ ih =>
    rw [List.map_cons, List.filterMap_cons_none (pieceName?_of_allBlank hitem), ih hnames]
  | name hbefore hafter _ ih =>
    obtain ⟨hname, hnames⟩ := List.forall_mem_cons.mp hnames
    rw [List.map_cons, List.filterMap_cons_some (pieceName?_amid_blanks hbefore hafter hname),
      ih hnames]

theorem nameList_intercalate (h : Itemizes items names)
    (hnames : ∀ name ∈ names, IsListed name) : nameList (",".intercalate items) = names := by
  by_cases hitems : items = []
  · subst hitems
    cases h
    rfl
  · have hcommas : ∀ item ∈ items.map String.toList, ',' ∉ item :=
      List.forall_mem_map.mpr (h.comma_notMem hnames)
    have hne : items.map String.toList ≠ [] := mt List.map_eq_nil_iff.mp hitems
    have htext : (",".intercalate items).toList = [','].intercalate (items.map String.toList) :=
      String.toList_intercalate
    rw [nameList_eq, htext, List.splitOn_intercalate ',' hcommas hne]
    exact h.filterMap_pieceName? hnames

/-- A list of blanks only has no names. -/
theorem nameList_of_allBlank {s : String} (h : allBlank s = true) : nameList s = [] := by
  rw [nameList_eq, List.splitOn_eq_singleton (comma_notMem_of_allBlank h),
    List.filterMap_cons_none (pieceName?_of_allBlank h), List.filterMap_nil]

end GridQuery.Settings
