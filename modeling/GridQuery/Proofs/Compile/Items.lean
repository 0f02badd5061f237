import GridQuery.Proofs.Compile.Validity
import GridQuery.Proofs.Pivot.Product

/-!
The items of a query for groups: what each of them is made of, when they exist, and under which
names.
-/

namespace GridQuery

open GridQuery.Sql

namespace Column

theorem requireAggregate_eq_ok_iff {c : Column} {f : Aggregate} :
    c.requireAggregate = .ok f ↔ c.aggregate = some f := by
  unfold requireAggregate
  split <;> simp_all

theorem valueItem_eq_ok_iff {c : Column} {i : SelectItem} :
    c.valueItem = .ok i ↔
      ∃ f column output, c.aggregate = some f ∧ column.name = c.field ∧
        output.name = c.outputName ∧ i = .aggregate f column output := by
  simp only [valueItem, bind_eq_ok_iff, pure_eq_ok_iff, requireAggregate_eq_ok_iff,
    Ident.ofText_eq_ok_iff]
  constructor
  · rintro ⟨f, hf, column, hcolumn, output, houtput, rfl⟩
    exact ⟨f, column, output, hf, hcolumn, houtput, rfl⟩
  · rintro ⟨f, column, output, hf, hcolumn, houtput, rfl⟩
    exact ⟨f, hf, column, hcolumn, output, houtput, rfl⟩

theorem succeeds_valueItem {c : Column} :
    Succeeds c.valueItem ↔
      c.aggregate.isSome = true ∧ isPlainName c.field.toList = true ∧
        isPlainName c.outputName.toList = true := by
  simp only [valueItem, succeeds_bind, succeeds_pure, and_true, exists_and_right, exists_eq_ok,
    succeeds_requireAggregate, Ident.succeeds_ofText]

end Column

namespace Request

theorem pivotItem_eq_ok_iff {conditions : List (Ident × Literal)} {combo : List String}
    {c : Column} {i : SelectItem} :
    pivotItem conditions combo c = .ok i ↔
      ∃ f column output, c.aggregate = some f ∧ column.name = c.field ∧
        output.name = pivotName combo c.outputName ∧ i = .pivoted f column conditions output := by
  simp only [pivotItem, bind_eq_ok_iff, pure_eq_ok_iff, Column.requireAggregate_eq_ok_iff,
    Ident.ofText_eq_ok_iff, Alias.ofText_eq_ok_iff]
  constructor
  · rintro ⟨f, hf, column, hcolumn, output, houtput, rfl⟩
    exact ⟨f, column, output, hf, hcolumn, houtput, rfl⟩
  · rintro ⟨f, column, output, hf, hcolumn, houtput, rfl⟩
    exact ⟨f, hf, column, hcolumn, output, houtput, rfl⟩

theorem succeeds_pivotItem {conditions : List (Ident × Literal)} {combo : List String}
    {c : Column} :
    Succeeds (pivotItem conditions combo c) ↔
      c.aggregate.isSome = true ∧ isPlainName c.field.toList = true ∧
        Succeeds (Alias.ofText (pivotName combo c.outputName)) := by
  simp only [pivotItem, succeeds_bind, succeeds_pure, and_true, exists_and_right, exists_eq_ok,
    Column.succeeds_requireAggregate, Ident.succeeds_ofText]

theorem pivotCondition_eq_ok_iff {c : Column} {v : String} {p : Ident × Literal} :
    pivotCondition c v = .ok p ↔ p.1.name = c.field ∧ (GroupKey.text v).literal c = .ok p.2 := by
  obtain ⟨column, value⟩ := p
  simp only [pivotCondition, bind_eq_ok_iff, pure_eq_ok_iff, Ident.ofText_eq_ok_iff,
    Prod.mk.injEq]
  constructor
  · rintro ⟨column, hcolumn, value, hvalue, rfl, rfl⟩
    exact ⟨hcolumn, hvalue⟩
  · rintro ⟨hcolumn, hvalue⟩
    exact ⟨column, hcolumn, value, hvalue, rfl, rfl⟩

theorem succeeds_pivotCondition {c : Column} {v : String} :
    Succeeds (pivotCondition c v) ↔
      isPlainName c.field.toList = true ∧
        (c.type = .number → (Literal.parseNumber? v).isSome = true) := by
  simp only [pivotCondition, succeeds_bind, succeeds_pure, and_true, exists_and_right,
    exists_eq_ok, Ident.succeeds_ofText, GroupKey.succeeds_literal_text]

variable {r : Request} {d : Domains}

theorem succeeds_comboItems {combo : List String} :
    Succeeds (r.comboItems combo) ↔
      (∀ p ∈ r.pivotCols.zip combo, Succeeds (pivotCondition p.1 p.2)) ∧
        ∀ c ∈ r.valueCols, Succeeds (pivotItem [] combo c) := by
  simp only [comboItems, succeeds_bind, succeeds_eachOf, succeeds_pivotItem, exists_and_right,
    exists_eq_ok]

/-- The combinations of the values of the request's pivot columns. -/
def combos (r : Request) (d : Domains) : List (List String) :=
  tuples (r.pivotCols.map d.values)

theorem pivotItems_eq_ok_iff {items : List SelectItem} :
    r.pivotItems d = .ok items ↔
      d.Cover r.pivotCols ∧
        ∃ groups, eachOf r.comboItems (r.combos d) = .ok groups ∧ items = groups.flatten := by
  unfold pivotItems
  split
  · next h =>
    refine iff_of_false (by simp) ?_
    rintro ⟨hcover, -⟩
    rw [Domains.combinations?_eq_some_iff.mpr ⟨hcover, rfl⟩] at h
    cases h
  · next combos h =>
    obtain ⟨hcover, rfl⟩ := Domains.combinations?_eq_some_iff.mp h
    simp only [bind_eq_ok_iff, pure_eq_ok_iff, hcover, true_and]
    exact exists_congr fun groups => and_congr_right fun _ => eq_comm

theorem succeeds_pivotItems :
    Succeeds (r.pivotItems d) ↔
      d.Cover r.pivotCols ∧ ∀ combo ∈ r.combos d, Succeeds (r.comboItems combo) := by
  rw [← succeeds_eachOf]
  constructor
  · rintro ⟨items, hitems⟩
    obtain ⟨hcover, groups, hgroups, -⟩ := pivotItems_eq_ok_iff.mp hitems
    exact ⟨hcover, groups, hgroups⟩
  · rintro ⟨hcover, groups, hgroups⟩
    exact ⟨_, pivotItems_eq_ok_iff.mpr ⟨hcover, groups, hgroups, rfl⟩⟩

theorem names_comboItems {combo : List String} {items : List SelectItem}
    (h : r.comboItems combo = .ok items) :
    items.map (·.outputName?) =
      r.valueCols.map fun c => some (pivotName combo c.outputName) := by
  obtain ⟨conditions, -, hitems⟩ := bind_eq_ok_iff.mp h
  refine map_eachOf hitems ?_
  intro c _ i hi
  obtain ⟨f, column, output, -, -, houtput, rfl⟩ := pivotItem_eq_ok_iff.mp hi
  exact congrArg some houtput

/-- The names in the query are those announced to the grid. -/
theorem names_pivotItems {items : List SelectItem} (hp : r.isPivoting = true)
    (h : r.pivotItems d = .ok items) :
    items.map (·.outputName?) = (r.secondaryColumns d).map some := by
  obtain ⟨hcover, groups, hgroups, rfl⟩ := pivotItems_eq_ok_iff.mp h
  have hnames := map_eachOf hgroups fun combo _ items hi => names_comboItems hi
  rw [List.map_flatten, hnames, secondaryColumns, if_pos hp,
    Domains.combinations?_eq_some_iff.mpr ⟨hcover, rfl⟩, ← List.flatMap_def, List.map_flatMap]
  simp only [List.map_map, Function.comp_def]
  rfl

/-- The names in the rows of a query for groups. -/
def groupNames (r : Request) (group : String) (d : Domains) : List String :=
  group :: r.valueCols.map (·.outputName) ++ r.secondaryColumns d

/-- The items that a query for groups adds when it is pivoting. -/
def addedItems (r : Request) (d : Domains) : Except QueryError (List SelectItem) :=
  if r.isPivoting then r.pivotItems d else .ok []

theorem succeeds_addedItems :
    Succeeds (r.addedItems d) ↔ (r.isPivoting = true → Succeeds (r.pivotItems d)) := by
  unfold addedItems
  split <;> simp_all

theorem forall_mem_addedItems {items : List SelectItem} (h : r.addedItems d = .ok items)
    {P : SelectItem → Prop}
    (hcombo : r.isPivoting = true → ∀ combo ∈ r.combos d, ∀ group,
      r.comboItems combo = .ok group → ∀ i ∈ group, P i) :
    ∀ i ∈ items, P i := by
  unfold addedItems at h
  split at h
  · next hp =>
    obtain ⟨-, groups, hgroups, rfl⟩ := pivotItems_eq_ok_iff.mp h
    intro i hi
    obtain ⟨group, hgroup, hi⟩ := List.mem_flatten.mp hi
    exact forall_mem_eachOf hgroups (hcombo hp) group hgroup i hi
  · cases h
    simp

theorem names_addedItems {items : List SelectItem} (h : r.addedItems d = .ok items) :
    items.map (·.outputName?) = (r.secondaryColumns d).map some := by
  unfold addedItems at h
  split at h
  · next hp => exact names_pivotItems hp h
  · next hp =>
    cases h
    simp [secondaryColumns, hp]

theorem names_valueItems {items : List SelectItem}
    (h : eachOf Column.valueItem r.valueCols = .ok items) :
    items.map (·.outputName?) = r.valueCols.map fun c => some c.outputName := by
  refine map_eachOf h ?_
  intro c _ i hi
  obtain ⟨f, column, output, -, -, houtput, rfl⟩ := Column.valueItem_eq_ok_iff.mp hi
  exact congrArg some houtput

theorem names_groupParts {group : Ident} {values added : List SelectItem}
    (hv : eachOf Column.valueItem r.valueCols = .ok values) (ha : r.addedItems d = .ok added) :
    (SelectItem.column group :: values ++ added).map (·.outputName?) =
      (r.groupNames group.name d).map some := by
  rw [List.cons_append, List.map_cons, List.map_append, names_valueItems hv, names_addedItems ha,
    groupNames, List.cons_append, List.map_cons, List.map_append, List.map_map]
  rfl

theorem groupItems_eq (group : Ident) :
    r.groupItems group d = (do
      let values ← eachOf Column.valueItem r.valueCols
      let added ← r.addedItems d
      let items := .column group :: values ++ added
      checkDistinct (items.filterMap (·.outputName?))
      return items) := by
  unfold groupItems addedItems
  cases r.isPivoting <;> rfl

theorem groupItems_eq_ok_iff {group : Ident} {items : List SelectItem} :
    r.groupItems group d = .ok items ↔
      ∃ values added, eachOf Column.valueItem r.valueCols = .ok values ∧
        r.addedItems d = .ok added ∧ (r.groupNames group.name d).Nodup ∧
        items = .column group :: values ++ added := by
  have hnames {values added : List SelectItem}
      (hv : eachOf Column.valueItem r.valueCols = .ok values) (ha : r.addedItems d = .ok added) :
      (SelectItem.column group :: values ++ added).filterMap (·.outputName?) =
        r.groupNames group.name d := by
    have hmap := congrArg (List.filterMap id) (@names_groupParts r d group _ _ hv ha)
    rw [List.filterMap_map, List.filterMap_map] at hmap
    simpa only [Function.id_comp, List.filterMap_some] using hmap
  simp only [groupItems_eq, bind_eq_ok_iff, pure_eq_ok_iff]
  constructor
  · rintro ⟨values, hv, added, ha, _, hnodup, rfl⟩
    rw [hnames hv ha] at hnodup
    exact ⟨values, added, hv, ha, checkDistinct_eq_ok_iff.mp hnodup, rfl⟩
  · rintro ⟨values, added, hv, ha, hnodup, rfl⟩
    rw [← hnames hv ha] at hnodup
    exact ⟨values, hv, added, ha, (), checkDistinct_eq_ok_iff.mpr hnodup, rfl⟩

theorem succeeds_groupItems {group : Ident} :
    Succeeds (r.groupItems group d) ↔
      (∀ c ∈ r.valueCols, Succeeds c.valueItem) ∧
        (r.isPivoting = true → Succeeds (r.pivotItems d)) ∧ (r.groupNames group.name d).Nodup := by
  rw [← succeeds_eachOf, ← succeeds_addedItems]
  constructor
  · rintro ⟨items, hitems⟩
    obtain ⟨values, added, hv, ha, hnodup, -⟩ := groupItems_eq_ok_iff.mp hitems
    exact ⟨⟨values, hv⟩, ⟨added, ha⟩, hnodup⟩
  · rintro ⟨⟨values, hv⟩, ⟨added, ha⟩, hnodup⟩
    exact ⟨_, groupItems_eq_ok_iff.mpr ⟨values, added, hv, ha, hnodup, rfl⟩⟩

theorem names_groupItems {group : Ident} {items : List SelectItem}
    (h : r.groupItems group d = .ok items) :
    items.map (·.outputName?) = (r.groupNames group.name d).map some := by
  obtain ⟨values, added, hv, ha, -, rfl⟩ := groupItems_eq_ok_iff.mp h
  exact names_groupParts hv ha

theorem nodup_groupItems {group : Ident} {items : List SelectItem}
    (h : r.groupItems group d = .ok items) : (r.groupNames group.name d).Nodup := by
  obtain ⟨values, added, -, -, hnodup, -⟩ := groupItems_eq_ok_iff.mp h
  exact hnodup

end Request

end GridQuery
