import GridQuery.Proofs.Compile.Items
import GridQuery.Response

/-!
The queries that answer a request, and when there is one: a valid request is refused for its pivot
values alone, and only for four reasons.
-/

namespace GridQuery

open GridQuery.Sql

namespace Request

variable {r : Request} {table : String} {d : Domains}

theorem keyPredicate_eq_ok_iff {c : Column} {key : GroupKey} {p : Predicate} :
    keyPredicate c key = .ok p ↔
      ∃ column value, column.name = c.field ∧ key.literal c = .ok value ∧
        p = .compare column .eq value := by
  simp only [keyPredicate, bind_eq_ok_iff, pure_eq_ok_iff, Ident.ofText_eq_ok_iff]
  constructor
  · rintro ⟨column, hcolumn, value, hvalue, rfl⟩
    exact ⟨column, value, hcolumn, hvalue, rfl⟩
  · rintro ⟨column, value, hcolumn, hvalue, rfl⟩
    exact ⟨column, hcolumn, value, hvalue, rfl⟩

/-- The rows themselves, or the groups of one column. -/
inductive Plans (r : Request) (table : String) (d : Domains) : Select → Prop where
  | rows {keys filters : List Predicate} {order : List (SortKey × Direction)} {relation : Relation}
    (hgroup : r.groupColumn? = none) (hkeys : r.keyPredicates = .ok keys)
    (hfilters : r.filterPredicates = .ok filters) (horder : r.leafOrder = .ok order)
    (hrelation : relation.name = table) :
    r.Plans table d ⟨[.wildcard], relation, keys ++ filters, none, order, r.startRow, r.endRow⟩
  | groups {c : Column} {keys filters : List Predicate} {group : Ident} {items : List SelectItem}
    {order : List (SortKey × Direction)} {relation : Relation}
    (hgroup : r.groupColumn? = some c) (hkeys : r.keyPredicates = .ok keys)
    (hfilters : r.filterPredicates = .ok filters) (hname : group.name = c.field)
    (hitems : r.groupItems group d = .ok items) (horder : r.groupOrder c = .ok order)
    (hrelation : relation.name = table) :
    r.Plans table d ⟨items, relation, keys ++ filters, some group, order, r.startRow, r.endRow⟩

theorem plan_eq_ok_iff {q : Select} :
    r.plan table d = .ok q ↔ r.Valid table ∧ r.Plans table d q := by
  rw [← validate_eq_ok_iff, plan]
  simp only [bind_eq_ok_iff]
  constructor
  · rintro ⟨_, hvalid, keys, hkeys, filters, hfilters, h⟩
    refine ⟨hvalid, ?_⟩
    split at h
    · next hgroup =>
      simp only [bind_eq_ok_iff, pure_eq_ok_iff, Relation.ofText_eq_ok_iff] at h
      obtain ⟨order, horder, relation, hrelation, rfl⟩ := h
      exact .rows hgroup hkeys hfilters horder hrelation
    · next c hgroup =>
      simp only [bind_eq_ok_iff, pure_eq_ok_iff, Relation.ofText_eq_ok_iff,
        Ident.ofText_eq_ok_iff] at h
      obtain ⟨group, hname, items, hitems, order, horder, relation, hrelation, rfl⟩ := h
      exact .groups hgroup hkeys hfilters hname hitems horder hrelation
  · rintro ⟨hvalid, h⟩
    cases h with
    | rows hgroup hkeys hfilters horder hrelation =>
      refine ⟨(), hvalid, _, hkeys, _, hfilters, ?_⟩
      simp only [hgroup, bind_eq_ok_iff, pure_eq_ok_iff, Relation.ofText_eq_ok_iff]
      exact ⟨_, horder, _, hrelation, rfl⟩
    | groups hgroup hkeys hfilters hname hitems horder hrelation =>
      refine ⟨(), hvalid, _, hkeys, _, hfilters, ?_⟩
      simp only [hgroup, bind_eq_ok_iff, pure_eq_ok_iff, Relation.ofText_eq_ok_iff,
        Ident.ofText_eq_ok_iff]
      exact ⟨_, hname, _, hitems, _, horder, _, hrelation, rfl⟩

namespace Plans

variable {q : Select}

theorem of_group (h : r.Plans table d q) {c : Column} (hgroup : r.groupColumn? = some c) :
    ∃ group, group.name = c.field ∧ q.groupBy = some group ∧
      r.groupItems group d = .ok q.items ∧ r.groupOrder c = .ok q.orderBy := by
  cases h with
  | rows hrows =>
    rw [hgroup] at hrows
    cases hrows
  | groups hgroups _ _ hname hitems horder =>
    obtain rfl := Option.some.inj (hgroup.symm.trans hgroups)
    exact ⟨_, hname, rfl, hitems, horder⟩

theorem of_leaf (h : r.Plans table d q) (hleaf : r.isLeaf = true) :
    q.items = [.wildcard] ∧ q.groupBy = none ∧ r.leafOrder = .ok q.orderBy := by
  cases h with
  | rows _ _ _ horder => exact ⟨rfl, rfl, horder⟩
  | groups hgroup =>
    rw [(groupColumn?_eq_none_iff r).mpr hleaf] at hgroup
    cases hgroup

end Plans

theorem isLeaf_eq_false_of_groupColumn? {c : Column} (h : r.groupColumn? = some c) :
    r.isLeaf = false := by
  cases hleaf : r.isLeaf with
  | false => rfl
  | true =>
    rw [(groupColumn?_eq_none_iff r).mpr hleaf] at h
    cases h

theorem mem_of_groupColumn? {c : Column} (h : r.groupColumn? = some c) : c ∈ r.rowGroupCols :=
  List.mem_of_getElem? h

theorem isPivoting_eq_false_of_isLeaf (h : r.isLeaf = true) : r.isPivoting = false := by
  simp [isPivoting, h]

theorem exists_groupColumn (h : r.isLeaf = false) : ∃ c, r.groupColumn? = some c := by
  rw [← Option.isSome_iff_exists, Option.isSome_iff_ne_none, ne_eq, groupColumn?_eq_none_iff, h]
  exact Bool.false_ne_true

namespace Valid

theorem plainSort (h : r.Valid table) (hleaf : r.isLeaf = true) :
    ∀ s ∈ r.sorting, isPlainName s.columnId.toList = true := by
  have hlevel := h.level
  rwa [LevelFits, if_pos hleaf] at hlevel

theorem valueColumn (h : r.Valid table) (hleaf : r.isLeaf = false) :
    ∀ c ∈ r.valueCols, isPlainName c.outputName.toList = true ∧ c.aggregate.isSome = true := by
  have hlevel := h.level
  rwa [LevelFits, if_neg (by simp [hleaf])] at hlevel

theorem succeeds_leafOrder (h : r.Valid table) (hleaf : r.isLeaf = true) :
    Succeeds r.leafOrder := by
  simp only [leafOrder, succeeds_eachOf, succeeds_bind, succeeds_pure, and_true, exists_eq_ok,
    Ident.succeeds_ofText]
  exact h.plainSort hleaf

theorem succeeds_groupOrder (h : r.Valid table) {c : Column} (hgroup : r.groupColumn? = some c) :
    Succeeds (r.groupOrder c) := by
  have hfield : isPlainName c.field.toList = true :=
    h.fields c (by simp [mem_of_groupColumn? hgroup])
  have hvalues := h.valueColumn (isLeaf_eq_false_of_groupColumn? hgroup)
  simp only [groupOrder, succeeds_bind, succeeds_pure, and_true, exists_eq_ok, succeeds_eachOf]
  intro s _
  unfold groupSortKey
  split
  · simpa only [succeeds_bind, succeeds_pure, and_true, exists_eq_ok, Ident.succeeds_ofText]
  · split
    · next v hv =>
      have houtput := (hvalues v (List.mem_of_find?_eq_some hv)).1
      simpa only [succeeds_bind, succeeds_pure, and_true, exists_eq_ok, Ident.succeeds_ofText]
    · exact succeeds_ok none

theorem succeeds_valueItem (h : r.Valid table) (hleaf : r.isLeaf = false) :
    ∀ c ∈ r.valueCols, Succeeds c.valueItem := by
  intro c hc
  obtain ⟨houtput, haggregate⟩ := h.valueColumn hleaf c hc
  exact Column.succeeds_valueItem.mpr ⟨haggregate, h.fields c (by simp [hc]), houtput⟩

end Valid

/-- What the pivot values of a pivoting request have to be like. -/
structure PivotsFit (r : Request) (d : Domains) : Prop where
  cover : d.Cover r.pivotCols
  /-- A column of numbers has values that can be read as numbers. -/
  numbers : ∀ combo ∈ r.combos d, ∀ p ∈ r.pivotCols.zip combo,
    p.1.type = .number → (Literal.parseNumber? p.2).isSome = true
  /-- The name of every pivoted column can stand in a query. -/
  quotable : ∀ combo ∈ r.combos d, ∀ v ∈ r.valueCols,
    Succeeds (Alias.ofText (pivotName combo v.outputName))
  /-- No two columns have the same name. -/
  distinct : ∀ c, r.groupColumn? = some c →
    (c.field :: r.valueCols.map (·.outputName) ++
      (r.combos d).flatMap fun combo => r.valueCols.map fun v => pivotName combo v.outputName).Nodup

theorem Valid.succeeds_comboItems_iff (h : r.Valid table) (hleaf : r.isLeaf = false)
    {combo : List String} :
    Succeeds (r.comboItems combo) ↔
      (∀ p ∈ r.pivotCols.zip combo, p.1.type = .number →
        (Literal.parseNumber? p.2).isSome = true) ∧
      ∀ v ∈ r.valueCols, Succeeds (Alias.ofText (pivotName combo v.outputName)) := by
  have hcondition : ∀ p ∈ r.pivotCols.zip combo, Succeeds (pivotCondition p.1 p.2) ↔
      (p.1.type = .number → (Literal.parseNumber? p.2).isSome = true) := by
    intro p hp
    have hfield := h.fields p.1 (by simp [(List.of_mem_zip hp).1])
    rw [succeeds_pivotCondition, hfield, eq_self, true_and]
  have hitem : ∀ v ∈ r.valueCols, Succeeds (pivotItem [] combo v) ↔
      Succeeds (Alias.ofText (pivotName combo v.outputName)) := by
    intro v hv
    have hfield := h.fields v (by simp [hv])
    rw [succeeds_pivotItem, (h.valueColumn hleaf v hv).2, hfield, eq_self, true_and, true_and]
  rw [succeeds_comboItems]
  exact and_congr (forall₂_congr hcondition) (forall₂_congr hitem)

theorem secondaryColumns_of_cover (hp : r.isPivoting = true) (hc : d.Cover r.pivotCols) :
    r.secondaryColumns d =
      (r.combos d).flatMap fun combo => r.valueCols.map fun v => pivotName combo v.outputName := by
  rw [secondaryColumns, if_pos hp, Domains.combinations?_eq_some_iff.mpr ⟨hc, rfl⟩]
  rfl

theorem Valid.nodup_groupNames (h : r.Valid table) {c : Column} (hgroup : r.groupColumn? = some c)
    (hp : r.isPivoting = false) : (r.groupNames c.field d).Nodup := by
  have hmem : c.field ∈ r.rowGroupCols.map (·.field) :=
    List.mem_map_of_mem (mem_of_groupColumn? hgroup)
  have hsub : (c.field :: r.valueCols.map (·.outputName)).Sublist r.outputNames :=
    (List.singleton_sublist.mpr hmem).append (List.Sublist.refl _)
  rw [groupNames, secondaryColumns, hp, if_neg Bool.false_ne_true, List.append_nil]
  exact h.names.sublist hsub

/-- Once a request for groups is valid, only its pivot values can spoil the items. -/
theorem Valid.succeeds_groupItems_iff (h : r.Valid table) {c : Column} {group : Ident}
    (hgroup : r.groupColumn? = some c) (hname : group.name = c.field) :
    Succeeds (r.groupItems group d) ↔ (r.isPivoting = true → r.PivotsFit d) := by
  have hleaf := isLeaf_eq_false_of_groupColumn? hgroup
  rw [succeeds_groupItems, and_iff_right (h.succeeds_valueItem hleaf), hname]
  cases hp : r.isPivoting with
  | false =>
    have hnames := h.nodup_groupNames hgroup hp (d := d)
    simp [hnames]
  | true =>
    simp only [forall_const, succeeds_pivotItems, h.succeeds_comboItems_iff hleaf]
    constructor
    · rintro ⟨⟨hcover, hcombos⟩, hnodup⟩
      refine ⟨hcover, fun combo hc => (hcombos combo hc).1,
        fun combo hc => (hcombos combo hc).2, ?_⟩
      intro c' hc'
      rw [groupNames, secondaryColumns_of_cover hp hcover] at hnodup
      obtain rfl : c = c' := Option.some.inj (hgroup.symm.trans hc')
      exact hnodup
    · intro hfit
      refine ⟨⟨hfit.cover, fun combo hc => ⟨hfit.numbers combo hc, hfit.quotable combo hc⟩⟩, ?_⟩
      rw [groupNames, secondaryColumns_of_cover hp hfit.cover]
      exact hfit.distinct c hgroup

theorem Valid.exists_plans_iff (h : r.Valid table) :
    (∃ q, r.Plans table d q) ↔ (r.isPivoting = true → r.PivotsFit d) := by
  obtain ⟨keys, hkeys⟩ := h.keys
  obtain ⟨filters, hfilters⟩ := h.filters
  obtain ⟨relation, hrelation⟩ : ∃ x : Relation, x.name = table := ⟨⟨table, h.relation⟩, rfl⟩
  cases hgroup : r.groupColumn? with
  | none =>
    have hleaf := (groupColumn?_eq_none_iff r).mp hgroup
    obtain ⟨order, horder⟩ := h.succeeds_leafOrder hleaf
    refine iff_of_true ?_ (by simp [isPivoting_eq_false_of_isLeaf hleaf])
    exact ⟨_, .rows hgroup hkeys hfilters horder hrelation⟩
  | some c =>
    obtain ⟨group, hname⟩ : ∃ x : Ident, x.name = c.field :=
      ⟨⟨c.field, h.fields c (by simp [mem_of_groupColumn? hgroup])⟩, rfl⟩
    obtain ⟨order, horder⟩ := h.succeeds_groupOrder hgroup
    rw [← h.succeeds_groupItems_iff hgroup hname]
    constructor
    · rintro ⟨q, hq⟩
      obtain ⟨group', hname', -, hitems, -⟩ := hq.of_group hgroup
      obtain rfl := Ident.eq_of_name (hname.trans hname'.symm)
      exact ⟨q.items, hitems⟩
    · rintro ⟨items, hitems⟩
      exact ⟨_, .groups hgroup hkeys hfilters hname hitems horder hrelation⟩

/-- A request has a query exactly if it is valid and, when it is pivoting, its pivot values fit. -/
theorem plan_succeeds_iff (r : Request) (table : String) :
    (∀ d, (∃ q, r.plan table d = .ok q) ↔
      r.validate table = .ok () ∧ (r.isPivoting = true → r.PivotsFit d)) ∧
    (r.isPivoting = false → r.validate table = .ok () → ∀ d, ∃ q, r.plan table d = .ok q) := by
  have hiff (d : Domains) : (∃ q, r.plan table d = .ok q) ↔
      r.validate table = .ok () ∧ (r.isPivoting = true → r.PivotsFit d) := by
    simp only [plan_eq_ok_iff, validate_eq_ok_iff, exists_and_left]
    exact and_congr_right fun hvalid => hvalid.exists_plans_iff
  refine ⟨hiff, ?_⟩
  intro hp hvalid d
  exact (hiff d).mpr ⟨hvalid, by simp [hp]⟩

/-- The rows of a query for groups hold exactly the columns that the response goes by, each once. A
query for rows takes them as they are, and then the response goes by no pivoted columns. -/
theorem names_of_plan (r : Request) (table : String) (d : Domains) (rows : List Row) :
    (∀ q, r.isLeaf = false → r.plan table d = .ok q →
      ∃ c, r.rowGroupCols[r.groupKeys.length]? = some c ∧
        q.items.map (·.outputName?) =
          (c.field :: r.valueCols.map (·.outputName) ++
            (Response.build r rows d).secondaryColumns).map some ∧
        (c.field :: r.valueCols.map (·.outputName) ++
          (Response.build r rows d).secondaryColumns).Nodup) ∧
    (r.isLeaf = true →
      (Response.build r rows d).secondaryColumns = [] ∧
        ∀ q, r.plan table d = .ok q → q.items = [.wildcard]) := by
  constructor
  · intro q hleaf hq
    obtain ⟨c, hgroup⟩ := exists_groupColumn hleaf
    obtain ⟨group, hname, -, hitems, -⟩ := (plan_eq_ok_iff.mp hq).2.of_group hgroup
    have hnames := names_groupItems hitems
    have hnodup := nodup_groupItems hitems
    rw [hname] at hnames hnodup
    exact ⟨c, hgroup, hnames, hnodup⟩
  · intro hleaf
    refine ⟨by simp [Response.build, secondaryColumns, isPivoting_eq_false_of_isLeaf hleaf], ?_⟩
    intro q hq
    exact ((plan_eq_ok_iff.mp hq).2.of_leaf hleaf).1

/-- Medals of the countries, in all and by year. -/
def medalsByYear : Request where
  endRow := 10
  rowGroupCols := [⟨"c", "Country", "country", none, .text⟩]
  valueCols := [⟨"g", "", "gold", some .sum, .number⟩, ⟨"s", "best", "silver", some .max, .number⟩]
  pivotCols := [⟨"y", "", "year", none, .number⟩]

theorem names_of_plan_medalsByYear :
    medalsByYear.isLeaf = false ∧
      ∃ q, medalsByYear.plan "medals" (.ofList [("year", ["2008", "2012"])]) = .ok q ∧
        (Response.build medalsByYear [] (.ofList [("year", ["2008", "2012"])])).secondaryColumns =
          ["2008_gold", "2008_best", "2012_gold", "2012_best"] ∧
        q.items.map (·.outputName?) = [some "country", some "gold", some "best",
          some "2008_gold", some "2008_best", some "2012_gold", some "2012_best"] := by
  obtain ⟨q, hplan⟩ :
      Succeeds (medalsByYear.plan "medals" (.ofList [("year", ["2008", "2012"])])) :=
    succeeds_of_isOk (by decide +kernel)
  have hsecondary : (Response.build medalsByYear []
      (.ofList [("year", ["2008", "2012"])])).secondaryColumns =
        ["2008_gold", "2008_best", "2012_gold", "2012_best"] := by
    decide +kernel
  obtain ⟨c, hgroup, hnames, -⟩ := (names_of_plan medalsByYear _ _ []).1 q rfl hplan
  obtain rfl := Option.some.inj hgroup
  rw [hsecondary] at hnames
  exact ⟨rfl, q, hplan, hsecondary, hnames⟩

end Request

end GridQuery
