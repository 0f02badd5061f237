import GridQuery.Proofs.Compile.Plan
import Mathlib.Data.List.Nodup

/-!
What a query for groups selects and is sorted by: beside the grouping column everything is computed
over the rows of a group, and every sort key names one column of the result.
-/

namespace GridQuery.Sql

namespace SelectItem

/-- The item has one value for a group, computed over all its rows or over those that meet some
condition. -/
def IsAggregate : SelectItem → Prop
  | aggregate .. => True
  | pivoted _ _ conditions _ => conditions ≠ []
  | _ => False

end SelectItem

namespace SortKey

def name : SortKey → String
  | column c => c.name
  | output o => o.name

/-- The key is the column itself, or the output of an aggregate. -/
def Names : SortKey → SelectItem → Prop
  | column c, i => i = .column c
  | output o, i => ∃ f column, i = .aggregate f column o

end SortKey

end GridQuery.Sql

namespace GridQuery

open GridQuery.Sql

/-- What a sort entry may call the column. -/
def Column.names (c : Column) : List String :=
  [c.id, c.field, c.outputName]

theorem Column.isNamed_eq (c : Column) (name : String) :
    c.isNamed name = decide (name ∈ c.names) := by
  simp [isNamed, names, Bool.beq_eq_decide_eq, Bool.or_assoc]

namespace Request

/-- The entry names the grouping column or a value column. -/
def isSortable (r : Request) (c : Column) (s : SortEntry) : Bool :=
  decide (s.columnId ∈ c.names) || r.valueCols.any fun v => decide (s.columnId ∈ v.names)

/-- The key for an entry: the grouping column if the entry names it, else the output of the first
value column that it names. -/
inductive SortsBy (r : Request) (c : Column) (s : SortEntry) : SortKey → Prop where
  | group {column : Ident} (hnamed : s.columnId ∈ c.names) (hname : column.name = c.field) :
    r.SortsBy c s (.column column)
  | value {v : Column} {output : Ident} (hother : s.columnId ∉ c.names)
    (hfirst : r.valueCols.find? (fun v => decide (s.columnId ∈ v.names)) = some v)
    (hname : output.name = v.outputName) : r.SortsBy c s (.output output)

variable {r : Request} {table : String} {d : Domains} {c : Column} {q : Select}
  {items : List SelectItem}

theorem isAggregate_valueItems (h : eachOf Column.valueItem r.valueCols = .ok items) :
    ∀ i ∈ items, i.IsAggregate := by
  refine forall_mem_eachOf h ?_
  intro v _ i hi
  obtain ⟨f, column, output, -, -, -, rfl⟩ := Column.valueItem_eq_ok_iff.mp hi
  trivial

/-- A combination has a value for each pivot column, and a pivoting request has such columns. -/
theorem isAggregate_comboItems (hp : r.isPivoting = true) {combo : List String}
    (hcombo : combo ∈ r.combos d) (h : r.comboItems combo = .ok items) :
    ∀ i ∈ items, i.IsAggregate := by
  obtain ⟨conditions, hconditions, hitems⟩ := bind_eq_ok_iff.mp h
  have hpos : 0 < r.pivotCols.length := by
    simp only [isPivoting, Bool.and_eq_true, Bool.not_eq_true', List.isEmpty_eq_false_iff] at hp
    exact List.length_pos_iff.mpr hp.1
  have hlength : conditions.length = r.pivotCols.length := by
    rw [length_eachOf hconditions, List.length_zip, Domains.length_of_mem_tuples hcombo,
      Nat.min_self]
  refine forall_mem_eachOf hitems ?_
  intro v _ i hi
  obtain ⟨f, column, output, -, -, -, rfl⟩ := pivotItem_eq_ok_iff.mp hi
  exact List.length_pos_iff.mp (hlength ▸ hpos)

/-- A query for groups consists of the grouping column and aggregates. -/
theorem groupItems_eq_cons {group : Ident} (h : r.groupItems group d = .ok items) :
    ∃ computed, items = .column group :: computed ∧ ∀ i ∈ computed, i.IsAggregate := by
  obtain ⟨values, added, hv, ha, -, rfl⟩ := groupItems_eq_ok_iff.mp h
  refine ⟨values ++ added, rfl, ?_⟩
  intro i hi
  rcases List.mem_append.mp hi with hi | hi
  · exact isAggregate_valueItems hv i hi
  · exact forall_mem_addedItems ha
      (fun hp _ hcombo _ hgroup => isAggregate_comboItems hp hcombo hgroup) i hi

/-- Every value column has its aggregate among the items. -/
theorem exists_aggregate_of_mem {group : Ident} (h : r.groupItems group d = .ok items) {v : Column}
    (hv : v ∈ r.valueCols) :
    ∃ f column output, output.name = v.outputName ∧ .aggregate f column output ∈ items := by
  obtain ⟨values, added, hvalues, -, -, rfl⟩ := groupItems_eq_ok_iff.mp h
  obtain ⟨i, hi, hitem⟩ := exists_of_mem_eachOf hvalues hv
  obtain ⟨f, column, output, -, -, houtput, rfl⟩ := Column.valueItem_eq_ok_iff.mp hitem
  exact ⟨f, column, output, houtput, by simp [hi]⟩

/-- No two items have the same name. -/
theorem filter_named_eq_singleton {group : Ident} (h : r.groupItems group d = .ok items)
    {i : SelectItem} (hi : i ∈ items) :
    items.filter (fun j => j.outputName? == i.outputName?) = [i] := by
  have hnodup : (items.map (·.outputName?)).Nodup := by
    rw [names_groupItems h]
    exact (nodup_groupItems h).map fun _ _ => Option.some.inj
  have hsame : ∀ j ∈ items, (j.outputName? == i.outputName?) = (j == i) := by
    intro j hj
    rw [Bool.eq_iff_iff, beq_iff_eq, beq_iff_eq]
    exact ⟨fun heq => List.inj_on_of_nodup_map hnodup hj hi heq, fun heq => heq ▸ rfl⟩
  rw [List.filter_congr hsame, List.filter_beq, List.count_eq_one_of_mem hnodup.of_map hi]
  rfl

theorem groupSortKey_of_isSortable {s : SortEntry} {o : Option (SortKey × Direction)}
    (hs : r.isSortable c s = true) (h : r.groupSortKey c s = .ok o) :
    ∃ key, o = some key ∧ r.SortsBy c s key.1 ∧ key.2 = s.direction := by
  simp only [groupSortKey, Column.isNamed_eq, decide_eq_true_eq] at h
  split at h
  · next hnamed =>
    simp only [bind_eq_ok_iff, pure_eq_ok_iff, Ident.ofText_eq_ok_iff] at h
    obtain ⟨column, hname, rfl⟩ := h
    exact ⟨_, rfl, .group hnamed hname, rfl⟩
  · next hother =>
    split at h
    · next v hfirst =>
      simp only [bind_eq_ok_iff, pure_eq_ok_iff, Ident.ofText_eq_ok_iff] at h
      obtain ⟨output, hname, rfl⟩ := h
      exact ⟨_, rfl, .value hother hfirst hname, rfl⟩
    · next hnone =>
      -- No column is left that the entry could name.
      have hany : r.valueCols.any (fun v => decide (s.columnId ∈ v.names)) = false := by
        simpa using hnone
      rw [isSortable, decide_eq_false hother, hany] at hs
      cases hs

theorem groupSortKey_of_not_isSortable {s : SortEntry} {o : Option (SortKey × Direction)}
    (hs : r.isSortable c s = false) (h : r.groupSortKey c s = .ok o) : o = none := by
  obtain ⟨hother, hany⟩ := Bool.or_eq_false_iff.mp hs
  have hnone : r.valueCols.find? (fun v => decide (s.columnId ∈ v.names)) = none := by
    simpa using hany
  simp only [groupSortKey, Column.isNamed_eq, hother, hnone] at h
  exact (Except.ok.inj h).symm

/-- The kept entries, in order, with their directions. -/
theorem forall₂_groupOrder {order : List (SortKey × Direction)} (h : r.groupOrder c = .ok order) :
    List.Forall₂ (fun s key => r.SortsBy c s key.1 ∧ key.2 = s.direction)
      (r.sorting.filter (r.isSortable c)) order := by
  obtain ⟨os, hos, horder⟩ := bind_eq_ok_iff.mp h
  obtain rfl := pure_eq_ok_iff.mp horder
  exact forall₂_filterMap_eachOf hos (fun _ _ => groupSortKey_of_isSortable)
    fun _ _ => groupSortKey_of_not_isSortable

theorem forall₂_leafOrder {order : List (SortKey × Direction)} (h : r.leafOrder = .ok order) :
    List.Forall₂ (fun s key => ∃ column, column.name = s.columnId ∧
      key = (.column column, s.direction)) r.sorting order := by
  refine (eachOf_eq_ok_iff.mp h).imp ?_
  intro s key hkey
  simp only [bind_eq_ok_iff, pure_eq_ok_iff, Ident.ofText_eq_ok_iff] at hkey
  obtain ⟨column, hname, rfl⟩ := hkey
  exact ⟨column, hname, rfl⟩

/-- A key names one item and no other. -/
theorem SortsBy.exists_item {s : SortEntry} {key : SortKey} (h : r.SortsBy c s key) {group : Ident}
    (hname : group.name = c.field) (hitems : r.groupItems group d = .ok items) :
    ∃ i, key.Names i ∧ items.filter (fun j => j.outputName? == some key.name) = [i] := by
  cases h with
  | group _ hcolumn =>
    obtain rfl := Ident.eq_of_name (hcolumn.trans hname.symm)
    obtain ⟨computed, hcons, -⟩ := groupItems_eq_cons hitems
    have hmem : .column _ ∈ items := hcons ▸ List.mem_cons_self
    exact ⟨_, rfl, filter_named_eq_singleton hitems hmem⟩
  | value _ hfirst houtput =>
    obtain ⟨f, column, output, hout, hmem⟩ :=
      exists_aggregate_of_mem hitems (List.mem_of_find?_eq_some hfirst)
    obtain rfl := Ident.eq_of_name (hout.trans houtput.symm)
    exact ⟨_, ⟨f, column, rfl⟩, filter_named_eq_singleton hitems hmem⟩

/-- A query for groups is a proper aggregate query, sorted by columns of its result; a query for
rows takes them whole and is sorted as the request says. -/
theorem plan_aggregates (h : r.plan table d = .ok q) :
    (r.isLeaf = false →
      ∃ c group computed, r.rowGroupCols[r.groupKeys.length]? = some c ∧ group.name = c.field ∧
        q.groupBy = some group ∧ q.items = .column group :: computed ∧
        (∀ i ∈ computed, i.IsAggregate) ∧
        List.Forall₂ (fun s key => r.SortsBy c s key.1 ∧ key.2 = s.direction)
          (r.sorting.filter (r.isSortable c)) q.orderBy ∧
        ∀ key ∈ q.orderBy, ∃ i, key.1.Names i ∧
          q.items.filter (fun j => j.outputName? == some key.1.name) = [i]) ∧
    (r.isLeaf = true →
      q.items = [.wildcard] ∧ q.groupBy = none ∧
        List.Forall₂ (fun s key => ∃ column, column.name = s.columnId ∧
          key = (.column column, s.direction)) r.sorting q.orderBy) := by
  obtain ⟨-, hplans⟩ := plan_eq_ok_iff.mp h
  constructor
  · intro hleaf
    obtain ⟨c, hgroup⟩ := exists_groupColumn hleaf
    obtain ⟨group, hname, hby, hitems, horder⟩ := hplans.of_group hgroup
    obtain ⟨computed, hcons, haggregates⟩ := groupItems_eq_cons hitems
    have hkeys := forall₂_groupOrder horder
    refine ⟨c, group, computed, hgroup, hname, hby, hcons, haggregates, hkeys, ?_⟩
    intro key hkey
    obtain ⟨n, hn, rfl⟩ := List.mem_iff_getElem.mp hkey
    have hs := (List.forall₂_iff_get.mp hkeys).2 n (hkeys.length_eq ▸ hn) hn
    exact hs.1.exists_item hname hitems
  · intro hleaf
    obtain ⟨hitems, hby, horder⟩ := hplans.of_leaf hleaf
    exact ⟨hitems, hby, forall₂_leafOrder horder⟩

/-- Medals by sport and year, with entries for a column that is not shown, for value columns by
output name and by field, and for the grouping column by its id. -/
def sortedMedals : Request where
  endRow := 20
  rowGroupCols := [⟨"g", "Sport", "sport", none, .text⟩]
  valueCols := [⟨"v", "total", "gold", some .max, .number⟩,
    ⟨"w", "fewest", "bronze", some .min, .number⟩]
  pivotCols := [⟨"p", "", "year", none, .number⟩]
  sorting := [⟨"athlete", .asc⟩, ⟨"total", .desc⟩, ⟨"bronze", .asc⟩, ⟨"g", .asc⟩]

theorem plan_aggregates_sortedMedals :
    sortedMedals.isLeaf = false ∧
    ∃ q, sortedMedals.plan "medals" (.ofList [("year", ["2012"])]) = .ok q ∧
      (∃ group computed, q.items = .column group :: computed ∧ ∀ i ∈ computed, i.IsAggregate) ∧
      q.orderBy.map (fun key => (key.1.name, key.2)) =
        [("total", .desc), ("fewest", .asc), ("sport", .asc)] ∧
      ∀ key ∈ q.orderBy, ∃ i, key.1.Names i ∧
        q.items.filter (fun j => j.outputName? == some key.1.name) = [i] := by
  obtain ⟨q, hplan, horder⟩ :
      ∃ q, sortedMedals.plan "medals" (.ofList [("year", ["2012"])]) = .ok q ∧
        q.orderBy.map (fun key => (key.1.name, key.2)) =
          [("total", .desc), ("fewest", .asc), ("sport", .asc)] :=
    exists_ok_of_map (by decide +kernel)
  obtain ⟨c, group, computed, -, -, -, hitems, haggregates, -, hnamed⟩ :=
    (plan_aggregates hplan).1 rfl
  exact ⟨rfl, q, hplan, ⟨group, computed, hitems, haggregates⟩, horder, hnamed⟩

end Request

end GridQuery
