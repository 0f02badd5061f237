import GridQuery.Proofs.Compile.Text
import Mathlib.Data.List.Nodup

/-!
The names under which a database gives out the columns of a query. An output is quoted wherever
folding would change it, but a grouping column is always written bare.
-/

namespace GridQuery.Sql

namespace Dialect

variable {d : Dialect} {name : String}

/-- What becomes of a bare name. -/
def foldName (d : Dialect) (name : String) : String :=
  if d.foldsCase then Text.lowerAscii name else name

/-- The column that a token names. -/
def columnName? (d : Dialect) : Token → Option String
  | .word name => some (d.foldName name)
  | .quoted name => some name
  | _ => none

theorem toLower_of_not_capital {c : Char} (h : isUpperAscii c = false) : c.toLower = c := by
  refine dif_neg ?_
  simpa [isUpperAscii, Char.le_def, UInt32.le_iff_toNat_le] using h

theorem foldName_of_no_capital (h : d.foldsCase = true → name.toList.any isUpperAscii = false) :
    d.foldName name = name := by
  unfold foldName
  split
  · next hfold =>
    have hsame : ∀ c ∈ name.toList, c.toLower = id c := fun c hc =>
      toLower_of_not_capital (by simpa using List.any_eq_false.mp (h hfold) c hc)
    rw [Text.lowerAscii, ← String.toList_inj, String.toList_map, List.map_congr_left hsame,
      List.map_id]
  · rfl

theorem foldName_of_isBare (h : d.isBare name = true) : d.foldName name = name := by
  apply foldName_of_no_capital
  intro hfold
  simpa [hfold] using (Bool.and_eq_true_iff.mp h).2

/-- An output comes back under its own name. -/
theorem columnName?_nameToken (d : Dialect) (name : String) :
    d.columnName? (d.nameToken name) = some name := by
  unfold nameToken
  split
  · next hbare => exact congrArg some (foldName_of_isBare hbare)
  · rfl

end Dialect

namespace SelectItem

/-- An item ends in the name of its column or of its output; the wildcard has none. -/
def returnedName? (d : Dialect) (i : SelectItem) : Option String :=
  (i.tokens d).getLast?.bind d.columnName?

/-- The item is computed, so that its name is an output. -/
def isComputed : SelectItem → Bool
  | aggregate .. => true
  | pivoted .. => true
  | _ => false

theorem returnedName?_column (d : Dialect) (c : Ident) :
    (column c).returnedName? d = some (d.foldName c.name) := rfl

theorem returnedName?_of_isComputed (d : Dialect) {i : SelectItem} (h : i.isComputed = true) :
    i.returnedName? d = i.outputName? := by
  cases i with
  | wildcard => cases h
  | column c => cases h
  | aggregate f c output => exact Dialect.columnName?_nameToken d output.name
  | pivoted f c conditions output =>
    rw [returnedName?, tokens, List.getLast?_append_of_ne_nil _ (by simp)]
    exact Dialect.columnName?_nameToken d output.name

end SelectItem

end GridQuery.Sql

namespace GridQuery

open GridQuery.Sql

namespace Request

variable {r : Request} {table : String} {d : Domains} {items : List SelectItem}

theorem isComputed_valueItems (h : eachOf Column.valueItem r.valueCols = .ok items) :
    ∀ i ∈ items, i.isComputed = true := by
  refine forall_mem_eachOf h ?_
  intro c _ i hi
  obtain ⟨f, column, output, -, -, -, rfl⟩ := Column.valueItem_eq_ok_iff.mp hi
  rfl

theorem isComputed_comboItems {combo : List String} (h : r.comboItems combo = .ok items) :
    ∀ i ∈ items, i.isComputed = true := by
  obtain ⟨conditions, -, hitems⟩ := bind_eq_ok_iff.mp h
  refine forall_mem_eachOf hitems ?_
  intro c _ i hi
  obtain ⟨f, column, output, -, -, -, rfl⟩ := pivotItem_eq_ok_iff.mp hi
  rfl

theorem isComputed_addedItems (h : r.addedItems d = .ok items) :
    ∀ i ∈ items, i.isComputed = true :=
  forall_mem_addedItems h fun _ _ _ _ => isComputed_comboItems

/-- Only the grouping column may come back under a name other than its own. -/
theorem returnedNames_groupItems (dialect : Dialect) {group : Ident}
    (h : r.groupItems group d = .ok items) :
    items.map (·.returnedName? dialect) =
      (dialect.foldName group.name :: r.valueCols.map (·.outputName) ++
        r.secondaryColumns d).map some := by
  obtain ⟨values, added, hv, ha, -, rfl⟩ := groupItems_eq_ok_iff.mp h
  have hvalues : values.map (·.returnedName? dialect) = values.map (·.outputName?) :=
    List.map_congr_left fun i hi =>
      SelectItem.returnedName?_of_isComputed dialect (isComputed_valueItems hv i hi)
  have hadded : added.map (·.returnedName? dialect) = added.map (·.outputName?) :=
    List.map_congr_left fun i hi =>
      SelectItem.returnedName?_of_isComputed dialect (isComputed_addedItems ha i hi)
  rw [List.cons_append, List.map_cons, List.map_append, hvalues, hadded, names_valueItems hv,
    names_addedItems ha, SelectItem.returnedName?_column, List.cons_append, List.map_cons,
    List.map_append, List.map_map]
  rfl

theorem returnedNames_plan (dialect : Dialect) {c : Column} {q : Select}
    (h : r.plan table d = .ok q) (hgroup : r.groupColumn? = some c) :
    q.items.map (·.returnedName? dialect) =
      (dialect.foldName c.field :: r.valueCols.map (·.outputName) ++
        r.secondaryColumns d).map some := by
  obtain ⟨group, hname, -, hitems, -⟩ := (plan_eq_ok_iff.mp h).2.of_group hgroup
  rw [← hname]
  exact returnedNames_groupItems dialect hitems

/-- A bare grouping column loses its capital letters on the way through a database that folds
case, and may then stand under the name of an output; no two names fall together otherwise. -/
theorem returnedNames_nodup_iff (dialect : Dialect) {c : Column} {q : Select}
    (h : r.plan table d = .ok q) (hgroup : r.groupColumn? = some c) :
    ((q.items.map (·.returnedName? dialect)).Nodup ↔
        dialect.foldName c.field ∉ r.valueCols.map (·.outputName) ++ r.secondaryColumns d) ∧
      ((dialect.foldsCase = true → c.field.toList.any Dialect.isUpperAscii = false) →
        (q.items.map (·.returnedName? dialect)).Nodup) ∧
      (dialect.QuotesNames → ∀ i ∈ q.items,
        lex dialect (i.render dialect).toList = some (i.tokens dialect)) := by
  obtain ⟨group, hname, -, hitems, -⟩ := (plan_eq_ok_iff.mp h).2.of_group hgroup
  have hdistinct := nodup_groupItems hitems
  rw [hname, groupNames, List.cons_append, List.nodup_cons] at hdistinct
  have hiff : (q.items.map (·.returnedName? dialect)).Nodup ↔
      dialect.foldName c.field ∉ r.valueCols.map (·.outputName) ++ r.secondaryColumns d := by
    rw [returnedNames_plan dialect h hgroup, List.nodup_map_iff fun _ _ => Option.some.inj,
      List.cons_append, List.nodup_cons, and_iff_left hdistinct.2]
  refine ⟨hiff, ?_, ?_⟩
  · intro hlower
    rw [hiff, Dialect.foldName_of_no_capital hlower]
    exact hdistinct.1
  · intro hq i hi
    have hread := SelectItem.reads hq i (fun l hl => isWritten_plan h l
      (List.mem_append_left _ (List.mem_flatMap.mpr ⟨i, hi, hl⟩))) [] (stops_nil _)
    simpa [lex_nil] using hread

/-- Sales of the cities, by year. -/
def citySales : Request where
  endRow := 10
  rowGroupCols := [⟨"g", "", "city", none, .text⟩]
  valueCols := [⟨"v", "Total", "sales", some .sum, .number⟩]
  pivotCols := [⟨"p", "", "year", none, .number⟩]

theorem returnedNames_citySales :
    ∃ q, citySales.plan "orders" (.ofList [("year", ["2024"])]) = .ok q ∧
      q.items.map (·.returnedName? .postgres) = [some "city", some "Total", some "2024_Total"] ∧
      (q.items.map (·.returnedName? .postgres)).Nodup := by
  have hsql : citySales.toSql "orders" (.ofList [("year", ["2024"])]) .postgres = .ok
      ("SELECT city, sum(sales) as \"Total\", sum(CASE WHEN year = 2024 THEN sales END) as " ++
        "\"2024_Total\" FROM orders GROUP BY city LIMIT 10 OFFSET 0") := by
    decide +kernel
  obtain ⟨q, hplan, -⟩ := bind_eq_ok_iff.mp hsql
  have hnodup := (returnedNames_nodup_iff .postgres hplan rfl).2.1 (by decide)
  refine ⟨q, hplan, ?_, hnodup⟩
  rw [returnedNames_plan .postgres hplan rfl]
  decide +kernel

/-- A grouping column with a capital letter and an output of the same name without it. -/
def capital : Request where
  endRow := 10
  rowGroupCols := [⟨"g", "", "Gold", none, .text⟩]
  valueCols := [⟨"v", "", "gold", some .sum, .number⟩]

theorem returnedNames_capital :
    ∃ q, capital.plan "medals" .empty = .ok q ∧ capital.isLeaf = false ∧
      q.render .postgres =
        "SELECT Gold, sum(gold) as gold FROM medals GROUP BY Gold LIMIT 10 OFFSET 0" ∧
      q.items.map (·.returnedName? .postgres) = [some "gold", some "gold"] ∧
      ¬ (q.items.map (·.returnedName? .postgres)).Nodup := by
  have hsql : capital.toSql "medals" .empty .postgres =
      .ok "SELECT Gold, sum(gold) as gold FROM medals GROUP BY Gold LIMIT 10 OFFSET 0" := by
    decide +kernel
  obtain ⟨q, hplan, hrender⟩ := bind_eq_ok_iff.mp hsql
  have hnames : q.items.map (·.returnedName? .postgres) = [some "gold", some "gold"] := by
    rw [returnedNames_plan .postgres hplan rfl]
    decide +kernel
  refine ⟨q, hplan, rfl, pure_eq_ok_iff.mp hrender, hnames, ?_⟩
  rw [hnames]
  decide

end Request

end GridQuery
