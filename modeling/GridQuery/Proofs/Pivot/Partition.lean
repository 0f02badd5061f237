import GridQuery.Proofs.Compile.Text
import GridQuery.Proofs.Pivot.Normal
import GridQuery.Proofs.Sql.Meaning
import Mathlib.Data.List.Nodup

/-!
The pivoted columns that a row of the table counts in. A combination of pivot values takes the rows
whose cells are what its texts denote, and texts that differ may denote the same number.
-/

namespace GridQuery

open GridQuery.Sql

/-- The row meets the conditions; `cell` gives the cell of each column. -/
def meets (cell : String → Option Value) (conditions : List (Ident × Literal)) : Bool :=
  Truth.all (conditions.map fun c => c.2.equals (cell c.1.name)) == some true

/-- The item is a pivoted column that the row counts in. -/
def Sql.SelectItem.takes (cell : String → Option Value) : SelectItem → Bool
  | pivoted _ _ conditions _ => meets cell conditions
  | _ => false

namespace Domains

/-- Every domain has been brought into order. -/
def Normal (d : Domains) (columns : List Column) : Prop :=
  ∀ c ∈ columns, ∃ found, d.values c = normalize found

end Domains

namespace Request

/-- The conditions of a combination are true of the row. -/
def takes (r : Request) (cell : String → Option Value) (combo : List String) : Bool :=
  match eachOf (fun (c, v) => pivotCondition c v) (r.pivotCols.zip combo) with
  | .ok conditions => meets cell conditions
  | .error _ => false

end Request

variable {r : Request} {table : String} {d : Domains} {columns : List Column} {combo : List String}
  {cell : String → Option Value} {items : List SelectItem}

theorem Domains.Normal.nodup (h : d.Normal columns) : (tuples (columns.map d.values)).Nodup := by
  refine nodup_tuples (List.forall_mem_map.mpr fun c hc => ?_)
  obtain ⟨found, hfound⟩ := h c hc
  exact hfound ▸ Domains.nodup_normalize found

namespace Request

end Request

end GridQuery
