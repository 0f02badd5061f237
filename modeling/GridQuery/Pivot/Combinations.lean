import GridQuery.Pivot.Domains
import GridQuery.Request

/-!
The combinations of pivot values, and the names of the columns that they give rise to.
-/

namespace GridQuery

namespace Domains

/-- All ways to continue a combination by the values of one more column. -/
def extend (acc : List (List String)) (values : List String) : List (List String) :=
  acc.flatMap fun combo => values.map fun v => combo ++ [v]

def combinationsFrom (d : Domains) (acc : List (List String)) :
    List Column → Option (List (List String))
  | [] => some acc
  | c :: r => (d.get? c.field).bind fun values => d.combinationsFrom (extend acc values) r

/-- One value of every column, in all ways, the last column changing fastest. There are none at
all if a column has no domain. -/
def combinations? (d : Domains) (columns : List Column) : Option (List (List String)) :=
  d.combinationsFrom [[]] columns

end Domains

/-- The name of the column for a combination of pivot values and a value column. -/
def pivotName (combination : List String) (output : String) : String :=
  "_".intercalate combination ++ "_" ++ output

namespace Request

/-- The names of the pivoted columns, in the order in which the query gives them. -/
def secondaryColumns (r : Request) (d : Domains) : List String :=
  if r.isPivoting then
    match d.combinations? r.pivotCols with
    | some combos =>
      combos.flatMap fun combo => r.valueCols.map fun v => pivotName combo v.outputName
    | none => []
  else []

end Request

end GridQuery
