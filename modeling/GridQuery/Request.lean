import GridQuery.Filter

/-!
What a grid asks for: a window of rows, the columns it groups, aggregates and pivots by, the groups
that are open, filters and sorting.
-/

namespace GridQuery

/-- The value of a grouping column on the path to an open group. -/
inductive GroupKey where
  | number (n : JsonNumber)
  | text (s : String)
deriving DecidableEq

namespace GroupKey

def display : GroupKey → String
  | number n => n.text
  | text s => s

end GroupKey

structure SortEntry where
  columnId : String
  direction : Direction
deriving DecidableEq, Repr

/-- A window `[startRow, endRow)` of the rows under the groups that `groupKeys` open; the key at
each place belongs to the grouping column at that place. Filters stand in the order of their
columns' names. -/
structure Request where
  startRow : Nat := 0
  endRow : Nat := 0
  rowGroupCols : List Column := []
  valueCols : List Column := []
  pivotCols : List Column := []
  groupKeys : List GroupKey := []
  filters : List (String × ColumnFilter) := []
  sorting : List SortEntry := []

namespace Request

/-- Nothing is left to group by. -/
def isLeaf (r : Request) : Bool :=
  r.rowGroupCols.length ≤ r.groupKeys.length

/-- The column to group by. -/
def groupColumn? (r : Request) : Option Column :=
  r.rowGroupCols[r.groupKeys.length]?

/-- Only groups are split into pivot columns. -/
def isPivoting (r : Request) : Bool :=
  !r.pivotCols.isEmpty && !r.isLeaf

def windowSize (r : Request) : Nat :=
  r.endRow - r.startRow

theorem groupColumn?_eq_none_iff (r : Request) : r.groupColumn? = none ↔ r.isLeaf = true := by
  simp [groupColumn?, isLeaf]

end Request

/-- Puts a filter into its place; a later filter for a column replaces the earlier one. -/
def insertFilter (name : String) (f : ColumnFilter) :
    List (String × ColumnFilter) → List (String × ColumnFilter)
  | [] => [(name, f)]
  | (n, g) :: r =>
    if name = n then (n, f) :: r
    else if name < n then (name, f) :: (n, g) :: r
    else (n, g) :: insertFilter name f r

end GridQuery
