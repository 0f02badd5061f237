import GridQuery.Pivot.Combinations
import GridQuery.Sql.Select

/-!
From a request to one SELECT. Everything that can be wrong without knowing the pivot values is
found by `validate`; `plan` validates first and then builds the query, either of rows or of the
groups of one column.
-/

namespace GridQuery

open GridQuery.Sql

/-- The first name that has been met before, `seen` being those met so far. -/
def firstRepeated? (seen : List String) : List String → Option String
  | [] => none
  | n :: r => if seen.contains n then some n else firstRepeated? (n :: seen) r

/-- Applies a function that may fail to every element, in order. -/
def eachOf {α β : Type} (f : α → Except QueryError β) : List α → Except QueryError (List β)
  | [] => .ok []
  | a :: r => do
    let b ← f a
    let bs ← eachOf f r
    return b :: bs

def checkDistinct (names : List String) : Except QueryError Unit :=
  match firstRepeated? [] names with
  | some n => .error (.duplicateColumn n)
  | none => .ok ()

namespace GroupKey

/-- The literal for a key of a column, which the column's type decides. -/
def literal (key : GroupKey) (c : Column) : Except QueryError Literal :=
  let mismatch := QueryError.typeMismatch c.field c.type key.display
  match c.type, key with
  | .text, .text s => .ok (.text s)
  | .text, .number _ => .error mismatch
  | .number, .number n => .ok (.ofJson n)
  | .number, .text s =>
    match Literal.parseNumber? s with
    | some l => .ok l
    | none => .error mismatch

end GroupKey

namespace Column

/-- The function of a value column, which must have one. -/
def requireAggregate (c : Column) : Except QueryError Aggregate :=
  match c.aggregate with
  | some a => .ok a
  | none => .error (.invalidRequest (.noAggregate c.field))

/-- The column as an aggregate under its output name. -/
def valueItem (c : Column) : Except QueryError SelectItem := do
  let func ← c.requireAggregate
  let column ← Ident.ofText c.field
  let output ← Ident.ofText c.outputName
  return .aggregate func column output

end Column

namespace Request

/-- The names that must differ before any pivot value is known. -/
def outputNames (r : Request) : List String :=
  r.rowGroupCols.map (·.field) ++ r.valueCols.map (·.outputName)

def keyPredicate (c : Column) (key : GroupKey) : Except QueryError Predicate := do
  let column ← Ident.ofText c.field
  let value ← key.literal c
  return .compare column .eq value

/-- Open groups: each key equals its column. -/
def keyPredicates (r : Request) : Except QueryError (List Predicate) :=
  eachOf (fun (c, key) => keyPredicate c key) (r.rowGroupCols.zip r.groupKeys)

def filterPredicates (r : Request) : Except QueryError (List Predicate) :=
  eachOf (fun (name, f) => f.toPredicate name) r.filters

def checkWindow (r : Request) : Except QueryError Unit :=
  if r.endRow < r.startRow then .error (.invalidRequest (.windowReversed r.startRow r.endRow))
  else .ok ()

def checkKeyCount (r : Request) : Except QueryError Unit :=
  if r.rowGroupCols.length < r.groupKeys.length then
    .error (.invalidRequest (.surplusGroupKeys r.groupKeys.length r.rowGroupCols.length))
  else .ok ()

def checkFields (r : Request) : Except QueryError Unit := do
  let _ ← eachOf (fun c => Ident.ofText c.field) (r.rowGroupCols ++ r.valueCols ++ r.pivotCols)
  return ()

/-- Groups need aliases and functions for their values; rows are sorted by any columns. -/
def checkLevel (r : Request) : Except QueryError Unit :=
  if r.isLeaf then do
    let _ ← eachOf (fun s => Ident.ofText s.columnId) r.sorting
    return ()
  else do
    let _ ← eachOf (fun c => do
      let _ ← Ident.ofText c.outputName
      c.requireAggregate) r.valueCols
    return ()

/-- Every error of the caller that does not depend on pivot values. -/
def validate (r : Request) (table : String) : Except QueryError Unit := do
  let _ ← Relation.ofText table
  r.checkWindow
  r.checkKeyCount
  r.checkFields
  checkDistinct r.outputNames
  let _ ← r.keyPredicates
  let _ ← r.filterPredicates
  r.checkLevel

/-- The condition that a pivot column has a value. -/
def pivotCondition (c : Column) (value : String) : Except QueryError (Ident × Literal) := do
  let column ← Ident.ofText c.field
  let value ← (GroupKey.text value).literal c
  return (column, value)

def pivotItem (conditions : List (Ident × Literal)) (combo : List String) (c : Column) :
    Except QueryError SelectItem := do
  let func ← c.requireAggregate
  let column ← Ident.ofText c.field
  let output ← Alias.ofText (pivotName combo c.outputName)
  return .pivoted func column conditions output

/-- The items for one combination of pivot values. -/
def comboItems (r : Request) (combo : List String) : Except QueryError (List SelectItem) := do
  let conditions ← eachOf (fun (c, v) => pivotCondition c v) (r.pivotCols.zip combo)
  eachOf (pivotItem conditions combo) r.valueCols

/-- One conditional aggregate for every combination of pivot values and every value column. -/
def pivotItems (r : Request) (d : Domains) : Except QueryError (List SelectItem) :=
  match d.combinations? r.pivotCols with
  | none => .error (.invalidRequest .noPivotValues)
  | some combos => do return (← eachOf r.comboItems combos).flatten

def leafOrder (r : Request) : Except QueryError (List (SortKey × Direction)) :=
  eachOf (fun s => do return (.column (← Ident.ofText s.columnId), s.direction)) r.sorting

/-- The key of a sort entry among groups: the grouping column, else the first value column that it
names; an entry that names neither is dropped. -/
def groupSortKey (r : Request) (group : Column) (s : SortEntry) :
    Except QueryError (Option (SortKey × Direction)) :=
  if group.isNamed s.columnId then do
    return some (.column (← Ident.ofText group.field), s.direction)
  else
    match r.valueCols.find? (·.isNamed s.columnId) with
    | some c => do return some (.output (← Ident.ofText c.outputName), s.direction)
    | none => .ok none

def groupOrder (r : Request) (group : Column) : Except QueryError (List (SortKey × Direction)) := do
  return (← eachOf (r.groupSortKey group) r.sorting).filterMap id

/-- The items of a query for groups. -/
def groupItems (r : Request) (group : Ident) (d : Domains) :
    Except QueryError (List SelectItem) := do
  let values ← eachOf Column.valueItem r.valueCols
  let pivoted ← if r.isPivoting then r.pivotItems d else .ok []
  let items := .column group :: values ++ pivoted
  checkDistinct (items.filterMap (·.outputName?))
  return items

/-- The query that answers the request, given the pivot values. -/
def plan (r : Request) (table : String) (d : Domains) : Except QueryError Select := do
  r.validate table
  let keys ← r.keyPredicates
  let filters ← r.filterPredicates
  match r.groupColumn? with
  | none =>
    let order ← r.leafOrder
    let relation ← Relation.ofText table
    return ⟨[.wildcard], relation, keys ++ filters, none, order, r.startRow, r.endRow⟩
  | some c =>
    let group ← Ident.ofText c.field
    let items ← r.groupItems group d
    let order ← r.groupOrder c
    let relation ← Relation.ofText table
    return ⟨items, relation, keys ++ filters, some group, order, r.startRow, r.endRow⟩

/-- The SQL text for the request. -/
def toSql (r : Request) (table : String) (d : Domains) (dialect : Dialect) :
    Except QueryError String := do
  return (← r.plan table d).render dialect

end Request

end GridQuery
