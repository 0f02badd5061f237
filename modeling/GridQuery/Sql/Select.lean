import GridQuery.Sql.Predicate

/-!
One SELECT as a value. All names and literals in it have been checked, so it can always be
written.
-/

namespace GridQuery.Sql

open GridQuery (Aggregate Direction)

inductive SelectItem where
  | wildcard
  | column (column : Ident)
  | aggregate (func : Aggregate) (column output : Ident)
  /-- An aggregate over the rows that meet all the conditions. -/
  | pivoted (func : Aggregate) (column : Ident) (conditions : List (Ident × Literal))
    (output : Alias)
deriving DecidableEq

/-- A column of the table, or an output of the query. -/
inductive SortKey where
  | column (column : Ident)
  | output (name : Ident)
deriving DecidableEq

structure Select where
  items : List SelectItem
  relation : Relation
  predicates : List Predicate
  groupBy : Option Ident
  orderBy : List (SortKey × Direction)
  startRow : Nat
  endRow : Nat
deriving DecidableEq

namespace SelectItem

/-- The name of the item in the rows; the wildcard has none. -/
def outputName? : SelectItem → Option String
  | wildcard => none
  | column c => some c.name
  | aggregate _ _ output => some output.name
  | pivoted _ _ _ output => some output.name

def renderCondition (d : Dialect) (c : Ident × Literal) : String :=
  c.1.name ++ " = " ++ d.literal c.2

def render (d : Dialect) : SelectItem → String
  | wildcard => "*"
  | column c => c.name
  | aggregate f c output =>
    f.name ++ "(" ++ c.name ++ ") as " ++ d.outputName output.name
  | pivoted f c conditions output =>
    f.name ++ "(CASE WHEN " ++ " AND ".intercalate (conditions.map (renderCondition d)) ++
      " THEN " ++ c.name ++ " END) as " ++ d.outputName output.name

end SelectItem

namespace SortKey

def render (d : Dialect) : SortKey → String
  | column c => c.name
  | output o => d.outputName o.name

end SortKey

namespace Select

def renderOrder (d : Dialect) (o : SortKey × Direction) : String :=
  o.1.render d ++ " " ++ o.2.name

/-- A clause that is left out when it has no parts. -/
def clause (opening separator : String) (parts : List String) : String :=
  if parts.isEmpty then "" else opening ++ separator.intercalate parts

def render (d : Dialect) (q : Select) : String :=
  "SELECT " ++ ", ".intercalate (q.items.map (·.render d)) ++ " FROM " ++ q.relation.name ++
    clause " WHERE " " AND " (q.predicates.map (·.render d)) ++
    clause " GROUP BY " "" (q.groupBy.toList.map (·.name)) ++
    clause " ORDER BY " ", " (q.orderBy.map (renderOrder d)) ++
    " " ++ d.limit q.startRow q.endRow

end Select

end GridQuery.Sql
