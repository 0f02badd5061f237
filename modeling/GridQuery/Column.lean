/-!
Columns of the grid: what a request says about a grouping, value or pivot column.
-/

namespace GridQuery

/-- Whether keys and pivot values of a column are written as text or as numbers. -/
inductive ColumnType where
  | text
  | number
deriving DecidableEq, Repr

namespace ColumnType

def name : ColumnType → String
  | text => "text"
  | number => "number"

end ColumnType

inductive Aggregate where
  | sum
  | avg
  | min
  | max
  | count
deriving DecidableEq, Repr

namespace Aggregate

def name : Aggregate → String
  | sum => "sum"
  | avg => "avg"
  | min => "min"
  | max => "max"
  | count => "count"

def all : List Aggregate := [sum, avg, min, max, count]

end Aggregate

inductive Direction where
  | asc
  | desc
deriving DecidableEq, Repr

namespace Direction

def name : Direction → String
  | asc => "asc"
  | desc => "desc"

end Direction

structure Column where
  id : String
  displayName : String
  /-- The name of the column in the table. -/
  field : String
  aggregate : Option Aggregate
  type : ColumnType
deriving DecidableEq, Repr

namespace Column

/-- The name under which an aggregate of the column is given out. -/
def outputName (c : Column) : String :=
  if c.displayName = "" then c.field else c.displayName

/-- A sort entry may name a column by its id, its field or its output name. -/
def isNamed (c : Column) (name : String) : Bool :=
  name == c.id || name == c.field || name == c.outputName

end Column

/-- A column type from its word, as in a request. -/
def columnTypeWords : List (String × ColumnType) :=
  [("text", .text), ("number", .number)]

def directionWords : List (String × Direction) :=
  [("asc", .asc), ("desc", .desc)]

end GridQuery
