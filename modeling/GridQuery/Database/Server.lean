import GridQuery.Database.Cell
import GridQuery.Exchange

/-!
A database server as a source of rows. Columns of one name are one column: the last of them counts.
-/

namespace GridQuery.Database

open GridQuery.Sql

structure ColumnHead where
  name : String
  type : String
deriving DecidableEq, Repr

/-- What a server answers to a query. -/
structure Table where
  heads : List ColumnHead
  rows : List (List Cell)

namespace Table

def rowOf (e : Engine) (heads : List ColumnHead) (cells : List Cell) : Row :=
  OrderedMap.ofList ((heads.zip cells).map fun (h, c) => (h.name, c.toJson e h.type))

def toRows (t : Table) (e : Engine) : List Row :=
  t.rows.map (rowOf e t.heads)

/-- The text in a row's column of distinct values. -/
def distinctText? (e : Engine) (heads : List ColumnHead) (cells : List Cell) : Option String :=
  ((heads.zip cells).reverse.find? fun (h, _) => h.name == Engine.valueColumn).bind fun (h, c) =>
    c.asText? e h.type

def distinctTexts (t : Table) (e : Engine) : List String :=
  t.rows.filterMap (distinctText? e t.heads)

end Table

/-- A server answers a query with a table, or it fails. -/
abbrev Server (σ : Type) := String → σ → Except Failure Table × σ

/-- A server that cannot be reached: no query comes to it, so its state stays as it is. -/
def Server.unreachable {σ : Type} (cause : String) : Server σ :=
  fun _ s => (.error (.unreachable cause), s)

namespace Engine

variable {σ : Type}

/-- The server as a source of rows. -/
def source (e : Engine) (server : Server σ) : Source σ where
  execute sql s :=
    match server sql s with
    | (answer, s) => ((answer.map (·.toRows e)).mapError e.failureText, s)
  distinct relation column s :=
    match server (e.distinctSql relation column) s with
    | (answer, s) => ((answer.map (·.distinctTexts e)).mapError e.failureText, s)

end Engine

end GridQuery.Database
