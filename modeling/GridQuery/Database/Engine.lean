import GridQuery.Sql.Dialect
import GridQuery.Sql.Name

/-!
The database engines that rows can be read from, and what differs between them.
-/

namespace GridQuery.Database

open GridQuery.Sql

inductive Engine where
  | postgres
  | mysql
deriving DecidableEq, Repr

/-- Why a query has no answer. -/
inductive Failure where
  /-- The server received the query and rejected it. -/
  | rejected (text : String)
  /-- The query never came to the server. -/
  | unreachable (cause : String)
deriving DecidableEq, Repr

namespace Engine

def schemes : List (String × Engine) :=
  [("postgres", postgres), ("postgresql", postgres), ("mysql", mysql), ("mariadb", mysql)]

/-- The part of a text before `://`, or all of it. -/
def schemePart : List Char → List Char
  | ':' :: '/' :: '/' :: _ => []
  | c :: r => c :: schemePart r
  | [] => []

/-- The engine that the scheme of an address names, in any case. -/
def ofUrl (url : String) : Except String Engine :=
  let scheme := Text.lower (String.ofList (schemePart url.toList))
  match schemes.lookup scheme with
  | some e => .ok e
  | none => .error s!"Unsupported DB type: {scheme}"

def dialect : Engine → Dialect
  | postgres => .postgres
  | mysql => .mysql

/-- The type to which a value is cast to read it as text. -/
def textType : Engine → String
  | postgres => "TEXT"
  | mysql => "CHAR"

/-- The column under which distinct values are given out. -/
def valueColumn : String := "val"

/-- The query for the values of a column, as text and without nulls. -/
def distinctSql (e : Engine) (relation : Relation) (column : Ident) : String :=
  "SELECT DISTINCT CAST(" ++ column.name ++ " AS " ++ e.textType ++ ") AS " ++ valueColumn ++
    " FROM " ++ relation.name ++ " WHERE " ++ column.name ++ " IS NOT NULL"

/-- The number and the state of an error that has no better ones: there is no such table. -/
def errorCode : Engine → String
  | postgres => ""
  | mysql => "1146 (42S02): "

/-- What is said of a query that has no answer. -/
def failureText (e : Engine) : Failure → String
  | .rejected text => "error returned from database: " ++ e.errorCode ++ text
  | .unreachable cause => "error communicating with database: " ++ cause

/-- The types whose values can be read as text. -/
def textTypes : Engine → List String
  | postgres => ["TEXT", "VARCHAR", "CHAR", "NAME", "UNKNOWN"]
  | mysql => ["VARCHAR", "CHAR", "TEXT", "ENUM"]

end Engine

end GridQuery.Database
