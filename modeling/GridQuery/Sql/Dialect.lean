import GridQuery.Sql.Literal
import GridQuery.Sql.Name
import GridQuery.Text.Lowercase

/-!
What databases disagree on: how a window of rows is asked for, whether a backslash escapes inside
a string, which quote surrounds a name and whether bare names are folded to lower case.
-/

namespace GridQuery.Sql

open GridQuery.Number

/-- How a window of rows is written. -/
inductive Paging where
  /-- Both bounds of the window. -/
  | bounds
  /-- The first row and a count. -/
  | offsetCount
  /-- A count and the number of rows before it. -/
  | limitOffset
deriving DecidableEq, Repr

namespace Paging

def words : List (String × Paging) :=
  [("bounds", .bounds), ("offset_count", .offsetCount), ("limit_offset", .limitOffset)]

/-- The word that a setting holds, lowered, and the style it names. -/
def ofSetting (s : String) : Except String Paging :=
  let word := Text.lowerAscii (Text.trim s)
  match words.lookup word with
  | some p => .ok p
  | none => .error s!"unknown paging style '{word}'"

end Paging

structure Dialect where
  paging : Paging
  backslashEscapes : Bool
  identifierQuote : Char
  /-- Names without quotes are folded to lower case. -/
  foldsCase : Bool
deriving DecidableEq, Repr

namespace Dialect

def standard : Dialect where
  paging := .bounds
  backslashEscapes := false
  identifierQuote := '"'
  foldsCase := false

def mysql : Dialect where
  paging := .offsetCount
  backslashEscapes := true
  identifierQuote := '\x60'
  foldsCase := false

def postgres : Dialect where
  paging := .limitOffset
  backslashEscapes := false
  identifierQuote := '"'
  foldsCase := true

/-- A character inside a string literal. -/
def quoteChar (d : Dialect) (c : Char) : List Char :=
  if c = '\'' then ['\'', '\'']
  else if c = '\\' && d.backslashEscapes then ['\\', '\\']
  else [c]

def quoteText (d : Dialect) (s : String) : String :=
  "'" ++ String.ofList (s.toList.flatMap d.quoteChar) ++ "'"

def literal (d : Dialect) : Literal → String
  | .text s => d.quoteText s
  | .number n => n

def isUpperAscii (c : Char) : Bool :=
  'A' ≤ c && c ≤ 'Z'

/-- The name comes back from the database as it is when written bare. -/
def isBare (d : Dialect) (name : String) : Bool :=
  isPlainName name.toList && !(d.foldsCase && name.toList.any isUpperAscii)

/-- An output name, in quotes unless it survives without them. -/
def outputName (d : Dialect) (name : String) : String :=
  if d.isBare name then name
  else String.ofList (d.identifierQuote :: name.toList ++ [d.identifierQuote])

/-- The clause that asks for the rows from `startRow` up to, not including, `endRow`. -/
def limit (d : Dialect) (startRow endRow : Nat) : String :=
  let count := endRow - startRow
  match d.paging with
  | .bounds => "LIMIT " ++ natText startRow ++ "," ++ natText endRow
  | .offsetCount => "LIMIT " ++ natText startRow ++ "," ++ natText count
  | .limitOffset => "LIMIT " ++ natText count ++ " OFFSET " ++ natText startRow

end Dialect

end GridQuery.Sql
