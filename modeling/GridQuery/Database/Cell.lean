import GridQuery.Database.Engine
import GridQuery.Database.ValueKind
import GridQuery.Date
import GridQuery.Json.Document
import GridQuery.Number.Binary32
import GridQuery.Number.Fixed96

/-!
The values that a database sends and the JSON they become. A value that cannot be read as what its
column's type stands for becomes null.
-/

namespace GridQuery.Database

open GridQuery.Number

inductive Cell where
  | null
  | integer (i : Int)
  | float (x : Binary64)
  | bool (b : Bool)
  | date (d : Date)
  | timestamp (d : Date) (t : TimeOfDay)
  /-- Text, also that of decimals and JSON. -/
  | text (s : String)

namespace Cell

/-- A whole number of those that the column's type has. -/
def integerJson? (isMember : Int → Bool) : Cell → Option Json
  | integer i => if isMember i then (JsonNumber.ofInt? i).map .number else none
  | _ => none

def floatJson? : Cell → Option Json
  | float x => some (.ofBinary64 x)
  | _ => none

/-- Single precision, widened. -/
def singleJson? : Cell → Option Json
  | float x => some (.ofBinary64 x.narrow)
  | _ => none

def decimalJson? : Cell → Option Json
  | text s => (Fixed96.ofText? s).map fun x => .ofBinary64 x.toBinary64
  | _ => none

def boolJson? : Cell → Option Json
  | bool b => some (.bool b)
  | integer i => some (.bool (i != 0))
  | _ => none

def dateJson? : Cell → Option Json
  | date d => if d.isValid then some (.text d.text) else none
  | _ => none

/-- Date and time with `separator` between them and `zone` behind. -/
def timestampJson? (separator zone : String) : Cell → Option Json
  | timestamp d t =>
    if d.isValid && t.isValid then some (.text (d.text ++ separator ++ t.text ++ zone)) else none
  | _ => none

def documentJson? : Cell → Option Json
  | text s => (Json.ofText s).toOption
  | _ => none

def asText? (e : Engine) (type : String) : Cell → Option String
  | text s => if e.textTypes.contains type then some s else none
  | _ => none

/-- The value as JSON, if it can be read as the kind of its column. MySQL's timestamps have a zone
and are not read as plain ones. -/
def toJson? (e : Engine) (type : String) (c : Cell) : Option Json :=
  match ValueKind.ofTypeName type with
  | .int16 => c.integerJson? (isSigned 16)
  | .int32 => c.integerJson? (isSigned 32)
  | .int64 => c.integerJson? (isSigned 64)
  | .uint64 => c.integerJson? (isUnsigned 64)
  | .float32 => c.singleJson?
  | .float64 => c.floatJson?
  | .decimal => c.decimalJson?
  | .bool => c.boolJson?
  | .date => c.dateJson?
  | .timestamp =>
    if e = .mysql ∧ type = "TIMESTAMP" then none else c.timestampJson? " " ""
  | .timestampTz => c.timestampJson? "T" "+00:00"
  | .json => c.documentJson?
  | .text => (c.asText? e type).map .text

def toJson (e : Engine) (type : String) (c : Cell) : Json :=
  (c.toJson? e type).getD .null

end Cell

end GridQuery.Database
