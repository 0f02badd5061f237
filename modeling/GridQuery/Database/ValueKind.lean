/-!
What a column holds, told from the name that its database gives to its type. The names of all
databases are sorted together.
-/

namespace GridQuery.Database

inductive ValueKind where
  | int16
  | int32
  | int64
  | uint64
  | float32
  | float64
  | decimal
  | bool
  | date
  | timestamp
  | timestampTz
  | json
  | text
deriving DecidableEq, Repr

namespace ValueKind

def typeNames : List (String × ValueKind) :=
  [("INT2", int16), ("INT4", int32), ("INT8", int64), ("TINYINT", int64), ("SMALLINT", int64),
    ("INT", int64), ("MEDIUMINT", int64), ("BIGINT", int64), ("FLOAT4", float32),
    ("FLOAT", float32), ("FLOAT8", float64), ("DOUBLE", float64), ("NUMERIC", decimal),
    ("DECIMAL", decimal), ("NEWDECIMAL", decimal), ("BOOL", bool), ("BOOLEAN", bool),
    ("DATE", date), ("TIMESTAMP", timestamp), ("DATETIME", timestamp),
    ("TIMESTAMPTZ", timestampTz), ("JSON", json), ("JSONB", json)]

/-- Every type that says it is unsigned is a whole number; a type without a kind is text. -/
def ofTypeName (name : String) : ValueKind :=
  if " UNSIGNED".toList.isSuffixOf name.toList then uint64
  else (typeNames.lookup name).getD text

end ValueKind

end GridQuery.Database
