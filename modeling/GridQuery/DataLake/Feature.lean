import GridQuery.Json.Basic
import GridQuery.Number.Digits
import GridQuery.Number.Whole
import GridQuery.Text.Blank

/-!
Rows of the data lake under a key: features, of which a key may have many, and movements, of which
the last counts.
-/

namespace GridQuery

open GridQuery.Number

/-- The text of a value that can serve as a key. -/
def keyText? : Json → Option String
  | .text s => some s
  | .number n => some n.text
  | .bool b => some (if b then "true" else "false")
  | _ => none

/-- A row with the text of its key column. -/
structure Feature where
  key : String
  fields : Row

namespace Feature

/-- A row whose key column is missing or has no text is no feature. -/
def ofRow? (keyColumn : String) (r : Row) : Option Feature :=
  (r.get? keyColumn).bind fun v => (keyText? v).map fun key => ⟨key, r⟩

/-- The features under each key, in their order. -/
def group (fs : List Feature) : List (String × List Feature) :=
  fs.foldl (fun m f => OrderedMap.put f.key ((OrderedMap.get? f.key m).getD [] ++ [f]) m) []

/-- The features under each key, in the reverse of their order: a source that gives the latest
first is indexed from the oldest on. -/
def index (fs : List Feature) : List (String × List Feature) :=
  (group fs).map fun (key, listed) => (key, listed.reverse)

end Feature

/-- A key and the mileage it has come to. -/
structure Movement where
  key : String
  mileage : Int
deriving DecidableEq, Repr

namespace Movement

/-- A floating-point value without a fraction, as an integer of 64 bits. The bound is the greatest
of these in floating point, which is rounded. -/
def wholeNumber? (f : Binary64) : Option Int :=
  if f.isWhole && f.ge (.ofInt (leastSigned 64)) && f.lt (.ofInt (greatestSigned 64)) then
    some (f.toSigned 64)
  else none

/-- A whole number of 64 bits, as a number or as text. -/
def mileage? : Json → Option Int
  | .number n => n.toInt64?.or (wholeNumber? n.toBinary64)
  | .text s => readSigned? 64 (Text.trim s)
  | _ => none

def ofRow? (r : Row) : Option Movement :=
  (r.get? "key").bind fun k => (keyText? k).bind fun key =>
    (r.get? "mileage").bind fun v => (mileage? v).map fun m => ⟨key, m⟩

/-- The mileage of each key; a later movement replaces an earlier one. -/
def index (ms : List Movement) : List (String × Int) :=
  ms.foldl (fun m e => OrderedMap.put e.key e.mileage m) []

end Movement

end GridQuery
