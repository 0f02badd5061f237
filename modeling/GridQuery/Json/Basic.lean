import GridQuery.Json.Number
import GridQuery.OrderedMap

/-!
JSON values. The members of an object stand in the order in which they were first met; their order
carries no meaning.
-/

namespace GridQuery

inductive Json where
  | null
  | bool (b : Bool)
  | number (n : JsonNumber)
  | text (s : String)
  | array (items : List Json)
  | object (members : List (String × Json))

/-- A row of a result: output names and values. -/
abbrev Row := List (String × Json)

namespace Row

def get? (r : Row) (name : String) : Option Json :=
  OrderedMap.get? name r

end Row

namespace Json

def ofNat (n : Nat) : Json :=
  .number (.ofNat n)

/-- A floating-point value as JSON; what is not finite becomes null. -/
def ofBinary64 : Number.Binary64 → Json
  | .finite x => .number (.float x)
  | _ => .null

end Json

end GridQuery
