import GridQuery.Filter
import GridQuery.Json.Decode

/-!
Column filters in JSON. A filter is an object with a tag among its members, or an array that
starts with the tag; the tag is read where it stands and the rest is read in full before it is
decoded.
-/

namespace GridQuery

open GridQuery.Json GridQuery.Number

def textFilterWords : List (String × TextFilterKind) :=
  [("equals", .equals), ("notEqual", .notEqual), ("lessThan", .lessThan),
    ("lessThanOrEqual", .lessThanOrEqual), ("greaterThan", .greaterThan),
    ("greaterThanOrEqual", .greaterThanOrEqual), ("contains", .contains),
    ("notContains", .notContains), ("startsWith", .startsWith), ("endsWith", .endsWith),
    ("blank", .blank), ("notBlank", .notBlank)]

def numberFilterWords : List (String × NumberFilterKind) :=
  [("equals", .equals), ("notEqual", .notEqual), ("lessThan", .lessThan),
    ("lessThanOrEqual", .lessThanOrEqual), ("greaterThan", .greaterThan),
    ("greaterThanOrEqual", .greaterThanOrEqual), ("inRange", .inRange), ("blank", .blank),
    ("notBlank", .notBlank)]

/-- The word of a kind. -/
def wordOf {α : Type} [DecidableEq α] (words : List (String × α)) (a : α) : String :=
  ((words.find? fun w => w.2 = a).map (·.1)).getD ""

namespace ColumnFilter

inductive Tag where
  | set
  | text
  | number
deriving DecidableEq, Repr

def tagName : String := "filterType"

def tagWords : List (String × Tag) :=
  [("set", .set), ("text", .text), ("number", .number)]

def readTag (d : Doc) : Except Fault Tag := do
  Doc.lookupWord tagWords (← d.asText)

/-- A text or number filter under construction. -/
structure Parts (κ ο : Type) where
  kind : Option κ := none
  operand : Option ο := none
  upper : Option ο := none

def setFields : List (Member (List String)) :=
  [⟨"values", fun d _ => d.asList Doc.asText⟩]

def textFields : List (Member (Parts TextFilterKind String)) :=
  [⟨"type", fun d p => do return { p with kind := some (← d.asHeldWord textFilterWords) }⟩,
    ⟨"filter", fun d p => do return { p with operand := ← d.asOptional Doc.asText }⟩]

def numberFields : List (Member (Parts NumberFilterKind Binary64)) :=
  [⟨"type", fun d p => do return { p with kind := some (← d.asHeldWord numberFilterWords) }⟩,
    ⟨"filter", fun d p => do return { p with operand := ← d.asOptional Doc.asNumber }⟩,
    ⟨"filterTo", fun d p => do return { p with upper := ← d.asOptional Doc.asNumber }⟩]

/-- A field that must be there. -/
def required {α : Type} : Option α → Except Fault α
  | some a => .ok a
  | none => .error .shape

/-- The filter of a tag, from the fields beside the tag. -/
def readVariant (tag : Tag) (d : Doc) : Except Fault ColumnFilter :=
  match tag with
  | .set => do return .set (← d.asRecord setFields [])
  | .text => do
    let p ← d.asRecord textFields {}
    return .text (← required p.kind) p.operand
  | .number => do
    let p ← d.asRecord numberFields {}
    return .number (← required p.kind) p.operand p.upper

/-- Finds the tag among the members and reads the others in full. -/
def splitTag (depth : Nat) (tag : Option Tag) :
    List (Option String × Doc) → Except Fault (Option Tag × List (Option String × Doc))
  | [] => .ok (tag, [])
  | (none, _) :: _ => .error .malformed
  | (some name, d) :: r =>
    if name == tagName then
      match tag with
      | some _ => .error .shape
      | none => do splitTag depth (some (← readTag d)) r
    else
      match d.readFault? depth with
      | some f => .error f
      | none => do
        let (tag, rest) ← splitTag depth tag r
        return (tag, (some name, d) :: rest)

/-- Reads a filter inside `depth` containers. -/
def read (depth : Nat) : Doc → Except Fault ColumnFilter
  | .object members tail => do
    let (tag, rest) ← splitTag (depth + 1) none members
    let tag ← required (← Doc.closing tail tag)
    (readVariant tag (.object rest .closed)).mapError fun _ => .shape
  | .array items tail =>
    match items with
    | [] => do required (← Doc.closing tail none)
    | d :: r => do
      let tag ← readTag d
      match (Doc.itemsReadFault? (depth + 1) r).or tail.readFault? with
      | some f => .error f
      | none => (readVariant tag (.array r .closed)).mapError fun _ => .shape
  | d => .error d.wrongShape

def ofNumber : Option Binary64 → Json
  | none => .null
  | some x => .ofBinary64 x

/-- A filter as an object; absent operands are null. -/
def toJson : ColumnFilter → Json
  | set values => .object [(tagName, .text "set"), ("values", .array (values.map .text))]
  | text kind operand =>
    .object [(tagName, .text "text"), ("type", .text (wordOf textFilterWords kind)),
      ("filter", (operand.map .text).getD .null)]
  | number kind operand upper =>
    .object [(tagName, .text "number"), ("type", .text (wordOf numberFilterWords kind)),
      ("filter", ofNumber operand), ("filterTo", ofNumber upper)]

end ColumnFilter

end GridQuery
