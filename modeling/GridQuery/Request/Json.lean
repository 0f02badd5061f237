import GridQuery.Filter.Json
import GridQuery.Request
import GridQuery.Text.Lowercase

/-!
Requests in JSON. Every field of a request may be absent; of a column only the field name must be
there, of a sort entry both fields.
-/

namespace GridQuery

open GridQuery.Json

namespace Aggregate

/-- The function of a name in any case. -/
def ofName (s : String) : Except String Aggregate :=
  let name := Text.lowerAscii s
  match all.find? (·.name == name) with
  | some a => .ok a
  | none => .error s!"unsupported aggregation function '{name}'"

/-- Null and blank text mean that there is none. -/
def read (d : Doc) : Except Fault (Option Aggregate) := do
  match (← d.asOptional Doc.asText).map Text.trim with
  | none => return none
  | some "" => return none
  | some s => ((ofName s).map some).mapError fun _ => .shape

end Aggregate

namespace Column

structure Parts where
  id : String := ""
  displayName : String := ""
  field : Option String := none
  aggregate : Option Aggregate := none
  type : ColumnType := .text

def fields : List (Member Parts) :=
  [⟨"id", fun d p => do return { p with id := ← d.asText }⟩,
    ⟨"displayName", fun d p => do return { p with displayName := ← d.asText }⟩,
    ⟨"field", fun d p => do return { p with field := some (← d.asText) }⟩,
    ⟨"aggFunc", fun d p => do return { p with aggregate := ← Aggregate.read d }⟩,
    ⟨"dataType", fun d p => do return { p with type := ← d.asWord columnTypeWords }⟩]

def read (d : Doc) : Except Fault Column := do
  let p ← d.asRecord fields {}
  match p.field with
  | some field => return ⟨p.id, p.displayName, field, p.aggregate, p.type⟩
  | none => .error .shape

end Column

namespace GroupKey

/-- Reads a key inside `depth` containers. -/
def read (depth : Nat) : Doc → Except Fault GroupKey :=
  Doc.held depth fun
    | .number n => .ok (.number n)
    | .text s => .ok (.text s)
    | d => .error d.wrongShape

end GroupKey

namespace SortEntry

structure Parts where
  columnId : Option String := none
  direction : Option Direction := none

def fields : List (Member Parts) :=
  [⟨"colId", fun d p => do return { p with columnId := some (← d.asText) }⟩,
    ⟨"sort", fun d p => do return { p with direction := some (← d.asWord directionWords) }⟩]

def read (d : Doc) : Except Fault SortEntry := do
  let p ← d.asRecord fields {}
  match p.columnId, p.direction with
  | some columnId, some direction => return ⟨columnId, direction⟩
  | _, _ => .error .shape

end SortEntry

namespace Request

def readFilters (depth : Nat) (acc : List (String × ColumnFilter)) :
    List (Option String × Doc) → Except Fault (List (String × ColumnFilter))
  | [] => .ok acc
  | (none, _) :: _ => .error .malformed
  | (some name, d) :: r => do
    let f ← ColumnFilter.read depth d
    readFilters depth (insertFilter name f acc) r

/-- The filters of an object of filters, inside `depth` containers. -/
def readFilterModel (depth : Nat) : Doc → Except Fault (List (String × ColumnFilter))
  | .object members tail => do Doc.closing tail (← readFilters (depth + 1) [] members)
  | d => .error d.wrongShape

/-- The fields of a request inside `depth` containers. -/
def fields (depth : Nat) : List (Member Request) :=
  [⟨"startRow", fun d r => do return { r with startRow := ← d.asCount }⟩,
    ⟨"endRow", fun d r => do return { r with endRow := ← d.asCount }⟩,
    ⟨"rowGroupCols", fun d r => do return { r with rowGroupCols := ← d.asList Column.read }⟩,
    ⟨"valueCols", fun d r => do return { r with valueCols := ← d.asList Column.read }⟩,
    ⟨"pivotCols", fun d r => do return { r with pivotCols := ← d.asList Column.read }⟩,
    ⟨"groupKeys", fun d r => do
      return { r with groupKeys := ← d.asList (GroupKey.read (depth + 2)) }⟩,
    ⟨"filterModel", fun d r => do return { r with filters := ← readFilterModel (depth + 1) d }⟩,
    ⟨"sortModel", fun d r => do return { r with sorting := ← d.asList SortEntry.read }⟩]

def read (d : Doc) : Except Fault Request :=
  d.asRecord (fields 0) {}

end Request

end GridQuery
