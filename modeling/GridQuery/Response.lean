import GridQuery.Json.Basic
import GridQuery.Pivot.Combinations

/-!
What the grid gets back. The rows come as the query gave them; the number of rows in all is known
as soon as a window is not filled.
-/

namespace GridQuery

structure Response where
  rows : List Row
  lastRow : Option Nat
  secondaryColumns : List String

namespace Response

/-- The row count, if `returned` rows do not fill the window. -/
def lastRowOf (r : Request) (returned : Nat) : Option Nat :=
  if returned < r.windowSize then some (r.startRow + returned) else none

def build (r : Request) (rows : List Row) (d : Domains) : Response :=
  ⟨rows, lastRowOf r rows.length, r.secondaryColumns d⟩

/-- An unknown row count is written as -1. -/
def lastRowJson : Option Nat → Json
  | some n => .ofNat n
  | none => .number (.negative 1 (by decide))

def toJson (r : Response) : Json :=
  .object [("data", .array (r.rows.map .object)), ("lastRow", lastRowJson r.lastRow),
    ("secondaryColumnFields", .array (r.secondaryColumns.map .text))]

end Response

end GridQuery
