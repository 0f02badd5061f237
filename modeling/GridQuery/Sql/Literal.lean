import GridQuery.Json.Number
import GridQuery.Number.Fixed96
import GridQuery.Number.Numeral
import GridQuery.Text.Blank

/-!
SQL literals. A number is kept as its text, so that no digit is lost between the request and the
query.
-/

namespace GridQuery.Sql

open GridQuery.Number

inductive Literal where
  | text (s : String)
  | number (digits : String)
deriving DecidableEq, Repr

namespace Literal

/-- Fewest digits, never an exponent, and no point in a whole number; of two equally short
decimals the larger is written. -/
def layout : Layout where
  tie := .up
  positional := none
  pointZero := false

/-- A finite number as a literal; there is none for the others. -/
def ofBinary64? : Binary64 → Option Literal
  | .finite x => some (.number (layout.finite x))
  | _ => none

def ofJson (n : JsonNumber) : Literal :=
  .number n.text

/-- The number that a text denotes: a whole number of 128 bits, else a decimal of 96 bits with all
its places, else a finite floating-point number. -/
def parseNumber? (s : String) : Option Literal :=
  let s := Text.trim s
  match readSigned? 128 s with
  | some i => some (.number (intText i))
  | none =>
    match Fixed96.ofText? s with
    | some x => some (.number x.text)
    | none => (Binary64.ofText? s).bind ofBinary64?

end Literal

end GridQuery.Sql
