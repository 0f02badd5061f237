import GridQuery.Proofs.Sql.Literal
import GridQuery.Sql.Select

/-!
What the conditions of a query say about a row. A literal stands for a text or for an exact number:
the value of its numeral, not a floating-point one. Cells are nullable.
-/

namespace GridQuery.Sql

open GridQuery.Number

/-- True, false or, where nothing is known, absent. -/
abbrev Truth := Option Bool

namespace Truth

/-- One false condition decides, even beside an unknown one. -/
def both : Truth → Truth → Truth
  | some false, _ => some false
  | _, some false => some false
  | some true, some true => some true
  | _, _ => none

def all (ts : List Truth) : Truth :=
  ts.foldr both (some true)

end Truth

/-- What a cell holds. -/
inductive Value where
  | text (s : String)
  | number (x : Rat)
deriving DecidableEq

/-- The value `± digits * 10 ^ exponent`. -/
def decimalValue (negative : Bool) (digits : Nat) (exponent : Int) : Rat :=
  let n : Int := digits * tenTo exponent.toNat
  mkRat (if negative then -n else n) (tenTo (-exponent).toNat)

/-- The exact number that a text denotes: an optional sign, digits with an optional point, an
optional exponent. -/
def numeralValue? (cs : List Char) : Option Rat :=
  match splitSign cs with
  | (negative, r) => (readMagnitude? r).map fun (digits, e) => decimalValue negative digits e

namespace Literal

def value? : Literal → Option Value
  | text s => some (.text s)
  | number ds => (numeralValue? ds.toList).map .number

/-- A cell equals the literal; of a null nothing is known. -/
def equals (l : Literal) (cell : Option Value) : Truth :=
  cell.bind fun v => l.value?.map (· == v)

end Literal

end GridQuery.Sql
