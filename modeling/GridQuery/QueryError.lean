import GridQuery.Column
import GridQuery.Number.Digits

/-!
Why a query is refused. Every cause but the last is the caller's own fault and is found before any
SQL text exists; the last is a failure of the source.
-/

namespace GridQuery

open GridQuery.Number

/-- What is wrong with a column filter. -/
inductive FilterFault where
  | noValues
  | noText
  | noNumber (operand : String)
  | notFinite (operand : String)
deriving DecidableEq, Repr

/-- What is wrong with a request as a whole. -/
inductive RequestFault where
  | windowReversed (startRow endRow : Nat)
  | surplusGroupKeys (keys columns : Nat)
  | noAggregate (field : String)
  | noPivotValues
  | noInputFeatures
deriving DecidableEq, Repr

inductive QueryError where
  | invalidFilter (column : String) (fault : FilterFault)
  | duplicateColumn (name : String)
  | typeMismatch (column : String) (expected : ColumnType) (value : String)
  | unsafeIdentifier (name : String)
  | invalidRequest (fault : RequestFault)
  | executionFailure (relation query cause : String)
deriving DecidableEq, Repr

namespace FilterFault

def message : FilterFault → String
  | noValues => "set filter has no values"
  | noText => "text filter has no value"
  | noNumber operand => s!"number filter has no '{operand}'"
  | notFinite operand => s!"'{operand}' is not a finite number"

end FilterFault

namespace RequestFault

def message : RequestFault → String
  | windowReversed s e => "startRow " ++ natText s ++ " is after endRow " ++ natText e
  | surplusGroupKeys n m => natText n ++ " group keys for " ++ natText m ++ " grouping columns"
  | noAggregate field => s!"value column '{field}' has no aggregation function"
  | noPivotValues => "pivot values missing for a pivot column"
  | noInputFeatures => "no input features configured"

end RequestFault

namespace QueryError

def message : QueryError → String
  | invalidFilter column fault =>
    "invalid filter on column '" ++ column ++ "': " ++ fault.message
  | duplicateColumn name =>
    s!"column '{name}' appears more than once among grouping and value columns"
  | typeMismatch column expected value =>
    "group key '" ++ value ++ "' does not match type " ++ expected.name ++ " of column '" ++
      column ++ "'"
  | unsafeIdentifier name => s!"unsafe identifier: '{name}'"
  | invalidRequest fault => "invalid request: " ++ fault.message
  | executionFailure relation query cause =>
    s!"query on '{relation}' failed [{query}]: {cause}"

/-- The caller can mend every error but a failure of the source. -/
def isCallerError : QueryError → Bool
  | executionFailure .. => false
  | _ => true

end QueryError

end GridQuery
