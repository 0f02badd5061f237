import GridQuery.Sql.Predicate

/-!
Column filters of the grid and the condition that each stands for.
-/

namespace GridQuery

open GridQuery.Number GridQuery.Sql

inductive TextFilterKind where
  | equals
  | notEqual
  | lessThan
  | lessThanOrEqual
  | greaterThan
  | greaterThanOrEqual
  | contains
  | notContains
  | startsWith
  | endsWith
  | blank
  | notBlank
deriving DecidableEq, Repr

inductive NumberFilterKind where
  | equals
  | notEqual
  | lessThan
  | lessThanOrEqual
  | greaterThan
  | greaterThanOrEqual
  | inRange
  | blank
  | notBlank
deriving DecidableEq, Repr

/-- A filter on one column. An operand that its kind does not use is kept and has no effect. -/
inductive ColumnFilter where
  | set (values : List String)
  | text (kind : TextFilterKind) (operand : Option String)
  | number (kind : NumberFilterKind) (operand upper : Option Binary64)
deriving DecidableEq

namespace ColumnFilter

/-- Every literal once, in the order of first occurrence. -/
def distinctLiterals (values : List String) : List Literal :=
  values.foldl (fun ls v => if ls.contains (.text v) then ls else ls ++ [.text v]) []

def setPredicate (column : Ident) (values : List String) : Except QueryError Predicate :=
  if values.isEmpty then .error (.invalidFilter column.name .noValues)
  else .ok (.oneOf column (distinctLiterals values))

/-- What a text filter does with its operand. -/
inductive TextTest where
  | compare (op : Comparison)
  | like (shape : LikeShape) (negated : Bool)
  | isNull (negated : Bool)
deriving DecidableEq

def textTest : TextFilterKind → TextTest
  | .equals => .compare .eq
  | .notEqual => .compare .notEq
  | .lessThan => .compare .lt
  | .lessThanOrEqual => .compare .ltEq
  | .greaterThan => .compare .gt
  | .greaterThanOrEqual => .compare .gtEq
  | .contains => .like .contains false
  | .notContains => .like .contains true
  | .startsWith => .like .startsWith false
  | .endsWith => .like .endsWith false
  | .blank => .isNull false
  | .notBlank => .isNull true

def textPredicate (column : Ident) (kind : TextFilterKind) (operand : Option String) :
    Except QueryError Predicate :=
  match textTest kind, operand with
  | .isNull negated, _ => .ok (.isNull column negated)
  | .compare op, some v => .ok (.compare column op (.text v))
  | .like shape negated, some v => .ok (.like column v shape negated)
  | _, none => .error (.invalidFilter column.name .noText)

/-- What a number filter does with its operands. -/
inductive NumberTest where
  | compare (op : Comparison)
  | between
  | isNull (negated : Bool)
deriving DecidableEq

def numberTest : NumberFilterKind → NumberTest
  | .equals => .compare .eq
  | .notEqual => .compare .notEq
  | .lessThan => .compare .lt
  | .lessThanOrEqual => .compare .ltEq
  | .greaterThan => .compare .gt
  | .greaterThanOrEqual => .compare .gtEq
  | .inRange => .between
  | .blank => .isNull false
  | .notBlank => .isNull true

/-- The literal of an operand that must be there and finite. -/
def numberOperand (column : Ident) (name : String) (operand : Option Binary64) :
    Except QueryError Literal :=
  match operand with
  | none => .error (.invalidFilter column.name (.noNumber name))
  | some v =>
    match Literal.ofBinary64? v with
    | some l => .ok l
    | none => .error (.invalidFilter column.name (.notFinite name))

def numberPredicate (column : Ident) (kind : NumberFilterKind) (operand upper : Option Binary64) :
    Except QueryError Predicate :=
  match numberTest kind with
  | .isNull negated => .ok (.isNull column negated)
  | .compare op => do return .compare column op (← numberOperand column "filter" operand)
  | .between => do
    let lower ← numberOperand column "filter" operand
    let upper ← numberOperand column "filterTo" upper
    return .between column lower upper

/-- The condition that a filter puts on a column. -/
def toPredicate (f : ColumnFilter) (column : String) : Except QueryError Predicate := do
  let column ← Ident.ofText column
  match f with
  | set values => setPredicate column values
  | text kind operand => textPredicate column kind operand
  | number kind operand upper => numberPredicate column kind operand upper

end ColumnFilter

end GridQuery
