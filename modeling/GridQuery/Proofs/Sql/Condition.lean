import GridQuery.Proofs.Sql.Meaning
import GridQuery.Proofs.Sql.Pattern
import Mathlib.Algebra.Order.Ring.Rat
import Mathlib.Data.String.Basic
import Mathlib.Order.Compare

/-!
Conditions on a row, read from the tokens of a query and evaluated as a database does it: in three-
valued logic, where nothing is known of a null. Databases differ in how they compare values, and in
some details of patterns; they agree on the rest.
-/

namespace GridQuery.Sql

open GridQuery.Number

namespace Truth

/-- One true condition decides, even beside an unknown one. -/
def either : Truth → Truth → Truth
  | some true, _ => some true
  | _, some true => some true
  | some false, some false => some false
  | _, _ => none

def any (ts : List Truth) : Truth :=
  ts.foldr either (some false)

end Truth

/-- What databases disagree on when they evaluate a condition. -/
structure Conventions where
  /-- How two values compare; a text and a number, after whatever conversion. -/
  order : Value → Value → Ordering
  order_swap : ∀ v w, (order v w).swap = order w v
  /-- The text of a number that a pattern is matched against. -/
  numberText : Rat → String
  /-- The backslash escapes in a pattern that names no escape character. -/
  assumesBackslash : Bool

namespace Conventions

def text (db : Conventions) : Value → String
  | .text s => s
  | .number x => db.numberText x

def escape (db : Conventions) : Option Char :=
  if db.assumesBackslash then some '\\' else none

end Conventions

namespace Comparison

/-- The comparisons of SQL; inequality has two spellings. -/
def signs : List (String × Comparison) :=
  [("=", .eq), ("!=", .notEq), ("<>", .notEq), ("<", .lt), ("<=", .ltEq), (">", .gt), (">=", .gtEq)]

end Comparison

/-- A condition as it is read. -/
inductive Condition where
  | compare (column : String) (op : Comparison) (value : Value)
  | oneOf (column : String) (values : List Value)
  | like (clause : LikeClause)
  | isNull (column : String) (negated : Bool)
  | both (first second : Condition)

namespace Condition

end Condition

/-- The value that a literal in a query stands for. -/
def Token.value? : Token → Option Value
  | text s => some (.text s)
  | numeral ds => (numeralValue? ds.toList).map .number
  | _ => none

/-- The values of a list up to its closing parenthesis, and what follows. -/
def readValues? : List Token → Option (List Value × List Token)
  | t :: .symbol ")" :: rest => t.value?.map fun v => ([v], rest)
  | t :: .symbol "," :: rest => do
    let v ← t.value?
    let (vs, rest) ← readValues? rest
    return (v :: vs, rest)
  | _ => none

namespace Condition

/-- A pattern and perhaps its escape clause. -/
def readLike? (c : String) (negated : Bool) : List Token → Option (Condition × List Token)
  | .text pattern :: .word "ESCAPE" :: .text escape :: rest =>
    some (.like ⟨c.toList, negated, pattern.toList, some escape.toList⟩, rest)
  | .text pattern :: rest => some (.like ⟨c.toList, negated, pattern.toList, none⟩, rest)
  | _ => none

/-- A condition on the column whose name has just been read. -/
def readTest? (c : String) : List Token → Option (Condition × List Token)
  | .word "IS" :: .word "NULL" :: rest => some (.isNull c false, rest)
  | .word "IS" :: .word "NOT" :: .word "NULL" :: rest => some (.isNull c true, rest)
  | .word "LIKE" :: rest => readLike? c false rest
  | .word "NOT" :: .word "LIKE" :: rest => readLike? c true rest
  | .word "IN" :: .symbol "(" :: rest =>
    (readValues? rest).map fun (vs, rest) => (.oneOf c vs, rest)
  | .symbol sign :: t :: rest => do
    let op ← Comparison.signs.lookup sign
    let v ← t.value?
    return (.compare c op v, rest)
  | _ => none

/-- A condition on one column, or two of them in parentheses. -/
def ofTokens? : List Token → Option Condition
  | .word c :: rest =>
    match readTest? c rest with
    | some (test, []) => some test
    | _ => none
  | .symbol "(" :: .word c :: rest =>
    match readTest? c rest with
    | some (first, .word "AND" :: .word c' :: rest) =>
      match readTest? c' rest with
      | some (second, [.symbol ")"]) => some (.both first second)
      | _ => none
    | _ => none
  | _ => none

/-- The condition that a text is read as. -/
def ofText? (d : Dialect) (cs : List Char) : Option Condition :=
  (lex d cs).bind ofTokens?

end Condition

namespace Condition

variable {c : Ident}

/-- The text of a condition is read as its tokens are. -/
theorem ofText?_render {d : Dialect} (hq : d.QuotesNames) {p : Predicate}
    (hp : ∀ l ∈ p.literals, l.IsWritten) :
    ofText? d (p.render d).toList = ofTokens? p.tokens := by
  have hread := Predicate.reads hq p hp [] (stops_nil _)
  rw [List.append_nil, lex_nil, Option.map_some, List.append_nil] at hread
  rw [ofText?, hread, Option.bind_some]

variable (db : Conventions) (row : String → Option Value)

end Condition

end GridQuery.Sql
