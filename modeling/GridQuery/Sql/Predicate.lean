import GridQuery.Sql.Dialect

/-!
Conditions on one column, and their SQL text.
-/

namespace GridQuery.Sql

inductive Comparison where
  | eq
  | notEq
  | lt
  | ltEq
  | gt
  | gtEq
deriving DecidableEq, Repr

namespace Comparison

def symbol : Comparison → String
  | eq => "="
  | notEq => "!="
  | lt => "<"
  | ltEq => "<="
  | gt => ">"
  | gtEq => ">="

end Comparison

/-- Where in a text the operand is looked for. -/
inductive LikeShape where
  | contains
  | startsWith
  | endsWith
deriving DecidableEq, Repr

inductive Predicate where
  | compare (column : Ident) (op : Comparison) (value : Literal)
  | oneOf (column : Ident) (values : List Literal)
  | like (column : Ident) (operand : String) (shape : LikeShape) (negated : Bool)
  /-- Strictly between two bounds. -/
  | between (column : Ident) (lower upper : Literal)
  | isNull (column : Ident) (negated : Bool)
deriving DecidableEq

/-- A character with a meaning of its own in a pattern. -/
def isWildcard (c : Char) : Bool :=
  c == '%' || c == '_' || c == '\\'

/-- The operand with a backslash before every character that a pattern would read otherwise. -/
def escapePattern (cs : List Char) : List Char :=
  cs.flatMap fun c => if isWildcard c then ['\\', c] else [c]

def needsEscape (cs : List Char) : Bool :=
  cs.any isWildcard

namespace LikeShape

/-- The pattern that finds the operand. -/
def pattern (shape : LikeShape) (operand : String) : String :=
  let cs := escapePattern operand.toList
  String.ofList <|
    match shape with
    | contains => '%' :: cs ++ ['%']
    | startsWith => cs ++ ['%']
    | endsWith => '%' :: cs

end LikeShape

namespace Predicate

def render (d : Dialect) : Predicate → String
  | compare c op v => c.name ++ " " ++ op.symbol ++ " " ++ d.literal v
  | oneOf c vs => c.name ++ " IN (" ++ ", ".intercalate (vs.map d.literal) ++ ")"
  | like c operand shape negated =>
    c.name ++ (if negated then " NOT LIKE " else " LIKE ") ++ d.quoteText (shape.pattern operand) ++
      (if needsEscape operand.toList then " ESCAPE " ++ d.quoteText "\\" else "")
  | between c lower upper =>
    "(" ++ c.name ++ " > " ++ d.literal lower ++ " AND " ++ c.name ++ " < " ++ d.literal upper ++
      ")"
  | isNull c negated => c.name ++ (if negated then " IS NOT NULL" else " IS NULL")

end Predicate

end GridQuery.Sql
