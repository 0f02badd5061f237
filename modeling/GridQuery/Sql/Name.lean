import GridQuery.QueryError
import GridQuery.Text.Blank

/-!
Names that may stand in SQL text. Identifiers are accepted or refused, never escaped; an output
alias may hold almost any character and is quoted where it has to be.
-/

namespace GridQuery.Sql

def isNameStart (c : Char) : Bool :=
  ('A' ≤ c && c ≤ 'Z') || ('a' ≤ c && c ≤ 'z') || c == '_'

def isNamePart (c : Char) : Bool :=
  isNameStart c || ('0' ≤ c && c ≤ '9')

/-- A letter or underscore, then letters, digits and underscores. -/
def isPlainName : List Char → Bool
  | [] => false
  | c :: r => isNameStart c && r.all isNamePart

/-- A plain name, or two with a point between them. -/
def isRelationName (cs : List Char) : Bool :=
  match cs.dropWhile (· != '.') with
  | [] => isPlainName cs
  | _ :: r => isPlainName (cs.takeWhile (· != '.')) && isPlainName r

/-- A character that could end a quoted name or escape out of it. -/
def isUnsafeInAlias (c : Char) : Bool :=
  c == '"' || c == '\x60' || c == '\\' || Text.isControl c

def isAliasName (cs : List Char) : Bool :=
  !cs.isEmpty && !cs.any isUnsafeInAlias

/-- The name of a column. -/
structure Ident where
  name : String
  plain : isPlainName name.toList = true
deriving DecidableEq

/-- The name of a table, with or without a schema. -/
structure Relation where
  name : String
  plain : isRelationName name.toList = true
deriving DecidableEq

/-- The name of an output column. -/
structure Alias where
  name : String
  quotable : isAliasName name.toList = true
deriving DecidableEq

namespace Ident

def ofText (s : String) : Except QueryError Ident :=
  if h : isPlainName s.toList = true then .ok ⟨s, h⟩ else .error (.unsafeIdentifier s)

end Ident

namespace Relation

def ofText (s : String) : Except QueryError Relation :=
  if h : isRelationName s.toList = true then .ok ⟨s, h⟩ else .error (.unsafeIdentifier s)

end Relation

namespace Alias

def ofText (s : String) : Except QueryError Alias :=
  if h : isAliasName s.toList = true then .ok ⟨s, h⟩ else .error (.unsafeIdentifier s)

end Alias

end GridQuery.Sql
