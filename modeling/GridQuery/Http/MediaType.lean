import GridQuery.Text.Lowercase

/-!
Media types as a header gives them: type, subtype with an optional suffix behind the last plus
sign, and parameters. Only whether the type means JSON matters here.
-/

namespace GridQuery.Http

def isTokenChar (c : Char) : Bool :=
  ('a' ≤ c && c ≤ 'z') || ('A' ≤ c && c ≤ 'Z') || ('0' ≤ c && c ≤ '9') ||
    ['!', '#', '$', '%', '&', '\'', '*', '+', '-', '.', '^', '_', '\x60', '|', '~'].contains c

def isQuotable (c : Char) : Bool :=
  0x20 ≤ c.toNat && c.toNat < 0x7F

/-- Behind a quoted value: blanks, then the next parameter or the end. -/
def afterQuoted (cs : List Char) : Option (List Char) :=
  match cs.dropWhile (· == ' ') with
  | [] => some []
  | ';' :: r => some r
  | _ => none

/-- A value in quotes has one character at least; whatever it is, it does not close it. -/
def quotedValue : List Char → Option (List Char)
  | [] => none
  | c :: r =>
    let inner := r.takeWhile fun c => isQuotable c && c != '"'
    match r.drop inner.length with
    | '"' :: r => if isQuotable c then afterQuoted r else none
    | _ => none

/-- The text behind the value of a parameter, from the next parameter on. -/
def parameterValue : List Char → Option (List Char)
  | '"' :: r => quotedValue r
  | cs =>
    let v := cs.takeWhile isTokenChar
    match cs.drop v.length with
    | [] => some []
    | ';' :: r => if v = [] then none else some r
    | _ => none

/-- Parameters, each at least one character long; the length of the text is fuel enough. -/
def areParameters : Nat → List Char → Bool
  | _, [] => true
  | 0, _ => false
  | fuel + 1, ' ' :: r => areParameters fuel r
  | fuel + 1, cs =>
    let name := cs.takeWhile isTokenChar
    match cs.drop name.length with
    | '=' :: r =>
      if name = [] then false
      else
        match parameterValue r with
        | some r => areParameters fuel r
        | none => false
    | _ => false

/-- The subtype and, behind its last plus sign, the suffix. A plus in front is part of the name. -/
def splitSuffix (cs : List Char) : List Char × Option (List Char) :=
  let suffix := (cs.reverse.takeWhile (· != '+')).reverse
  let rest := cs.take (cs.length - suffix.length - 1)
  if suffix.length < cs.length ∧ rest ≠ [] then (rest, some suffix) else (cs, none)

def isWord (word : String) (cs : List Char) : Bool :=
  Text.lowerAscii (String.ofList cs) == word

/-- The media type is `application/json` or has the suffix `json`. -/
def isJsonType (s : String) : Bool :=
  let cs := s.toList
  let type := cs.takeWhile isTokenChar
  match cs.drop type.length with
  | '/' :: r =>
    let subtype := r.takeWhile isTokenChar
    let wellFormed :=
      match r.drop subtype.length with
      | [] => true
      | ';' :: ps => !subtype.isEmpty && areParameters ps.length ps
      | _ => false
    match splitSuffix subtype with
    | (name, suffix) =>
      wellFormed && isWord "application" type &&
        (isWord "json" name || (suffix.map (isWord "json")).getD false)
  | _ => false

end GridQuery.Http
