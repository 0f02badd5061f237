import GridQuery.Proofs.Sql.Reading
import Mathlib.Data.List.Infix

/-!
What a LIKE condition finds. Its text is read back in two layers: the strings by the rules of the
dialect, then the pattern by its wildcards and its escape character. Databases differ in which
escape character a pattern has when none is given; here none or the backslash is assumed.
-/

namespace GridQuery.Sql

inductive PatternPart where
  | char (c : Char)
  | anyChar
  | anyText
deriving DecidableEq

/-- What a character stands for that nothing escapes. -/
def PatternPart.ofChar (c : Char) : PatternPart :=
  if c = '%' then anyText else if c = '_' then anyChar else char c

/-- The parts of a pattern; none, if the escape character stands at the end or before a character
that needs no escape. -/
def readPattern? (escape : Option Char) : List Char → Option (List PatternPart)
  | [] => some []
  | c :: r =>
    if escape == some c then
      match r with
      | [] => none
      | e :: r =>
        if e == '%' || e == '_' || escape == some e then
          (readPattern? escape r).map (.char e :: ·)
        else none
    else (readPattern? escape r).map (.ofChar c :: ·)

/-- The parts, one behind the other, make up the text. -/
def matchParts : List PatternPart → List Char → Bool
  | [], s => s.isEmpty
  | .char _ :: _, [] => false
  | .char c :: ps, x :: s => x == c && matchParts ps s
  | .anyChar :: _, [] => false
  | .anyChar :: ps, _ :: s => matchParts ps s
  | .anyText :: ps, s => s.tails.any (matchParts ps)

/-- Where a condition of this shape looks for its operand. -/
def LikeShape.Finds (operand s : List Char) : LikeShape → Prop
  | contains => operand <:+: s
  | startsWith => operand <+: s
  | endsWith => operand <:+ s

instance (operand s : List Char) (shape : LikeShape) : Decidable (shape.Finds operand s) := by
  cases shape <;> unfold LikeShape.Finds <;> infer_instance

/-- A condition as it is read. -/
structure LikeClause where
  column : List Char
  negated : Bool
  pattern : List Char
  escape : Option (List Char)

/-- A string literal, decoded, and what follows it. -/
def scanLiteral (d : Dialect) : List Char → Option (List Char × List Char)
  | '\'' :: r => scanText d.backslashEscapes r
  | _ => none

namespace LikeClause

def verbs : List (String × Bool) :=
  [(" LIKE ", false), (" NOT LIKE ", true)]

/-- The escape clause behind a pattern, if there is one; the whole rest must be read. -/
def readEscape? (d : Dialect) : List Char → Option (Option (List Char))
  | [] => some none
  | rest => do
    let literal ← " ESCAPE ".toList.isPrefixOf? rest
    let (escape, rest) ← scanLiteral d literal
    if rest = [] then some (some escape) else none

def ofText? (d : Dialect) (cs : List Char) : Option LikeClause := do
  let (negated, literal) ← verbs.findSome? fun (verb, negated) =>
    (verb.toList.isPrefixOf? (cs.dropWhile isNamePart)).map (negated, ·)
  let (pattern, rest) ← scanLiteral d literal
  let escape ← readEscape? d rest
  return ⟨cs.takeWhile isNamePart, negated, pattern, escape⟩

/-- The parts of the pattern in a database that assumes this escape character unless one is given;
an escape text is one character. -/
def parts? (assumed : Option Char) (l : LikeClause) : Option (List PatternPart) :=
  match l.escape with
  | none => readPattern? assumed l.pattern
  | some [c] => readPattern? (some c) l.pattern
  | some _ => none

/-- Whether the condition is true of a text; absent if its pattern is not well formed. -/
def holds? (assumed : Option Char) (l : LikeClause) (s : String) : Option Bool :=
  (l.parts? assumed).map fun ps => matchParts ps s.toList != l.negated

end LikeClause

section

variable {ps : List PatternPart} {w s : List Char}

theorem matchParts_chars_iff :
    matchParts (w.map .char ++ ps) s = true ↔ ∃ r, w ++ r = s ∧ matchParts ps r = true := by
  induction w generalizing s with
  | nil => simp
  | cons c w ih =>
    cases s with
    | nil => simp [matchParts]
    | cons x s =>
      simp only [List.map_cons, List.cons_append, matchParts, Bool.and_eq_true, beq_iff_eq, ih,
        List.cons.injEq]
      constructor
      · rintro ⟨rfl, r, rfl, hr⟩
        exact ⟨r, ⟨rfl, rfl⟩, hr⟩
      · rintro ⟨r, ⟨rfl, rfl⟩, hr⟩
        exact ⟨rfl, r, rfl, hr⟩

theorem matchParts_anyText_iff :
    matchParts (.anyText :: ps) s = true ↔ ∃ r, r <:+ s ∧ matchParts ps r = true := by
  simp only [matchParts, List.any_eq_true, List.mem_tails]

theorem matchParts_nil_iff : matchParts [] s = true ↔ s = [] := by
  simp [matchParts]

theorem matchParts_anyText : matchParts [.anyText] s = true :=
  matchParts_anyText_iff.mpr ⟨[], List.nil_suffix, rfl⟩

/-- The parts that a shape puts around its operand find it in its place. -/
def LikeShape.around (operand : List PatternPart) : LikeShape → List PatternPart
  | contains => .anyText :: (operand ++ [.anyText])
  | startsWith => operand ++ [.anyText]
  | endsWith => .anyText :: (operand ++ [])

theorem LikeShape.matchParts_around_iff (shape : LikeShape) :
    matchParts (shape.around (w.map .char)) s = true ↔ shape.Finds w s := by
  cases shape with
  | contains =>
    simp only [around, Finds, matchParts_anyText_iff, matchParts_chars_iff, matchParts_anyText,
      and_true, List.infix_iff_prefix_suffix]
    exact exists_congr fun r => and_comm
  | startsWith =>
    simp only [around, Finds, matchParts_chars_iff, matchParts_anyText, and_true]
    rfl
  | endsWith =>
    simp only [around, Finds, matchParts_anyText_iff, matchParts_chars_iff, matchParts_nil_iff]
    constructor
    · rintro ⟨_, hsuffix, _, rfl, rfl⟩
      simpa using hsuffix
    · intro hsuffix
      exact ⟨w, hsuffix, [], List.append_nil w, rfl⟩

end

theorem readPattern?_plain {escape : Option Char} {c : Char} (h : (escape == some c) = false)
    (r : List Char) :
    readPattern? escape (c :: r) = (readPattern? escape r).map (.ofChar c :: ·) := by
  cases r <;> simp [readPattern?, h]

theorem readPattern?_escaped {c : Char} (h : isWildcard c = true) (r : List Char) :
    readPattern? (some '\\') ('\\' :: c :: r) =
      (readPattern? (some '\\') r).map (.char c :: ·) := by
  have hwild : (c == '%' || c == '_' || some '\\' == some c) = true := by
    simpa [isWildcard, @eq_comm _ '\\'] using h
  rw [readPattern?]
  simp only [BEq.rfl, if_true, hwild]

theorem PatternPart.ofChar_of_not_wildcard {c : Char} (h : isWildcard c = false) :
    ofChar c = char c := by
  simp only [isWildcard, Bool.or_eq_false_iff, beq_eq_false_iff_ne] at h
  rw [ofChar, if_neg h.1.1, if_neg h.1.2]

section

variable {escape : Option Char} (hescape : escape = none ∨ escape = some '\\')

include hescape

theorem not_escape_of_ne {c : Char} (h : c ≠ '\\') : (escape == some c) = false := by
  rcases hescape with rfl | rfl
  · rfl
  · simpa using h.symm

/-- An escaped operand stands for itself, if a database knows the backslash wherever there is one.
-/
theorem readPattern?_escapePattern (cs rest : List Char)
    (hcs : needsEscape cs = true → escape = some '\\') :
    readPattern? escape (escapePattern cs ++ rest) =
      (readPattern? escape rest).map (cs.map .char ++ ·) := by
  induction cs with
  | nil => simp [escapePattern]
  | cons c r ih =>
    have hr : needsEscape r = true → escape = some '\\' := fun h =>
      hcs (by rw [needsEscape, List.any_cons, Bool.or_eq_true]; exact .inr h)
    have hstep : readPattern? escape (escapePattern (c :: r) ++ rest) =
        (readPattern? escape (escapePattern r ++ rest)).map (.char c :: ·) := by
      rw [escapePattern, List.flatMap_cons, List.append_assoc]
      cases hc : isWildcard c with
      | true =>
        obtain rfl := hcs (by simp [needsEscape, hc])
        exact readPattern?_escaped hc _
      | false =>
        have hne : c ≠ '\\' := by
          rintro rfl
          cases hc
        rw [← PatternPart.ofChar_of_not_wildcard hc]
        exact readPattern?_plain (not_escape_of_ne hescape hne) _
    rw [hstep, ih hr, Option.map_map]
    rfl

theorem readPattern?_pattern (shape : LikeShape) (operand : String)
    (hneeds : needsEscape operand.toList = true → escape = some '\\') :
    readPattern? escape (shape.pattern operand).toList =
      some (shape.around (operand.toList.map .char)) := by
  have hread (rest : List Char) := readPattern?_escapePattern hescape operand.toList rest hneeds
  have hpercent (rest : List Char) : readPattern? escape ('%' :: rest) =
      (readPattern? escape rest).map (.anyText :: ·) :=
    readPattern?_plain (not_escape_of_ne hescape (by decide)) rest
  have hnil : readPattern? escape [] = some [] := rfl
  cases shape with
  | contains => simp [LikeShape.pattern, LikeShape.around, hpercent, hread, hnil]
  | startsWith => simp [LikeShape.pattern, LikeShape.around, hpercent, hread, hnil]
  | endsWith =>
    have hwhole := hread []
    rw [List.append_nil] at hwhole
    simp [LikeShape.pattern, LikeShape.around, hpercent, hwhole, hnil]

end

theorem scanLiteral_quoteText (d : Dialect) (s : String) {rest : List Char}
    (h : Stops (· == '\'') rest) :
    scanLiteral d ((d.quoteText s).toList ++ rest) = some (s.toList, rest) := by
  have hspelled : (d.quoteText s).toList ++ rest =
      '\'' :: (s.toList.flatMap d.quoteChar ++ '\'' :: rest) := by
    simp [Dialect.quoteText]
  rw [hspelled]
  exact scanText_quoted d s.toList h

namespace LikeClause

/-- The clause that a condition is read as. -/
def ofLike (c : Ident) (operand : String) (shape : LikeShape) (negated : Bool) : LikeClause where
  column := c.name.toList
  negated := negated
  pattern := (shape.pattern operand).toList
  escape := if needsEscape operand.toList then some ['\\'] else none

theorem readEscape?_eq (d : Dialect) (needs : Bool) :
    readEscape? d (if needs then " ESCAPE " ++ d.quoteText "\\" else "").toList =
      some (if needs then some ['\\'] else none) := by
  cases needs with
  | false => rfl
  | true =>
    have hscan := scanLiteral_quoteText d "\\" (stops_nil _)
    rw [List.append_nil] at hscan
    rw [if_pos rfl, if_pos rfl, readEscape?]
    · simp [List.isPrefixOf?, hscan]
    · simp

theorem ofText?_render (d : Dialect) (c : Ident) (operand : String) (shape : LikeShape)
    (negated : Bool) :
    ofText? d ((Predicate.like c operand shape negated).render d).toList =
      some (ofLike c operand shape negated) := by
  have hname : ∀ x ∈ c.name.toList, isNamePart x = true := isNamePart_of_mem c.plain
  set escape := if needsEscape operand.toList then " ESCAPE " ++ d.quoteText "\\" else ""
    with hescape
  have htail : Stops (· == '\'') escape.toList := by
    rw [hescape]
    split <;> simp
  have hscan := scanLiteral_quoteText d (shape.pattern operand) htail
  have hread := readEscape?_eq d (needsEscape operand.toList)
  rw [← hescape] at hread
  cases negated with
  | false =>
    have hsplit : ((Predicate.like c operand shape false).render d).toList =
        c.name.toList ++ (" LIKE ".toList ++
          ((d.quoteText (shape.pattern operand)).toList ++ escape.toList)) := by
      simp [Predicate.render, hescape]
    rw [hsplit, ofText?, takeWhile_append_stops hname (by simp [isNamePart, isNameStart]),
      dropWhile_append_stops hname (by simp [isNamePart, isNameStart])]
    simp [verbs, List.isPrefixOf?, hscan, hread, ofLike]
  | true =>
    have hsplit : ((Predicate.like c operand shape true).render d).toList =
        c.name.toList ++ (" NOT LIKE ".toList ++
          ((d.quoteText (shape.pattern operand)).toList ++ escape.toList)) := by
      simp [Predicate.render, hescape]
    rw [hsplit, ofText?, takeWhile_append_stops hname (by simp [isNamePart, isNameStart]),
      dropWhile_append_stops hname (by simp [isNamePart, isNameStart])]
    simp [verbs, List.isPrefixOf?, hscan, hread, ofLike]

/-- A backslash in the operand brings the clause that makes it the escape character. -/
theorem parts?_ofLike (c : Ident) (operand : String) (shape : LikeShape) (negated : Bool)
    {assumed : Option Char} (h : assumed = none ∨ assumed = some '\\') :
    (ofLike c operand shape negated).parts? assumed =
      some (shape.around (operand.toList.map .char)) := by
  unfold parts? ofLike
  cases hneeds : needsEscape operand.toList with
  | false => exact readPattern?_pattern h shape operand (by simp [hneeds])
  | true => exact readPattern?_pattern (.inr rfl) shape operand fun _ => rfl

end LikeClause

/-- A LIKE condition is read back, in every dialect, as one on its column that is true of a text
exactly if the operand is found there, or exactly if it is not; `assumesBackslash` says which escape
character a database assumes. -/
theorem like_finds (d : Dialect) (c : Ident) (operand : String) (shape : LikeShape)
    (negated : Bool) :
    ∃ clause, LikeClause.ofText? d ((Predicate.like c operand shape negated).render d).toList =
        some clause ∧
      clause.column = c.name.toList ∧ clause.negated = negated ∧
      ∀ (assumesBackslash : Bool) (s : String),
        clause.holds? (if assumesBackslash then some '\\' else none) s =
          some (decide (shape.Finds operand.toList s.toList) != negated) := by
  refine ⟨_, LikeClause.ofText?_render d c operand shape negated, rfl, rfl, ?_⟩
  intro assumesBackslash s
  have hassumed : (if assumesBackslash then some '\\' else none) = none ∨
      (if assumesBackslash then some '\\' else none) = some '\\' := by
    cases assumesBackslash <;> simp
  rw [LikeClause.holds?, LikeClause.parts?_ofLike c operand shape negated hassumed]
  simp only [Option.map_some, Option.some.injEq]
  congr 1
  rw [Bool.eq_iff_iff, decide_eq_true_iff]
  exact shape.matchParts_around_iff

end GridQuery.Sql
