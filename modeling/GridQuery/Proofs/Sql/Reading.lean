import GridQuery.Proofs.Sql.Literal
import GridQuery.Proofs.Sql.Token
import GridQuery.Sql.Select

/-!
What a query says, token by token: every word is written out here, and what a request brings in is
the content of a string, a name or a numeral. The text of a query whose number literals are numerals
is split into exactly its tokens.
-/

namespace GridQuery

open GridQuery.Sql

def Aggregate.token : Aggregate → Token
  | sum => .word "sum"
  | avg => .word "avg"
  | min => .word "min"
  | max => .word "max"
  | count => .word "count"

theorem Aggregate.token_eq (f : Aggregate) : f.token = .word f.name := by
  cases f <;> rfl

def Direction.token : Direction → Token
  | asc => .word "asc"
  | desc => .word "desc"

theorem Direction.token_eq (o : Direction) : o.token = .word o.name := by
  cases o <;> rfl

end GridQuery

namespace GridQuery.Sql

open GridQuery (Aggregate Direction)

def Comparison.token : Comparison → Token
  | eq => .symbol "="
  | notEq => .symbol "!="
  | lt => .symbol "<"
  | ltEq => .symbol "<="
  | gt => .symbol ">"
  | gtEq => .symbol ">="

theorem Comparison.token_eq (op : Comparison) : op.token = .symbol op.symbol := by
  cases op <;> rfl

/-- What a pattern does not take for itself. -/
def wildcards : List Char := ['%', '_', '\\']

def escaped (operand : String) : List Char :=
  operand.toList.flatMap fun c => if c ∈ wildcards then ['\\', c] else [c]

/-- The pattern for a text that has the operand in this place, and anything elsewhere. -/
def LikeShape.token (shape : LikeShape) (operand : String) : Token :=
  match shape with
  | contains => .text (String.ofList (['%'] ++ escaped operand ++ ['%']))
  | startsWith => .text (String.ofList (escaped operand ++ ['%']))
  | endsWith => .text (String.ofList (['%'] ++ escaped operand))

/-- The escape character is named where it is made use of. -/
def escapeTokens (operand : String) : List Token :=
  if operand.toList.any (· ∈ wildcards) then [.word "ESCAPE", .text "\\"] else []

def Literal.token : Literal → Token
  | .text s => .text s
  | .number ds => .numeral ds

/-- A name that survives without quotes is a word, any other a quoted name. -/
def Dialect.nameToken (d : Dialect) (name : String) : Token :=
  if d.isBare name then .word name else .quoted name

/-- One word, or two with a point between them. -/
def Relation.tokens (r : Relation) : List Token :=
  match r.name.toList.dropWhile (· != '.') with
  | [] => [.word r.name]
  | _ :: table =>
    [.word (String.ofList (r.name.toList.takeWhile (· != '.'))), .symbol ".",
      .word (String.ofList table)]

def comma : List Token := [.symbol ","]

def Predicate.tokens : Predicate → List Token
  | compare c op v => [.word c.name, op.token, v.token]
  | oneOf c vs =>
    [.word c.name, .word "IN", .symbol "("] ++ comma.intercalate (vs.map fun v => [v.token]) ++
      [.symbol ")"]
  | like c operand shape negated =>
    [.word c.name] ++ (if negated then [.word "NOT", .word "LIKE"] else [.word "LIKE"]) ++
      [shape.token operand] ++ escapeTokens operand
  | between c lower upper =>
    [.symbol "(", .word c.name, .symbol ">", lower.token, .word "AND", .word c.name, .symbol "<",
      upper.token, .symbol ")"]
  | isNull c negated =>
    [.word c.name, .word "IS"] ++ (if negated then [.word "NOT", .word "NULL"] else [.word "NULL"])

/-- The literals that a condition compares with. -/
def Predicate.literals : Predicate → List Literal
  | compare _ _ v => [v]
  | oneOf _ vs => vs
  | between _ lower upper => [lower, upper]
  | _ => []

namespace SelectItem

def literals : SelectItem → List Literal
  | pivoted _ _ conditions _ => conditions.map (·.2)
  | _ => []

def conditionTokens (c : Ident × Literal) : List Token :=
  [.word c.1.name, .symbol "=", c.2.token]

def tokens (d : Dialect) : SelectItem → List Token
  | wildcard => [.symbol "*"]
  | column c => [.word c.name]
  | aggregate f c output =>
    [f.token, .symbol "(", .word c.name, .symbol ")", .word "as", d.nameToken output.name]
  | pivoted f c conditions output =>
    [f.token, .symbol "(", .word "CASE", .word "WHEN"] ++
      [Token.word "AND"].intercalate (conditions.map conditionTokens) ++
      [.word "THEN", .word c.name, .word "END", .symbol ")", .word "as", d.nameToken output.name]

end SelectItem

def SortKey.token (d : Dialect) : SortKey → Token
  | column c => .word c.name
  | output o => d.nameToken o.name

namespace Select

def orderTokens (d : Dialect) (o : SortKey × Direction) : List Token :=
  [o.1.token d, o.2.token]

def clauseTokens (opening separator : List Token) (parts : List (List Token)) : List Token :=
  if parts.isEmpty then [] else opening ++ separator.intercalate parts

end Select

def countToken (n : Nat) : Token :=
  .numeral (toString n)

def Dialect.limitTokens (d : Dialect) (startRow endRow : Nat) : List Token :=
  match d.paging with
  | .bounds => [.word "LIMIT", countToken startRow, .symbol ",", countToken endRow]
  | .offsetCount =>
    [.word "LIMIT", countToken startRow, .symbol ",", countToken (endRow - startRow)]
  | .limitOffset =>
    [.word "LIMIT", countToken (endRow - startRow), .word "OFFSET", countToken startRow]

def Select.tokens (d : Dialect) (q : Select) : List Token :=
  [.word "SELECT"] ++ comma.intercalate (q.items.map (·.tokens d)) ++ [.word "FROM"] ++
    q.relation.tokens ++
    clauseTokens [.word "WHERE"] [.word "AND"] (q.predicates.map (·.tokens)) ++
    clauseTokens [.word "GROUP", .word "BY"] [] (q.groupBy.toList.map fun c => [.word c.name]) ++
    clauseTokens [.word "ORDER", .word "BY"] comma (q.orderBy.map (orderTokens d)) ++
    d.limitTokens q.startRow q.endRow

theorem isWildcard_iff {c : Char} : isWildcard c = true ↔ c ∈ wildcards := by
  simp only [isWildcard, wildcards, Bool.or_eq_true, beq_iff_eq, List.mem_cons, List.not_mem_nil,
    or_false, or_assoc]

theorem escaped_eq (operand : String) : escaped operand = escapePattern operand.toList := by
  unfold escaped escapePattern
  congr 1
  funext c
  simp only [isWildcard_iff]

theorem LikeShape.token_eq (shape : LikeShape) (operand : String) :
    shape.token operand = .text (shape.pattern operand) := by
  cases shape <;> rw [token, escaped_eq] <;> rfl

theorem escapeTokens_eq (operand : String) :
    escapeTokens operand =
      if needsEscape operand.toList then [.word "ESCAPE", .text "\\"] else [] := by
  have hneeds : operand.toList.any (· ∈ wildcards) = needsEscape operand.toList := by
    rw [needsEscape]
    congr 1
    funext c
    rw [Bool.eq_iff_iff, decide_eq_true_iff, isWildcard_iff]
  rw [escapeTokens, hneeds]

/-- Before whatever `P` admits, the text is read as these tokens. -/
def Reads (d : Dialect) (P : List Char → Prop) (s : String) (ts : List Token) : Prop :=
  ∀ rest, P rest → lex d (s.toList ++ rest) = (lex d rest).map (ts ++ ·)

def Anything (_ : List Char) : Prop := True

/-- The characters that stand behind the parts of a query. -/
def isBreak (c : Char) : Bool :=
  c == ' ' || c == ',' || c == ')'

/-- The text is over, or goes on with a character that no token takes up. -/
def Ends (rest : List Char) : Prop :=
  Stops (fun c => !isBreak c) rest

theorem Ends.stops {rest : List Char} (h : Ends rest) {p : Char → Bool}
    (hp : p ' ' = false ∧ p ',' = false ∧ p ')' = false) : Stops p rest := by
  refine Stops.mono h ?_
  intro c hc
  cases hb : isBreak c with
  | false => rfl
  | true =>
    simp only [isBreak, Bool.or_eq_true, beq_iff_eq] at hb
    rcases hb with (rfl | rfl) | rfl <;> simp_all

/-- The text starts with a break. -/
def Breaks (s : String) : Bool :=
  s.toList.head?.any isBreak

theorem Breaks.ends {s : String} (h : Breaks s = true) (rest : List Char) :
    Ends (s.toList ++ rest) := by
  unfold Breaks at h
  cases hl : s.toList with
  | nil => rw [hl] at h; cases h
  | cons c r =>
    rw [hl] at h
    simpa [Ends] using h

section

variable {d : Dialect} {P Q : List Char → Prop} {s s' : String} {ts ts' : List Token}

theorem Reads.mono (h : Reads d P s ts) (hPQ : ∀ rest, Q rest → P rest) : Reads d Q s ts :=
  fun rest hrest => h rest (hPQ rest hrest)

theorem Reads.append (h : Reads d P s ts) (h' : Reads d Q s' ts')
    (hP : ∀ rest, Q rest → P (s'.toList ++ rest)) : Reads d Q (s ++ s') (ts ++ ts') := by
  intro rest hrest
  rw [String.toList_append, List.append_assoc, h _ (hP rest hrest), h' rest hrest, Option.map_map]
  simp only [Function.comp_def, List.append_assoc]

/-- Nothing need be known of what follows a text that ends its last token itself. -/
theorem Reads.lead (h : Reads d Anything s ts) (h' : Reads d Q s' ts') :
    Reads d Q (s ++ s') (ts ++ ts') :=
  h.append h' fun _ _ => trivial

theorem Reads.stop (h : Reads d Ends s ts) (h' : Reads d Q s' ts') (hs : Breaks s' = true) :
    Reads d Q (s ++ s') (ts ++ ts') :=
  h.append h' fun rest _ => Breaks.ends hs rest

theorem reads_empty : Reads d P "" [] := by
  intro rest _
  simp

theorem Reads.intercalate {α : Type} {parts : List α} {f : α → String} {g : α → List Token}
    (hsep : Reads d Anything s ts) (hs : Breaks s = true)
    (h : ∀ a ∈ parts, Reads d Ends (f a) (g a)) :
    Reads d Ends (s.intercalate (parts.map f)) (ts.intercalate (parts.map g)) := by
  induction parts with
  | nil => exact reads_empty
  | cons a r ih =>
    have ha := h a (by simp)
    have hr := ih fun b hb => h b (by simp [hb])
    cases r with
    | nil => simpa using ha
    | cons b r =>
      simp only [List.map_cons, String.intercalate_cons_cons, List.intercalate_cons_cons] at hr ⊢
      exact (ha.stop hsep hs).lead hr

end

theorem reads_blank {d : Dialect} : Reads d Anything " " [] := by
  intro rest _
  rw [show " ".toList = [' '] from rfl, List.singleton_append, lex_blank]
  simp

theorem reads_text {d : Dialect} (s : String) : Reads d Ends (d.quoteText s) [.text s] :=
  fun _ h => lex_text s (h.stops (by decide))

section

variable {d : Dialect} (hq : d.QuotesNames)

include hq

theorem reads_word (w : String) (hw : isPlainName w.toList = true) : Reads d Ends w [.word w] :=
  fun _ h => lex_word hq w hw (h.stops (by decide))

theorem reads_keyword (w : String) (hw : isPlainName w.toList = true) :
    Reads d Anything (w ++ " ") [.word w] :=
  (reads_word hq w hw).stop reads_blank rfl

theorem reads_amid (w : String) (hw : isPlainName w.toList = true) :
    Reads d Anything (" " ++ (w ++ " ")) [.word w] :=
  reads_blank.lead (reads_keyword hq w hw)

/-- A symbol that begins no longer one. -/
theorem reads_mark (s : String) (hs : s ∈ symbols) (h : (s == "<" || s == ">") = false) :
    Reads d Anything s [.symbol s] := by
  intro rest _
  have hstop : Stops (continuesSymbol s) rest := fun c _ => by simp [continuesSymbol, h]
  exact lex_symbol hq s hs hstop

theorem reads_comparison (op : Comparison) : Reads d Ends op.symbol [.symbol op.symbol] := by
  intro rest h
  have hs : op.symbol ∈ symbols := by cases op <;> decide
  have hstop : Stops (continuesSymbol op.symbol) rest := h.stops (by cases op <;> decide)
  exact lex_symbol hq op.symbol hs hstop

theorem reads_open : Reads d Anything "(" [.symbol "("] :=
  reads_mark hq "(" (by decide) (by decide)

theorem reads_close : Reads d Anything ")" [.symbol ")"] :=
  reads_mark hq ")" (by decide) (by decide)

theorem reads_comma : Reads d Anything ", " comma :=
  (reads_mark hq "," (by decide) (by decide)).lead reads_blank

theorem reads_ident (c : Ident) : Reads d Ends c.name [.word c.name] :=
  reads_word hq c.name c.plain

theorem reads_literal (l : Literal) (hl : l.IsWritten) : Reads d Ends (d.literal l) [l.token] := by
  cases l with
  | text s => exact reads_text s
  | number ds => exact fun _ h => lex_numeral hq ds hl (h.stops (by decide))

theorem reads_count (n : Nat) : Reads d Ends (Number.natText n) [countToken n] :=
  fun _ h => lex_numeral hq _ (isNumeral_natText n) (h.stops (by decide))

/-- A name without either of the two quotes is read back from its place behind `as`. -/
theorem reads_outputName (name : String) (hn : d.identifierQuote ∉ name.toList) :
    Reads d Ends (d.outputName name) [d.nameToken name] := by
  unfold Dialect.outputName Dialect.nameToken
  split
  · next hbare =>
    exact reads_word hq name (Bool.and_eq_true_iff.mp hbare).1
  · intro rest _
    rw [String.toList_ofList, List.cons_append, List.cons_append, List.append_assoc]
    exact lex_quoted hq name hn rest

omit hq in
theorem isNamePart_of_mem {cs : List Char} (h : isPlainName cs = true) :
    ∀ c ∈ cs, isNamePart c = true := by
  cases cs with
  | nil => simp
  | cons c r =>
    rw [isPlainName, Bool.and_eq_true] at h
    intro c' hc'
    rcases List.mem_cons.mp hc' with rfl | hc'
    · simp [isNamePart, h.1]
    · exact List.all_eq_true.mp h.2 c' hc'

theorem Ident.quote_notMem (c : Ident) : d.identifierQuote ∉ c.name.toList := by
  intro hm
  have hpart := isNamePart_of_mem c.plain _ hm
  rcases hq with h | h <;> rw [h] at hpart <;> exact absurd hpart (by decide)

theorem Alias.quote_notMem (a : Alias) : d.identifierQuote ∉ a.name.toList := by
  intro hm
  have hsafe := a.quotable
  simp only [isAliasName, Bool.and_eq_true, Bool.not_eq_true', List.any_eq_false] at hsafe
  have hc := hsafe.2 _ hm
  rcases hq with h | h <;> simp [h, isUnsafeInAlias] at hc

theorem Relation.reads (r : Relation) : Reads d Ends r.name r.tokens := by
  have hplain := r.plain
  have hparts := List.takeWhile_append_dropWhile (p := (· != '.')) (l := r.name.toList)
  unfold isRelationName at hplain
  unfold Relation.tokens
  split
  · next hdrop =>
    rw [hdrop] at hplain
    exact reads_word hq r.name hplain
  · next c table hdrop =>
    -- What is left after the first part begins with the point itself.
    have hc : c = '.' := by
      have := List.head_dropWhile_not (p := (· != '.')) (l := r.name.toList) (by simp [hdrop])
      simpa [hdrop] using this
    rw [hdrop, hc] at hparts
    simp only [hdrop, Bool.and_eq_true] at hplain
    have hschema : Reads d (Stops isNamePart)
        (String.ofList (r.name.toList.takeWhile (· != '.'))) [.word _] :=
      fun _ h => lex_word hq _ (by simpa using hplain.1) h
    have htable := reads_word hq (String.ofList table) (by simpa using hplain.2)
    have hread := (hschema.append (reads_mark hq "." (by decide) (by decide))
      fun rest _ => by simp [isNamePart, isNameStart]).lead htable
    have hname : r.name =
        String.ofList (r.name.toList.takeWhile (· != '.')) ++ "." ++ String.ofList table := by
      apply String.toList_inj.mp
      simpa using hparts.symm
    rw [← hname] at hread
    exact hread

theorem Predicate.reads (p : Predicate) (hp : ∀ l ∈ p.literals, l.IsWritten) :
    Reads d Ends (p.render d) p.tokens := by
  cases p with
  | compare c op v =>
    have hv := reads_literal hq v (hp v (by simp [literals]))
    rw [tokens, op.token_eq]
    exact (((reads_ident hq c).stop reads_blank rfl).lead (reads_comparison hq op)).stop
      reads_blank rfl |>.lead hv
  | oneOf c vs =>
    have hlist : Reads d Ends (", ".intercalate (vs.map d.literal))
        (comma.intercalate (vs.map fun v => [v.token])) :=
      Reads.intercalate (reads_comma hq) rfl fun v hv => reads_literal hq v (hp v hv)
    have hin : Reads d Anything " IN (" [.word "IN", .symbol "("] :=
      (reads_amid hq "IN" (by decide)).lead (reads_open hq)
    exact ((reads_ident hq c).stop hin rfl).lead hlist |>.stop (reads_close hq) rfl |>.mono
      fun _ _ => trivial
  | like c operand shape negated =>
    rw [tokens, shape.token_eq, escapeTokens_eq]
    have hverb : Reads d Anything (if negated then " NOT LIKE " else " LIKE ")
        (if negated then [.word "NOT", .word "LIKE"] else [.word "LIKE"]) := by
      cases negated with
      | false => exact reads_amid hq "LIKE" (by decide)
      | true =>
        exact (reads_amid hq "NOT" (by decide)).lead (reads_keyword hq "LIKE" (by decide))
    have hescape : Reads d Ends
        (if needsEscape operand.toList then " ESCAPE " ++ d.quoteText "\\" else "")
        (if needsEscape operand.toList then [.word "ESCAPE", .text "\\"] else []) := by
      split
      · exact (reads_amid hq "ESCAPE" (by decide)).lead (reads_text "\\")
      · exact reads_empty
    have hbefore : Reads d Ends
        (c.name ++ (if negated then " NOT LIKE " else " LIKE ") ++
          d.quoteText (shape.pattern operand)) _ :=
      ((reads_ident hq c).stop hverb (by cases negated <;> rfl)).lead (reads_text _)
    refine hbefore.append hescape ?_
    intro rest h
    split
    · exact Breaks.ends (by simp [Breaks, isBreak]) rest
    · exact h
  | between c lower upper =>
    have hl := reads_literal hq lower (hp lower (by simp [literals]))
    have hu := reads_literal hq upper (hp upper (by simp [literals]))
    have hc := reads_ident hq c
    have habove : Reads d Anything " > " [.symbol ">"] :=
      (reads_blank.lead (reads_comparison hq .gt)).stop reads_blank rfl
    have hbelow : Reads d Anything " < " [.symbol "<"] :=
      (reads_blank.lead (reads_comparison hq .lt)).stop reads_blank rfl
    have hlower : Reads d Anything ("(" ++ c.name ++ " > " ++ d.literal lower ++ " AND ") _ :=
      ((((reads_open hq).lead hc).stop habove rfl).lead hl).stop
        (reads_amid hq "AND" (by decide)) rfl
    exact ((((hlower.lead hc).stop hbelow rfl).lead hu).stop (reads_close hq) rfl).mono
      fun _ _ => trivial
  | isNull c negated =>
    have hword (w : String) (hw : isPlainName w.toList = true) : Reads d Ends w [.word w] :=
      reads_word hq w hw
    have hnull : Reads d Ends (if negated then " IS NOT NULL" else " IS NULL")
        ([.word "IS"] ++ if negated then [.word "NOT", .word "NULL"] else [.word "NULL"]) := by
      cases negated with
      | false => exact (reads_amid hq "IS" (by decide)).lead (hword "NULL" (by decide))
      | true =>
        exact ((reads_amid hq "IS" (by decide)).lead (reads_keyword hq "NOT" (by decide))).lead
          (hword "NULL" (by decide))
    exact (reads_ident hq c).stop hnull (by cases negated <;> rfl)

theorem SelectItem.reads_condition (c : Ident × Literal) (hc : c.2.IsWritten) :
    Reads d Ends (renderCondition d c) (conditionTokens c) := by
  have heq : Reads d Anything " = " [.symbol "="] :=
    (reads_blank.lead (reads_comparison hq .eq)).stop reads_blank rfl
  exact ((reads_ident hq c.1).stop heq rfl).lead (reads_literal hq c.2 hc)

theorem reads_function (f : Aggregate) : Reads d (Stops isNamePart) f.name [.word f.name] := by
  intro rest h
  exact lex_word hq f.name (by cases f <;> decide) h

theorem reads_as : Reads d Anything ") as " [.symbol ")", .word "as"] :=
  ((reads_close hq).lead reads_blank).lead (reads_keyword hq "as" (by decide))

theorem SelectItem.reads (i : SelectItem) (hi : ∀ l ∈ i.literals, l.IsWritten) :
    Reads d Ends (i.render d) (i.tokens d) := by
  cases i with
  | wildcard => exact (reads_mark hq "*" (by decide) (by decide)).mono fun _ _ => trivial
  | column c => exact reads_ident hq c
  | aggregate f c output =>
    rw [tokens, f.token_eq]
    have hcall : Reads d Anything (f.name ++ "(") [.word f.name, .symbol "("] :=
      (reads_function hq f).append (reads_open hq) fun _ _ => by simp [isNamePart, isNameStart]
    have houtput := reads_outputName hq output.name (output.quote_notMem hq)
    exact ((hcall.lead (reads_ident hq c)).stop (reads_as hq) rfl).lead houtput
  | pivoted f c conditions output =>
    have hcase : Reads d Anything "(CASE WHEN " [.symbol "(", .word "CASE", .word "WHEN"] :=
      ((reads_open hq).lead (reads_keyword hq "CASE" (by decide))).lead
        (reads_keyword hq "WHEN" (by decide))
    have hcall : Reads d Anything (f.name ++ "(CASE WHEN ")
        [.word f.name, .symbol "(", .word "CASE", .word "WHEN"] :=
      (reads_function hq f).append hcase fun _ _ => by simp [isNamePart, isNameStart]
    have hconditions : Reads d Ends
        (" AND ".intercalate (conditions.map (renderCondition d)))
        ([Token.word "AND"].intercalate (conditions.map conditionTokens)) :=
      Reads.intercalate (reads_amid hq "AND" (by decide)) rfl fun c hc =>
        reads_condition hq c (hi c.2 (List.mem_map_of_mem hc))
    have hend : Reads d Anything " END) as " [.word "END", .symbol ")", .word "as"] :=
      (reads_blank.lead (reads_word hq "END" (by decide))).stop (reads_as hq) rfl
    have houtput := reads_outputName hq output.name (output.quote_notMem hq)
    have hread := ((((hcall.lead hconditions).stop (reads_amid hq "THEN" (by decide)) rfl).lead
      (reads_ident hq c)).stop hend rfl).lead houtput
    simpa [tokens, render, f.token_eq] using hread

theorem SortKey.reads (k : SortKey) : Reads d Ends (k.render d) [k.token d] := by
  cases k with
  | column c => exact reads_ident hq c
  | output o => exact reads_outputName hq o.name (o.quote_notMem hq)

theorem Select.reads_order (o : SortKey × Direction) :
    Reads d Ends (renderOrder d o) (orderTokens d o) := by
  have hdirection : Reads d Ends o.2.name [.word o.2.name] :=
    reads_word hq o.2.name (by cases o.2 <;> decide)
  rw [orderTokens, o.2.token_eq]
  exact ((SortKey.reads hq o.1).stop reads_blank rfl).lead hdirection

theorem reads_limit (startRow endRow : Nat) :
    Reads d Ends (d.limit startRow endRow) (d.limitTokens startRow endRow) := by
  have hopen : Reads d Anything "LIMIT " [.word "LIMIT"] := reads_keyword hq "LIMIT" (by decide)
  have hcomma : Reads d Anything "," [.symbol ","] := reads_mark hq "," (by decide) (by decide)
  have hoffset : Reads d Anything " OFFSET " [.word "OFFSET"] := reads_amid hq "OFFSET" (by decide)
  have hcount (n : Nat) := reads_count hq n
  unfold Dialect.limit Dialect.limitTokens
  cases d.paging with
  | bounds => exact ((hopen.lead (hcount _)).stop hcomma rfl).lead (hcount _)
  | offsetCount => exact ((hopen.lead (hcount _)).stop hcomma rfl).lead (hcount _)
  | limitOffset => exact ((hopen.lead (hcount _)).stop hoffset rfl).lead (hcount _)

namespace Select

omit hq in
/-- A clause that is left out lets what stands before it end where the clause would have. -/
theorem ends_clause {opening separator : String} {parts : List String} (h : Breaks opening = true) :
    ∀ rest, Ends rest → Ends ((clause opening separator parts).toList ++ rest) := by
  intro rest hrest
  unfold clause
  split
  · exact hrest
  · rw [String.toList_append, List.append_assoc]
    exact Breaks.ends h _

omit hq in
theorem reads_clause {α : Type} {opening separator : String} {os ss : List Token} {parts : List α}
    {f : α → String} {g : α → List Token} (ho : Reads d Anything opening os)
    (hs : Reads d Anything separator ss) (hb : Breaks separator = true)
    (h : ∀ a ∈ parts, Reads d Ends (f a) (g a)) :
    Reads d Ends (clause opening separator (parts.map f)) (clauseTokens os ss (parts.map g)) := by
  cases parts with
  | nil => exact reads_empty
  | cons a r => exact ho.lead (Reads.intercalate hs hb h)

theorem reads_group (group : Option Ident) :
    Reads d Ends (clause " GROUP BY " "" (group.toList.map (·.name)))
      (clauseTokens [.word "GROUP", .word "BY"] [] (group.toList.map fun c => [.word c.name])) := by
  cases group with
  | none => exact reads_empty
  | some c =>
    have hgroup : Reads d Anything " GROUP BY " [.word "GROUP", .word "BY"] :=
      (reads_amid hq "GROUP" (by decide)).lead (reads_keyword hq "BY" (by decide))
    simpa [clause, clauseTokens] using hgroup.lead (reads_ident hq c)

/-- The literals of a query. -/
def literals (q : Select) : List Literal :=
  q.items.flatMap (·.literals) ++ q.predicates.flatMap (·.literals)

theorem reads (q : Select) (h : ∀ l ∈ q.literals, l.IsWritten) :
    Reads d Ends (q.render d) (q.tokens d) := by
  have hitems : Reads d Ends (", ".intercalate (q.items.map (·.render d)))
      (comma.intercalate (q.items.map (·.tokens d))) :=
    Reads.intercalate (reads_comma hq) rfl fun i hi => SelectItem.reads hq i fun l hl =>
      h l (List.mem_append_left _ (List.mem_flatMap.mpr ⟨i, hi, hl⟩))
  have hwhere : Reads d Ends (clause " WHERE " " AND " (q.predicates.map (·.render d)))
      (clauseTokens [.word "WHERE"] [.word "AND"] (q.predicates.map (·.tokens))) :=
    reads_clause (reads_amid hq "WHERE" (by decide)) (reads_amid hq "AND" (by decide)) rfl
      fun p hp => Predicate.reads hq p fun l hl =>
        h l (List.mem_append_right _ (List.mem_flatMap.mpr ⟨p, hp, hl⟩))
  have horder : Reads d Ends (clause " ORDER BY " ", " (q.orderBy.map (renderOrder d)))
      (clauseTokens [.word "ORDER", .word "BY"] comma (q.orderBy.map (orderTokens d))) :=
    reads_clause ((reads_amid hq "ORDER" (by decide)).lead (reads_keyword hq "BY" (by decide)))
      (reads_comma hq) rfl fun o _ => reads_order hq o
  have hhead := (((reads_keyword hq "SELECT" (by decide)).lead hitems).stop
    (reads_amid hq "FROM" (by decide)) rfl).lead (Relation.reads hq q.relation)
  have hbody := ((hhead.append hwhere (ends_clause rfl)).append (reads_group hq q.groupBy)
    (ends_clause rfl)).append horder (ends_clause rfl)
  have hread := (hbody.stop reads_blank rfl).lead (reads_limit hq q.startRow q.endRow)
  rw [List.append_nil] at hread
  exact hread

/-- The text of a query is split into exactly the query's tokens. -/
theorem lex_render (q : Select) (h : ∀ l ∈ q.literals, l.IsWritten) :
    lex d (q.render d).toList = some (q.tokens d) := by
  have hread := reads hq q h [] (stops_nil _)
  simpa [lex_nil] using hread

end Select

end

end GridQuery.Sql
