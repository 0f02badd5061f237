import GridQuery.Proofs.Compile.Plan
import GridQuery.Proofs.Sql.Reading

/-!
The text of a compiled request. Whatever a request holds, the numbers in its query are numerals, so
that its text says what the query says and nothing else.
-/

namespace GridQuery

open GridQuery.Number GridQuery.Sql

theorem GroupKey.isWritten_literal {key : GroupKey} {c : Column} {l : Literal}
    (h : key.literal c = .ok l) : l.IsWritten := by
  unfold GroupKey.literal at h
  simp only at h
  split at h
  · cases h
    trivial
  · cases h
  · cases h
    exact Literal.isWritten_ofJson _
  · split at h
    · next hparse =>
      cases h
      exact Literal.isWritten_of_parseNumber? hparse
    · cases h

namespace ColumnFilter

theorem mem_distinctLiterals {values : List String} {l : Literal} :
    l ∈ distinctLiterals values ↔ ∃ v ∈ values, l = .text v := by
  have hfold (acc : List Literal) :
      l ∈ values.foldl (fun ls v => if ls.contains (.text v) then ls else ls ++ [.text v]) acc ↔
        l ∈ acc ∨ ∃ v ∈ values, l = .text v := by
    induction values generalizing acc with
    | nil => simp
    | cons v r ih =>
      rw [List.foldl_cons, ih, List.exists_mem_cons_iff, ← or_assoc]
      refine or_congr_left ?_
      split
      · next hv =>
        have hmem : Literal.text v ∈ acc := List.contains_iff_mem.mp hv
        constructor
        · exact .inl
        · rintro (hl | rfl)
          · exact hl
          · exact hmem
      · simp
  simpa [distinctLiterals] using hfold []

theorem isWritten_numberOperand {column : Ident} {name : String} {operand : Option Binary64}
    {l : Literal} (h : numberOperand column name operand = .ok l) : l.IsWritten := by
  unfold numberOperand at h
  split at h
  · cases h
  · split at h
    · next hl =>
      cases h
      exact Literal.isWritten_of_ofBinary64? hl
    · cases h

variable {column : Ident} {p : Predicate}

theorem isWritten_setPredicate {values : List String} (h : setPredicate column values = .ok p) :
    ∀ l ∈ p.literals, l.IsWritten := by
  unfold setPredicate at h
  split at h
  · cases h
  · cases h
    intro l hl
    obtain ⟨v, -, rfl⟩ := mem_distinctLiterals.mp hl
    trivial

theorem isWritten_textPredicate {kind : TextFilterKind} {operand : Option String}
    (h : textPredicate column kind operand = .ok p) : ∀ l ∈ p.literals, l.IsWritten := by
  unfold textPredicate at h
  split at h
  · cases h
    simp [Predicate.literals]
  · cases h
    simp [Predicate.literals, Literal.IsWritten]
  · cases h
    simp [Predicate.literals]
  · cases h

theorem isWritten_numberPredicate {kind : NumberFilterKind} {operand upper : Option Binary64}
    (h : numberPredicate column kind operand upper = .ok p) : ∀ l ∈ p.literals, l.IsWritten := by
  unfold numberPredicate at h
  split at h
  · cases h
    simp [Predicate.literals]
  · obtain ⟨value, hvalue, h⟩ := bind_eq_ok_iff.mp h
    obtain rfl := pure_eq_ok_iff.mp h
    simpa [Predicate.literals] using isWritten_numberOperand hvalue
  · obtain ⟨lower, hlower, h⟩ := bind_eq_ok_iff.mp h
    obtain ⟨upper, hupper, h⟩ := bind_eq_ok_iff.mp h
    obtain rfl := pure_eq_ok_iff.mp h
    simpa [Predicate.literals] using
      And.intro (isWritten_numberOperand hlower) (isWritten_numberOperand hupper)

theorem isWritten_toPredicate {f : ColumnFilter} {name : String}
    (h : f.toPredicate name = .ok p) : ∀ l ∈ p.literals, l.IsWritten := by
  obtain ⟨column, -, h⟩ := bind_eq_ok_iff.mp h
  cases f with
  | set values => exact isWritten_setPredicate h
  | text kind operand => exact isWritten_textPredicate h
  | number kind operand upper => exact isWritten_numberPredicate h

end ColumnFilter

namespace Request

variable {r : Request} {table : String} {d : Domains}

theorem isWritten_keyPredicates {ps : List Predicate} (h : r.keyPredicates = .ok ps) :
    ∀ p ∈ ps, ∀ l ∈ p.literals, l.IsWritten := by
  refine forall_mem_eachOf h ?_
  rintro ⟨c, key⟩ _ p hp
  obtain ⟨column, value, -, hvalue, rfl⟩ := keyPredicate_eq_ok_iff.mp hp
  simpa [Predicate.literals] using GroupKey.isWritten_literal hvalue

theorem isWritten_filterPredicates {ps : List Predicate} (h : r.filterPredicates = .ok ps) :
    ∀ p ∈ ps, ∀ l ∈ p.literals, l.IsWritten := by
  refine forall_mem_eachOf h ?_
  rintro ⟨name, f⟩ _ p hp
  exact ColumnFilter.isWritten_toPredicate hp

theorem isWritten_comboItems {combo : List String} {items : List SelectItem}
    (h : r.comboItems combo = .ok items) : ∀ i ∈ items, ∀ l ∈ i.literals, l.IsWritten := by
  obtain ⟨conditions, hconditions, hitems⟩ := bind_eq_ok_iff.mp h
  have hwritten : ∀ p ∈ conditions, p.2.IsWritten := by
    refine forall_mem_eachOf hconditions ?_
    rintro ⟨c, v⟩ _ p hp
    exact GroupKey.isWritten_literal (pivotCondition_eq_ok_iff.mp hp).2
  refine forall_mem_eachOf hitems ?_
  intro c _ i hi
  obtain ⟨f, column, output, -, -, -, rfl⟩ := pivotItem_eq_ok_iff.mp hi
  intro l hl
  obtain ⟨p, hp, rfl⟩ := List.mem_map.mp hl
  exact hwritten p hp

theorem isWritten_addedItems {items : List SelectItem} (h : r.addedItems d = .ok items) :
    ∀ i ∈ items, ∀ l ∈ i.literals, l.IsWritten :=
  forall_mem_addedItems h fun _ _ _ _ => isWritten_comboItems

theorem isWritten_groupItems {group : Ident} {items : List SelectItem}
    (h : r.groupItems group d = .ok items) : ∀ i ∈ items, ∀ l ∈ i.literals, l.IsWritten := by
  obtain ⟨values, added, hvalues, hadded, -, rfl⟩ := groupItems_eq_ok_iff.mp h
  have hplain : ∀ i ∈ values, i.literals = [] := by
    refine forall_mem_eachOf hvalues ?_
    intro c _ i hi
    obtain ⟨f, column, output, -, -, -, rfl⟩ := Column.valueItem_eq_ok_iff.mp hi
    rfl
  intro i hi
  rcases List.mem_append.mp hi with hi | hi
  · rcases List.mem_cons.mp hi with rfl | hi
    · simp [SelectItem.literals]
    · simp [hplain i hi]
  · exact isWritten_addedItems hadded i hi

theorem isWritten_plan {q : Select} (h : r.plan table d = .ok q) :
    ∀ l ∈ q.literals, l.IsWritten := by
  have hpredicates {keys filters : List Predicate} (hkeys : r.keyPredicates = .ok keys)
      (hfilters : r.filterPredicates = .ok filters) :
      ∀ p ∈ keys ++ filters, ∀ l ∈ p.literals, l.IsWritten := by
    intro p hp
    rcases List.mem_append.mp hp with hp | hp
    · exact isWritten_keyPredicates hkeys p hp
    · exact isWritten_filterPredicates hfilters p hp
  intro l hl
  rw [Select.literals, List.mem_append, List.mem_flatMap, List.mem_flatMap] at hl
  cases (plan_eq_ok_iff.mp h).2 with
  | rows _ hkeys hfilters =>
    rcases hl with ⟨i, hi, hl⟩ | ⟨p, hp, hl⟩
    · simp_all [SelectItem.literals]
    · exact hpredicates hkeys hfilters p hp l hl
  | groups _ hkeys hfilters _ hitems =>
    rcases hl with ⟨i, hi, hl⟩ | ⟨p, hp, hl⟩
    · exact isWritten_groupItems hitems i hi l hl
    · exact hpredicates hkeys hfilters p hp l hl

/-- The text of a compiled request is split into exactly the tokens of its query: no string of the
request is read as anything but the string, the name or the numeral that it stands for. -/
theorem lex_toSql {dialect : Dialect} {sql : String} (hq : dialect.QuotesNames)
    (h : r.toSql table d dialect = .ok sql) :
    ∃ q, r.plan table d = .ok q ∧ lex dialect sql.toList = some (q.tokens dialect) := by
  obtain ⟨q, hplan, hsql⟩ := bind_eq_ok_iff.mp h
  obtain rfl := pure_eq_ok_iff.mp hsql
  exact ⟨q, hplan, Select.lex_render hq q (isWritten_plan hplan)⟩

/-- Quotes, backslashes and wildcards in an operand and in a pivot value; two aggregates, and both
directions. -/
def quoted : Request where
  endRow := 10
  rowGroupCols := [⟨"g", "", "city", none, .text⟩]
  valueCols := [⟨"v", "", "sales", some .sum, .number⟩, ⟨"m", "", "price", some .avg, .number⟩]
  pivotCols := [⟨"p", "", "part", none, .text⟩]
  filters := [("name", .text .contains (some "%' OR 1=1 --\\")),
    ("stock", .number .greaterThanOrEqual (some (.ofNat 5)) none)]
  sorting := [⟨"m", .desc⟩, ⟨"city", .asc⟩]

/-- The query of `quoted` where a backslash escapes. -/
def quotedSql : String :=
  "SELECT city, sum(sales) as sales, avg(price) as price, " ++
    "sum(CASE WHEN part = 'a''b' THEN sales END) as \x60a'b_sales\x60, " ++
    "avg(CASE WHEN part = 'a''b' THEN price END) as \x60a'b_price\x60 FROM t " ++
    "WHERE name LIKE '%\\\\%'' OR 1=1 --\\\\\\\\%' ESCAPE '\\\\' AND stock >= 5 " ++
    "GROUP BY city ORDER BY price desc, city asc LIMIT 0,10"

theorem lex_toSql_quoted :
    Dialect.mysql.QuotesNames ∧
      quoted.toSql "t" (.ofList [("part", ["a'b"])]) .mysql = .ok quotedSql ∧
      ∃ q, quoted.plan "t" (.ofList [("part", ["a'b"])]) = .ok q ∧
        lex .mysql quotedSql.toList = some (q.tokens .mysql) := by
  have hq : Dialect.mysql.QuotesNames := by decide
  have hsql : quoted.toSql "t" (.ofList [("part", ["a'b"])]) .mysql = .ok quotedSql := by
    decide +kernel
  exact ⟨hq, hsql, lex_toSql hq hsql⟩

end Request

end GridQuery
