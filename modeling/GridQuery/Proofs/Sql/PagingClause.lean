import GridQuery.Proofs.Number.Value
import GridQuery.Proofs.Sql.Literal
import GridQuery.Sql.Select

/-!
What a paging clause asks for, read from its text: how many rows to pass over, and how many to give
at most. The two styles that give a count differ in the order of these numbers.
-/

namespace GridQuery.Sql

open GridQuery.Number

/-- The offset and the count of a clause that begins with this number: behind a comma stands the
count, otherwise the offset. -/
def pageFrom? (first : Nat) : List Char → Option (Nat × Nat)
  | ',' :: rest => (readDigits? rest).map fun count => (first, count)
  | rest => ((rest.dropPrefix? " OFFSET ".toList).bind readDigits?).map fun offset =>
    (offset, first)

/-- The offset and the count that a paging clause gives. -/
def page? (clause : String) : Option (Nat × Nat) :=
  (clause.toList.dropPrefix? "LIMIT ".toList).bind fun cs =>
    let (ds, rest) := spanDigits cs
    (readDigits? ds).bind fun first => pageFrom? first rest

/-- The query without its paging clause. -/
def Select.unpaged (d : Dialect) (q : Select) : String :=
  "SELECT " ++ ", ".intercalate (q.items.map (·.render d)) ++ " FROM " ++ q.relation.name ++
    clause " WHERE " " AND " (q.predicates.map (·.render d)) ++
    clause " GROUP BY " "" (q.groupBy.toList.map (·.name)) ++
    clause " ORDER BY " ", " (q.orderBy.map (renderOrder d))

theorem Select.render_eq (d : Dialect) (q : Select) :
    q.render d = q.unpaged d ++ " " ++ d.limit q.startRow q.endRow := rfl

theorem readDigits?_digits (n : Nat) : readDigits? (digits n) = some n := by
  have hd := isDigits_digits n
  rw [readDigits?, if_pos ⟨hd.1, List.all_eq_true.mpr hd.2⟩, digitsValue_digits]

theorem dropPrefix?_append_self (cs rest : List Char) :
    (cs ++ rest).dropPrefix? cs = some rest :=
  List.dropPrefix?_eq_some_iff.mpr ⟨cs, rfl, beq_self_eq_true cs⟩

theorem pageFrom?_offset (count offset : Nat) :
    pageFrom? count (" OFFSET ".toList ++ digits offset) = some (offset, count) := by
  unfold pageFrom?
  split
  · next heq => simp at heq
  · rw [dropPrefix?_append_self]
    simp [readDigits?_digits]

theorem page?_eq_pageFrom? {clause : String} {first : Nat} {rest : List Char}
    (h : clause.toList = "LIMIT ".toList ++ (digits first ++ rest)) (hrest : Stops isDigit rest) :
    page? clause = pageFrom? first rest := by
  rw [page?, h, dropPrefix?_append_self, Option.bind_some,
    spanDigits_append (isDigits_digits first) hrest]
  simp [readDigits?_digits]

theorem page?_limit {d : Dialect} (h : d.paging ≠ .bounds) (startRow endRow : Nat) :
    page? (d.limit startRow endRow) = some (startRow, endRow - startRow) := by
  cases hp : d.paging with
  | bounds => exact absurd hp h
  | offsetCount =>
    have hclause : (d.limit startRow endRow).toList =
        "LIMIT ".toList ++ (digits startRow ++ ',' :: digits (endRow - startRow)) := by
      simp [Dialect.limit, hp, natText]
    rw [page?_eq_pageFrom? hclause (by simp [isDigit])]
    simp [pageFrom?, readDigits?_digits]
  | limitOffset =>
    have hclause : (d.limit startRow endRow).toList =
        "LIMIT ".toList ++
          (digits (endRow - startRow) ++ (" OFFSET ".toList ++ digits startRow)) := by
      simp [Dialect.limit, hp, natText]
    rw [page?_eq_pageFrom? hclause (by simp [isDigit])]
    exact pageFrom?_offset (endRow - startRow) startRow

end GridQuery.Sql
