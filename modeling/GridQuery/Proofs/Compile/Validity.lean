import GridQuery.Proofs.Outcome

/-! What makes a request valid, said without steps and errors. -/

namespace GridQuery.Sql

theorem Ident.eq_of_name {i j : Ident} (h : i.name = j.name) : i = j := by
  cases i
  cases j
  cases h
  rfl

theorem Ident.ofText_eq_ok_iff {s : String} {i : Ident} : Ident.ofText s = .ok i ↔ i.name = s := by
  unfold Ident.ofText
  constructor
  · intro h
    split at h
    · cases h
      rfl
    · cases h
  · rintro rfl
    rw [dif_pos i.plain]

theorem Ident.succeeds_ofText {s : String} :
    Succeeds (Ident.ofText s) ↔ isPlainName s.toList = true := by
  unfold Ident.ofText
  split <;> simp_all

theorem Relation.ofText_eq_ok_iff {s : String} {r : Relation} :
    Relation.ofText s = .ok r ↔ r.name = s := by
  unfold Relation.ofText
  constructor
  · intro h
    split at h
    · cases h
      rfl
    · cases h
  · rintro rfl
    rw [dif_pos r.plain]

theorem Relation.succeeds_ofText {s : String} :
    Succeeds (Relation.ofText s) ↔ isRelationName s.toList = true := by
  unfold Relation.ofText
  split <;> simp_all

theorem Alias.ofText_eq_ok_iff {s : String} {a : Alias} : Alias.ofText s = .ok a ↔ a.name = s := by
  unfold Alias.ofText
  constructor
  · intro h
    split at h
    · cases h
      rfl
    · cases h
  · rintro rfl
    rw [dif_pos a.quotable]

end GridQuery.Sql

namespace GridQuery

open GridQuery.Sql

/-- Nothing repeats, neither inside the list nor what has been met before. -/
theorem firstRepeated?_eq_none_iff {seen names : List String} :
    firstRepeated? seen names = none ↔ names.Nodup ∧ ∀ n ∈ names, n ∉ seen := by
  induction names generalizing seen with
  | nil => simp [firstRepeated?]
  | cons n r ih =>
    by_cases hn : n ∈ seen
    · simp [firstRepeated?, hn]
    · simp only [firstRepeated?, List.contains_iff_mem, hn, if_false, ih, List.nodup_cons,
        List.mem_cons, not_or]
      constructor
      · rintro ⟨hnodup, hseen⟩
        refine ⟨⟨fun hm => (hseen n hm).1 rfl, hnodup⟩, ?_⟩
        rintro m (rfl | hm)
        · exact hn
        · exact (hseen m hm).2
      · rintro ⟨⟨hnr, hnodup⟩, hseen⟩
        refine ⟨hnodup, fun m hm => ⟨?_, hseen m (.inr hm)⟩⟩
        rintro rfl
        exact hnr hm

theorem checkDistinct_eq_ok_iff {names : List String} :
    checkDistinct names = .ok () ↔ names.Nodup := by
  have hiff := @firstRepeated?_eq_none_iff [] names
  unfold checkDistinct
  split
  · next h => simp_all
  · next h => simp_all

theorem Column.succeeds_requireAggregate {c : Column} :
    Succeeds c.requireAggregate ↔ c.aggregate.isSome = true := by
  unfold Column.requireAggregate
  split <;> simp_all

/-- A pivot value is a text, which a column of numbers has to be able to read. -/
theorem GroupKey.succeeds_literal_text {v : String} {c : Column} :
    Succeeds ((GroupKey.text v).literal c) ↔
      (c.type = .number → (Literal.parseNumber? v).isSome = true) := by
  unfold GroupKey.literal
  cases c.type with
  | text => simp
  | number =>
    cases hv : Literal.parseNumber? v with
    | none => simp [hv]
    | some l => simp [hv]

namespace Request

/-- What is asked of sort entries and value columns, which depends on whether groups or rows are
wanted. -/
def LevelFits (r : Request) : Prop :=
  if r.isLeaf then ∀ s ∈ r.sorting, isPlainName s.columnId.toList = true
  else ∀ c ∈ r.valueCols, isPlainName c.outputName.toList = true ∧ c.aggregate.isSome = true

structure Valid (r : Request) (table : String) : Prop where
  relation : isRelationName table.toList = true
  window : r.startRow ≤ r.endRow
  keyCount : r.groupKeys.length ≤ r.rowGroupCols.length
  fields : ∀ c ∈ r.rowGroupCols ++ r.valueCols ++ r.pivotCols, isPlainName c.field.toList = true
  names : r.outputNames.Nodup
  keys : Succeeds r.keyPredicates
  filters : Succeeds r.filterPredicates
  level : r.LevelFits

variable {r : Request} {table : String}

theorem checkWindow_eq_ok_iff : r.checkWindow = .ok () ↔ r.startRow ≤ r.endRow := by
  unfold checkWindow
  split
  · next h => simp [h]
  · next h => simp [Nat.le_of_not_lt h]

theorem checkKeyCount_eq_ok_iff :
    r.checkKeyCount = .ok () ↔ r.groupKeys.length ≤ r.rowGroupCols.length := by
  unfold checkKeyCount
  split
  · next h => simp [h]
  · next h => simp [Nat.le_of_not_lt h]

theorem checkFields_eq_ok_iff :
    r.checkFields = .ok () ↔
      ∀ c ∈ r.rowGroupCols ++ r.valueCols ++ r.pivotCols, isPlainName c.field.toList = true := by
  rw [← succeeds_unit, checkFields]
  simp only [succeeds_bind_const, succeeds_pure, and_true, succeeds_eachOf,
    Ident.succeeds_ofText]

theorem checkLevel_eq_ok_iff : r.checkLevel = .ok () ↔ r.LevelFits := by
  rw [← succeeds_unit, checkLevel, LevelFits]
  split
  · simp only [succeeds_bind_const, succeeds_pure, and_true, succeeds_eachOf,
      Ident.succeeds_ofText]
  · simp only [succeeds_bind_const, succeeds_pure, and_true, succeeds_eachOf,
      Ident.succeeds_ofText, Column.succeeds_requireAggregate]

theorem validate_eq_ok_iff : r.validate table = .ok () ↔ r.Valid table := by
  rw [← succeeds_unit, validate]
  simp only [succeeds_bind_const, succeeds_unit, Relation.succeeds_ofText, checkWindow_eq_ok_iff,
    checkKeyCount_eq_ok_iff, checkFields_eq_ok_iff, checkDistinct_eq_ok_iff, checkLevel_eq_ok_iff]
  constructor
  · rintro ⟨hrelation, hwindow, hcount, hfields, hnames, hkeys, hfilters, hlevel⟩
    exact ⟨hrelation, hwindow, hcount, hfields, hnames, hkeys, hfilters, hlevel⟩
  · rintro ⟨hrelation, hwindow, hcount, hfields, hnames, hkeys, hfilters, hlevel⟩
    exact ⟨hrelation, hwindow, hcount, hfields, hnames, hkeys, hfilters, hlevel⟩

end Request

end GridQuery
