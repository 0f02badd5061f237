import GridQuery.Proofs.Compile.Items

/-! Compiling a request never claims that the source failed: its errors are the caller's. -/

namespace GridQuery

open GridQuery.Sql

variable {α β : Type}

/-- Whatever goes wrong in the step is the caller's fault. -/
def BlamesCaller (x : Except QueryError α) : Prop :=
  ∀ e, x = .error e → e.isCallerError = true

@[simp] theorem blamesCaller_ok (a : α) : BlamesCaller (.ok a : Except QueryError α) := by
  intro e h
  cases h

@[simp] theorem blamesCaller_pure (a : α) : BlamesCaller (pure a : Except QueryError α) :=
  blamesCaller_ok a

theorem blamesCaller_error {e : QueryError} (h : e.isCallerError = true) :
    BlamesCaller (.error e : Except QueryError α) := by
  intro e' he
  cases he
  exact h

theorem blamesCaller_bind {x : Except QueryError α} {f : α → Except QueryError β}
    (hx : BlamesCaller x) (hf : ∀ a, BlamesCaller (f a)) : BlamesCaller (x >>= f) := by
  intro e h
  rcases bind_eq_error_iff.mp h with h | ⟨a, -, h⟩
  · exact hx e h
  · exact hf a e h

theorem blamesCaller_bind_pure {x : Except QueryError α} {f : α → β} (hx : BlamesCaller x) :
    BlamesCaller (x >>= fun a => pure (f a)) :=
  blamesCaller_bind hx fun a => blamesCaller_pure (f a)

theorem blamesCaller_eachOf {f : α → Except QueryError β} (hf : ∀ a, BlamesCaller (f a))
    (l : List α) : BlamesCaller (eachOf f l) := by
  intro e h
  obtain ⟨a, -, ha⟩ := exists_of_eachOf_eq_error h
  exact hf a e ha

theorem blamesCaller_ident (s : String) : BlamesCaller (Ident.ofText s) := by
  unfold Ident.ofText
  split
  · exact blamesCaller_ok _
  · exact blamesCaller_error rfl

theorem blamesCaller_relation (s : String) : BlamesCaller (Relation.ofText s) := by
  unfold Relation.ofText
  split
  · exact blamesCaller_ok _
  · exact blamesCaller_error rfl

theorem blamesCaller_alias (s : String) : BlamesCaller (Alias.ofText s) := by
  unfold Alias.ofText
  split
  · exact blamesCaller_ok _
  · exact blamesCaller_error rfl

theorem blamesCaller_checkDistinct (names : List String) : BlamesCaller (checkDistinct names) := by
  unfold checkDistinct
  split
  · exact blamesCaller_error rfl
  · exact blamesCaller_ok _

theorem blamesCaller_keyLiteral (key : GroupKey) (c : Column) : BlamesCaller (key.literal c) := by
  unfold GroupKey.literal
  simp only
  split
  · exact blamesCaller_ok _
  · exact blamesCaller_error rfl
  · exact blamesCaller_ok _
  · split
    · exact blamesCaller_ok _
    · exact blamesCaller_error rfl

theorem blamesCaller_requireAggregate (c : Column) : BlamesCaller c.requireAggregate := by
  unfold Column.requireAggregate
  split
  · exact blamesCaller_ok _
  · exact blamesCaller_error rfl

theorem blamesCaller_valueItem (c : Column) : BlamesCaller c.valueItem := by
  refine blamesCaller_bind (blamesCaller_requireAggregate c) ?_
  intro f
  refine blamesCaller_bind (blamesCaller_ident _) ?_
  intro column
  exact blamesCaller_bind_pure (blamesCaller_ident _)

namespace ColumnFilter

theorem blamesCaller_numberOperand (column : Ident) (name : String)
    (operand : Option Number.Binary64) : BlamesCaller (numberOperand column name operand) := by
  unfold numberOperand
  split
  · exact blamesCaller_error rfl
  · split
    · exact blamesCaller_ok _
    · exact blamesCaller_error rfl

theorem blamesCaller_toPredicate (f : ColumnFilter) (name : String) :
    BlamesCaller (f.toPredicate name) := by
  refine blamesCaller_bind (blamesCaller_ident name) ?_
  intro column
  cases f with
  | set values =>
    simp only [setPredicate]
    split
    · exact blamesCaller_error rfl
    · exact blamesCaller_ok _
  | text kind operand =>
    simp only [textPredicate]
    split
    · exact blamesCaller_ok _
    · exact blamesCaller_ok _
    · exact blamesCaller_ok _
    · exact blamesCaller_error rfl
  | number kind operand upper =>
    simp only [numberPredicate]
    split
    · exact blamesCaller_ok _
    · exact blamesCaller_bind_pure (blamesCaller_numberOperand _ _ _)
    · refine blamesCaller_bind (blamesCaller_numberOperand _ _ _) ?_
      intro lower
      exact blamesCaller_bind_pure (blamesCaller_numberOperand _ _ _)

end ColumnFilter

namespace Request

theorem blamesCaller_keyPredicates (r : Request) : BlamesCaller r.keyPredicates := by
  refine blamesCaller_eachOf ?_ _
  rintro ⟨c, key⟩
  refine blamesCaller_bind (blamesCaller_ident _) ?_
  intro column
  exact blamesCaller_bind_pure (blamesCaller_keyLiteral key c)

theorem blamesCaller_filterPredicates (r : Request) : BlamesCaller r.filterPredicates := by
  refine blamesCaller_eachOf ?_ _
  rintro ⟨name, f⟩
  exact f.blamesCaller_toPredicate name

theorem blamesCaller_checkFields (r : Request) : BlamesCaller r.checkFields :=
  blamesCaller_bind_pure (blamesCaller_eachOf (fun _ => blamesCaller_ident _) _)

theorem blamesCaller_checkLevel (r : Request) : BlamesCaller r.checkLevel := by
  unfold checkLevel
  split
  · exact blamesCaller_bind_pure (blamesCaller_eachOf (fun _ => blamesCaller_ident _) _)
  · refine blamesCaller_bind_pure (blamesCaller_eachOf ?_ _)
    intro c
    exact blamesCaller_bind (blamesCaller_ident _) fun _ => blamesCaller_requireAggregate c

theorem blamesCaller_validate (r : Request) (table : String) :
    BlamesCaller (r.validate table) := by
  have hwindow : BlamesCaller r.checkWindow := by
    unfold checkWindow
    split
    · exact blamesCaller_error rfl
    · exact blamesCaller_ok _
  have hcount : BlamesCaller r.checkKeyCount := by
    unfold checkKeyCount
    split
    · exact blamesCaller_error rfl
    · exact blamesCaller_ok _
  refine blamesCaller_bind (blamesCaller_relation table) fun _ => ?_
  refine blamesCaller_bind hwindow fun _ => ?_
  refine blamesCaller_bind hcount fun _ => ?_
  refine blamesCaller_bind r.blamesCaller_checkFields fun _ => ?_
  refine blamesCaller_bind (blamesCaller_checkDistinct _) fun _ => ?_
  refine blamesCaller_bind r.blamesCaller_keyPredicates fun _ => ?_
  exact blamesCaller_bind r.blamesCaller_filterPredicates fun _ => r.blamesCaller_checkLevel

theorem blamesCaller_pivotItem (conditions : List (Ident × Literal)) (combo : List String)
    (c : Column) : BlamesCaller (pivotItem conditions combo c) := by
  refine blamesCaller_bind (blamesCaller_requireAggregate c) fun f => ?_
  refine blamesCaller_bind (blamesCaller_ident _) fun column => ?_
  exact blamesCaller_bind_pure (blamesCaller_alias _)

theorem blamesCaller_comboItems (r : Request) (combo : List String) :
    BlamesCaller (r.comboItems combo) := by
  refine blamesCaller_bind (blamesCaller_eachOf ?_ _) ?_
  · rintro ⟨c, v⟩
    refine blamesCaller_bind (blamesCaller_ident _) fun column => ?_
    exact blamesCaller_bind_pure (blamesCaller_keyLiteral _ c)
  · intro conditions
    exact blamesCaller_eachOf (blamesCaller_pivotItem conditions combo) _

theorem blamesCaller_addedItems (r : Request) (d : Domains) : BlamesCaller (r.addedItems d) := by
  unfold addedItems pivotItems
  split
  · split
    · exact blamesCaller_error rfl
    · exact blamesCaller_bind_pure (blamesCaller_eachOf r.blamesCaller_comboItems _)
  · exact blamesCaller_ok _

theorem blamesCaller_groupItems (r : Request) (group : Ident) (d : Domains) :
    BlamesCaller (r.groupItems group d) := by
  rw [groupItems_eq]
  refine blamesCaller_bind (blamesCaller_eachOf blamesCaller_valueItem _) fun values => ?_
  refine blamesCaller_bind (r.blamesCaller_addedItems d) fun added => ?_
  exact blamesCaller_bind_pure (blamesCaller_checkDistinct _)

theorem blamesCaller_leafOrder (r : Request) : BlamesCaller r.leafOrder :=
  blamesCaller_eachOf (fun _ => blamesCaller_bind_pure (blamesCaller_ident _)) _

theorem blamesCaller_groupOrder (r : Request) (group : Column) :
    BlamesCaller (r.groupOrder group) := by
  refine blamesCaller_bind_pure (blamesCaller_eachOf ?_ _)
  intro s
  unfold groupSortKey
  split
  · exact blamesCaller_bind_pure (blamesCaller_ident _)
  · split
    · exact blamesCaller_bind_pure (blamesCaller_ident _)
    · exact blamesCaller_ok _

theorem blamesCaller_plan (r : Request) (table : String) (d : Domains) :
    BlamesCaller (r.plan table d) := by
  refine blamesCaller_bind (r.blamesCaller_validate table) fun _ => ?_
  refine blamesCaller_bind r.blamesCaller_keyPredicates fun keys => ?_
  refine blamesCaller_bind r.blamesCaller_filterPredicates fun filters => ?_
  split
  · refine blamesCaller_bind r.blamesCaller_leafOrder fun order => ?_
    exact blamesCaller_bind_pure (blamesCaller_relation table)
  · next c _ =>
    refine blamesCaller_bind (blamesCaller_ident _) fun group => ?_
    refine blamesCaller_bind (r.blamesCaller_groupItems group d) fun items => ?_
    refine blamesCaller_bind (r.blamesCaller_groupOrder c) fun order => ?_
    exact blamesCaller_bind_pure (blamesCaller_relation table)

theorem blamesCaller_toSql (r : Request) (table : String) (d : Domains) (dialect : Dialect) :
    BlamesCaller (r.toSql table d dialect) :=
  blamesCaller_bind_pure (r.blamesCaller_plan table d)

end Request

end GridQuery
