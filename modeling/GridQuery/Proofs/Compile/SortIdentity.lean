import GridQuery.Proofs.Compile.Aggregation

/-!
Which column an id in a sort entry stands for, when another column may have the id as its field or
its output name.
-/

namespace GridQuery

open GridQuery.Sql

namespace Request

/-- The columns that a query for groups can be sorted by, in the order in which they are tried. -/
def sortColumns (r : Request) (c : Column) : List Column :=
  c :: r.valueCols

/-- The key is on this column and no other: the field of the grouping column, or the output of a
value column. -/
inductive KeysOn (r : Request) (c : Column) : Column → SortKey → Prop where
  | group {column : Ident} (hname : column.name = c.field) : r.KeysOn c c (.column column)
  | value {v : Column} {output : Ident} (hv : v ∈ r.valueCols)
    (hname : output.name = v.outputName) : r.KeysOn c v (.output output)

variable {r : Request} {table : String} {d : Domains} {c v w : Column} {q : Select} {s : SortEntry}
  {key : SortKey}

theorem KeysOn.mem (h : r.KeysOn c v key) : v ∈ r.sortColumns c := by
  cases h with
  | group => exact List.mem_cons_self
  | value hv => exact List.mem_cons_of_mem _ hv

theorem KeysOn.name_eq (h : r.KeysOn c v key) : key.name = v.field ∨ key.name = v.outputName := by
  cases h with
  | group hname => exact .inl hname
  | value _ hname => exact .inr hname

/-- Value columns have different outputs, so a key is on one column. -/
theorem KeysOn.unique (hnames : (r.valueCols.map (·.outputName)).Nodup) (hv : r.KeysOn c v key)
    (hw : r.KeysOn c w key) : v = w := by
  cases hv with
  | group => cases hw; rfl
  | value hv hname =>
    cases hw with
    | value hw hname' => exact List.inj_on_of_nodup_map hnames hv hw (hname.symm.trans hname')

/-- The grouping column and the value columns are tried one after the other. -/
theorem SortsBy.exists_keysOn (h : r.SortsBy c s key) :
    ∃ w, (r.sortColumns c).find? (fun w => decide (s.columnId ∈ w.names)) = some w ∧
      r.KeysOn c w key := by
  cases h with
  | group hnamed hname =>
    exact ⟨c, List.find?_cons_of_pos (decide_eq_true hnamed), .group hname⟩
  | @value v _ hother hfirst hname =>
    refine ⟨v, ?_, .value (List.mem_of_find?_eq_some hfirst) hname⟩
    rw [sortColumns, List.find?_cons_of_neg (by simp [hother]), hfirst]

/-- An element is the first of its kind exactly if nothing before it is of that kind. -/
theorem find?_append_cons_eq_some_iff {α : Type} {p : α → Bool} {before after : List α} {a : α}
    (ha : p a = true) (hnot : a ∉ before) :
    (before ++ a :: after).find? p = some a ↔ ∀ b ∈ before, p b = false := by
  rw [List.find?_append, List.find?_cons_of_pos ha]
  cases hbefore : before.find? p with
  | none => simpa using hbefore
  | some b =>
    have hb := List.mem_of_find?_eq_some hbefore
    refine iff_of_false ?_ ?_
    · rintro heq
      obtain rfl : b = a := by simpa using heq
      exact hnot hb
    · intro hall
      simpa [hall b hb] using List.find?_some hbefore

theorem notMem_names_iff {name : String} (hid : w.id ≠ name) :
    name ∉ w.names ↔ w.field ≠ name ∧ w.outputName ≠ name := by
  simp [Column.names, hid.symm, @eq_comm _ name]

theorem id_mem_names (v : Column) : v.id ∈ v.names :=
  List.mem_cons_self

theorem isSortable_of_id (hv : v ∈ r.sortColumns c) (hid : s.columnId = v.id) :
    r.isSortable c s = true := by
  have hnamed : decide (s.columnId ∈ v.names) = true := decide_eq_true (hid ▸ id_mem_names v)
  rw [isSortable, Bool.or_eq_true]
  rcases List.mem_cons.mp hv with rfl | hv
  · exact .inl hnamed
  · exact .inr (List.any_eq_true.mpr ⟨v, hv, hnamed⟩)

/-- Only a column that is tried earlier can take the id of another for its own field or output. -/
theorem SortsBy.keysOn_iff (h : r.SortsBy c s key)
    (hnames : (r.valueCols.map (·.outputName)).Nodup)
    (hids : ((r.sortColumns c).map (·.id)).Nodup) {before after : List Column}
    (hsplit : r.sortColumns c = before ++ v :: after) (hid : s.columnId = v.id) :
    r.KeysOn c v key ↔ ∀ w ∈ before, w.field ≠ v.id ∧ w.outputName ≠ v.id := by
  obtain ⟨first, hfirst, hkey⟩ := h.exists_keysOn
  have hfirst_iff : r.KeysOn c v key ↔ first = v :=
    ⟨fun hv => hkey.unique hnames hv, fun heq => heq ▸ hkey⟩
  rw [hsplit, List.map_append, List.map_cons] at hids
  have hother : ∀ w ∈ before, w.id ≠ v.id := fun w hw =>
    (List.nodup_append.mp hids).2.2 _ (List.mem_map_of_mem hw) _ List.mem_cons_self
  have hnot : v ∉ before := fun hv => hother v hv rfl
  rw [hsplit, hid] at hfirst
  have hiff := @find?_append_cons_eq_some_iff _ (fun w => decide (v.id ∈ w.names)) before after v
    (decide_eq_true (id_mem_names v)) hnot
  rw [hfirst, Option.some.injEq] at hiff
  rw [hfirst_iff, hiff]
  exact forall₂_congr fun w hw => decide_eq_false_iff_not.trans (notMem_names_iff (hother w hw))

/-- Every entry with the id of a column becomes a key with the entry's direction. It is on that very
column exactly if no column that is tried before has the id as its field or its output name. -/
theorem plan_sortsById_iff (h : r.plan table d = .ok q) (hgroup : r.groupColumn? = some c)
    (hids : ((r.sortColumns c).map (·.id)).Nodup) :
    (∀ s ∈ r.sorting, s.columnId ∈ (r.sortColumns c).map (·.id) →
      s ∈ r.sorting.filter (r.isSortable c)) ∧
    List.Forall₂ (fun s key => key.2 = s.direction ∧ (∃ w ∈ r.sortColumns c, r.KeysOn c w key.1) ∧
        ∀ before v after, r.sortColumns c = before ++ v :: after → s.columnId = v.id →
          (r.KeysOn c v key.1 ↔ ∀ w ∈ before, w.field ≠ v.id ∧ w.outputName ≠ v.id))
      (r.sorting.filter (r.isSortable c)) q.orderBy := by
  obtain ⟨hvalid, hplans⟩ := plan_eq_ok_iff.mp h
  obtain ⟨group, -, -, -, horder⟩ := hplans.of_group hgroup
  have hnames : (r.valueCols.map (·.outputName)).Nodup :=
    List.Nodup.of_append_right hvalid.names
  constructor
  · intro s hs hid
    obtain ⟨v, hv, hid⟩ := List.mem_map.mp hid
    exact List.mem_filter.mpr ⟨hs, isSortable_of_id hv hid.symm⟩
  · refine (forall₂_groupOrder horder).imp ?_
    rintro s key ⟨hsorts, hdirection⟩
    obtain ⟨w, -, hkey⟩ := hsorts.exists_keysOn
    refine ⟨hdirection, ⟨w, hkey.mem, hkey⟩, ?_⟩
    intro before v after hsplit hid
    exact hsorts.keysOn_iff hnames hids hsplit hid

/-- Two aggregates of one field: the first column has the field's name as its id. -/
def goldTwice : Request where
  endRow := 10
  rowGroupCols := [⟨"c", "", "country", none, .text⟩]
  valueCols := [⟨"gold", "total_gold", "gold", some .sum, .number⟩,
    ⟨"gold_1", "mean_gold", "gold", some .avg, .number⟩]
  sorting := [⟨"gold_1", .desc⟩, ⟨"c", .asc⟩]

theorem plan_sortsById_goldTwice :
    ∃ q c, goldTwice.plan "medals" .empty = .ok q ∧ goldTwice.groupColumn? = some c ∧
      ((goldTwice.sortColumns c).map (·.id)).Nodup ∧
      q.orderBy.map (fun key => (key.1.name, key.2)) = [("mean_gold", .desc), ("country", .asc)] ∧
      ∃ key ∈ q.orderBy,
        goldTwice.KeysOn c ⟨"gold_1", "mean_gold", "gold", some .avg, .number⟩ key.1 := by
  obtain ⟨q, hplan, horder⟩ : ∃ q, goldTwice.plan "medals" .empty = .ok q ∧
      q.orderBy.map (fun key => (key.1.name, key.2)) =
        [("mean_gold", .desc), ("country", .asc)] :=
    exists_ok_of_map (by decide +kernel)
  have hids : ((goldTwice.sortColumns ⟨"c", "", "country", none, .text⟩).map (·.id)).Nodup := by
    decide
  obtain ⟨hkept, hkeys⟩ := plan_sortsById_iff hplan rfl hids
  refine ⟨q, _, hplan, rfl, hids, horder, ?_⟩
  have hfilter : goldTwice.sorting.filter
      (goldTwice.isSortable ⟨"c", "", "country", none, .text⟩) = goldTwice.sorting := by
    decide
  rw [hfilter] at hkeys
  generalize q.orderBy = order at hkeys ⊢
  obtain _ | ⟨⟨-, -, hfirst⟩, -⟩ := hkeys
  refine ⟨_, List.mem_cons_self, ?_⟩
  exact (hfirst [_, _] _ [] rfl rfl).mpr (by decide)

/-- The same aggregates in the other order: the first column's field is the id of the second. -/
def goldSwapped : Request where
  endRow := 10
  rowGroupCols := [⟨"c", "", "country", none, .text⟩]
  valueCols := [⟨"gold_1", "mean_gold", "gold", some .avg, .number⟩,
    ⟨"gold", "total_gold", "gold", some .sum, .number⟩]
  sorting := [⟨"gold", .desc⟩]

theorem plan_sortsById_goldSwapped :
    ∃ q c v, goldSwapped.plan "medals" .empty = .ok q ∧ goldSwapped.groupColumn? = some c ∧
      ((goldSwapped.sortColumns c).map (·.id)).Nodup ∧
      (∀ w ∈ goldSwapped.sortColumns c, w.id ≠ "") ∧
      v ∈ goldSwapped.sortColumns c ∧ goldSwapped.sorting = [⟨v.id, .desc⟩] ∧
      q.orderBy.map (fun key => (key.1.name, key.2)) = [("mean_gold", .desc)] ∧
      v.outputName = "total_gold" ∧ ∀ key ∈ q.orderBy, ¬ goldSwapped.KeysOn c v key.1 := by
  obtain ⟨q, hplan, hnames⟩ : ∃ q, goldSwapped.plan "medals" .empty = .ok q ∧
      q.orderBy.map (fun key => (key.1.name, key.2)) = [("mean_gold", .desc)] :=
    exists_ok_of_map (by decide +kernel)
  refine ⟨q, ⟨"c", "", "country", none, .text⟩,
    ⟨"gold", "total_gold", "gold", some .sum, .number⟩, hplan, rfl, by decide, by decide, by decide,
    rfl, hnames, rfl, ?_⟩
  intro key hkey hon
  have hmem : (key.1.name, key.2) ∈ [("mean_gold", Direction.desc)] :=
    hnames ▸ List.mem_map_of_mem hkey
  have hname : key.1.name = "mean_gold" := congrArg Prod.fst (List.mem_singleton.mp hmem)
  have hown := hon.name_eq
  rw [hname] at hown
  revert hown
  decide

end Request

end GridQuery
