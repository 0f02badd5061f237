import GridQuery.Proofs.Compile.DrillDown
import GridQuery.Proofs.Request.FilterMembers
import GridQuery.Request.Json
import Mathlib.Data.String.Basic

/-!
What the text of a request leaves open: the order of the members of its objects, and members that no
reader knows. An unknown member of a filter has to be readable where it stands, as it is held until
the tag is known.
-/

namespace GridQuery

open GridQuery.Json GridQuery.Sql

namespace Column

/-- The same value, or objects that are the same for columns. -/
def Same : Doc → Doc → Prop :=
  SameObject fields fun _ => Eq

theorem fields_commute : fields.Pairwise Member.Commutes := by
  simp only [fields, List.pairwise_cons, List.forall_mem_cons, List.not_mem_nil, false_implies,
    implies_true, and_true, List.Pairwise.nil]
  and_intros <;> exact Member.commutes_of_puts fun _ _ _ => rfl

theorem toOption_read_of_same {d e : Doc} (h : Same d e) :
    (read d).toOption = (read e).toOption :=
  toOption_bind_congr
    (toOption_asRecord_of_sameObject fields_commute (Member.respects_eq fields) h) _

end Column

namespace SortEntry

/-- The same value, or objects that are the same for sort entries. -/
def Same : Doc → Doc → Prop :=
  SameObject fields fun _ => Eq

theorem fields_commute : fields.Pairwise Member.Commutes := by
  simp only [fields, List.pairwise_cons, List.forall_mem_cons, List.not_mem_nil, false_implies,
    implies_true, and_true, List.Pairwise.nil]
  exact Member.commutes_of_puts fun _ _ _ => rfl

theorem toOption_read_of_same {d e : Doc} (h : Same d e) :
    (read d).toOption = (read e).toOption :=
  toOption_bind_congr
    (toOption_asRecord_of_sameObject fields_commute (Member.respects_eq fields) h) _

end SortEntry

section

variable {n m : String} {f g : ColumnFilter} {fs : List (String × ColumnFilter)}

theorem insertFilter_of_eq (r : List (String × ColumnFilter)) :
    insertFilter n f ((n, g) :: r) = (n, f) :: r :=
  if_pos rfl

theorem insertFilter_of_lt (h : n < m) (r : List (String × ColumnFilter)) :
    insertFilter n f ((m, g) :: r) = (n, f) :: (m, g) :: r := by
  rw [insertFilter, if_neg h.ne, if_pos h]

theorem insertFilter_of_gt (h : m < n) (r : List (String × ColumnFilter)) :
    insertFilter n f ((m, g) :: r) = (m, g) :: insertFilter n f r := by
  rw [insertFilter, if_neg h.ne', if_neg (not_lt_of_gt h)]

/-- Filters for two columns may be put in either order. -/
theorem insertFilter_comm (h : n ≠ m) (fs : List (String × ColumnFilter)) :
    insertFilter m g (insertFilter n f fs) = insertFilter n f (insertFilter m g fs) := by
  wlog hlt : n < m generalizing n m f g
  · exact (this h.symm (lt_of_le_of_ne (not_lt.mp hlt) h.symm)).symm
  induction fs with
  | nil => rw [insertFilter, insertFilter, insertFilter_of_lt hlt, insertFilter_of_gt hlt]; rfl
  | cons e r ih =>
    obtain ⟨k, e⟩ := e
    rcases lt_trichotomy n k with hn | rfl | hn
    · rcases lt_trichotomy m k with hm | rfl | hm
      · rw [insertFilter_of_lt hn, insertFilter_of_lt hm, insertFilter_of_gt hlt,
          insertFilter_of_lt hm, insertFilter_of_lt hlt]
      · rw [insertFilter_of_lt hn, insertFilter_of_eq, insertFilter_of_gt hlt,
          insertFilter_of_eq, insertFilter_of_lt hlt]
      · rw [insertFilter_of_lt hn, insertFilter_of_gt hm, insertFilter_of_gt hlt,
          insertFilter_of_gt hm, insertFilter_of_lt hn]
    · rw [insertFilter_of_eq, insertFilter_of_gt hlt, insertFilter_of_gt hlt, insertFilter_of_eq]
    · have hm : k < m := hn.trans hlt
      rw [insertFilter_of_gt hn, insertFilter_of_gt hm, insertFilter_of_gt hm,
        insertFilter_of_gt hn, ih]

/-- Each filter stands before those of the columns with larger names. -/
def InOrder (fs : List (String × ColumnFilter)) : Prop :=
  fs.Pairwise fun a b => a.1 < b.1

theorem fst_of_mem_insertFilter {e : String × ColumnFilter} (h : e ∈ insertFilter n f fs) :
    e.1 = n ∨ e ∈ fs := by
  induction fs with
  | nil =>
    rw [insertFilter, List.mem_singleton] at h
    exact .inl (congrArg Prod.fst h)
  | cons d r ih =>
    unfold insertFilter at h
    split at h
    · rcases List.mem_cons.mp h with rfl | h
      · exact .inl (by simp_all)
      · exact .inr (List.mem_cons_of_mem d h)
    · split at h
      · rcases List.mem_cons.mp h with rfl | h
        · exact .inl rfl
        · exact .inr h
      · rcases List.mem_cons.mp h with rfl | h
        · exact .inr List.mem_cons_self
        · exact (ih h).imp_right (List.mem_cons_of_mem d)

theorem InOrder.insertFilter (h : InOrder fs) : InOrder (insertFilter n f fs) := by
  induction fs with
  | nil => exact List.pairwise_singleton _ _
  | cons e r ih =>
    obtain ⟨k, e⟩ := e
    obtain ⟨hk, hr⟩ := List.pairwise_cons.mp h
    rcases lt_trichotomy n k with hn | rfl | hn
    · rw [insertFilter_of_lt hn]
      refine List.pairwise_cons.mpr ⟨?_, h⟩
      intro d hd
      rcases List.mem_cons.mp hd with rfl | hd
      · exact hn
      · exact hn.trans (hk d hd)
    · rw [insertFilter_of_eq]
      exact List.pairwise_cons.mpr ⟨hk, hr⟩
    · rw [insertFilter_of_gt hn]
      refine List.pairwise_cons.mpr ⟨?_, ih hr⟩
      intro d hd
      rcases fst_of_mem_insertFilter hd with hd | hd
      · exact hd ▸ hn
      · exact hk d hd

end

namespace Request

/-- The same value, or objects with the same filters for the same columns. -/
def SameFilters (extra : Doc → Prop) (d e : Doc) : Prop :=
  d = e ∨ ∃ ms ms', d = .ofMembers ms ∧ e = .ofMembers ms' ∧
    SameMembers (fun _ => true) (fun _ => False) (fun _ => ColumnFilter.Same extra) ms ms'

/-- What the filter of a column adds to those already read. -/
def putFilter? (depth : Nat) (fs : List (String × ColumnFilter)) (m : String × Doc) :
    Option (List (String × ColumnFilter)) :=
  (ColumnFilter.read depth m.2).toOption.map (insertFilter m.1 · fs)

theorem toOption_readFilters {depth : Nat} {fs : List (String × ColumnFilter)}
    (ms : List (String × Doc)) :
    (readFilters depth fs (ms.map fun m => (some m.1, m.2))).toOption =
      takeAll? (putFilter? depth) (some fs) ms := by
  induction ms generalizing fs with
  | nil => rfl
  | cons m r ih =>
    rw [List.map_cons, readFilters, toOption_bind, takeAll?_cons, putFilter?]
    cases (ColumnFilter.read depth m.2).toOption with
    | none => exact (takeAll?_none r).symm
    | some f => exact ih

theorem toOption_readFilterModel_of_same {depth : Nat} {extra : Doc → Prop}
    (hextra : ∀ d, extra d → d.Holds (depth + 2)) {d e : Doc} (h : SameFilters extra d e) :
    (readFilterModel depth d).toOption = (readFilterModel depth e).toOption := by
  obtain rfl | ⟨ms, ms', rfl, rfl, hsame⟩ := h
  · rfl
  obtain ⟨l, hperm, hvalues⟩ := hsame.same
  simp only [List.filter_true] at hperm hvalues
  refine toOption_bind_congr ?_ _
  rw [toOption_readFilters, toOption_readFilters,
    takeAll?_perm ?_ hperm.symm hsame.distinct, takeAll?_forall₂ (hvalues.imp ?_)]
  · rintro m m' ⟨hname, hfilter⟩ fs
    rw [putFilter?, putFilter?, hname, ColumnFilter.toOption_read_of_same hextra hfilter]
  · intro m n hname fs
    unfold putFilter?
    cases (ColumnFilter.read (depth + 1) m.2).toOption with
    | none => cases (ColumnFilter.read (depth + 1) n.2).toOption <;> rfl
    | some f =>
      cases (ColumnFilter.read (depth + 1) n.2).toOption with
      | none => rfl
      | some g => exact congrArg some (insertFilter_comm hname fs)

theorem inOrder_readFilters {depth : Nat} {members : List (Option String × Doc)}
    {acc fs : List (String × ColumnFilter)} (hacc : InOrder acc)
    (h : readFilters depth acc members = .ok fs) : InOrder fs := by
  induction members generalizing acc with
  | nil =>
    cases h
    exact hacc
  | cons m r ih =>
    obtain ⟨_ | name, d⟩ := m
    · cases h
    · obtain ⟨f, -, h⟩ := bind_eq_ok_iff.mp h
      exact ih hacc.insertFilter h

theorem inOrder_readFilterModel {depth : Nat} {d : Doc} {fs : List (String × ColumnFilter)}
    (h : readFilterModel depth d = .ok fs) : InOrder fs := by
  cases d with
  | object members tail =>
    obtain ⟨fs', hmembers, h⟩ := bind_eq_ok_iff.mp h
    exact of_closing h ▸ inOrder_readFilters List.Pairwise.nil hmembers
  | _ => cases h

/-- What may differ between the values of a member of a request. -/
def SameField (extra : Doc → Prop) : String → Doc → Doc → Prop
  | "rowGroupCols" | "valueCols" | "pivotCols" => SameList Column.Same
  | "sortModel" => SameList SortEntry.Same
  | "filterModel" => SameFilters extra
  | _ => Eq

/-- Objects that are the same for a request: they differ in the order of members, in the object
itself, in its filters and columns and sort entries, and in members with unknown names; in filters
these need to be `extra`, elsewhere to be complete. -/
def Same (extra : Doc → Prop) : Doc → Doc → Prop :=
  SameObject (fields 0) (SameField extra)

theorem fields_commute (depth : Nat) : (fields depth).Pairwise Member.Commutes := by
  simp only [fields, List.pairwise_cons, List.forall_mem_cons, List.not_mem_nil, false_implies,
    implies_true, and_true, List.Pairwise.nil]
  and_intros <;> exact Member.commutes_of_puts fun _ _ _ => rfl

theorem respects_sameField : Member.Respects (fields 0) (SameField (Doc.Holds 3)) := by
  have hcolumns {d e : Doc} (h : SameList Column.Same d e) :
      (d.asList Column.read).toOption = (e.asList Column.read).toOption :=
    toOption_asList_of_sameList (fun _ _ => Column.toOption_read_of_same) h
  have hentries {d e : Doc} (h : SameList SortEntry.Same d e) :
      (d.asList SortEntry.read).toOption = (e.asList SortEntry.read).toOption :=
    toOption_asList_of_sameList (fun _ _ => SortEntry.toOption_read_of_same) h
  have hfilters {d e : Doc} (h : SameFilters (Doc.Holds 3) d e) :
      (readFilterModel 1 d).toOption = (readFilterModel 1 e).toOption :=
    toOption_readFilterModel_of_same (fun _ => id) h
  unfold Member.Respects
  simp only [fields, List.forall_mem_cons, List.not_mem_nil, false_implies, implies_true, and_true]
  and_intros
  · rintro d _ rfl s; rfl
  · rintro d _ rfl s; rfl
  · intro d e h s; exact toOption_bind_congr (hcolumns h) _
  · intro d e h s; exact toOption_bind_congr (hcolumns h) _
  · intro d e h s; exact toOption_bind_congr (hcolumns h) _
  · rintro d _ rfl s; rfl
  · intro d e h s; exact toOption_bind_congr (hfilters h) _
  · intro d e h s; exact toOption_bind_congr (hentries h) _

theorem toOption_read_of_same {d e : Doc} (h : Same (Doc.Holds 3) d e) :
    (read d).toOption = (read e).toOption :=
  toOption_asRecord_of_sameObject (fields_commute 0) respects_sameField h

theorem inOrder_filters {d : Doc} {r : Request} (h : read d = .ok r) : InOrder r.filters := by
  refine asRecord_invariant (P := fun r => InOrder r.filters) ?_ ?_ h
  swap
  · exact List.Pairwise.nil
  simp only [fields, List.forall_mem_cons, List.not_mem_nil, false_implies, implies_true, and_true,
    bind_eq_ok_iff, pure_eq_ok_iff]
  and_intros
  · rintro d s _ hs ⟨a, -, rfl⟩; exact hs
  · rintro d s _ hs ⟨a, -, rfl⟩; exact hs
  · rintro d s _ hs ⟨a, -, rfl⟩; exact hs
  · rintro d s _ hs ⟨a, -, rfl⟩; exact hs
  · rintro d s _ hs ⟨a, -, rfl⟩; exact hs
  · rintro d s _ hs ⟨a, -, rfl⟩; exact hs
  · rintro d s _ hs ⟨a, hread, rfl⟩; exact inOrder_readFilterModel hread
  · rintro d s _ hs ⟨a, -, rfl⟩; exact hs

end Request

/-- The column that a condition is about. -/
def Sql.Predicate.column : Predicate → Ident
  | .compare c _ _ | .oneOf c _ | .like c _ _ _ | .between c _ _ | .isNull c _ => c

theorem ColumnFilter.column_toPredicate {f : ColumnFilter} {name : String} {p : Predicate}
    (h : f.toPredicate name = .ok p) : p.column.name = name := by
  obtain ⟨c, hc, hp⟩ := bind_eq_ok_iff.mp h
  have hcolumn : p.column = c := by
    cases f with
    | set values =>
      simp only [setPredicate] at hp
      split at hp <;> cases hp
      rfl
    | text kind operand =>
      simp only [textPredicate] at hp
      split at hp <;> cases hp <;> rfl
    | number kind operand upper =>
      simp only [numberPredicate] at hp
      split at hp
      · cases hp
        rfl
      · obtain ⟨value, -, hp⟩ := bind_eq_ok_iff.mp hp
        cases hp
        rfl
      · obtain ⟨lower, -, hp⟩ := bind_eq_ok_iff.mp hp
        obtain ⟨upper, -, hp⟩ := bind_eq_ok_iff.mp hp
        cases hp
        rfl
  rw [hcolumn]
  exact Ident.ofText_eq_ok_iff.mp hc

namespace Request

theorem pairwise_filterPredicates {r : Request} {filters : List Predicate}
    (horder : InOrder r.filters) (h : r.filterPredicates = .ok filters) :
    (filters.map (·.column.name)).Pairwise (· < ·) := by
  have hnames : filters.map (·.column.name) = r.filters.map Prod.fst :=
    map_eachOf h fun _ _ _ => ColumnFilter.column_toPredicate
  rw [hnames]
  exact List.pairwise_map.mpr horder

theorem decodeText_eq_read {s : String} {d : Doc} (h : Doc.ofText s = (d, false)) :
    Doc.decodeText read s = read d := by
  rw [Doc.decodeText, h]
  cases hread : read d <;> simp [hread, bind, Except.bind, pure, Except.pure]

/-- Texts whose objects are the same are read as one request, with one query or one error, or not at
all. Its filters come in the order of their columns' names. The members of a filter stand inside
three containers, and those that the filter does not know must be readable there. -/
theorem decodeText_of_same {s t : String} {d e : Doc} (hs : Doc.ofText s = (d, false))
    (ht : Doc.ofText t = (e, false)) (h : Same (Doc.Holds 3) d e) :
    (Succeeds (Doc.decodeText read s) ↔ Succeeds (Doc.decodeText read t)) ∧
    (∀ r r', Doc.decodeText read s = .ok r → Doc.decodeText read t = .ok r' →
      r = r' ∧ ∀ table domains dialect,
        r.toSql table domains dialect = r'.toSql table domains dialect) ∧
    ∀ r, Doc.decodeText read s = .ok r → ∀ table domains q, r.plan table domains = .ok q →
      ∃ keys filters, r.keyPredicates = .ok keys ∧ r.filterPredicates = .ok filters ∧
        q.predicates = keys ++ filters ∧ (filters.map (·.column.name)).Pairwise (· < ·) := by
  have hsame := toOption_read_of_same h
  rw [decodeText_eq_read hs, decodeText_eq_read ht]
  refine ⟨succeeds_congr hsame, ?_, ?_⟩
  · intro r r' hr hr'
    rw [hr, hr'] at hsame
    obtain rfl : r = r' := Option.some.inj hsame
    exact ⟨rfl, fun _ _ _ => rfl⟩
  · intro r hr table domains q hplan
    obtain ⟨keys, filters, hkeys, hfilters, hpredicates⟩ := (plan_eq_ok_iff.mp hplan).2.predicates
    exact ⟨keys, filters, hkeys, hfilters, hpredicates,
      pairwise_filterPredicates (inOrder_filters hr) hfilters⟩

/-- The filter for a city, which is the same in both requests. -/
def inRome : Doc :=
  .ofMembers [("filterType", .text "set"), ("values", .array [.text "Rome"] .closed)]

/-- Romans of unknown age. -/
def romans : Doc :=
  .ofMembers [("endRow", .number (.natural 9 (by decide))), ("filterModel", .ofMembers
    [("city", inRome),
      ("age", .ofMembers [("filterType", .text "number"), ("type", .text "blank")])])]

/-- The same in another order, with members that are not known. -/
def shuffledRomans : Doc :=
  .ofMembers [("page", .valueless), ("filterModel", .ofMembers
    [("age", .ofMembers [("type", .text "blank"), ("note", .null), ("filterType", .text "number")]),
      ("city", inRome)]), ("endRow", .number (.natural 9 (by decide)))]

def romansText : String :=
  String.ofList ("\x7b\"endRow\":9,\"filterModel\":\x7b".toList ++
    "\"city\":\x7b\"filterType\":\"set\",\"values\":[\"Rome\"]\x7d,".toList ++
    "\"age\":\x7b\"filterType\":\"number\",\"type\":\"blank\"\x7d\x7d\x7d".toList)

def shuffledRomansText : String :=
  String.ofList ("\x7b\"page\":1e400,\"filterModel\":\x7b".toList ++
    "\"age\":\x7b\"type\":\"blank\",\"note\":null,\"filterType\":\"number\"\x7d,".toList ++
    "\"city\":\x7b\"filterType\":\"set\",\"values\":[\"Rome\"]\x7d\x7d,\"endRow\":9\x7d".toList)

theorem same_romans : Same (Doc.Holds 3) romans shuffledRomans := by
  have hage : ColumnFilter.Same (Doc.Holds 3)
      (.ofMembers [("filterType", .text "number"), ("type", .text "blank")])
      (.ofMembers [("type", .text "blank"), ("note", .null), ("filterType", .text "number")]) := by
    refine .inr ⟨_, _, .number, rfl, rfl, ?_, .of_perm ?_ ?_ ?_ ?_⟩
    · intro t tag' hmem hread
      obtain rfl : t = .text "number" := by simpa [ColumnFilter.tagName] using hmem
      cases hread
      rfl
    all_goals decide +kernel
  refine .inr ⟨_, _, rfl, rfl, by decide, by decide, by decide +kernel,
    [("filterModel", _), ("endRow", _)], .swap _ _ _, .cons ⟨rfl, ?_⟩ (.cons ⟨rfl, rfl⟩ .nil)⟩
  exact .inr ⟨_, _, rfl, rfl, by decide, by decide, by decide,
    [("age", _), ("city", _)], .swap _ _ _, .cons ⟨rfl, hage⟩ (.cons ⟨rfl, .inl rfl⟩ .nil)⟩

theorem decodeText_of_same_romans :
    Doc.ofText romansText = (romans, false) ∧
      Doc.ofText shuffledRomansText = (shuffledRomans, false) ∧
      Same (Doc.Holds 3) romans shuffledRomans ∧
      ∃ r, Doc.decodeText read shuffledRomansText = .ok r ∧
        r.toSql "people" (.ofList []) .standard =
          .ok "SELECT * FROM people WHERE age IS NULL AND city IN ('Rome') LIMIT 0,9" := by
  have hs : Doc.ofText romansText = (romans, false) :=
    (Doc.ofText_ofList _).trans (by decide +kernel)
  have ht : Doc.ofText shuffledRomansText = (shuffledRomans, false) :=
    (Doc.ofText_ofList _).trans (by decide +kernel)
  obtain ⟨r, hread, hsql⟩ : ∃ r, read romans = .ok r ∧
      r.toSql "people" (.ofList []) .standard =
        .ok "SELECT * FROM people WHERE age IS NULL AND city IN ('Rome') LIMIT 0,9" :=
    exists_ok_of_map (by decide +kernel)
  have hr : Doc.decodeText read romansText = .ok r := (decodeText_eq_read hs).trans hread
  obtain ⟨hsucceeds, hequal, -⟩ := decodeText_of_same hs ht same_romans
  obtain ⟨r', hr'⟩ := hsucceeds.mp ⟨r, hr⟩
  refine ⟨hs, ht, same_romans, r', hr', ?_⟩
  rw [← (hequal r r' hr hr').2, hsql]

/-- An array in an array, `n` times. -/
def tower : Nat → Doc
  | 0 => .array [] .closed
  | n + 1 => .array [tower n] .closed

/-- A request for Romans, with more members in its filter. -/
def inRomeWith (more : List (String × Doc)) : Doc :=
  .ofMembers [("filterModel", .ofMembers [("city", .ofMembers
    ([("filterType", .text "set"), ("values", .array [.text "Rome"] .closed)] ++ more))])]

/-- The text of such a request. -/
def inRomeText (more : List Char) : String :=
  String.ofList (
    "\x7b\"filterModel\":\x7b\"city\":\x7b\"filterType\":\"set\",\"values\":[\"Rome\"]".toList ++
      more ++ "\x7d\x7d\x7d".toList)

/-- A member of a filter that could be passed over, but is nested too deep to be read in full. -/
theorem decodeText_tower :
    let towerText := ",\"more\":".toList ++ List.replicate 125 '[' ++ List.replicate 125 ']'
    Doc.ofText (inRomeText []) = (inRomeWith [], false) ∧
      Doc.ofText (inRomeText towerText) = (inRomeWith [("more", tower 124)], false) ∧
      Same Doc.Skips (inRomeWith []) (inRomeWith [("more", tower 124)]) ∧
      Succeeds (Doc.decodeText read (inRomeText [])) ∧
      ¬ Succeeds (Doc.decodeText read (inRomeText towerText)) := by
  intro towerText
  have hs : Doc.ofText (inRomeText []) = (inRomeWith [], false) :=
    (Doc.ofText_ofList _).trans (by decide +kernel)
  have ht : Doc.ofText (inRomeText towerText) = (inRomeWith [("more", tower 124)], false) :=
    (Doc.ofText_ofList _).trans (by decide +kernel)
  have hfilter : ColumnFilter.Same Doc.Skips
      (.ofMembers [("filterType", .text "set"), ("values", .array [.text "Rome"] .closed)])
      (.ofMembers [("filterType", .text "set"), ("values", .array [.text "Rome"] .closed),
        ("more", tower 124)]) := by
    refine .inr ⟨_, _, .set, rfl, rfl, ?_, .of_perm ?_ ?_ ?_ ?_⟩
    · intro t tag' hmem hread
      obtain rfl : t = .text "set" := by simpa [ColumnFilter.tagName] using hmem
      cases hread
      rfl
    all_goals decide +kernel
  have hfilters : SameFilters Doc.Skips
      (.ofMembers [("city", .ofMembers
        [("filterType", .text "set"), ("values", .array [.text "Rome"] .closed)])])
      (.ofMembers [("city", .ofMembers
        [("filterType", .text "set"), ("values", .array [.text "Rome"] .closed),
          ("more", tower 124)])]) :=
    .inr ⟨_, _, rfl, rfl, by decide, by decide, by simp, _, .refl _, .cons ⟨rfl, hfilter⟩ .nil⟩
  rw [decodeText_eq_read hs, decodeText_eq_read ht]
  refine ⟨hs, ht, .inr ⟨_, _, rfl, rfl, by decide, by decide, by decide +kernel,
    [("filterModel", _)], .refl _, .cons ⟨rfl, hfilters⟩ .nil⟩, ?_, ?_⟩
  · exact succeeds_of_isOk (by decide +kernel)
  · have hrefused : (read (inRomeWith [("more", tower 124)])).toOption.isNone = true := by
      decide +kernel
    rintro ⟨r, hr⟩
    rw [hr] at hrefused
    cases hrefused

end Request

end GridQuery
