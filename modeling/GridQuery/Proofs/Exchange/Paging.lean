import GridQuery.Proofs.Compile.Plan
import GridQuery.Proofs.Exchange.Play
import GridQuery.Proofs.Sql.PagingClause
import GridQuery.RowModel

/-!
Asking a source that obeys the paging clause for one window after the other: the windows give all
rows, each once and in order.
-/

namespace GridQuery

open GridQuery.Number GridQuery.Sql

/-- The windows between bounds, the first of them from `start` on. -/
def windows (start : Nat) : List Nat → List (Nat × Nat)
  | [] => []
  | b :: bounds => (start, b) :: windows b bounds

def part (rows : List Row) (window : Nat × Nat) : List Row :=
  (rows.take window.2).drop window.1

/-- The source answers the query under a paging clause by that part of the rows, at any time. -/
def Source.Pages {σ : Type} (source : Source σ) (query : String) (rows : List Row) : Prop :=
  ∀ clause offset count s, page? clause = some (offset, count) →
    (source.execute (query ++ " " ++ clause) s).1 = .ok ((rows.drop offset).take count)

/-- What the windows between bounds, from the first row on, get of the rows. -/
structure Scrolls (rows : List Row) (bounds : List Nat) (responses : List Response) : Prop where
  parts : responses.map (·.rows) = (windows 0 bounds).map (part rows)
  joined : (responses.map (·.rows)).flatten = rows.take (bounds.getLastD 0)
  unknown : ∀ p ∈ (windows 0 bounds).zip responses, p.1.2 ≤ rows.length →
    p.2.lastRow = none ∧ ∃ h, Response.lastRowJson p.2.lastRow = .number (.negative 1 h)
  /-- The first window that reaches beyond the rows is answered with their number. -/
  known : ∀ p, ((windows 0 bounds).zip responses).find? (fun p => rows.length < p.1.2) = some p →
    p.2.lastRow = some rows.length ∧
      ∃ h, Response.lastRowJson p.2.lastRow = .number (.natural rows.length h)

variable {rows : List Row} {start : Nat} {bounds : List Nat} {window : Nat × Nat}

theorem lt_of_mem_windows (h : (start :: bounds).Pairwise (· < ·))
    (hw : window ∈ windows start bounds) : window.1 < window.2 ∧ window.2 ∈ bounds := by
  induction bounds generalizing start with
  | nil => cases hw
  | cons b r ih =>
    obtain ⟨hstart, hrest⟩ := List.pairwise_cons.mp h
    rcases List.mem_cons.mp hw with rfl | hw
    · exact ⟨hstart b (by simp), by simp⟩
    · obtain ⟨hlt, hmem⟩ := ih hrest hw
      exact ⟨hlt, List.mem_cons_of_mem b hmem⟩

theorem le_getLastD (h : (start :: bounds).Pairwise (· < ·)) : start ≤ bounds.getLastD start := by
  induction bounds generalizing start with
  | nil => exact Nat.le_refl start
  | cons b r ih =>
    obtain ⟨hstart, hrest⟩ := List.pairwise_cons.mp h
    rw [List.getLastD_cons]
    exact Nat.le_trans (Nat.le_of_lt (hstart b (by simp))) (ih hrest)

theorem part_append_part {a b c : Nat} (hab : a ≤ b) (hbc : b ≤ c) :
    part rows (a, b) ++ part rows (b, c) = part rows (a, c) := by
  have hfirst : part rows (a, b) = ((rows.take c).drop a).take (b - a) := by
    rw [part, ← List.drop_take, List.take_take, Nat.min_eq_left hbc]
  have hsecond : part rows (b, c) = ((rows.take c).drop a).drop (b - a) := by
    rw [part, List.drop_drop, Nat.add_sub_cancel' hab]
  rw [hfirst, hsecond, List.take_append_drop]
  rfl

theorem flatten_parts (h : (start :: bounds).Pairwise (· < ·)) :
    ((windows start bounds).map (part rows)).flatten =
      part rows (start, bounds.getLastD start) := by
  induction bounds generalizing start with
  | nil => simp [windows, part]
  | cons b r ih =>
    obtain ⟨hstart, hrest⟩ := List.pairwise_cons.mp h
    have hlast : b ≤ r.getLastD b := le_getLastD hrest
    rw [windows, List.map_cons, List.flatten_cons, ih hrest, List.getLastD_cons]
    exact part_append_part (Nat.le_of_lt (hstart b (by simp))) hlast

theorem fst_le_of_find? {n : Nat} (hn : start ≤ n)
    (h : (windows start bounds).find? (fun w => n < w.2) = some window) : window.1 ≤ n := by
  -- a window begins where the one before it ends, and that one does not reach beyond `n`
  induction bounds generalizing start with
  | nil => cases h
  | cons b r ih =>
    rw [windows, List.find?_cons] at h
    split at h
    · cases h
      exact hn
    · next hb => exact ih (by simpa using hb) h

namespace Response

theorem lastRowJson_some {n : Nat} (h : n < twoTo 64) :
    lastRowJson (some n) = .number (.natural n h) := by
  simp [lastRowJson, Json.ofNat, JsonNumber.ofNat, h]

theorem lastRowOf_eq_some_iff {r : Request} {returned last : Nat} :
    lastRowOf r returned = some last ↔
      last = r.startRow + returned ∧ last < r.endRow := by
  unfold lastRowOf Request.windowSize
  split
  · simp only [Option.some.injEq]
    omega
  · simp only [reduceCtorEq, false_iff]
    omega

end Response

namespace Request

def inWindow (r : Request) (window : Nat × Nat) : Request :=
  { r with startRow := window.1, endRow := window.2 }

variable {r : Request} {table : String} {d : Domains} {q : Select} {dialect : Dialect} {σ : Type}
  {source : Source σ}

/-- What a request for a window gets of these rows. -/
def answer (r : Request) (rows : List Row) (d : Domains) (window : Nat × Nat) : Response :=
  .build (r.inWindow window) (part rows window) d

theorem lastRow_answer (h : window.1 < window.2) :
    (r.answer rows d window).lastRow =
      if window.2 ≤ rows.length then none else some (max window.1 rows.length) := by
  have hlength : (part rows window).length = min window.2 rows.length - window.1 := by
    rw [part, List.length_drop, List.length_take]
  rw [answer, Response.build, Response.lastRowOf, hlength, windowSize, inWindow]
  by_cases hfilled : window.2 ≤ rows.length
  · have hfull : ¬ min window.2 rows.length - window.1 < window.2 - window.1 := by omega
    rw [if_pos hfilled, if_neg hfull]
  · have hshort : min window.2 rows.length - window.1 < window.2 - window.1 := by omega
    rw [if_neg hfilled, if_pos hshort, Option.some.injEq]
    show window.1 + (min window.2 rows.length - window.1) = max window.1 rows.length
    omega

theorem plan_inWindow (h : r.plan table d = .ok q) (hw : window.1 ≤ window.2) :
    (r.inWindow window).plan table d =
      .ok { q with startRow := window.1, endRow := window.2 } := by
  obtain ⟨hvalid, hplans⟩ := plan_eq_ok_iff.mp h
  refine plan_eq_ok_iff.mpr ⟨?_, ?_⟩
  · exact { hvalid with window := hw }
  · cases hplans with
    | rows hgroup hkeys hfilters horder hrelation =>
      exact .rows hgroup hkeys hfilters horder hrelation
    | groups hgroup hkeys hfilters hname hitems horder hrelation =>
      exact .groups hgroup hkeys hfilters hname hitems horder hrelation

/-- A request for a window, asked once the pivot domains are found, gets its part of the rows. -/
theorem run_getData_inWindow (hpaging : dialect.paging ≠ .bounds) (hplan : r.plan table d = .ok q)
    (hpages : source.Pages (q.unpaged dialect) rows) (hw : window.1 ≤ window.2) {w : World σ}
    (hresolve : ((r.resolve table).run source w).1 = .ok d) :
    (((r.inWindow window).getData table dialect).run source w).1 =
      .ok (r.answer rows d window) := by
  have hwindow := plan_inWindow hplan hw
  have hvalid : (r.inWindow window).validate table = .ok () :=
    validate_eq_ok_iff.mpr (plan_eq_ok_iff.mp hwindow).1
  have hsql : (r.inWindow window).toSql table d dialect =
      .ok (q.unpaged dialect ++ " " ++ dialect.limit window.1 window.2) := by
    rw [toSql, hwindow]
    exact congrArg Except.ok (Select.render_eq dialect _)
  have hrows (s : σ) :
      (source.execute (q.unpaged dialect ++ " " ++ dialect.limit window.1 window.2) s).1 =
        .ok (part rows window) := by
    rw [hpages _ _ _ s (page?_limit hpaging window.1 window.2), part, List.drop_take]
  have hresolve' : (((r.inWindow window).resolve table).run source w).1 = .ok d := hresolve
  rw [getData, hvalid]
  simp only
  rw [Exchange.run_bind, hresolve']
  simp only [fetch, hsql, Exchange.run, hrows]
  rfl

theorem scrolls_answer (hbounds : (0 :: bounds).Pairwise (· < ·))
    (hlimit : ∀ b ∈ bounds, b < twoTo 64) :
    Scrolls rows bounds ((windows 0 bounds).map (r.answer rows d)) := by
  have hrows : ((windows 0 bounds).map (r.answer rows d)).map (·.rows) =
      (windows 0 bounds).map (part rows) := by
    rw [List.map_map]
    rfl
  refine ⟨hrows, ?_, ?_, ?_⟩
  · rw [hrows, flatten_parts hbounds]
    rfl
  · intro p hp hfilled
    rw [← List.map_prod_left_eq_zip] at hp
    obtain ⟨window, hw, rfl⟩ := List.mem_map.mp hp
    have hnone : (r.answer rows d window).lastRow = none := by
      rw [lastRow_answer (lt_of_mem_windows hbounds hw).1, if_pos hfilled]
    exact ⟨hnone, by decide, by rw [hnone]; rfl⟩
  · intro p hp
    rw [← List.map_prod_left_eq_zip, List.find?_map] at hp
    obtain ⟨window, hw, rfl⟩ := Option.map_eq_some_iff.mp hp
    obtain ⟨hlt, hmem⟩ := lt_of_mem_windows hbounds (List.mem_of_find?_eq_some hw)
    have hstart : window.1 ≤ rows.length := fst_le_of_find? (Nat.zero_le _) hw
    have hend : rows.length < window.2 := by simpa using List.find?_some hw
    have hsome : (r.answer rows d window).lastRow = some rows.length := by
      rw [lastRow_answer hlt, if_neg (Nat.not_le.mpr hend), Nat.max_eq_right hstart]
    have hsmall : rows.length < twoTo 64 := Nat.lt_trans hend (hlimit _ hmem)
    exact ⟨hsome, hsmall, by rw [hsome, Response.lastRowJson_some hsmall]⟩

/-- The answer to a request for a window, asked when the pivot domains are found to be these. -/
def Answers (r : Request) (table : String) (dialect : Dialect) (d : Domains) (source : Source σ)
    (window : Nat × Nat) (answer : Except QueryError Response) : Prop :=
  ∃ w : World σ, ((r.resolve table).run source w).1 = .ok d ∧
    answer = (((r.inWindow window).getData table dialect).run source w).1

theorem answers_eq (hpaging : dialect.paging ≠ .bounds) (hplan : r.plan table d = .ok q)
    (hpages : source.Pages (q.unpaged dialect) rows) (hbounds : (start :: bounds).Pairwise (· < ·))
    {answers : List (Except QueryError Response)}
    (h : List.Forall₂ (r.Answers table dialect d source) (windows start bounds) answers) :
    answers = (windows start bounds).map fun window => .ok (r.answer rows d window) := by
  -- each window is asked in a world of its own, so nothing is carried from one to the next
  induction bounds generalizing start answers with
  | nil =>
    cases h
    rfl
  | cons b rest ih =>
    obtain ⟨hstart, hrest⟩ := List.pairwise_cons.mp hbounds
    cases h with
    | cons hfirst hothers =>
      obtain ⟨w, hresolve, rfl⟩ := hfirst
      have hw : start ≤ b := Nat.le_of_lt (hstart b (by simp))
      rw [run_getData_inWindow hpaging hplan hpages hw hresolve, ih hrest hothers]
      rfl

/-- Whatever happens in between, the windows between increasing bounds get the rows up to the last
bound, each once, and the number of rows where these run out. A row count that is announced always
lies in the window, so no sum runs over. -/
theorem getData_windows (r : Request) (table : String) (dialect : Dialect) :
    (∀ {σ : Type} (source : Source σ) (d : Domains) (q : Select) (rows : List Row)
        (bounds : List Nat) (answers : List (Except QueryError Response)),
      dialect.paging ≠ .bounds → r.plan table d = .ok q →
      source.Pages (q.unpaged dialect) rows →
      (0 :: bounds).Pairwise (· < ·) → (∀ b ∈ bounds, b < twoTo 64) →
      List.Forall₂ (r.Answers table dialect d source) (windows 0 bounds) answers →
      ∃ responses, answers = responses.map .ok ∧ Scrolls rows bounds responses) ∧
    ∀ returned last, Response.lastRowOf r returned = some last →
      last = r.startRow + returned ∧ r.startRow ≤ last ∧ last < r.endRow ∧
        (r.endRow < twoTo 64 → r.startRow + returned < twoTo 64) := by
  refine ⟨?_, ?_⟩
  · intro σ source d q rows bounds answers hpaging hplan hpages hbounds husize hanswers
    refine ⟨(windows 0 bounds).map (r.answer rows d), ?_, scrolls_answer hbounds husize⟩
    rw [answers_eq hpaging hplan hpages hbounds hanswers, List.map_map]
    rfl
  · intro returned last hlast
    obtain ⟨hsum, hlt⟩ := Response.lastRowOf_eq_some_iff.mp hlast
    refine ⟨hsum, ?_, hlt, ?_⟩
    · omega
    · omega

/-- A source that knows one query and obeys its paging clause. -/
def pagedSource (query : String) (rows : List Row) : Source Unit where
  execute sql s :=
    match (sql.toList.dropPrefix? (query ++ " ").toList).bind (page? <| String.ofList ·) with
    | some (offset, count) => (.ok ((rows.drop offset).take count), s)
    | none => (.error "no such query", s)
  distinct _ _ s := (.error "no such column", s)

theorem pages_pagedSource (query : String) (rows : List Row) :
    (pagedSource query rows).Pages query rows := by
  intro clause offset count s hclause
  have hread : ((query ++ " " ++ clause).toList.dropPrefix? (query ++ " ").toList).bind
      (page? <| String.ofList ·) = some (offset, count) := by
    rw [String.toList_append, dropPrefix?_append_self, Option.bind_some, String.ofList_toList,
      hclause]
  simp only [pagedSource, hread]

def threeRows : List Row :=
  [[("id", .ofNat 1)], [("id", .ofNat 2)], [("id", .ofNat 3)]]

/-- Three rows fill the first window and end in the second one. -/
theorem getData_windows_threeRows :
    ∃ q responses, Request.plan {} "orders" .empty = .ok q ∧
      (windows 0 [2, 4]).map (fun window =>
        (((inWindow {} window).getData "orders" .mysql).run
          (pagedSource (q.unpaged .mysql) threeRows) ⟨(), none, 0, []⟩).1) =
        responses.map .ok ∧
      Scrolls threeRows [2, 4] responses := by
  obtain ⟨q, hplan⟩ : Succeeds (Request.plan {} "orders" .empty) :=
    succeeds_of_isOk (by decide +kernel)
  obtain ⟨responses, hanswers, hscrolls⟩ :=
    (getData_windows {} "orders" .mysql).1 (pagedSource (q.unpaged .mysql) threeRows) .empty q
      threeRows [2, 4] _ (by decide) hplan (pages_pagedSource _ _) (by decide)
      (by decide +kernel)
      (List.forall₂_map_right_iff.mpr
        (List.forall₂_same.mpr fun _ _ => ⟨⟨(), none, 0, []⟩, rfl, rfl⟩))
  exact ⟨q, responses, hplan, hanswers, hscrolls⟩

end Request

end GridQuery
