import GridQuery.Proofs.Exchange.Freshness

/-!
What calls get after a table has been invalidated. Values that were read before can still reach
them, as storing does not look whether the table has been invalidated since the read.
-/

namespace GridQuery

open GridQuery.Sql

theorem append_cons_eq_append_cons {α : Type} {as bs cs ds : List α} {x y : α}
    (h : as ++ x :: bs = cs ++ y :: ds) (hne : x ≠ y) :
    (∃ between, cs = as ++ x :: between ∧ bs = between ++ y :: ds) ∨
      ∃ between, as = cs ++ y :: between ∧ ds = between ++ x :: bs := by
  rcases List.append_eq_append_iff.mp h with ⟨rest, rfl, hrest⟩ | ⟨rest, rfl, hrest⟩
  · cases rest with
    | nil => exact absurd (List.cons.inj hrest).1 hne
    | cons z between =>
      obtain ⟨rfl, hbs⟩ := List.cons.inj hrest
      exact .inl ⟨between, rfl, hbs⟩
  · cases rest with
    | nil => exact absurd (List.cons.inj hrest).1.symm hne
    | cons z between =>
      obtain ⟨rfl, hds⟩ := List.cons.inj hrest
      exact .inr ⟨between, rfl, hds⟩

theorem ReadIn.of_subset {hs hs' : List Happening} {table column : String} {values : List String}
    (h : ReadIn hs table column values) (hsub : hs ⊆ hs') : ReadIn hs' table column values := by
  obtain ⟨call, relation, c, answer, hread, hnames⟩ := h
  exact ⟨call, relation, c, answer, hsub hread, hnames⟩

/-- A call that read the values before and stored them after, and did nothing in between. -/
def InFlight (before after : List Happening) (table column : String) (values : List String) :
    Prop :=
  ∃ call relation c answer front back front' back',
    before = front ++ .did call (.read relation c (.ok answer)) :: back ∧
      after = front' ++ .did call (.stored table column values) :: back' ∧
        eventsOf call back = [] ∧ eventsOf call front' = [] ∧
          relation.name = table ∧ c.name = column ∧ values = Domains.normalize answer

theorem InFlight.append {before after : List Happening} {table column : String}
    {values : List String} (h : InFlight before after table column values)
    (later : List Happening) : InFlight before (after ++ later) table column values := by
  obtain ⟨call, relation, c, answer, front, back, front', back', rfl, rfl, hrest⟩ := h
  exact ⟨call, relation, c, answer, front, back, front', back' ++ later, rfl, by simp, hrest⟩

namespace Shared

variable {s : Shared} {before after : List Happening} {call lifetime : Nat}
  {table column : String} {columns : List Column} {values : List String}

/-- What is stored after an invalidation was read after it too, or it was in flight. -/
theorem Runs.readIn_or_inFlight {invalid : String} {between rest : List Happening}
    (hrun : Runs (.empty lifetime)
      (before ++ .invalidated invalid :: between ++ .did call (.stored table column values) :: rest)
      s) :
    ReadIn between table column values ∨
      InFlight before (between ++ .did call (.stored table column values) :: rest)
        table column values := by
  obtain ⟨front, relation, c, answer, back, hsplit, hback, hrelation, hcolumn, hvalues⟩ :=
    hrun.exists_read rfl
  rcases append_cons_eq_append_cons hsplit (by simp) with ⟨middle, rfl, rfl⟩ | ⟨middle, rfl, rfl⟩
  · exact .inl ⟨call, relation, c, answer, by simp, hrelation, hcolumn, hvalues⟩
  · have hidle := eventsOf_eq_nil_iff.mp hback
    refine .inr ⟨call, relation, c, answer, front, middle, between, rest, rfl, rfl, ?_, ?_,
      hrelation, hcolumn, hvalues⟩
    · exact eventsOf_eq_nil_iff.mpr fun ev hev => hidle ev (by simp [hev])
    · exact eventsOf_eq_nil_iff.mpr fun ev hev => hidle ev (by simp [hev])

/-- What the cache answers after an invalidation of the table was read after it, or in flight. -/
theorem Runs.readIn_or_inFlight_of_lookup
    (hrun : Runs (.empty lifetime) (before ++ .invalidated table :: after) s)
    (hlookup : s.cache.lookup s.now table column = some values) :
    ReadIn after table column values ∨ InFlight before after table column values := by
  obtain ⟨early, other, late, hsplit, -, hvalid⟩ := hrun.exists_stored_of_lookup hlookup
  rcases append_cons_eq_append_cons hsplit (by simp) with
    ⟨between, rfl, rfl⟩ | ⟨between, -, rfl⟩
  · rw [← List.cons_append, ← List.append_assoc] at hrun
    refine hrun.readIn_or_inFlight.imp_left ?_
    intro hread
    exact hread.of_subset (by simp)
  · -- stored before the invalidation, which has dropped it
    simp at hvalid

/-- A call that starts after an invalidation of its table gets what was read after it, apart from
what was in flight. -/
theorem Runs.read_since_invalidated
    (hrun : Runs (.empty lifetime) (before ++ .invalidated table :: after) s)
    (hstarted : .started call table columns ∈ after) {d : Domains}
    (hdone : s.calls[call]? = some (.done (.ok d))) {e : String × List String}
    (he : e ∈ d.entries) :
    ReadIn after table e.1 e.2 ∨ InFlight before after table e.1 e.2 := by
  obtain ⟨middle, later, rfl⟩ := List.append_of_mem hstarted
  have hhs : before ++ Happening.invalidated table ::
      (middle ++ .started call table columns :: later) =
        (before ++ .invalidated table :: middle) ++ .started call table columns :: later := by simp
  rcases hrun.read_or_looked hhs hdone he with hread | ⟨front, back, rfl⟩
  · exact .inl (hread.of_subset (by simp))
  · have hlooked : before ++ Happening.invalidated table ::
        (middle ++ .started call table columns ::
          (front ++ .did call (.looked table e.1 (some e.2)) :: back)) =
        (before ++ .invalidated table :: (middle ++ .started call table columns :: front)) ++
          .did call (.looked table e.1 (some e.2)) :: back := by simp
    obtain ⟨m, hrun', hlookup⟩ := hrun.lookup_of_looked hlooked
    rcases hrun'.readIn_or_inFlight_of_lookup hlookup with hread | hflight
    · have hlater := hread.of_subset
        (List.subset_append_left _ (.did call (.looked table e.1 (some e.2)) :: back))
      exact .inl (by simpa using hlater)
    · have hlater := hflight.append (.did call (.looked table e.1 (some e.2)) :: back)
      exact .inr (by simpa using hlater)

def beforeChange : List Happening :=
  [.started 0 "winners" [yearOfWin], .did 0 (.looked "winners" "year" none),
    .did 0 (.read winners year (.ok answeredYears))]

def afterChange : List Happening :=
  [.did 0 (.stored "winners" "year" (Domains.normalize answeredYears)),
    .started 1 "winners" [yearOfWin],
    .did 1 (.looked "winners" "year" (some (Domains.normalize answeredYears)))]

theorem exists_runs_afterChange :
    ∃ s, Runs (.empty 60) (beforeChange ++ .invalidated "winners" :: afterChange) s ∧
      s.calls[1]? = some (.done (.ok ⟨[("year", Domains.normalize answeredYears)]⟩)) := by
  have hstart := (Runs.refl (.empty 60)).tail (.start _ "winners" [yearOfWin])
  have hmiss := hstart.move 0 rfl
    (@Resolution.Moves.missed _ .empty yearOfWin [] winners year rfl rfl) rfl
  have hread := hmiss.move 0 rfl (.answered .empty winners year [] answeredYears) trivial
  have hchange := hread.tail (.invalidate _ "winners")
  have hstore := hchange.move 0 rfl
    (.stored .empty "year" (Domains.normalize answeredYears) []) trivial
  have hagain := hstore.tail (.start _ "winners" [yearOfWin])
  exact ⟨_, hagain.move 1 rfl
    (.held .empty yearOfWin [] (Domains.normalize answeredYears)) rfl, rfl⟩

theorem read_since_invalidated_afterChange :
    ∃ s, Runs (.empty 60) (beforeChange ++ .invalidated "winners" :: afterChange) s ∧
      s.calls[1]? = some (.done (.ok ⟨[("year", Domains.normalize answeredYears)]⟩)) ∧
        (ReadIn afterChange "winners" "year" (Domains.normalize answeredYears) ∨
          InFlight beforeChange afterChange "winners" "year"
            (Domains.normalize answeredYears)) := by
  obtain ⟨s, hrun, hdone⟩ := exists_runs_afterChange
  have hstarted : .started 1 "winners" [yearOfWin] ∈ afterChange := by simp [afterChange]
  exact ⟨s, hrun, hdone, hrun.read_since_invalidated hstarted hdone List.mem_cons_self⟩

/-- The years that were read before the invalidation come back to a call that starts after it. -/
theorem stale_afterChange :
    ¬ ∀ (before after : List Happening) (s : Shared) (call : Nat) (table : String)
      (columns : List Column) (d : Domains),
      Runs (.empty 60) (before ++ .invalidated table :: after) s →
        .started call table columns ∈ after → s.calls[call]? = some (.done (.ok d)) →
          ∀ e ∈ d.entries, ReadIn after table e.1 e.2 := by
  intro hfinal
  obtain ⟨s, hrun, hdone⟩ := exists_runs_afterChange
  have hstarted : .started 1 "winners" [yearOfWin] ∈ afterChange := by simp [afterChange]
  obtain ⟨call, relation, c, answer, hread, -⟩ :=
    hfinal _ _ s 1 "winners" [yearOfWin] _ hrun hstarted hdone _ List.mem_cons_self
  simp [afterChange] at hread

end Shared

end GridQuery
