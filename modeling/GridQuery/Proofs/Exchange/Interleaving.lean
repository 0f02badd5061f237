import GridQuery.Proofs.Exchange.Play
import GridQuery.RowModel

/-!
Calls that share a cache, each taken one event at a time; in between, other calls go on, tables are
invalidated and time passes. The source may answer every question as it pleases.
-/

namespace GridQuery

open GridQuery.Sql

namespace Exchange

variable {α : Type}

/-- An event takes an exchange further. -/
inductive Step : Exchange α → Event → Exchange α → Prop where
  | looked {t c : String} {next : Option (List String) → Exchange α}
    (answer : Option (List String)) : Step (.lookup t c next) (.looked t c answer) (next answer)
  | stored {t c : String} {values : List String} {next : Exchange α} :
    Step (.store t c values next) (.stored t c values) next
  | read {r : Relation} {c : Ident} {next : Except String (List String) → Exchange α}
    (answer : Except String (List String)) :
    Step (.distinct r c next) (.read r c answer) (next answer)
  | sent {sql : String} {next : Except String (List Row) → Exchange α}
    (answer : Except String (List Row)) : Step (.execute sql next) (.sent sql answer) (next answer)

inductive Reaches : Exchange α → List Event → Exchange α → Prop where
  | refl (x : Exchange α) : Reaches x [] x
  | tail {x y z : Exchange α} {es : List Event} {ev : Event} (h : Reaches x es y)
    (hstep : y.Step ev z) : Reaches x (es ++ [ev]) z

theorem Reaches.split {x z : Exchange α} {es before after : List Event} {ev : Event}
    (h : x.Reaches es z) (hes : es = before ++ ev :: after) :
    ∃ y y', x.Reaches before y ∧ y.Step ev y' := by
  induction h generalizing after with
  | refl => simp at hes
  | @tail y z es last h hstep ih =>
    rcases List.eq_nil_or_concat after with rfl | ⟨after, final, rfl⟩
    · obtain ⟨rfl, hlast⟩ := List.append_inj' hes rfl
      cases hlast
      exact ⟨y, z, h, hstep⟩
    · rw [List.concat_eq_append, ← List.cons_append, ← List.append_assoc] at hes
      exact ih (List.append_inj' hes rfl).1

end Exchange

/-- What happens in a run, and to which of the calls. -/
inductive Happening where
  | started (call : Nat) (table : String) (columns : List Column)
  | did (call : Nat) (event : Event)
  | invalidated (table : String)
  | elapsed (duration : Nat)

namespace Happening

def event? (call : Nat) : Happening → Option Event
  | did call' ev => if call' = call then some ev else none
  | _ => none

def duration : Happening → Nat
  | elapsed n => n
  | _ => 0

end Happening

/-- The events of one call. -/
def eventsOf (call : Nat) (hs : List Happening) : List Event :=
  hs.filterMap (Happening.event? call)

/-- The time that has passed. -/
def clock (hs : List Happening) : Nat :=
  hs.foldl (fun t h => t + h.duration) 0

theorem eventsOf_concat (call : Nat) (hs : List Happening) (h : Happening) :
    eventsOf call (hs ++ [h]) = eventsOf call hs ++ (h.event? call).toList := by
  rw [eventsOf, List.filterMap_append, eventsOf]
  cases hev : h.event? call with
  | none => simp [hev]
  | some ev => simp [hev]

theorem mem_eventsOf_iff {call : Nat} {hs : List Happening} {ev : Event} :
    ev ∈ eventsOf call hs ↔ .did call ev ∈ hs := by
  rw [eventsOf, List.mem_filterMap]
  constructor
  · rintro ⟨x, hx, hev⟩
    cases x with
    | did call' ev' =>
      rw [Happening.event?] at hev
      split at hev
      · next hcall =>
        cases hev
        exact hcall ▸ hx
      · cases hev
    | started => cases hev
    | invalidated => cases hev
    | elapsed => cases hev
  · intro h
    exact ⟨_, h, if_pos rfl⟩

theorem eventsOf_eq_nil_iff {call : Nat} {hs : List Happening} :
    eventsOf call hs = [] ↔ ∀ ev, .did call ev ∉ hs := by
  simp only [List.eq_nil_iff_forall_not_mem, mem_eventsOf_iff]

/-- The last event of a call stands in the history, with nothing of that call behind it. -/
theorem exists_split_of_eventsOf {call : Nat} {hs : List Happening} {es : List Event} {ev : Event}
    (h : eventsOf call hs = es ++ [ev]) :
    ∃ before after, hs = before ++ .did call ev :: after ∧ eventsOf call after = [] := by
  obtain ⟨front, rest, rfl, -, hrest⟩ := List.filterMap_eq_append_iff.mp h
  obtain ⟨skipped, x, after, rfl, -, hx, hafter⟩ := List.filterMap_eq_cons_iff.mp hrest
  refine ⟨front ++ skipped, after, ?_, hafter⟩
  cases x with
  | did call' ev' =>
    rw [Happening.event?] at hx
    split at hx
    · next hcall =>
      cases hx
      rw [hcall, List.append_assoc]
    · cases hx
  | started => cases hx
  | invalidated => cases hx
  | elapsed => cases hx

theorem clock_concat (hs : List Happening) (h : Happening) :
    clock (hs ++ [h]) = clock hs + h.duration := by
  simp [clock]

namespace DomainCache

variable {c : DomainCache} {now time : Nat} {table column : String} {values : List String}

theorem lookup_eq_some_iff :
    c.lookup now table column = some values ↔
      ∃ time, OrderedMap.get? (table, column) c.entries = some (time, values) ∧
        now - time < c.lifetime := by
  rw [lookup]
  cases OrderedMap.get? (table, column) c.entries with
  | none => simp
  | some e =>
    obtain ⟨stored, held⟩ := e
    simp only
    by_cases hfresh : now - stored < c.lifetime
    · rw [if_pos hfresh]
      constructor
      · intro h
        cases h
        exact ⟨stored, rfl, hfresh⟩
      · rintro ⟨time, h, -⟩
        cases h
        rfl
    · rw [if_neg hfresh]
      refine iff_of_false (by simp) ?_
      rintro ⟨time, h, hlt⟩
      cases h
      exact hfresh hlt

theorem get?_store (hlifetime : c.lifetime ≠ 0) (key : String × String) :
    OrderedMap.get? key (c.store now table column values).entries =
      if (table, column) = key then some (now, values) else OrderedMap.get? key c.entries := by
  rw [store, if_neg hlifetime]
  split
  · next heq =>
    rw [heq]
    exact OrderedMap.get?_put_self _ _ _
  · next hne => exact OrderedMap.get?_put_of_ne hne _ _

theorem get?_invalidate (invalid : String) :
    OrderedMap.get? (table, column) (c.invalidate invalid).entries =
      if table = invalid then none else OrderedMap.get? (table, column) c.entries := by
  rw [invalidate]
  induction c.entries with
  | nil => simp [OrderedMap.get?]
  | cons e r ih =>
    by_cases hkept : e.1.1 = invalid
    · -- a dropped entry is not the one asked for, unless that is dropped as well
      have hother (h : table ≠ invalid) : (e.1 == (table, column)) = false := by
        rw [beq_eq_false_iff_ne]
        rintro heq
        exact h (by rw [← hkept, heq])
      by_cases h : table = invalid
      · simp_all
      · simp_all [OrderedMap.get?]
    · by_cases hkey : e.1 = (table, column)
      · have h : table ≠ invalid := by
          rintro rfl
          exact hkept (by rw [hkey])
        simp [OrderedMap.get?, hkey, h]
      · simp_all [OrderedMap.get?]

end DomainCache

/-- A cache, the time, and the calls so far, each with what it has still to do. -/
structure Shared where
  cache : DomainCache
  now : Nat
  calls : List (Exchange (Except QueryError Domains))

namespace Shared

def empty (lifetime : Nat) : Shared := ⟨.empty lifetime, 0, []⟩

/-- What the cache answers is not up to the event; everything else is. -/
def Answers (s : Shared) : Event → Prop
  | .looked t c answer => answer = s.cache.lookup s.now t c
  | _ => True

def cacheAfter (s : Shared) : Event → DomainCache
  | .stored t c values => s.cache.store s.now t c values
  | _ => s.cache

inductive Step : Shared → Happening → Shared → Prop where
  | start (s : Shared) (table : String) (columns : List Column) :
    Step s (.started s.calls.length table columns)
      { s with calls := s.calls ++ [resolveDomains table .empty columns] }
  | go {s : Shared} {call : Nat} {x y : Exchange (Except QueryError Domains)} {ev : Event}
    (hcall : s.calls[call]? = some x) (hstep : x.Step ev y) (hanswers : s.Answers ev) :
    Step s (.did call ev) { s with cache := s.cacheAfter ev, calls := s.calls.set call y }
  | invalidate (s : Shared) (table : String) :
    Step s (.invalidated table) { s with cache := s.cache.invalidate table }
  | elapse (s : Shared) (duration : Nat) :
    Step s (.elapsed duration) { s with now := s.now + duration }

inductive Runs : Shared → List Happening → Shared → Prop where
  | refl (s : Shared) : Runs s [] s
  | tail {s m s' : Shared} {hs : List Happening} {h : Happening} (hrun : Runs s hs m)
    (hstep : m.Step h s') : Runs s (hs ++ [h]) s'

variable {s m s' : Shared} {hs before after : List Happening} {h : Happening} {call lifetime : Nat}
  {table column : String} {columns : List Column} {values : List String}

theorem Runs.split (hrun : Runs s hs s') (hhs : hs = before ++ h :: after) :
    ∃ m m', Runs s before m ∧ m.Step h m' ∧ Runs m' after s' := by
  induction hrun generalizing after with
  | refl => simp at hhs
  | @tail m s' hs last hrun hstep ih =>
    rcases List.eq_nil_or_concat after with rfl | ⟨after, final, rfl⟩
    · obtain ⟨rfl, hlast⟩ := List.append_inj' hhs rfl
      cases hlast
      exact ⟨m, s', hrun, hstep, .refl s'⟩
    · rw [List.concat_eq_append, ← List.cons_append, ← List.append_assoc] at hhs
      obtain ⟨hinit, hlast⟩ := List.append_inj' hhs rfl
      cases hlast
      obtain ⟨m₁, m₂, hbefore, hmiddle, hafter⟩ := ih hinit
      rw [List.concat_eq_append]
      exact ⟨m₁, m₂, hbefore, hmiddle, hafter.tail hstep⟩

theorem Runs.lt_length (hrun : Runs (.empty lifetime) hs s) {ev : Event} (hev : .did call ev ∈ hs) :
    call < s.calls.length := by
  induction hrun with
  | refl => simp at hev
  | tail hrun hstep ih =>
    rcases List.mem_append.mp hev with hev | hev
    · have hlt := ih hev
      cases hstep with
      | start => simpa using Nat.lt_succ_of_lt hlt
      | go => simpa using hlt
      | invalidate => exact hlt
      | elapse => exact hlt
    · cases List.mem_singleton.mp hev
      cases hstep with
      | go hcall =>
        rw [List.length_set]
        exact (List.getElem?_eq_some_iff.mp hcall).1

/-- A call that has been started stands where its events have taken it. -/
theorem Runs.reaches (hrun : Runs (.empty lifetime) hs s)
    (hhs : hs = before ++ .started call table columns :: after) :
    eventsOf call before = [] ∧ ∃ y, s.calls[call]? = some y ∧
      (resolveDomains table .empty columns).Reaches (eventsOf call after) y := by
  induction hrun generalizing after with
  | refl => simp at hhs
  | @tail m s hs last hrun hstep ih =>
    rcases List.eq_nil_or_concat after with rfl | ⟨after, final, rfl⟩
    · obtain ⟨rfl, hlast⟩ := List.append_inj' hhs rfl
      cases hlast
      cases hstep with
      | start =>
        refine ⟨eventsOf_eq_nil_iff.mpr ?_, _, by simp, .refl _⟩
        intro ev hev
        exact Nat.lt_irrefl _ (hrun.lt_length hev)
    · rw [List.concat_eq_append, ← List.cons_append, ← List.append_assoc] at hhs
      obtain ⟨hinit, hlast⟩ := List.append_inj' hhs rfl
      cases hlast
      obtain ⟨hnone, y, hy, hreaches⟩ := ih hinit
      refine ⟨hnone, ?_⟩
      rw [List.concat_eq_append, eventsOf_concat]
      have hlt : call < m.calls.length := (List.getElem?_eq_some_iff.mp hy).1
      cases hstep with
      | start =>
        refine ⟨y, ?_, by simpa [Happening.event?] using hreaches⟩
        rw [List.getElem?_append_left hlt, hy]
      | @go call' x z ev hcall hstep hanswers =>
        by_cases hsame : call' = call
        · obtain rfl := hsame
          obtain rfl : x = y := Option.some.inj (hcall.symm.trans hy)
          refine ⟨z, by rw [List.getElem?_set_self hlt], ?_⟩
          simpa [Happening.event?] using hreaches.tail hstep
        · refine ⟨y, by rw [List.getElem?_set_ne hsame, hy], ?_⟩
          simpa [Happening.event?, hsame] using hreaches
      | invalidate => exact ⟨y, hy, by simpa [Happening.event?] using hreaches⟩
      | elapse => exact ⟨y, hy, by simpa [Happening.event?] using hreaches⟩

/-- Every call has been started. -/
theorem Runs.exists_started (hrun : Runs (.empty lifetime) hs s) (hcall : call < s.calls.length) :
    ∃ before table columns after, hs = before ++ .started call table columns :: after := by
  induction hrun with
  | refl => simp [empty] at hcall
  | @tail m s hs last hrun hstep ih =>
    have hearlier (h : call < m.calls.length) :
        ∃ before table columns after,
          hs ++ [last] = before ++ .started call table columns :: after := by
      obtain ⟨before, table, columns, after, rfl⟩ := ih h
      exact ⟨before, table, columns, after ++ [last], by simp⟩
    cases hstep with
    | start table columns =>
      rw [List.length_append, List.length_singleton] at hcall
      rcases Nat.lt_or_eq_of_le (Nat.le_of_lt_succ hcall) with hlt | rfl
      · exact hearlier hlt
      · exact ⟨hs, table, columns, [], rfl⟩
    | go => exact hearlier (by simpa using hcall)
    | invalidate => exact hearlier hcall
    | elapse => exact hearlier hcall

/-- Where a call stands, its events so far have taken it there from its start. -/
theorem Runs.exists_reaches (hrun : Runs (.empty lifetime) hs s)
    {y : Exchange (Except QueryError Domains)} (hy : s.calls[call]? = some y) :
    ∃ table columns, (resolveDomains table .empty columns).Reaches (eventsOf call hs) y := by
  obtain ⟨before, table, columns, after, rfl⟩ :=
    hrun.exists_started (List.getElem?_eq_some_iff.mp hy).1
  obtain ⟨hnone, y', hy', hreaches⟩ := hrun.reaches rfl
  obtain rfl : y' = y := Option.some.inj (hy'.symm.trans hy)
  refine ⟨table, columns, ?_⟩
  rw [eventsOf, List.filterMap_append, ← eventsOf, hnone]
  exact hreaches

theorem Step.lifetime_eq (hstep : s.Step h s') : s'.cache.lifetime = s.cache.lifetime := by
  cases hstep with
  | start => rfl
  | @go _ _ _ ev =>
    cases ev with
    | stored t c values =>
      simp only [cacheAfter, DomainCache.store]
      split <;> rfl
    | looked => rfl
    | read => rfl
    | sent => rfl
  | invalidate => rfl
  | elapse => rfl

theorem Runs.lifetime_eq (hrun : Runs s hs s') : s'.cache.lifetime = s.cache.lifetime := by
  induction hrun with
  | refl => rfl
  | tail _ hstep ih => exact hstep.lifetime_eq.trans ih

theorem Runs.now (hrun : Runs s hs s') : s'.now = s.now + clock hs := by
  induction hrun with
  | refl => rfl
  | tail _ hstep ih =>
    rw [clock_concat, ← Nat.add_assoc, ← ih]
    cases hstep with
    | start => rfl
    | go => rfl
    | invalidate => rfl
    | elapse => rfl

/-- An entry has been stored by some call at the time it bears, and its table has not been
invalidated since. -/
theorem Runs.exists_stored (hrun : Runs (.empty lifetime) hs s) {time : Nat}
    (hentry : OrderedMap.get? (table, column) s.cache.entries = some (time, values)) :
    ∃ before call after, hs = before ++ .did call (.stored table column values) :: after ∧
      clock before = time ∧ .invalidated table ∉ after := by
  induction hrun with
  | refl => simp [empty, DomainCache.empty, OrderedMap.get?] at hentry
  | @tail m s hs last hrun hstep ih =>
    have hearlier (hlast : last ≠ .invalidated table)
        (h : OrderedMap.get? (table, column) m.cache.entries = some (time, values)) :
        ∃ before call after,
          hs ++ [last] = before ++ .did call (.stored table column values) :: after ∧
            clock before = time ∧ .invalidated table ∉ after := by
      obtain ⟨before, call, after, rfl, hclock, hvalid⟩ := ih h
      refine ⟨before, call, after ++ [last], by simp, hclock, ?_⟩
      simpa [hvalid] using hlast.symm
    cases hstep with
    | start => exact hearlier (by simp) hentry
    | @go call x y ev hcall hstep hanswers =>
      cases ev with
      | stored t c vs =>
        by_cases hlifetime : m.cache.lifetime = 0
        · rw [cacheAfter, DomainCache.store, if_pos hlifetime] at hentry
          exact hearlier (by simp) hentry
        · rw [cacheAfter, DomainCache.get?_store hlifetime] at hentry
          split at hentry
          · next hkey =>
            cases hkey
            cases hentry
            refine ⟨hs, call, [], rfl, ?_, by simp⟩
            rw [hrun.now]
            exact (Nat.zero_add _).symm
          · exact hearlier (by simp) hentry
      | looked => exact hearlier (by simp) hentry
      | read => exact hearlier (by simp) hentry
      | sent => exact hearlier (by simp) hentry
    | invalidate invalid =>
      rw [DomainCache.get?_invalidate] at hentry
      split at hentry
      · cases hentry
      · next hother => exact hearlier (by simpa using fun h => hother h.symm) hentry
    | elapse => exact hearlier (by simp) hentry

theorem Runs.head (hstep : s.Step h m) (hrun : Runs m hs s') : Runs s (h :: hs) s' := by
  induction hrun with
  | refl => exact (Runs.refl s).tail hstep
  | tail _ hlast ih => exact ih.tail hlast

/-- A call that nothing comes between does what its run does, and leaves the cache as the run
does. -/
theorem runs_transcript {σ : Type} (source : Source σ)
    (x : Exchange (Except QueryError Domains)) (w : World σ) {c : DomainCache}
    (hcache : w.cache = some c) (calls : List (Exchange (Except QueryError Domains))) :
    ∃ c', (x.run source w).2.cache = some c' ∧
      Runs ⟨c, w.now, calls ++ [x]⟩ ((x.transcript source w).map (.did calls.length))
        ⟨c', w.now, calls ++ [.done (x.run source w).1]⟩ := by
  have hget (y : Exchange (Except QueryError Domains)) :
      (calls ++ [y])[calls.length]? = some y := by simp
  have hset (y z : Exchange (Except QueryError Domains)) :
      (calls ++ [y]).set calls.length z = calls ++ [z] := by simp
  induction x generalizing w c with
  | done a => exact ⟨c, hcache, .refl _⟩
  | lookup t column next ih =>
    obtain ⟨c', hc', hrun⟩ := ih (c.lookup w.now t column) w hcache
    have hanswer : w.cache.bind (·.lookup w.now t column) = c.lookup w.now t column := by
      rw [hcache, Option.bind_some]
    refine ⟨c', ?_, ?_⟩
    · rw [Exchange.run, hanswer, hc']
    · rw [Exchange.run, Exchange.transcript, hanswer]
      refine Runs.head (.go (hget _) (.looked _) rfl) ?_
      rw [hset]
      exact hrun
  | store t column values next ih =>
    obtain ⟨c', hc', hrun⟩ :=
      ih { w with cache := w.cache.map (·.store w.now t column values) } (by rw [hcache]; rfl)
    refine ⟨c', hc', Runs.head (.go (hget _) .stored trivial) ?_⟩
    rw [hset]
    exact hrun
  | distinct r column next ih =>
    obtain ⟨c', hc', hrun⟩ := ih (source.distinct r column w.state).1
      { w with
        state := (source.distinct r column w.state).2
        calls := .distinct r column :: w.calls } hcache
    refine ⟨c', hc', Runs.head (.go (hget _) (.read _) trivial) ?_⟩
    rw [hset]
    exact hrun
  | execute sql next ih =>
    obtain ⟨c', hc', hrun⟩ := ih (source.execute sql w.state).1
      { w with state := (source.execute sql w.state).2, calls := .execute sql :: w.calls } hcache
    refine ⟨c', hc', Runs.head (.go (hget _) (.sent _) trivial) ?_⟩
    rw [hset]
    exact hrun

end Shared

end GridQuery
