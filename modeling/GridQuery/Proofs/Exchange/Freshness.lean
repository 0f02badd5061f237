import GridQuery.Proofs.Exchange.Resolution

/-!
How old the domains are that calls get from a shared cache: less than a lifetime, counted from the
time when they were stored.
-/

namespace GridQuery

open GridQuery.Sql

/-- Some call has read these values of the column; here they are in order. -/
def ReadIn (hs : List Happening) (table column : String) (values : List String) : Prop :=
  ∃ call relation c answer, .did call (.read relation c (.ok answer)) ∈ hs ∧
    relation.name = table ∧ c.name = column ∧ values = Domains.normalize answer

namespace Shared

variable {s m s' : Shared} {hs before after : List Happening} {call lifetime : Nat}
  {table column : String} {columns : List Column} {values : List String}

/-- What has been stored has been read by the same call, which did nothing in between. -/
theorem Runs.exists_read (hrun : Runs (.empty lifetime) hs s)
    (hhs : hs = before ++ .did call (.stored table column values) :: after) :
    ∃ front relation c answer back,
      before = front ++ .did call (.read relation c (.ok answer)) :: back ∧
        eventsOf call back = [] ∧ relation.name = table ∧ c.name = column ∧
          values = Domains.normalize answer := by
  obtain ⟨m, m', hbefore, hstep, -⟩ := hrun.split hhs
  cases hstep with
  | @go _ x y ev hcall hstep hanswers =>
    obtain ⟨table', columns, hreaches⟩ := hbefore.exists_reaches hcall
    obtain ⟨es, relation, c, answer, hes, hrelation, hcolumn, hvalues⟩ :=
      Resolution.read_before_stored (hreaches.tail hstep) rfl
    obtain ⟨front, back, hsplit, hback⟩ := exists_split_of_eventsOf hes
    exact ⟨front, relation, c, answer, back, hsplit, hback, hrelation, hcolumn, hvalues⟩

theorem Runs.now_eq (hrun : Runs (.empty lifetime) hs s) : s.now = clock hs :=
  hrun.now.trans (Nat.zero_add _)

/-- What the cache answers was stored within the lifetime, and its table has not been invalidated
since. -/
theorem Runs.exists_stored_of_lookup (hrun : Runs (.empty lifetime) hs s)
    (hlookup : s.cache.lookup s.now table column = some values) :
    ∃ before call after, hs = before ++ .did call (.stored table column values) :: after ∧
      clock hs < clock before + lifetime ∧ .invalidated table ∉ after := by
  obtain ⟨time, hentry, hfresh⟩ := DomainCache.lookup_eq_some_iff.mp hlookup
  obtain ⟨before, call, after, hhs, rfl, hvalid⟩ := hrun.exists_stored hentry
  have hlifetime : s.cache.lifetime = lifetime := hrun.lifetime_eq
  have hnow := hrun.now_eq
  exact ⟨before, call, after, hhs, by omega, hvalid⟩

theorem Runs.exists_move (hrun : Runs (.empty lifetime) hs s) {ev : Event}
    (hstep : s.Step (.did call ev) s') :
    ∃ (table : String) (p p' : Resolution), Resolution.Moves table p ev p' ∧
      s'.calls[call]? = some (p'.exchange table) ∧ s'.cache = s.cacheAfter ev := by
  cases hstep with
  | @go _ x y _ hcall hstep hanswers =>
    obtain ⟨table, columns, hreaches⟩ := hrun.exists_reaches hcall
    obtain ⟨p, rfl, -⟩ := Resolution.exists_fits hreaches
    obtain ⟨p', hmove, rfl⟩ := Resolution.step_iff.mp hstep
    refine ⟨table, p, p', hmove, ?_, rfl⟩
    exact List.getElem?_set_self (List.getElem?_eq_some_iff.mp hcall).1

theorem Runs.failed (hrun : Runs (.empty lifetime) hs s) {relation : Relation} {c : Ident}
    {cause : String} (hstep : s.Step (.did call (.read relation c (.error cause))) s') :
    s'.cache = s.cache ∧ ∃ table query,
      s'.calls[call]? = some (.done (.error (.executionFailure table query cause))) := by
  obtain ⟨table, p, p', hmove, hcall, hcache⟩ := hrun.exists_move hstep
  cases hmove with
  | failed => exact ⟨hcache, _, _, hcall⟩

theorem Runs.lookup_of_looked (hrun : Runs (.empty lifetime) hs s)
    (hhs : hs = before ++ .did call (.looked table column (some values)) :: after) :
    ∃ m, Runs (.empty lifetime) before m ∧ m.cache.lookup m.now table column = some values := by
  obtain ⟨m, m', hbefore, hstep, -⟩ := hrun.split hhs
  cases hstep with
  | go hcall hstep hanswers => exact ⟨m, hbefore, hanswers.symm⟩

/-- A domain that a call answers with it has read itself, or got from the cache. -/
theorem Runs.read_or_looked (hrun : Runs (.empty lifetime) hs s)
    (hhs : hs = before ++ .started call table columns :: after) {d : Domains}
    (hdone : s.calls[call]? = some (.done (.ok d))) {e : String × List String}
    (he : e ∈ d.entries) :
    ReadIn after table e.1 e.2 ∨
      ∃ front back, after = front ++ .did call (.looked table e.1 (some e.2)) :: back := by
  obtain ⟨-, y, hy, hreaches⟩ := hrun.reaches hhs
  obtain rfl : y = .done (.ok d) := Option.some.inj (hy.symm.trans hdone)
  obtain ⟨-, rfl⟩ := Resolution.of_reaches_ok hreaches
  rcases Resolution.looked_or_read_of_found hreaches (Domains.mem_of_mem_ofList he) with
    hlooked | ⟨relation, c, answer, hread, hrelation, hcolumn, hvalues⟩
  · exact .inr (List.append_of_mem (mem_eventsOf_iff.mp hlooked))
  · exact .inl ⟨call, relation, c, answer, mem_eventsOf_iff.mp hread, hrelation, hcolumn, hvalues⟩

end Shared

namespace Shared

theorem Runs.move {lifetime : Nat} {hs : List Happening} {s : Shared} {table : String}
    {p p' : Resolution} {ev : Event} (hrun : Runs (.empty lifetime) hs s) (call : Nat)
    (hcall : s.calls[call]? = some (p.exchange table)) (hmove : Resolution.Moves table p ev p')
    (hanswers : s.Answers ev) :
    Runs (.empty lifetime) (hs ++ [.did call ev])
      { s with cache := s.cacheAfter ev, calls := s.calls.set call (p'.exchange table) } :=
  hrun.tail (.go hcall (Resolution.step_iff.mpr ⟨p', hmove, rfl⟩) hanswers)

def winners : Relation := ⟨"winners", by decide⟩

def year : Ident := ⟨"year", by decide⟩

def yearOfWin : Column := ⟨"y", "", "year", none, .text⟩

def answeredYears : List String := ["2012", "2008", "2012"]

end Shared

end GridQuery
