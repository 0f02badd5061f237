import GridQuery.Proofs.Compile.Validity
import GridQuery.Proofs.Exchange.Interleaving
import GridQuery.Proofs.Pivot.Entries
import GridQuery.Proofs.Pivot.Normal
import Mathlib.Tactic.Tauto

/-!
Requests to sources that list the same values in different ways get the same queries and the same
answer.
-/

namespace GridQuery

open GridQuery.Sql

/-- The same values in any order and number, or the same failure. -/
def SameValues : Except String (List String) → Except String (List String) → Prop
  | .ok values, .ok values' => ∀ v, v ∈ values ↔ v ∈ values'
  | .error cause, .error cause' => cause = cause'
  | _, _ => False

theorem sameValues_iff {x y : Except String (List String)} :
    SameValues x y ↔ x.map Domains.normalize = y.map Domains.normalize := by
  cases x with
  | error cause =>
    cases y with
    | error cause' => simp [SameValues, Except.map]
    | ok values' => simp [SameValues, Except.map]
  | ok values =>
    cases y with
    | error cause' => simp [SameValues, Except.map]
    | ok values' => simp [SameValues, Except.map, Domains.normalize_eq_iff]

/-- The queries that have been sent. -/
def queries (es : List Event) : List String :=
  es.filterMap fun
    | .sent sql _ => some sql
    | _ => none

theorem queries_append (es es' : List Event) : queries (es ++ es') = queries es ++ queries es' :=
  List.filterMap_append

/-- What a source has to give, apart from the order in which it lists values. -/
structure Contents where
  rows : String → Except String (List Row)
  domains : Relation → Ident → Except String (List String)

namespace Contents

def domain (contents : Contents) (table column : String) : Except QueryError (List String) :=
  match Relation.ofText table, Ident.ofText column with
  | .error e, _ => .error e
  | _, .error e => .error e
  | .ok r, .ok c => (contents.domains r c).mapError
    (.executionFailure table s!"SELECT DISTINCT {c.name} FROM {r.name}")

def pivotDomains (contents : Contents) (table : String) (acc : Domains) :
    List Column → Except QueryError Domains
  | [] => .ok acc
  | c :: r => match contents.domain table c.field with
    | .error e => .error e
    | .ok values => contents.pivotDomains table (acc.insert c.field values) r

end Contents

structure Source.Gives {σ : Type} (source : Source σ) (contents : Contents) : Prop where
  rows : ∀ sql state, (source.execute sql state).1 = contents.rows sql
  domains : ∀ r c state,
    (source.distinct r c state).1.map Domains.normalize = contents.domains r c

/-- What is held in the cache has been given by the source. -/
def World.Agrees {σ : Type} (w : World σ) (contents : Contents) : Prop :=
  ∀ cache, w.cache = some cache → ∀ table column time values,
    OrderedMap.get? (table, column) cache.entries = some (time, values) →
      contents.domain table column = .ok values

namespace Exchange

variable {α β σ : Type} {source : Source σ} {contents : Contents} {x : Exchange α}
  {f : α → Exchange β} {a : α} {b : β} {sent sent' : List String} {table column : String}

/-- Every run comes to the same answer and sends the same queries. -/
def Settles (source : Source σ) (contents : Contents) (x : Exchange α) (a : α)
    (sent : List String) : Prop :=
  ∀ w : World σ, w.Agrees contents →
    (x.run source w).1 = a ∧ queries (x.transcript source w) = sent ∧
      (x.run source w).2.Agrees contents

theorem settles_done : (done a).Settles source contents a [] := by
  intro w hw
  exact ⟨rfl, rfl, hw⟩

theorem Settles.bind (hx : x.Settles source contents a sent)
    (hf : (f a).Settles source contents b sent') :
    (x.bind f).Settles source contents b (sent ++ sent') := by
  intro w hw
  obtain ⟨ha, hsent, hagrees⟩ := hx w hw
  rw [run_bind, transcript_bind, queries_append, hsent, ha]
  obtain ⟨hb, hsent', hagrees'⟩ := hf _ hagrees
  exact ⟨hb, by rw [hsent'], hagrees'⟩

theorem settles_execute (h : source.Gives contents) {sql : String}
    {next : Except String (List Row) → Exchange α}
    (hnext : (next (contents.rows sql)).Settles source contents a sent) :
    (execute sql next).Settles source contents a (sql :: sent) := by
  intro w hw
  have hrun := hnext { w with
    state := (source.execute sql w.state).2
    calls := .execute sql :: w.calls } hw
  rw [← h.rows sql w.state] at hrun
  obtain ⟨ha, hsent, hagrees⟩ := hrun
  exact ⟨ha, congrArg (List.cons sql) hsent, hagrees⟩

theorem settles_distinct (h : source.Gives contents) {r : Relation} {c : Ident}
    {next : Except String (List String) → Exchange α}
    (hnext : ∀ answer, answer.map Domains.normalize = contents.domains r c →
      (next answer).Settles source contents a sent) :
    (distinct r c next).Settles source contents a sent := by
  intro w hw
  exact hnext _ (h.domains r c w.state) { w with
    state := (source.distinct r c w.state).2
    calls := .distinct r c :: w.calls } hw

theorem settles_lookup {next : Option (List String) → Exchange α}
    (hnone : (next none).Settles source contents a sent)
    (hsome : ∀ values, contents.domain table column = .ok values →
      (next (some values)).Settles source contents a sent) :
    (lookup table column next).Settles source contents a sent := by
  intro w hw
  rw [run, transcript]
  cases hlookup : w.cache.bind (·.lookup w.now table column) with
  | none => exact hnone w hw
  | some values =>
    obtain ⟨cache, hcache, hheld⟩ := Option.bind_eq_some_iff.mp hlookup
    obtain ⟨time, hentry, -⟩ := DomainCache.lookup_eq_some_iff.mp hheld
    exact hsome values (hw cache hcache table column time values hentry) w hw

theorem settles_store {values : List String}
    (hvalues : contents.domain table column = .ok values) {next : Exchange α}
    (hnext : next.Settles source contents a sent) :
    (store table column values next).Settles source contents a sent := by
  intro w hw
  refine hnext { w with cache := w.cache.map (·.store w.now table column values) } ?_
  intro cache hcache table' column' time held hentry
  obtain ⟨before, hbefore, rfl⟩ := Option.map_eq_some_iff.mp hcache
  by_cases hlifetime : before.lifetime = 0
  · rw [DomainCache.store, if_pos hlifetime] at hentry
    exact hw before hbefore _ _ _ _ hentry
  · rw [DomainCache.get?_store hlifetime] at hentry
    split at hentry
    · next hkey =>
      cases hkey
      cases hentry
      exact hvalues
    · exact hw before hbefore _ _ _ _ hentry

theorem settles_readDomain (h : source.Gives contents) :
    (readDomain table column).Settles source contents (contents.domain table column) [] := by
  cases hr : Relation.ofText table with
  | error e =>
    simp only [readDomain, Contents.domain, hr]
    exact settles_done
  | ok r =>
    cases hc : Ident.ofText column with
    | error e =>
      simp only [readDomain, Contents.domain, hr, hc]
      exact settles_done
    | ok c =>
      simp only [readDomain, Contents.domain, hr, hc]
      -- what follows looks at the values in order only
      apply settles_distinct h
      intro answer hanswer
      rw [← hanswer]
      cases answer with
      | error cause => exact settles_done
      | ok values => exact settles_done

/-- It does not matter whether a domain has been held. -/
theorem settles_resolveDomain (h : source.Gives contents) :
    (resolveDomain table column).Settles source contents (contents.domain table column) [] := by
  apply settles_lookup
  · refine (settles_readDomain h).bind ?_
    cases hdomain : contents.domain table column with
    | error e => exact settles_done
    | ok values => exact settles_store hdomain settles_done
  · intro values hvalues
    rw [hvalues]
    exact settles_done

theorem settles_resolveDomains (h : source.Gives contents) (acc : Domains)
    (columns : List Column) :
    (resolveDomains table acc columns).Settles source contents
      (contents.pivotDomains table acc columns) [] := by
  induction columns generalizing acc with
  | nil => exact settles_done
  | cons c r ih =>
    rw [resolveDomains, Contents.pivotDomains]
    refine (settles_resolveDomain h).bind ?_
    cases contents.domain table c.field with
    | error e => exact settles_done
    | ok values => exact ih _

end Exchange

namespace Contents

variable {contents : Contents} {table column : String} {values : List String} {acc d : Domains}

theorem exists_of_domain_eq_ok (h : contents.domain table column = .ok values) :
    ∃ relation c, relation.name = table ∧ c.name = column ∧
      contents.domains relation c = .ok values := by
  rw [domain] at h
  split at h
  · cases h
  · cases h
  · next relation c hrelation hcolumn =>
    refine ⟨relation, c, Relation.ofText_eq_ok_iff.mp hrelation,
      Ident.ofText_eq_ok_iff.mp hcolumn, ?_⟩
    cases hanswer : contents.domains relation c with
    | error cause =>
      rw [hanswer] at h
      cases h
    | ok values =>
      rw [hanswer] at h
      cases h
      rfl

theorem mem_pivotDomains {columns : List Column}
    (h : contents.pivotDomains table acc columns = .ok d) {e : String × List String}
    (he : e ∈ d.entries) : e ∈ acc.entries ∨ contents.domain table e.1 = .ok e.2 := by
  induction columns generalizing acc with
  | nil =>
    cases h
    exact .inl he
  | cons c r ih =>
    rw [pivotDomains] at h
    split at h
    · cases h
    · next values hvalues =>
      rcases ih h with hmem | hdomain
      · rcases OrderedMap.mem_put hmem with rfl | hmem
        · exact .inr hvalues
        · exact .inl hmem
      · exact .inr hdomain

/-- The domains that a request needs. -/
def neededDomains (contents : Contents) (r : Request) (table : String) :
    Except QueryError Domains :=
  if r.isPivoting then contents.pivotDomains table .empty r.pivotCols else .ok .empty

theorem domain_of_mem_neededDomains {r : Request} (h : contents.neededDomains r table = .ok d)
    {e : String × List String} (he : e ∈ d.entries) : contents.domain table e.1 = .ok e.2 := by
  rw [neededDomains] at h
  split at h
  · rcases mem_pivotDomains h he with hmem | hdomain
    · cases hmem
    · exact hdomain
  · cases h
    cases he

end Contents

namespace Request

variable {σ τ : Type} {source : Source σ} {contents : Contents}

theorem settles_resolve (h : source.Gives contents) (r : Request) (table : String) :
    (r.resolve table).Settles source contents (contents.neededDomains r table) [] := by
  rw [resolve, Contents.neededDomains]
  split
  · exact Exchange.settles_resolveDomains h .empty r.pivotCols
  · exact Exchange.settles_done

theorem exists_settles_fetch (contents : Contents) (r : Request) (table : String)
    (dialect : Dialect) (d : Domains) :
    ∃ answer sent, (∀ sql ∈ sent, r.toSql table d dialect = .ok sql) ∧
      ∀ {σ : Type} {source : Source σ}, source.Gives contents →
        (r.fetch table dialect d).Settles source contents answer sent := by
  cases hsql : r.toSql table d dialect with
  | error e =>
    refine ⟨.error e, [], by simp, ?_⟩
    intro σ source h
    rw [fetch, hsql]
    exact Exchange.settles_done
  | ok sql =>
    cases hrows : contents.rows sql with
    | error cause =>
      refine ⟨.error (.executionFailure table sql cause), [sql], by simp, ?_⟩
      intro σ source h
      rw [fetch, hsql]
      apply Exchange.settles_execute h
      rw [hrows]
      exact Exchange.settles_done
    | ok rows =>
      refine ⟨.ok (.build r rows d), [sql], by simp, ?_⟩
      intro σ source h
      rw [fetch, hsql]
      apply Exchange.settles_execute h
      rw [hrows]
      exact Exchange.settles_done

/-- What a request comes to is up to the contents. -/
theorem exists_settles_getData (contents : Contents) (r : Request) (table : String)
    (dialect : Dialect) :
    ∃ answer sent,
      (∀ sql ∈ sent, ∃ d, contents.neededDomains r table = .ok d ∧
        r.toSql table d dialect = .ok sql) ∧
      ∀ {σ : Type} {source : Source σ}, source.Gives contents →
        (r.getData table dialect).Settles source contents answer sent := by
  cases hvalid : r.validate table with
  | error e =>
    refine ⟨.error e, [], by simp, ?_⟩
    intro σ source h
    rw [getData, hvalid]
    exact Exchange.settles_done
  | ok _ =>
    cases hneeded : contents.neededDomains r table with
    | error e =>
      refine ⟨.error e, [], by simp, ?_⟩
      intro σ source h
      rw [getData, hvalid]
      refine (settles_resolve h r table).bind ?_
      rw [hneeded]
      exact Exchange.settles_done
    | ok d =>
      obtain ⟨answer, sent, hsent, hfetch⟩ := exists_settles_fetch contents r table dialect d
      refine ⟨answer, sent, fun sql hsql => ⟨d, rfl, hsent sql hsql⟩, ?_⟩
      intro σ source h
      rw [getData, hvalid]
      refine (settles_resolve h r table).bind ?_
      rw [hneeded]
      exact hfetch h

end Request

/-- The sources answer queries alike and give the same values for each column. -/
structure Source.Alike {σ τ : Type} (a : Source σ) (b : Source τ) : Prop where
  execute : ∀ sql state state', (a.execute sql state).1 = (b.execute sql state').1
  distinct : ∀ r c state state', SameValues (a.distinct r c state).1 (b.distinct r c state').1

theorem Source.Alike.exists_contents {σ τ : Type} {a : Source σ} {b : Source τ} (h : a.Alike b)
    (state : σ) (state' : τ) : ∃ contents, a.Gives contents ∧ b.Gives contents := by
  have hdomains (r : Relation) (c : Ident) (s : σ) (s' : τ) :
      (a.distinct r c s).1.map Domains.normalize = (b.distinct r c s').1.map Domains.normalize :=
    sameValues_iff.mp (h.distinct r c s s')
  refine ⟨⟨fun sql => (b.execute sql state').1,
    fun r c => (b.distinct r c state').1.map Domains.normalize⟩, ⟨?_, ?_⟩, ⟨?_, ?_⟩⟩
  · intro sql s
    exact h.execute sql s state'
  · intro r c s
    exact hdomains r c s state'
  · intro sql s
    exact (h.execute sql state s).symm.trans (h.execute sql state state')
  · intro r c s
    exact (hdomains r c state s).symm.trans (hdomains r c state state')

theorem Source.Gives.exists_answer {σ : Type} {source : Source σ} {contents : Contents}
    (h : source.Gives contents) {relation : Relation} {c : Ident} {values : List String}
    (hvalues : contents.domains relation c = .ok values) (state : σ) :
    ∃ answer, (source.distinct relation c state).1 = .ok answer ∧
      values = Domains.normalize answer := by
  have hgiven := h.domains relation c state
  rw [hvalues] at hgiven
  cases hanswer : (source.distinct relation c state).1 with
  | error cause =>
    rw [hanswer] at hgiven
    cases hgiven
  | ok answer =>
    rw [hanswer] at hgiven
    exact ⟨answer, rfl, (Except.ok.inj hgiven).symm⟩

/-- There is no cache, or it holds nothing. -/
def World.Uncached {σ : Type} (w : World σ) : Prop :=
  ∀ cache, w.cache = some cache → cache.entries = []

theorem World.Uncached.agrees {σ : Type} {w : World σ} (h : w.Uncached) (contents : Contents) :
    w.Agrees contents := by
  intro cache hcache table column time values hentry
  rw [h cache hcache] at hentry
  cases hentry

/-- A request comes to the same with sources that differ in the order of the values only. The
domains that its query is made of hold the values of the source in increasing order. -/
theorem Source.Alike.getData_eq {σ τ : Type} {a : Source σ} {b : Source τ} (halike : a.Alike b)
    (r : Request) (table : String) (dialect : Dialect) {w : World σ} {v : World τ}
    (hw : w.Uncached) (hv : v.Uncached) :
    ((r.getData table dialect).run a w).1 = ((r.getData table dialect).run b v).1 ∧
      queries ((r.getData table dialect).transcript a w) =
        queries ((r.getData table dialect).transcript b v) ∧
      ((r.resolve table).run a w).1 = ((r.resolve table).run b v).1 ∧
      (∀ sql ∈ queries ((r.getData table dialect).transcript a w),
        ∃ d, ((r.resolve table).run a w).1 = .ok d ∧ r.toSql table d dialect = .ok sql) ∧
      ∀ d, ((r.resolve table).run a w).1 = .ok d → ∀ e ∈ d.entries,
        e.2.Pairwise (· < ·) ∧ ∃ relation c, relation.name = table ∧ c.name = e.1 ∧
          ∀ state, ∃ answer, (a.distinct relation c state).1 = .ok answer ∧
            ∀ value, value ∈ e.2 ↔ value ∈ answer := by
  obtain ⟨contents, ha, hb⟩ := halike.exists_contents w.state v.state
  obtain ⟨answer, sent, hsent, hgetData⟩ :=
    Request.exists_settles_getData contents r table dialect
  obtain ⟨hanswer, hqueries, -⟩ := hgetData ha w (hw.agrees contents)
  obtain ⟨hanswer', hqueries', -⟩ := hgetData hb v (hv.agrees contents)
  obtain ⟨hneeded, -, -⟩ := Request.settles_resolve ha r table w (hw.agrees contents)
  obtain ⟨hneeded', -, -⟩ := Request.settles_resolve hb r table v (hv.agrees contents)
  refine ⟨hanswer.trans hanswer'.symm, hqueries.trans hqueries'.symm,
    hneeded.trans hneeded'.symm, ?_, ?_⟩
  · intro sql hsql
    rw [hqueries] at hsql
    rw [hneeded]
    exact hsent sql hsql
  · intro d hd e he
    rw [hneeded] at hd
    obtain ⟨relation, c, hrelation, hcolumn, hdomain⟩ :=
      Contents.exists_of_domain_eq_ok (Contents.domain_of_mem_neededDomains hd he)
    obtain ⟨answer, -, hvalues⟩ := ha.exists_answer hdomain w.state
    refine ⟨hvalues ▸ Domains.pairwise_normalize answer, relation, c, hrelation, hcolumn, ?_⟩
    intro state
    obtain ⟨answer, hanswer, hvalues⟩ := ha.exists_answer hdomain state
    refine ⟨answer, hanswer, ?_⟩
    intro value
    rw [hvalues, Domains.mem_normalize]

def goldByYear : Request where
  endRow := 10
  rowGroupCols := [⟨"c", "", "country", none, .text⟩]
  valueCols := [⟨"g", "", "gold", some .sum, .number⟩]
  pivotCols := [⟨"y", "", "year", none, .text⟩]

/-- A source that lists the same values for every column. -/
def listing (values : List String) : Source Unit where
  execute _ s := (.ok [[("country", .text "Norway"), ("2008_gold", .ofNat 3)]], s)
  distinct _ _ s := (.ok values, s)

theorem getData_eq_listing :
    (listing ["2012", "2008", "2012"]).Alike (listing ["2008", "2012"]) ∧
      ((goldByYear.getData "winners" .mysql).run (listing ["2012", "2008", "2012"])
        ⟨(), none, 0, []⟩).1 =
      ((goldByYear.getData "winners" .mysql).run (listing ["2008", "2012"])
        ⟨(), some (.empty 60), 0, []⟩).1 ∧
      queries ((goldByYear.getData "winners" .mysql).transcript
        (listing ["2012", "2008", "2012"]) ⟨(), none, 0, []⟩) =
      queries ((goldByYear.getData "winners" .mysql).transcript
        (listing ["2008", "2012"]) ⟨(), some (.empty 60), 0, []⟩) ∧
      ((goldByYear.resolve "winners").run (listing ["2008", "2012"])
        ⟨(), some (.empty 60), 0, []⟩).1 = .ok ⟨[("year", ["2008", "2012"])]⟩ := by
  have hsame : ∀ value, value ∈ ["2012", "2008", "2012"] ↔ value ∈ ["2008", "2012"] := by
    intro value
    simp only [List.mem_cons, List.not_mem_nil, or_false]
    tauto
  have hnormal : Domains.normalize ["2012", "2008", "2012"] = ["2008", "2012"] :=
    (Domains.normalize_eq_iff.mpr hsame).trans (Domains.normalize_of_pairwise (by decide))
  have hnone : World.Uncached (⟨(), none, 0, []⟩ : World Unit) := by
    intro cache hcache
    cases hcache
  have hempty : World.Uncached (⟨(), some (.empty 60), 0, []⟩ : World Unit) := by
    intro cache hcache
    cases hcache
    rfl
  have halike : (listing ["2012", "2008", "2012"]).Alike (listing ["2008", "2012"]) :=
    ⟨fun _ _ _ => rfl, fun _ _ _ _ => hsame⟩
  obtain ⟨hanswer, hqueries, hresolve, -⟩ :=
    halike.getData_eq goldByYear "winners" .mysql hnone hempty
  have hdomains : ((goldByYear.resolve "winners").run (listing ["2012", "2008", "2012"])
      ⟨(), none, 0, []⟩).1 =
        .ok ⟨[("year", Domains.normalize ["2012", "2008", "2012"])]⟩ := rfl
  refine ⟨halike, hanswer, hqueries, hresolve.symm.trans ?_⟩
  rw [hdomains, hnormal]

end GridQuery
