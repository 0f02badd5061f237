import GridQuery.Proofs.Compile.CallerError
import GridQuery.Proofs.Compile.Plan
import GridQuery.Proofs.Exchange.Play
import GridQuery.Proofs.Pivot.Normal
import GridQuery.RowModel

/-!
What a request for rows asks of the source, in which order, and how its answer tells which of these
steps was the last.
-/

namespace GridQuery

open GridQuery.Sql

namespace Event

/-- The domain that an event gives: what the cache holds, or the values of the source in order. -/
def domain? : Event → Option (String × List String)
  | looked _ column (some values) => some (column, values)
  | read _ column (.ok values) => some (column.name, Domains.normalize values)
  | _ => none

/-- The error that a failed call ends a request on a table with. -/
def failure? (table : String) : Event → Option QueryError
  | read relation column (.error cause) =>
    some (.executionFailure table s!"SELECT DISTINCT {column.name} FROM {relation.name}" cause)
  | sent sql (.error cause) => some (.executionFailure table sql cause)
  | _ => none

end Event

/-- The domains that have been found, by column, in the order in which they were. -/
def foundDomains (es : List Event) : List (String × List String) :=
  es.filterMap Event.domain?

theorem foundDomains_sent (es : List Event) (sql : String) (answer : Except String (List Row)) :
    foundDomains (es ++ [Event.sent sql answer]) = foundDomains es := by
  simp [foundDomains, Event.domain?]

/-- The ways to resolve columns one after the other, given the domains found so far. -/
inductive Resolves (table : String) :
    Domains → List Column → List Event → Except QueryError Domains → Prop where
  | done (acc : Domains) : Resolves table acc [] [] (.ok acc)
  | held {acc : Domains} {c : Column} {r : List Column} {es : List Event}
    {x : Except QueryError Domains} (values : List String)
    (h : Resolves table (acc.insert c.field values) r es x) :
    Resolves table acc (c :: r) (.looked table c.field (some values) :: es) x
  | fetched {acc : Domains} {c : Column} {r : List Column} {es : List Event}
    {x : Except QueryError Domains} {relation : Relation} {column : Ident}
    (hrelation : relation.name = table) (hcolumn : column.name = c.field) (values : List String)
    (h : Resolves table (acc.insert c.field (Domains.normalize values)) r es x) :
    Resolves table acc (c :: r)
      (.looked table c.field none :: .read relation column (.ok values) ::
        .stored table c.field (Domains.normalize values) :: es) x
  | failed {acc : Domains} {c : Column} {r : List Column} {relation : Relation} {column : Ident}
    (hrelation : relation.name = table) (hcolumn : column.name = c.field) (cause : String) :
    Resolves table acc (c :: r)
      [.looked table c.field none, .read relation column (.error cause)]
      (.error (.executionFailure table
        s!"SELECT DISTINCT {column.name} FROM {relation.name}" cause))

variable {table : String}

/-- A column that can be read is read by one call. -/
theorem plays_readDomain {column : String} (ht : isRelationName table.toList = true)
    (hc : isPlainName column.toList = true) {es : List Event} {x : Except QueryError (List String)}
    (h : (readDomain table column).Plays es x) :
    ∃ relation c, relation.name = table ∧ c.name = column ∧
      ((∃ cause, es = [.read relation c (.error cause)] ∧
        x = .error (.executionFailure table
          s!"SELECT DISTINCT {c.name} FROM {relation.name}" cause)) ∨
      ∃ values, es = [.read relation c (.ok values)] ∧ x = .ok (Domains.normalize values)) := by
  obtain ⟨relation, hrelation⟩ := Relation.succeeds_ofText.mpr ht
  obtain ⟨c, hcolumn⟩ := Ident.succeeds_ofText.mpr hc
  refine ⟨relation, c, Relation.ofText_eq_ok_iff.mp hrelation,
    Ident.ofText_eq_ok_iff.mp hcolumn, ?_⟩
  unfold readDomain at h
  rw [hrelation, hcolumn] at h
  cases h with
  | distinct answer h =>
    cases answer with
    | error cause =>
      obtain ⟨rfl, rfl⟩ := Exchange.plays_done_iff.mp h
      exact .inl ⟨cause, rfl, rfl⟩
    | ok values =>
      obtain ⟨rfl, rfl⟩ := Exchange.plays_done_iff.mp h
      exact .inr ⟨values, rfl, rfl⟩

theorem resolves_of_plays (ht : isRelationName table.toList = true) {columns : List Column}
    (hc : ∀ c ∈ columns, isPlainName c.field.toList = true) {acc : Domains} {es : List Event}
    {x : Except QueryError Domains} (h : (resolveDomains table acc columns).Plays es x) :
    Resolves table acc columns es x := by
  induction columns generalizing acc es x with
  | nil =>
    obtain ⟨rfl, rfl⟩ := Exchange.plays_done_iff.mp h
    exact .done acc
  | cons c r ih =>
    have hr : ∀ c ∈ r, isPlainName c.field.toList = true := fun c' hc' => hc c' (by simp [hc'])
    obtain ⟨es₁, y, es₂, hfirst, hrest, rfl⟩ := Exchange.plays_bind.mp h
    cases hfirst with
    | lookup answer hfirst =>
      cases answer with
      | some values =>
        obtain ⟨rfl, rfl⟩ := Exchange.plays_done_iff.mp hfirst
        exact .held values (ih hr hrest)
      | none =>
        obtain ⟨es₃, z, es₄, hread, hstore, rfl⟩ := Exchange.plays_bind.mp hfirst
        obtain ⟨relation, column, hrelation, hcolumn, hread⟩ :=
          plays_readDomain ht (hc c (by simp)) hread
        rcases hread with ⟨cause, rfl, rfl⟩ | ⟨values, rfl, rfl⟩
        · obtain ⟨rfl, rfl⟩ := Exchange.plays_done_iff.mp hstore
          obtain ⟨rfl, rfl⟩ := Exchange.plays_done_iff.mp hrest
          exact .failed hrelation hcolumn cause
        · cases hstore with
          | store hstore =>
            obtain ⟨rfl, rfl⟩ := Exchange.plays_done_iff.mp hstore
            exact .fetched hrelation hcolumn values (ih hr hrest)

/-- The call reads the domain of the column. -/
def ReadsColumn (table : String) (call : SourceCall) (c : Column) : Prop :=
  ∃ relation column, call = .distinct relation column ∧ relation.name = table ∧
    column.name = c.field

namespace Resolves

variable {acc : Domains} {columns : List Column} {es : List Event} {x : Except QueryError Domains}

theorem calls (h : Resolves table acc columns es x) :
    ∃ read, read.Sublist columns ∧
      List.Forall₂ (ReadsColumn table) (es.filterMap Event.call?) read := by
  induction h with
  | done => exact ⟨[], List.Sublist.refl _, .nil⟩
  | held values _ ih =>
    obtain ⟨read, hsub, hread⟩ := ih
    exact ⟨read, hsub.cons _, hread⟩
  | @fetched _ c _ _ _ relation column hrelation hcolumn values _ ih =>
    obtain ⟨read, hsub, hread⟩ := ih
    exact ⟨c :: read, hsub.cons_cons c, .cons ⟨relation, column, rfl, hrelation, hcolumn⟩ hread⟩
  | @failed _ c _ relation column hrelation hcolumn cause =>
    exact ⟨[c], List.singleton_sublist.mpr (by simp),
      .cons ⟨relation, column, rfl, hrelation, hcolumn⟩ .nil⟩

theorem not_sent (h : Resolves table acc columns es x) (sql : String)
    (answer : Except String (List Row)) : .sent sql answer ∉ es := by
  induction h with
  | done => simp
  | held values _ ih => simpa using ih
  | fetched _ _ values _ ih => simpa using ih
  | failed => simp

theorem not_executed (h : Resolves table acc columns es x) (sql : String) :
    .execute sql ∉ es.filterMap Event.call? := by
  intro hm
  obtain ⟨ev, hev, hcall⟩ := List.mem_filterMap.mp hm
  cases ev with
  | sent sql' answer => exact h.not_sent sql' answer hev
  | looked => cases hcall
  | stored => cases hcall
  | read => cases hcall

/-- If all columns are resolved, no call has failed. -/
theorem of_ok {d : Domains} (h : Resolves table acc columns es (.ok d)) :
    (foundDomains es).map Prod.fst = columns.map (·.field) ∧
      d = (foundDomains es).foldl (fun d e => d.insert e.1 e.2) acc ∧
      ∀ ev ∈ es, ev.failure? table = none := by
  generalize hx : Except.ok d = x at h
  induction h with
  | done =>
    cases hx
    exact ⟨rfl, rfl, by simp⟩
  | held values _ ih =>
    obtain ⟨hfields, hd, hnone⟩ := ih hx
    refine ⟨congrArg _ hfields, hd, ?_⟩
    simpa [Event.failure?] using hnone
  | @fetched _ c _ es _ relation column hrelation hcolumn values _ ih =>
    obtain ⟨hfields, hd, hnone⟩ := ih hx
    have hfound : foundDomains (.looked table c.field none :: .read relation column (.ok values) ::
        .stored table c.field (Domains.normalize values) :: es) =
          (c.field, Domains.normalize values) :: foundDomains es := by
      rw [← hcolumn]
      rfl
    rw [hfound]
    refine ⟨congrArg _ hfields, hd, ?_⟩
    simpa [Event.failure?] using hnone
  | failed => cases hx

/-- If a column is not resolved, its call has failed; it was the last, and domains are missing. -/
theorem of_error {e : QueryError} (h : Resolves table acc columns es (.error e)) :
    (foundDomains es).length < columns.length ∧
      ∃ before last, es = before ++ [last] ∧ last.failure? table = some e ∧
        ∀ ev ∈ before, ev.failure? table = none := by
  generalize hx : Except.error e = x at h
  induction h with
  | done => cases hx
  | @held _ c _ _ _ values _ ih =>
    obtain ⟨hlength, before, last, rfl, hlast, hnone⟩ := ih hx
    refine ⟨Nat.succ_lt_succ hlength, .looked table c.field (some values) :: before, last, rfl,
      hlast, ?_⟩
    simpa [Event.failure?] using hnone
  | @fetched _ c _ _ _ relation column hrelation hcolumn values _ ih =>
    obtain ⟨hlength, before, last, rfl, hlast, hnone⟩ := ih hx
    refine ⟨Nat.succ_lt_succ hlength, .looked table c.field none ::
      .read relation column (.ok values) :: .stored table c.field (Domains.normalize values) ::
        before, last, rfl, hlast, ?_⟩
    simpa [Event.failure?] using hnone
  | @failed _ c _ relation column hrelation hcolumn cause =>
    cases hx
    refine ⟨Nat.succ_pos _, [.looked table c.field none],
      .read relation column (.error cause), rfl, rfl, ?_⟩
    simp [Event.failure?]

end Resolves

namespace Request

/-- The columns whose domains the request needs. -/
def domainColumns (r : Request) : List Column :=
  if r.isPivoting then r.pivotCols else []

/-- The ways a request for rows can go. -/
inductive Goes (r : Request) (table : String) (dialect : Dialect) :
    List Event → Except QueryError Response → Prop where
  | invalid {e : QueryError} (h : r.validate table = .error e) :
    r.Goes table dialect [] (.error e)
  | unresolved {es : List Event} {e : QueryError} (hvalid : r.validate table = .ok ())
    (h : Resolves table .empty r.domainColumns es (.error e)) : r.Goes table dialect es (.error e)
  | refused {es : List Event} {d : Domains} {e : QueryError} (hvalid : r.validate table = .ok ())
    (h : Resolves table .empty r.domainColumns es (.ok d))
    (hsql : r.toSql table d dialect = .error e) : r.Goes table dialect es (.error e)
  | failed {es : List Event} {d : Domains} {sql : String} (hvalid : r.validate table = .ok ())
    (h : Resolves table .empty r.domainColumns es (.ok d))
    (hsql : r.toSql table d dialect = .ok sql) (cause : String) :
    r.Goes table dialect (es ++ [.sent sql (.error cause)])
      (.error (.executionFailure table sql cause))
  | answered {es : List Event} {d : Domains} {sql : String} (hvalid : r.validate table = .ok ())
    (h : Resolves table .empty r.domainColumns es (.ok d))
    (hsql : r.toSql table d dialect = .ok sql) (rows : List Row) :
    r.Goes table dialect (es ++ [.sent sql (.ok rows)]) (.ok (.build r rows d))

variable {r : Request} {dialect : Dialect} {es : List Event} {x : Except QueryError Response}

theorem resolve_eq (r : Request) (table : String) :
    r.resolve table = resolveDomains table .empty r.domainColumns := by
  unfold resolve domainColumns
  split <;> rfl

theorem Valid.plain_domainColumns (h : r.Valid table) :
    ∀ c ∈ r.domainColumns, isPlainName c.field.toList = true := by
  intro c hc
  unfold domainColumns at hc
  split at hc
  · exact h.fields c (by simp [hc])
  · cases hc

theorem goes_of_plays (h : (r.getData table dialect).Plays es x) : r.Goes table dialect es x := by
  unfold getData at h
  split at h
  · next e hinvalid =>
    obtain ⟨rfl, rfl⟩ := Exchange.plays_done_iff.mp h
    exact .invalid hinvalid
  · next hvalid =>
    have hfit := validate_eq_ok_iff.mp hvalid
    obtain ⟨es₁, y, es₂, hresolve, hfetch, rfl⟩ := Exchange.plays_bind.mp h
    rw [resolve_eq] at hresolve
    have hresolves := resolves_of_plays hfit.relation hfit.plain_domainColumns hresolve
    cases y with
    | error e =>
      obtain ⟨rfl, rfl⟩ := Exchange.plays_done_iff.mp hfetch
      rw [List.append_nil]
      exact .unresolved hvalid hresolves
    | ok d =>
      simp only [fetch] at hfetch
      split at hfetch
      · next e hsql =>
        obtain ⟨rfl, rfl⟩ := Exchange.plays_done_iff.mp hfetch
        rw [List.append_nil]
        exact .refused hvalid hresolves hsql
      · next sql hsql =>
        cases hfetch with
        | execute answer hfetch =>
          cases answer with
          | error cause =>
            obtain ⟨rfl, rfl⟩ := Exchange.plays_done_iff.mp hfetch
            exact .failed hvalid hresolves hsql cause
          | ok rows =>
            obtain ⟨rfl, rfl⟩ := Exchange.plays_done_iff.mp hfetch
            exact .answered hvalid hresolves hsql rows

/-- What the events of a request for rows and its result have to do with each other. -/
structure Protocol (r : Request) (table : String) (dialect : Dialect) (es : List Event)
    (x : Except QueryError Response) : Prop where
  /-- Domains are read in the order of the columns, each at most once; then one query is sent at
  most. -/
  calls : ∃ (read : List Column) (reads : List SourceCall) (query : Option String),
    read.Sublist r.domainColumns ∧ List.Forall₂ (ReadsColumn table) reads read ∧
      es.filterMap Event.call? = reads ++ query.toList.map .execute
  invalid : ∀ e, r.validate table = .error e → es = [] ∧ x = .error e
  /-- A query is sent if all domains have been found and it has been compiled for them. -/
  sent : ∀ sql, .execute sql ∈ es.filterMap Event.call? ↔
    (foundDomains es).map Prod.fst = r.domainColumns.map (·.field) ∧
      r.toSql table (.ofList (foundDomains es)) dialect = .ok sql
  /-- The answer has the rows that the query was answered with, in their order. -/
  answered : ∀ response, x = .ok response ↔
    ∃ sql rows, .sent sql (.ok rows) ∈ es ∧ response.rows = rows ∧
      response = .build r rows (.ofList (foundDomains es))
  failed : ∀ relation query cause, x = .error (.executionFailure relation query cause) ↔
    ∃ ev ∈ es, ev.failure? table = some (.executionFailure relation query cause)
  /-- Nothing follows a call that has failed. -/
  halted : ∀ before ev after, es = before ++ ev :: after → ev.failure? table ≠ none → after = []
  refused : ∀ e, x = .error e → e.isCallerError = true →
    ∀ sql, .execute sql ∉ es.filterMap Event.call?

namespace Goes

theorem calls (h : r.Goes table dialect es x) :
    ∃ (read : List Column) (reads : List SourceCall) (query : Option String),
      read.Sublist r.domainColumns ∧ List.Forall₂ (ReadsColumn table) reads read ∧
        es.filterMap Event.call? = reads ++ query.toList.map .execute := by
  cases h with
  | invalid => exact ⟨[], [], none, List.nil_sublist _, .nil, rfl⟩
  | unresolved _ h =>
    obtain ⟨read, hsub, hread⟩ := h.calls
    exact ⟨read, _, none, hsub, hread, (List.append_nil _).symm⟩
  | refused _ h =>
    obtain ⟨read, hsub, hread⟩ := h.calls
    exact ⟨read, _, none, hsub, hread, (List.append_nil _).symm⟩
  | @failed _ _ sql _ h =>
    obtain ⟨read, hsub, hread⟩ := h.calls
    exact ⟨read, _, some sql, hsub, hread, List.filterMap_append⟩
  | @answered _ _ sql _ h =>
    obtain ⟨read, hsub, hread⟩ := h.calls
    exact ⟨read, _, some sql, hsub, hread, List.filterMap_append⟩

theorem invalid_iff (h : r.Goes table dialect es x) {e : QueryError}
    (he : r.validate table = .error e) : es = [] ∧ x = .error e := by
  cases h with
  | invalid h =>
    rw [he] at h
    cases h
    exact ⟨rfl, rfl⟩
  | unresolved hvalid => rw [he] at hvalid; cases hvalid
  | refused hvalid => rw [he] at hvalid; cases hvalid
  | failed hvalid => rw [he] at hvalid; cases hvalid
  | answered hvalid => rw [he] at hvalid; cases hvalid

theorem validate_of_toSql {d : Domains} {sql : String} (h : r.toSql table d dialect = .ok sql) :
    r.validate table = .ok () := by
  obtain ⟨q, hplan, -⟩ := bind_eq_ok_iff.mp h
  exact validate_eq_ok_iff.mpr (plan_eq_ok_iff.mp hplan).1

theorem executed_iff_of_resolves {d : Domains} {sql : String}
    (h : Resolves table .empty r.domainColumns es (.ok d))
    (hsql : r.toSql table d dialect = .ok sql) (answer : Except String (List Row)) (sql' : String) :
    .execute sql' ∈ (es ++ [Event.sent sql answer]).filterMap Event.call? ↔
      (foundDomains (es ++ [Event.sent sql answer])).map Prod.fst =
          r.domainColumns.map (·.field) ∧
        r.toSql table (.ofList (foundDomains (es ++ [Event.sent sql answer]))) dialect =
          .ok sql' := by
  obtain ⟨hfields, hd, -⟩ := h.of_ok
  have hcalls : (es ++ [Event.sent sql answer]).filterMap Event.call? =
      es.filterMap Event.call? ++ [.execute sql] := List.filterMap_append
  rw [hcalls, foundDomains_sent, List.mem_append, or_iff_right (h.not_executed sql'),
    List.mem_singleton, Domains.ofList, ← hd, hsql]
  constructor
  · intro heq
    cases heq
    exact ⟨hfields, rfl⟩
  · rintro ⟨-, heq⟩
    cases heq
    rfl

theorem executed_iff (h : r.Goes table dialect es x) (sql : String) :
    .execute sql ∈ es.filterMap Event.call? ↔
      (foundDomains es).map Prod.fst = r.domainColumns.map (·.field) ∧
        r.toSql table (.ofList (foundDomains es)) dialect = .ok sql := by
  cases h with
  | invalid he =>
    refine iff_of_false (by simp) ?_
    rintro ⟨-, hsql⟩
    rw [validate_of_toSql hsql] at he
    cases he
  | unresolved _ h =>
    refine iff_of_false (h.not_executed sql) ?_
    rintro ⟨hfields, -⟩
    have hlength := congrArg List.length hfields
    rw [List.length_map, List.length_map] at hlength
    exact absurd hlength (Nat.ne_of_lt h.of_error.1)
  | refused _ h hrefused =>
    refine iff_of_false (h.not_executed sql) ?_
    rintro ⟨-, hsql⟩
    rw [Domains.ofList, ← h.of_ok.2.1, hrefused] at hsql
    cases hsql
  | failed _ h hsql cause => exact executed_iff_of_resolves h hsql _ sql
  | answered _ h hsql rows => exact executed_iff_of_resolves h hsql _ sql

theorem answered_iff (h : r.Goes table dialect es x) (response : Response) :
    x = .ok response ↔ ∃ sql rows, .sent sql (.ok rows) ∈ es ∧ response.rows = rows ∧
      response = .build r rows (.ofList (foundDomains es)) := by
  cases h with
  | invalid => simp
  | unresolved _ h =>
    refine iff_of_false (by simp) ?_
    rintro ⟨sql, rows, hm, -, -⟩
    exact h.not_sent _ _ hm
  | refused _ h =>
    refine iff_of_false (by simp) ?_
    rintro ⟨sql, rows, hm, -⟩
    exact h.not_sent _ _ hm
  | failed _ h _ cause =>
    refine iff_of_false (by simp) ?_
    rintro ⟨sql, rows, hm, -⟩
    rcases List.mem_append.mp hm with hm | hm
    · exact h.not_sent _ _ hm
    · cases List.mem_singleton.mp hm
  | answered _ h _ rows =>
    rw [foundDomains_sent, Domains.ofList, ← h.of_ok.2.1]
    constructor
    · intro heq
      cases heq
      exact ⟨_, rows, List.mem_append_right _ (List.mem_singleton_self _), rfl, rfl⟩
    · rintro ⟨sql, rows', hm, -, rfl⟩
      rcases List.mem_append.mp hm with hm | hm
      · exact absurd hm (h.not_sent _ _)
      · cases List.mem_singleton.mp hm
        rfl

/-- A failed call is the last event, and the request ends with its error; every other error is the
caller's. -/
theorem failure (h : r.Goes table dialect es x) :
    (∃ before last e, es = before ++ [last] ∧ last.failure? table = some e ∧ x = .error e ∧
      ∀ ev ∈ before, ev.failure? table = none) ∨
    ((∀ ev ∈ es, ev.failure? table = none) ∧ ∀ e, x = .error e → e.isCallerError = true) := by
  cases h with
  | invalid h =>
    right
    refine ⟨by simp, ?_⟩
    rintro e ⟨⟩
    exact r.blamesCaller_validate table _ h
  | unresolved _ h =>
    obtain ⟨-, before, last, rfl, hlast, hnone⟩ := h.of_error
    exact .inl ⟨before, last, _, rfl, hlast, rfl, hnone⟩
  | refused _ h hsql =>
    right
    refine ⟨h.of_ok.2.2, ?_⟩
    rintro e ⟨⟩
    exact r.blamesCaller_toSql table _ dialect _ hsql
  | failed _ h _ cause => exact .inl ⟨_, _, _, rfl, rfl, rfl, h.of_ok.2.2⟩
  | @answered _ _ sql _ h _ rows =>
    right
    refine ⟨?_, by simp⟩
    intro ev hev
    rcases List.mem_append.mp hev with hev | hev
    · exact h.of_ok.2.2 ev hev
    · rw [List.mem_singleton.mp hev]
      rfl

theorem failed_iff (h : r.Goes table dialect es x) (relation query cause : String) :
    x = .error (.executionFailure relation query cause) ↔
      ∃ ev ∈ es, ev.failure? table = some (.executionFailure relation query cause) := by
  rcases h.failure with ⟨before, last, e, rfl, hlast, rfl, hnone⟩ | ⟨hnone, hcaller⟩
  · constructor
    · intro heq
      cases heq
      exact ⟨last, by simp, hlast⟩
    · rintro ⟨ev, hev, hfailure⟩
      rcases List.mem_append.mp hev with hev | hev
      · rw [hnone ev hev] at hfailure
        cases hfailure
      · rw [List.mem_singleton.mp hev, hlast] at hfailure
        cases hfailure
        rfl
  · constructor
    · intro heq
      exact absurd (hcaller _ heq) (by simp [QueryError.isCallerError])
    · rintro ⟨ev, hev, hfailure⟩
      rw [hnone ev hev] at hfailure
      cases hfailure

theorem halted (h : r.Goes table dialect es x) (before : List Event) (ev : Event)
    (after : List Event) (hes : es = before ++ ev :: after) (hev : ev.failure? table ≠ none) :
    after = [] := by
  rcases h.failure with ⟨start, last, e, hlast, -, -, hnone⟩ | ⟨hnone, -⟩
  · -- An event after the failed one would push that into the part where none has failed.
    rcases List.eq_nil_or_concat after with rfl | ⟨after, final, rfl⟩
    · rfl
    · rw [hlast, List.concat_eq_append, ← List.cons_append, ← List.append_assoc] at hes
      have hstart := (List.append_inj' hes rfl).1
      exact absurd (hnone ev (by simp [hstart])) hev
  · exact absurd (hnone ev (by simp [hes])) hev

theorem refused_not_executed (h : r.Goes table dialect es x) {e : QueryError} (hx : x = .error e)
    (he : e.isCallerError = true) (sql : String) : .execute sql ∉ es.filterMap Event.call? := by
  cases h with
  | invalid => simp
  | unresolved _ h => exact h.not_executed sql
  | refused _ h => exact h.not_executed sql
  | failed =>
    cases hx
    cases he
  | answered => cases hx

theorem protocol (h : r.Goes table dialect es x) : r.Protocol table dialect es x where
  calls := h.calls
  invalid _ he := h.invalid_iff he
  sent := h.executed_iff
  answered := h.answered_iff
  failed := h.failed_iff
  halted := h.halted
  refused _ hx he := h.refused_not_executed hx he

end Goes

/-- Whatever the cache and the source answer, a request for rows keeps to the protocol; so does
every run on a world, which makes the calls of its events and no others. -/
theorem getData_protocol (r : Request) (table : String) (dialect : Dialect) :
    (∀ es x, (r.getData table dialect).Plays es x → r.Protocol table dialect es x) ∧
    ∀ (σ : Type) (source : Source σ) (w : World σ),
      r.Protocol table dialect ((r.getData table dialect).transcript source w)
          ((r.getData table dialect).run source w).1 ∧
        ((r.getData table dialect).run source w).2.calls =
          (((r.getData table dialect).transcript source w).filterMap Event.call?).reverse ++
            w.calls := by
  have hplays (es : List Event) (x : Except QueryError Response)
      (h : (r.getData table dialect).Plays es x) : r.Protocol table dialect es x :=
    (goes_of_plays h).protocol
  refine ⟨hplays, ?_⟩
  intro σ source w
  exact ⟨hplays _ _ (Exchange.plays_transcript source _ w), Exchange.calls_run source _ w⟩

/-- Gold medals of the countries, by year and sport. -/
def goldByYearAndSport : Request where
  endRow := 10
  rowGroupCols := [⟨"c", "", "country", none, .text⟩]
  valueCols := [⟨"g", "", "gold", some .sum, .number⟩]
  pivotCols := [⟨"y", "", "year", none, .number⟩, ⟨"s", "", "sport", none, .text⟩]

def goldRows : List Row :=
  [[("country", .text "Norway"), ("gold", .ofNat 5), ("2008_Biathlon_gold", .ofNat 3),
      ("2008_Curling_gold", .ofNat 2)],
    [("country", .text "Kenya"), ("gold", .ofNat 0), ("2008_Biathlon_gold", .null),
      ("2008_Curling_gold", .null)]]

/-- A source that lists two sports and has one answer to all queries. -/
def medalSource (answer : Except String (List Row)) : Source Unit where
  execute _ s := (answer, s)
  distinct _ _ s := (.ok ["Curling", "Biathlon"], s)

/-- The years have been read a moment ago. -/
def yearsKept : World Unit :=
  ⟨(), some ⟨60, [(("podiums", "year"), (0, ["2008"]))]⟩, 5, []⟩

def goldSql : String :=
  "SELECT country, sum(gold) as gold, " ++
    "sum(CASE WHEN year = 2008 AND sport = 'Biathlon' THEN gold END) " ++
    "as \x602008_Biathlon_gold\x60, " ++
    "sum(CASE WHEN year = 2008 AND sport = 'Curling' THEN gold END) " ++
    "as \x602008_Curling_gold\x60 " ++
    "FROM podiums GROUP BY country LIMIT 0,10"

def podiumTable : Relation := ⟨"podiums", by decide⟩

def sportColumn : Ident := ⟨"sport", by decide⟩

/-- The years are in the cache, the sports are not. -/
def goldEvents (answer : Except String (List Row)) : List Event :=
  [.looked "podiums" "year" (some ["2008"]), .looked "podiums" "sport" none,
    .read podiumTable sportColumn (.ok ["Curling", "Biathlon"]),
    .stored "podiums" "sport" ["Biathlon", "Curling"], .sent goldSql answer]

theorem normalize_sports :
    Domains.normalize ["Curling", "Biathlon"] = ["Biathlon", "Curling"] := by
  have hsame : ∀ v, v ∈ ["Curling", "Biathlon"] ↔ v ∈ ["Biathlon", "Curling"] := by
    intro v
    simp only [List.mem_cons, List.not_mem_nil, or_false]
    exact or_comm
  exact (Domains.normalize_eq_iff.mpr hsame).trans (Domains.normalize_of_pairwise (by decide))

theorem transcript_goldByYearAndSport (answer : Except String (List Row)) :
    (goldByYearAndSport.getData "podiums" .mysql).transcript (medalSource answer) yearsKept =
      goldEvents answer := by
  have hsql : goldByYearAndSport.toSql "podiums"
      ⟨[("year", ["2008"]), ("sport", ["Biathlon", "Curling"])]⟩ .mysql = .ok goldSql := by
    decide +kernel
  have hsteps : (goldByYearAndSport.getData "podiums" .mysql).transcript (medalSource answer)
      yearsKept =
        .looked "podiums" "year" (some ["2008"]) :: .looked "podiums" "sport" none ::
          .read podiumTable sportColumn (.ok ["Curling", "Biathlon"]) ::
          .stored "podiums" "sport" (Domains.normalize ["Curling", "Biathlon"]) ::
          (goldByYearAndSport.fetch "podiums" .mysql ⟨[("year", ["2008"]),
            ("sport", Domains.normalize ["Curling", "Biathlon"])]⟩).transcript
              (medalSource answer)
              ((goldByYearAndSport.resolve "podiums").run (medalSource answer) yearsKept).2 := rfl
  rw [hsteps, normalize_sports, fetch, hsql]
  cases answer with
  | error cause => rfl
  | ok rows => rfl

/-- If the query is answered, its rows are those of the answer; if it fails, so does the request. -/
theorem getData_protocol_goldByYearAndSport :
    (∃ response, ((goldByYearAndSport.getData "podiums" .mysql).run
        (medalSource (.ok goldRows)) yearsKept).1 = .ok response ∧
      response.rows = goldRows ∧
      response.secondaryColumns = ["2008_Biathlon_gold", "2008_Curling_gold"]) ∧
    ((goldByYearAndSport.getData "podiums" .mysql).run
      (medalSource (.error "timeout")) yearsKept).1 =
        .error (.executionFailure "podiums" goldSql "timeout") ∧
    ∀ answer, ((goldByYearAndSport.getData "podiums" .mysql).run
      (medalSource answer) yearsKept).2.calls =
        [.execute goldSql, .distinct podiumTable sportColumn] := by
  have hruns := (getData_protocol goldByYearAndSport "podiums" .mysql).2 Unit
  refine ⟨?_, ?_, ?_⟩
  · obtain ⟨hprotocol, -⟩ := hruns (medalSource (.ok goldRows)) yearsKept
    rw [transcript_goldByYearAndSport] at hprotocol
    have hsent : .sent goldSql (.ok goldRows) ∈ goldEvents (.ok goldRows) := by simp [goldEvents]
    have hfound : foundDomains (goldEvents (.ok goldRows)) =
        [("year", ["2008"]), ("sport", Domains.normalize ["Curling", "Biathlon"])] := rfl
    refine ⟨_, (hprotocol.answered _).mpr ⟨goldSql, goldRows, hsent, rfl, rfl⟩, rfl, ?_⟩
    rw [hfound, normalize_sports]
    decide +kernel
  · obtain ⟨hprotocol, -⟩ := hruns (medalSource (.error "timeout")) yearsKept
    rw [transcript_goldByYearAndSport] at hprotocol
    refine (hprotocol.failed _ _ _).mpr ⟨.sent goldSql (.error "timeout"), ?_, rfl⟩
    simp [goldEvents]
  · intro answer
    obtain ⟨-, hcalls⟩ := hruns (medalSource answer) yearsKept
    rw [hcalls, transcript_goldByYearAndSport]
    rfl

end Request

end GridQuery
