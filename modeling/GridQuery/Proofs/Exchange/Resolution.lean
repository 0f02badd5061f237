import GridQuery.Proofs.Exchange.Interleaving
import GridQuery.Proofs.Exchange.Protocol
import GridQuery.Proofs.Pivot.Entries
import GridQuery.Proofs.Pivot.Normal

/-!
The places where a call that resolves columns can stand, the moves between them, and what the events
so far say about each place.
-/

namespace GridQuery

open GridQuery.Sql

/-- Where a call that resolves columns stands. -/
inductive Resolution where
  | next (acc : Domains) (rest : List Column)
  | asking (acc : Domains) (relation : Relation) (column : Ident) (rest : List Column)
  | storing (acc : Domains) (field : String) (values : List String) (rest : List Column)
  | refused (e : QueryError)

/-- The name that a column of a table cannot be asked for with. -/
def UnsafeName (table column name : String) : Prop :=
  (name = table ∧ isRelationName table.toList = false) ∨
    (name = column ∧ isRelationName table.toList = true ∧ isPlainName column.toList = false)

namespace Resolution

/-- What is still to do. -/
def exchange (table : String) : Resolution → Exchange (Except QueryError Domains)
  | next acc rest => resolveDomains table acc rest
  | asking acc relation column rest => .distinct relation column fun
    | .error cause =>
      .done (.error (.executionFailure table
        s!"SELECT DISTINCT {column.name} FROM {relation.name}" cause))
    | .ok values =>
      .store table column.name (Domains.normalize values)
        (resolveDomains table (acc.insert column.name (Domains.normalize values)) rest)
  | storing acc field values rest =>
    .store table field values (resolveDomains table (acc.insert field values) rest)
  | refused e => .done (.error e)

inductive Moves (table : String) : Resolution → Event → Resolution → Prop where
  | held (acc : Domains) (c : Column) (rest : List Column) (values : List String) :
    Moves table (next acc (c :: rest)) (.looked table c.field (some values))
      (next (acc.insert c.field values) rest)
  | missed (acc : Domains) (c : Column) (rest : List Column) {relation : Relation} {column : Ident}
    (hrelation : relation.name = table) (hcolumn : column.name = c.field) :
    Moves table (next acc (c :: rest)) (.looked table c.field none)
      (asking acc relation column rest)
  | misnamed (acc : Domains) (c : Column) (rest : List Column) {name : String}
    (hname : UnsafeName table c.field name) :
    Moves table (next acc (c :: rest)) (.looked table c.field none)
      (refused (.unsafeIdentifier name))
  | answered (acc : Domains) (relation : Relation) (column : Ident) (rest : List Column)
    (values : List String) :
    Moves table (asking acc relation column rest) (.read relation column (.ok values))
      (storing acc column.name (Domains.normalize values) rest)
  | failed (acc : Domains) (relation : Relation) (column : Ident) (rest : List Column)
    (cause : String) :
    Moves table (asking acc relation column rest) (.read relation column (.error cause))
      (refused (.executionFailure table
        s!"SELECT DISTINCT {column.name} FROM {relation.name}" cause))
  | stored (acc : Domains) (field : String) (values : List String) (rest : List Column) :
    Moves table (storing acc field values rest) (.stored table field values)
      (next (acc.insert field values) rest)

variable {table : String} {columns : List Column} {p : Resolution} {ev : Event}
  {y : Exchange (Except QueryError Domains)} {es : List Event} {values : List String}

theorem exists_names_or_misnamed (table column : String) :
    (∃ (relation : Relation) (c : Ident), relation.name = table ∧ c.name = column) ∨
      ∃ name, UnsafeName table column name := by
  by_cases hrelation : isRelationName table.toList = true
  · by_cases hcolumn : isPlainName column.toList = true
    · exact .inl ⟨⟨table, hrelation⟩, ⟨column, hcolumn⟩, rfl, rfl⟩
    · exact .inr ⟨column, .inr ⟨rfl, hrelation, Bool.eq_false_iff.mpr hcolumn⟩⟩
  · exact .inr ⟨table, .inl ⟨rfl, Bool.eq_false_iff.mpr hrelation⟩⟩

theorem exchange_next_cons (acc : Domains) {c : Column} (rest : List Column) {relation : Relation}
    {column : Ident} (hrelation : relation.name = table) (hcolumn : column.name = c.field) :
    (next acc (c :: rest)).exchange table = .lookup table c.field fun
      | some values => (next (acc.insert c.field values) rest).exchange table
      | none => (asking acc relation column rest).exchange table := by
  simp only [exchange, resolveDomains, resolveDomain, Exchange.bind, readDomain,
    Relation.ofText_eq_ok_iff.mpr hrelation, Ident.ofText_eq_ok_iff.mpr hcolumn]
  congr 1
  funext answer
  cases answer with
  | some values => rfl
  | none =>
    simp only [Exchange.bind, hcolumn]
    congr 1
    funext answer
    cases answer with
    | error cause => rfl
    | ok values => rfl

theorem exchange_next_cons_misnamed (acc : Domains) {c : Column} (rest : List Column)
    {name : String} (hname : UnsafeName table c.field name) :
    (next acc (c :: rest)).exchange table = .lookup table c.field fun
      | some values => (next (acc.insert c.field values) rest).exchange table
      | none => (refused (.unsafeIdentifier name)).exchange table := by
  have hread : readDomain table c.field = .done (.error (.unsafeIdentifier name)) := by
    rcases hname with ⟨rfl, hrelation⟩ | ⟨rfl, hrelation, hcolumn⟩
    · simp [readDomain, Relation.ofText, hrelation]
    · simp [readDomain, Relation.ofText, Ident.ofText, hrelation, hcolumn]
  simp only [exchange, resolveDomains, resolveDomain, Exchange.bind, hread]
  congr 1
  funext answer
  cases answer with
  | some values => rfl
  | none => rfl

/-- A call steps from one place to the next and nowhere else. -/
theorem step_iff :
    (p.exchange table).Step ev y ↔ ∃ p', Moves table p ev p' ∧ y = p'.exchange table := by
  constructor
  · intro h
    cases p with
    | next acc rest =>
      cases rest with
      | nil => cases h
      | cons c rest =>
        rcases exists_names_or_misnamed table c.field with
          ⟨relation, column, hrelation, hcolumn⟩ | ⟨name, hname⟩
        · rw [exchange_next_cons acc rest hrelation hcolumn] at h
          cases h with
          | looked answer =>
            cases answer with
            | some values => exact ⟨_, .held acc c rest values, rfl⟩
            | none => exact ⟨_, .missed acc c rest hrelation hcolumn, rfl⟩
        · rw [exchange_next_cons_misnamed acc rest hname] at h
          cases h with
          | looked answer =>
            cases answer with
            | some values => exact ⟨_, .held acc c rest values, rfl⟩
            | none => exact ⟨_, .misnamed acc c rest hname, rfl⟩
    | asking acc relation column rest =>
      cases h with
      | read answer =>
        cases answer with
        | error cause => exact ⟨_, .failed acc relation column rest cause, rfl⟩
        | ok values => exact ⟨_, .answered acc relation column rest values, rfl⟩
    | storing acc field values rest =>
      cases h with
      | stored => exact ⟨_, .stored acc field values rest, rfl⟩
    | refused e => cases h
  · rintro ⟨p', hmove, rfl⟩
    cases hmove with
    | held acc c rest values => exact .looked (some values)
    | missed acc c rest hrelation hcolumn =>
      rw [exchange_next_cons acc rest hrelation hcolumn]
      exact .looked none
    | misnamed acc c rest hname =>
      rw [exchange_next_cons_misnamed acc rest hname]
      exact .looked none
    | answered acc relation column rest values => exact .read (.ok values)
    | failed acc relation column rest cause => exact .read (.error cause)
    | stored acc field values rest => exact .stored

/-- The columns before the rest have been found, and their domains are these. -/
structure Found (columns rest : List Column) (es : List Event) (acc : Domains) : Prop where
  fields : (foundDomains es).map Prod.fst ++ rest.map (·.field) = columns.map (·.field)
  acc : acc = .ofList (foundDomains es)

def Fits (table : String) (columns : List Column) (es : List Event) : Resolution → Prop
  | next acc rest => Found columns rest es acc
  | asking acc relation column rest =>
    relation.name = table ∧ ∃ c, column.name = c.field ∧ Found columns (c :: rest) es acc
  | storing acc field values rest =>
    ∃ before relation column answer c,
      es = before ++ [.read relation column (.ok answer)] ∧ relation.name = table ∧
        column.name = field ∧ c.field = field ∧ values = Domains.normalize answer ∧
          Found columns (c :: rest) before acc
  | refused _ => True

theorem foundDomains_concat (es : List Event) (ev : Event) :
    foundDomains (es ++ [ev]) = foundDomains es ++ ev.domain?.toList := by
  rw [foundDomains, List.filterMap_append, foundDomains]
  cases hev : ev.domain? with
  | none => simp [hev]
  | some e => simp [hev]

theorem Found.insert {c : Column} {rest : List Column} {acc : Domains}
    (h : Found columns (c :: rest) es acc) (hev : ev.domain? = some (c.field, values)) :
    Found columns rest (es ++ [ev]) (acc.insert c.field values) where
  fields := by
    rw [foundDomains_concat, hev, ← h.fields]
    simp
  acc := by
    rw [foundDomains_concat, hev, h.acc, Option.toList_some, Domains.ofList_concat]

theorem Found.keep {rest : List Column} {acc : Domains} (h : Found columns rest es acc)
    (hev : ev.domain? = none) : Found columns rest (es ++ [ev]) acc where
  fields := by
    rw [foundDomains_concat, hev, ← h.fields]
    simp
  acc := by
    rw [foundDomains_concat, hev, h.acc]
    simp

theorem Moves.fits {p' : Resolution} (hmove : Moves table p ev p') (h : p.Fits table columns es) :
    p'.Fits table columns (es ++ [ev]) := by
  cases hmove with
  | held acc c rest values => exact Found.insert h rfl
  | missed acc c rest hrelation hcolumn => exact ⟨hrelation, c, hcolumn, Found.keep h rfl⟩
  | misnamed => trivial
  | answered acc relation column rest answer =>
    obtain ⟨hrelation, c, hcolumn, hfound⟩ := h
    exact ⟨es, relation, column, answer, c, rfl, hrelation, rfl, hcolumn.symm, rfl, hfound⟩
  | failed => trivial
  | stored acc field values rest =>
    obtain ⟨before, relation, column, answer, c, rfl, -, hcolumn, hfield, rfl, hfound⟩ := h
    have hinsert : Found columns rest (before ++ [.read relation column (.ok answer)])
        (acc.insert c.field (Domains.normalize answer)) :=
      hfound.insert (by rw [hfield, ← hcolumn]; rfl)
    exact hfield ▸ hinsert.keep rfl

theorem exists_fits (h : (resolveDomains table .empty columns).Reaches es y) :
    ∃ p : Resolution, y = p.exchange table ∧ p.Fits table columns es := by
  induction h with
  | refl => exact ⟨next .empty columns, rfl, ⟨rfl, rfl⟩⟩
  | tail _ hstep ih =>
    obtain ⟨p, rfl, hfits⟩ := ih
    obtain ⟨p', hmove, rfl⟩ := step_iff.mp hstep
    exact ⟨p', rfl, hmove.fits hfits⟩

/-- What a call stores, it has just read under that table and column. -/
theorem read_before_stored (h : (resolveDomains table .empty columns).Reaches es y)
    {t field : String} {before after : List Event}
    (hes : es = before ++ .stored t field values :: after) :
    ∃ front relation column answer, before = front ++ [.read relation column (.ok answer)] ∧
      relation.name = t ∧ column.name = field ∧ values = Domains.normalize answer := by
  obtain ⟨z, z', hreaches, hstep⟩ := h.split hes
  obtain ⟨p, rfl, hfits⟩ := exists_fits hreaches
  obtain ⟨p', hmove, -⟩ := step_iff.mp hstep
  cases hmove with
  | stored acc field values rest =>
    obtain ⟨front, relation, column, answer, -, hbefore, hrelation, hcolumn, -, hvalues, -⟩ := hfits
    exact ⟨front, relation, column, answer, hbefore, hrelation, hcolumn, hvalues⟩

/-- A domain that a call has found came from the cache or from the source, for its own table. -/
theorem looked_or_read_of_found (h : (resolveDomains table .empty columns).Reaches es y)
    {column : String} (hfound : (column, values) ∈ foundDomains es) :
    .looked table column (some values) ∈ es ∨
      ∃ relation c answer, .read relation c (.ok answer) ∈ es ∧ relation.name = table ∧
        c.name = column ∧ values = Domains.normalize answer := by
  obtain ⟨ev, hev, hdomain⟩ := List.mem_filterMap.mp hfound
  obtain ⟨before, after, rfl⟩ := List.append_of_mem hev
  obtain ⟨z, z', hreaches, hstep⟩ := h.split rfl
  obtain ⟨p, rfl, hfits⟩ := exists_fits hreaches
  obtain ⟨p', hmove, -⟩ := step_iff.mp hstep
  cases hmove with
  | held acc c rest values =>
    cases hdomain
    exact .inl hev
  | missed => cases hdomain
  | misnamed => cases hdomain
  | answered acc relation c rest answer =>
    cases hdomain
    exact .inr ⟨relation, c, answer, hev, hfits.1, rfl, rfl⟩
  | failed => cases hdomain
  | stored => cases hdomain

/-- A call that has succeeded has found a domain for each column and answers with these. -/
theorem of_reaches_ok {d : Domains}
    (h : (resolveDomains table .empty columns).Reaches es (.done (.ok d))) :
    (foundDomains es).map Prod.fst = columns.map (·.field) ∧ d = .ofList (foundDomains es) := by
  obtain ⟨p, hp, hfits⟩ := exists_fits h
  cases p with
  | next acc rest =>
    cases rest with
    | nil =>
      cases hp
      exact ⟨by simpa using hfits.fields, hfits.acc⟩
    | cons c rest => cases hp
  | asking => cases hp
  | storing => cases hp
  | refused e => cases hp

end Resolution

end GridQuery
