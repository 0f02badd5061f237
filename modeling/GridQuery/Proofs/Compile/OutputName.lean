import GridQuery.Proofs.Compile.Aggregation
import GridQuery.Proofs.Compile.ReturnedNames

/-!
Output names on their way through a database, which takes what stands between identifier quotes as
it is and folds a bare name where the dialect says so.
-/

namespace GridQuery.Sql

variable {d : Dialect} {name : String}

namespace Dialect

/-- The name that a text stands for: what is between two identifier quotes, or a bare plain name
after folding. -/
def resolve? (d : Dialect) (text : String) : Option String :=
  match text.toList with
  | [] => none
  | c :: r =>
    if c = d.identifierQuote then
      match scanQuoted c r with
      | some (name, []) => some (String.ofList name)
      | _ => none
    else if isPlainName (c :: r) then some (d.foldName text)
    else none

theorem QuotesNames.not_namePart (hq : d.QuotesNames) : isNamePart d.identifierQuote = false := by
  rcases hq with h | h <;> rw [h] <;> decide

/-- A bare name is told from a quoted one by its first character. -/
theorem isPlainName_quote (hq : d.QuotesNames) (cs : List Char) :
    isPlainName (d.identifierQuote :: cs) = false := by
  have hpart := hq.not_namePart
  rw [isNamePart, Bool.or_eq_false_iff] at hpart
  rw [isPlainName, hpart.1, Bool.false_and]

theorem resolve?_bare (hq : d.QuotesNames) (hname : isPlainName name.toList = true) :
    d.resolve? name = some (d.foldName name) := by
  unfold resolve?
  cases hcs : name.toList with
  | nil =>
    rw [hcs] at hname
    cases hname
  | cons c r =>
    rw [hcs] at hname
    have hc : c ≠ d.identifierQuote := by
      rintro rfl
      rw [isPlainName_quote hq] at hname
      cases hname
    simp only [if_neg hc, hname, if_true]

theorem resolve?_quoted (hname : d.identifierQuote ∉ name.toList) :
    d.resolve? (String.ofList (d.identifierQuote :: name.toList ++ [d.identifierQuote])) =
      some name := by
  unfold resolve?
  rw [String.toList_ofList, List.cons_append]
  simp only [if_true, scanQuoted_append hname, String.ofList_toList]

/-- Quotes stand around every name that folding would change or that is no plain one. -/
theorem resolve?_outputName (hq : d.QuotesNames) (hname : d.identifierQuote ∉ name.toList) :
    d.resolve? (d.outputName name) = some name := by
  unfold outputName
  split
  · next hbare =>
    rw [resolve?_bare hq (Bool.and_eq_true_iff.mp hbare).1, foldName_of_isBare hbare]
  · exact resolve?_quoted hname

theorem outputName_injective (hq : d.QuotesNames) : Function.Injective d.outputName := by
  have hbare {s t : String} (hs : d.isBare s = true) :
      s ≠ String.ofList (d.identifierQuote :: t.toList ++ [d.identifierQuote]) := by
    rintro rfl
    have hplain := (Bool.and_eq_true_iff.mp hs).1
    rw [String.toList_ofList, List.cons_append, isPlainName_quote hq] at hplain
    cases hplain
  intro s t h
  unfold outputName at h
  split at h <;> split at h
  · exact h
  · next hs _ => exact absurd h (hbare hs)
  · next ht => exact absurd h.symm (hbare ht)
  · simpa using h

end Dialect

theorem isAliasName_of_isPlainName {cs : List Char} (h : isPlainName cs = true) :
    isAliasName cs = true := by
  have hne : cs ≠ [] := by
    rintro rfl
    cases h
  have hsafe : ∀ c ∈ cs, isUnsafeInAlias c = false := by
    intro c hc
    have hpart := isNamePart_of_mem h c hc
    have hnot (u : Char) (hu : isNamePart u = false) : c ≠ u := by
      rintro rfl
      rw [hpart] at hu
      cases hu
    have hcontrol : Text.isControl c = false := by
      simp only [isNamePart, isNameStart, Bool.or_eq_true, Bool.and_eq_true, decide_eq_true_eq,
        beq_iff_eq, Char.le_def, UInt32.le_iff_toNat_le] at hpart
      simp only [Text.isControl, Bool.or_eq_false_iff, Bool.and_eq_false_iff,
        decide_eq_false_iff_not]
      rcases hpart with ((hpart | hpart) | rfl) | hpart
      · change 65 ≤ c.toNat ∧ c.toNat ≤ 90 at hpart
        omega
      · change 97 ≤ c.toNat ∧ c.toNat ≤ 122 at hpart
        omega
      · decide
      · change 48 ≤ c.toNat ∧ c.toNat ≤ 57 at hpart
        omega
    simp [isUnsafeInAlias, hnot '"' (by decide), hnot '\x60' (by decide), hnot '\\' (by decide),
      hcontrol]
  rw [isAliasName, Bool.and_eq_true, Bool.not_eq_true', Bool.not_eq_true', List.any_eq_false,
    List.isEmpty_eq_false_iff]
  exact ⟨hne, fun c hc => by simp [hsafe c hc]⟩

theorem Alias.succeeds_ofText {s : String} :
    Succeeds (Alias.ofText s) ↔ isAliasName s.toList = true := by
  unfold Alias.ofText
  split <;> simp_all

namespace SelectItem

/-- A computed item ends in its name, behind the word for it. -/
theorem tokens_of_isComputed {i : SelectItem} (h : i.isComputed = true) :
    ∃ ts t, i.tokens d = ts ++ [.word "as", t] ∧ d.columnName? t = i.outputName? := by
  cases i with
  | wildcard => cases h
  | column c => cases h
  | aggregate f c output =>
    exact ⟨[_, _, _, _], _, rfl, Dialect.columnName?_nameToken d output.name⟩
  | pivoted f c conditions output =>
    refine ⟨[f.token, .symbol "(", .word "CASE", .word "WHEN"] ++
      [Token.word "AND"].intercalate (conditions.map conditionTokens) ++
      [.word "THEN", .word c.name, .word "END", .symbol ")"], d.nameToken output.name, ?_,
      Dialect.columnName?_nameToken d output.name⟩
    simp [tokens]

theorem render_of_isComputed (hq : d.QuotesNames) {i : SelectItem} (h : i.isComputed = true) :
    ∃ opening text, i.render d = opening ++ " as " ++ text ∧ d.resolve? text = i.outputName? := by
  cases i with
  | wildcard => cases h
  | column c => cases h
  | aggregate f c output =>
    refine ⟨f.name ++ "(" ++ c.name ++ ")", _, ?_,
      Dialect.resolve?_outputName hq (Ident.quote_notMem hq output)⟩
    rw [← String.toList_inj]
    simp [render]
  | pivoted f c conditions output =>
    refine ⟨f.name ++ "(CASE WHEN " ++ " AND ".intercalate (conditions.map (renderCondition d)) ++
      " THEN " ++ c.name ++ " END)", _, ?_,
      Dialect.resolve?_outputName hq (Alias.quote_notMem hq output)⟩
    rw [← String.toList_inj]
    simp [render]

end SelectItem

end GridQuery.Sql

namespace GridQuery

open GridQuery.Sql

namespace Request

variable {r : Request} {table : String} {domains : Domains} {q : Select}

theorem lex_item {d : Dialect} (hq : d.QuotesNames) (h : r.plan table domains = .ok q)
    {i : SelectItem} (hi : i ∈ q.items) : lex d (i.render d).toList = some (i.tokens d) := by
  have hread := SelectItem.reads hq i (fun l hl => isWritten_plan h l
    (List.mem_append_left _ (List.mem_flatMap.mpr ⟨i, hi, hl⟩))) [] (stops_nil _)
  simpa [lex_nil] using hread

/-- A sort key on an output goes back to a value column, whose aggregate is among the items. -/
theorem exists_aggregate_of_orderBy (h : r.plan table domains = .ok q)
    {key : SortKey × Direction} (hkey : key ∈ q.orderBy) {o : Ident} (ho : key.1 = .output o) :
    ∃ f column, .aggregate f column o ∈ q.items := by
  have hplans := (plan_eq_ok_iff.mp h).2
  cases hgroup : r.groupColumn? with
  | none =>
    obtain ⟨-, -, horder⟩ := hplans.of_leaf ((groupColumn?_eq_none_iff r).mp hgroup)
    obtain ⟨s, -, column, -, rfl⟩ := exists_of_mem_forall₂ (forall₂_leafOrder horder) hkey
    cases ho
  | some c =>
    obtain ⟨group, -, -, hitems, horder⟩ := hplans.of_group hgroup
    obtain ⟨s, -, hsorts, -⟩ := exists_of_mem_forall₂ (forall₂_groupOrder horder) hkey
    rw [ho] at hsorts
    cases hsorts with
    | value _ hfirst hname =>
      obtain ⟨f, column, output, hout, hmem⟩ :=
        exists_aggregate_of_mem hitems (List.mem_of_find?_eq_some hfirst)
      obtain rfl := Ident.eq_of_name (hout.trans hname.symm)
      exact ⟨f, column, hmem⟩

/-- Names come back from the database as they were given out, in the items as in the sort keys. -/
theorem outputName_resolves {d : Dialect} (hq : d.QuotesNames) :
    (∀ name, Succeeds (Alias.ofText name) → d.resolve? (d.outputName name) = some name) ∧
    (∀ name, Succeeds (Ident.ofText name) → Succeeds (Alias.ofText name)) ∧
    Function.Injective d.outputName ∧
    (∀ i : SelectItem, i.isComputed = true →
      ∃ opening text, i.render d = opening ++ " as " ++ text ∧ d.resolve? text = i.outputName?) ∧
    ∀ (r : Request) (table : String) (domains : Domains) (q : Select),
      r.plan table domains = .ok q →
        (∀ i ∈ q.items, i.isComputed = true →
          ∃ ts t, lex d (i.render d).toList = some (ts ++ [.word "as", t]) ∧
            d.columnName? t = i.outputName?) ∧
        ∀ key ∈ q.orderBy, ∀ o, key.1 = .output o →
          ∃ f column, .aggregate f column o ∈ q.items ∧
            d.resolve? (key.1.render d) = (SelectItem.aggregate f column o).outputName? := by
  refine ⟨?_, ?_, d.outputName_injective hq, fun i hi => i.render_of_isComputed hq hi, ?_⟩
  · rintro name ⟨a, ha⟩
    obtain rfl := Alias.ofText_eq_ok_iff.mp ha
    exact Dialect.resolve?_outputName hq (a.quote_notMem hq)
  · intro name hname
    rw [Ident.succeeds_ofText] at hname
    exact Alias.succeeds_ofText.mpr (isAliasName_of_isPlainName hname)
  · intro r table domains q h
    constructor
    · intro i hi hcomputed
      obtain ⟨ts, t, htokens, hname⟩ := i.tokens_of_isComputed hcomputed
      exact ⟨ts, t, htokens ▸ lex_item hq h hi, hname⟩
    · intro key hkey o ho
      obtain ⟨f, column, hmem⟩ := exists_aggregate_of_orderBy h hkey ho
      refine ⟨f, column, hmem, ?_⟩
      rw [ho]
      exact Dialect.resolve?_outputName hq (o.quote_notMem hq)

/-- Sales of the cities by year, sorted by an output with a capital letter. -/
def citiesByTotal : Request :=
  { citySales with sorting := [⟨"v", .desc⟩] }

theorem outputName_resolves_citiesByTotal :
    Dialect.postgres.QuotesNames ∧
      Dialect.postgres.outputName "2024_Total" = "\"2024_Total\"" ∧
      Dialect.postgres.resolve? "\"2024_Total\"" = some "2024_Total" ∧
      ∃ q o, citiesByTotal.plan "orders" (.ofList [("year", ["2024"])]) = .ok q ∧
        q.orderBy = [(.output o, .desc)] ∧ (SortKey.output o).render .postgres = "\"Total\"" ∧
        ∃ f column, .aggregate f column o ∈ q.items ∧
          Dialect.postgres.resolve? "\"Total\"" = some "Total" := by
  have hq : Dialect.postgres.QuotesNames := by decide
  have horder : (citiesByTotal.plan "orders" (.ofList [("year", ["2024"])])).toOption.map
      (·.orderBy) = some [(.output ⟨"Total", by decide⟩, .desc)] := by
    decide +kernel
  obtain ⟨q, hplan, horder⟩ := exists_ok_of_map horder
  obtain ⟨hnames, -, -, -, hplans⟩ := outputName_resolves hq
  obtain ⟨f, column, hmem, hname⟩ := (hplans _ _ _ q hplan).2 _ (horder ▸ List.mem_cons_self) _ rfl
  have hquoted : Dialect.postgres.outputName "2024_Total" = "\"2024_Total\"" := by decide
  have hresolved := hnames "2024_Total" (succeeds_of_isOk (by decide))
  rw [hquoted] at hresolved
  exact ⟨hq, hquoted, hresolved, q, _, hplan, horder, by decide, f, column, hmem, hname⟩

end Request

end GridQuery
