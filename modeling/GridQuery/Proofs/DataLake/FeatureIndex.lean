import GridQuery.Proofs.DataLake.Generations
import GridQuery.Proofs.Pivot.Entries
import Mathlib.Algebra.GroupWithZero.Nat

/-!
The features of the data lake under their keys: which rows a key is answered with after a run, and
in which order.
-/

namespace GridQuery

namespace OrderedMap

variable {κ α β : Type} [BEq κ]

theorem get?_map (f : α → β) (k : κ) (m : List (κ × α)) :
    get? k (m.map fun (k, v) => (k, f v)) = (get? k m).map f := by
  induction m with
  | nil => rfl
  | cons e r ih =>
    rw [List.map_cons, get?, get?, ih]
    split
    · rfl
    · rfl

/-- An item that is added to the list under a key is added to what all lists hold. -/
theorem perm_flatMap_put [LawfulBEq κ] (k : κ) (a : α) (m : List (κ × List α)) :
    ((put k ((get? k m).getD [] ++ [a]) m).flatMap Prod.snd).Perm (a :: m.flatMap Prod.snd) := by
  induction m with
  | nil => exact .refl _
  | cons e r ih =>
    rw [put, get?]
    split
    · rw [Option.getD_some, List.flatMap_cons, List.flatMap_cons, List.append_assoc]
      exact List.perm_middle
    · rw [List.flatMap_cons, List.flatMap_cons]
      exact (ih.append_left _).trans List.perm_middle

end OrderedMap

/-- The value has a text that can serve as a key. -/
inductive KeyText : Json → String → Prop where
  | text (s : String) : KeyText (.text s) s
  | number (n : JsonNumber) : KeyText (.number n) n.text
  | yes : KeyText (.bool true) "true"
  | no : KeyText (.bool false) "false"

theorem keyText?_eq_some_iff {v : Json} {k : String} : keyText? v = some k ↔ KeyText v k := by
  constructor
  · intro h
    cases v with
    | text s =>
      cases h
      exact .text _
    | number n =>
      cases h
      exact .number _
    | bool b =>
      cases b with
      | true =>
        cases h
        exact .yes
      | false =>
        cases h
        exact .no
    | null => cases h
    | array items => cases h
    | object members => cases h
  · intro h
    cases h with
    | text s => rfl
    | number n => rfl
    | yes => rfl
    | no => rfl

namespace Row

/-- The row has this key in the column. -/
def HasKey (r : Row) (column k : String) : Prop :=
  ∃ v, r.get? column = some v ∧ KeyText v k

/-- The row has a key in the column. -/
def Keyed (r : Row) (column : String) : Prop :=
  ∃ k, r.HasKey column k

end Row

namespace Feature

variable {column k : String} {r : Row} {f : Feature} {fs : List Feature}

theorem ofRow?_eq_some_iff :
    ofRow? column r = some f ↔ r.HasKey column f.key ∧ f.fields = r := by
  simp only [ofRow?, Option.bind_eq_some_iff, Option.map_eq_some_iff, keyText?_eq_some_iff]
  constructor
  · intro h
    obtain ⟨v, hv, key, hkey, rfl⟩ := h
    exact ⟨⟨v, hv, hkey⟩, rfl⟩
  · intro h
    obtain ⟨⟨v, hv, hkey⟩, rfl⟩ := h
    exact ⟨v, hv, f.key, hkey, rfl⟩

theorem hasKey_iff : r.HasKey column k ↔ ofRow? column r = some ⟨k, r⟩ :=
  ⟨fun h => ofRow?_eq_some_iff.mpr ⟨h, rfl⟩, fun h => (ofRow?_eq_some_iff.mp h).1⟩

theorem keyed_iff : r.Keyed column ↔ (ofRow? column r).isSome = true := by
  rw [Option.isSome_iff_exists]
  constructor
  · intro h
    obtain ⟨k, hk⟩ := h
    exact ⟨_, hasKey_iff.mp hk⟩
  · intro h
    obtain ⟨f, hf⟩ := h
    exact ⟨f.key, (ofRow?_eq_some_iff.mp hf).1⟩

end Feature

namespace Row

instance (r : Row) (column k : String) : Decidable (r.HasKey column k) :=
  decidable_of_iff ((Feature.ofRow? column r).map Feature.key = some k) <| by
    rw [Feature.hasKey_iff, Option.map_eq_some_iff]
    constructor
    · intro h
      obtain ⟨f, hf, rfl⟩ := h
      rw [hf]
      obtain ⟨-, rfl⟩ := Feature.ofRow?_eq_some_iff.mp hf
      rfl
    · intro h
      exact ⟨_, h, rfl⟩

instance (r : Row) (column : String) : Decidable (r.Keyed column) :=
  decidable_of_iff _ Feature.keyed_iff.symm

end Row

namespace Feature

variable {column k : String} {f : Feature} {fs : List Feature} {rows : List Row}

/-- The features with a key are the rows with it. -/
theorem filter_key (column k : String) (rows : List Row) :
    (rows.filterMap (ofRow? column)).filter (·.key = k) =
      (rows.filter (·.HasKey column k)).map (Feature.mk k) := by
  induction rows with
  | nil => rfl
  | cons r rest ih =>
    cases hr : ofRow? column r with
    | none =>
      have hnot : ¬ r.HasKey column k := by
        intro h
        rw [hasKey_iff, hr] at h
        cases h
      rw [List.filterMap_cons_none hr, ih, List.filter_cons_of_neg (by simpa using hnot)]
    | some f =>
      obtain ⟨hkey, rfl⟩ := ofRow?_eq_some_iff.mp hr
      rw [List.filterMap_cons_some hr]
      by_cases h : f.key = k
      · subst h
        rw [List.filter_cons_of_pos (by simp), List.filter_cons_of_pos (by simpa using hkey), ih,
          List.map_cons]
      · have hnot : ¬ f.fields.HasKey column k := by
          intro hother
          rw [hasKey_iff, hr, Option.some_inj] at hother
          exact h (congrArg Feature.key hother)
        rw [List.filter_cons_of_neg (by simpa using h),
          List.filter_cons_of_neg (by simpa using hnot), ih]

theorem group_concat (fs : List Feature) (f : Feature) :
    group (fs ++ [f]) =
      OrderedMap.put f.key ((OrderedMap.get? f.key (group fs)).getD [] ++ [f]) (group fs) := by
  rw [group, List.foldl_append]
  rfl

theorem get?_group (k : String) (fs : List Feature) :
    (OrderedMap.get? k (group fs)).getD [] = fs.filter (·.key = k) := by
  induction fs using List.reverseRecOn with
  | nil => rfl
  | append_singleton r f ih =>
    rw [group_concat, List.filter_append]
    by_cases h : f.key = k
    · subst h
      rw [OrderedMap.get?_put_self, Option.getD_some, ih, List.filter_singleton]
      simp
    · rw [OrderedMap.get?_put_of_ne h, ih, List.filter_singleton]
      simp [h]

theorem perm_group (fs : List Feature) : ((group fs).flatMap Prod.snd).Perm fs := by
  induction fs using List.reverseRecOn with
  | nil => exact .refl _
  | append_singleton r f ih =>
    rw [group_concat]
    exact (OrderedMap.perm_flatMap_put f.key f (group r)).trans
      ((ih.cons f).trans (List.perm_append_singleton f r).symm)

end Feature

/-- What an index of features is for the rows that it was made of. -/
structure Indexed (column : String) (rows : List Row) (index : List (String × List Feature)) :
    Prop where
  distinct : (index.map Prod.fst).Nodup
  keys : ∀ k, k ∈ index.map Prod.fst ↔ ∃ r ∈ rows, r.HasKey column k
  listed : ∀ k, (OrderedMap.get? k index).getD [] =
    (rows.filter (·.HasKey column k)).reverse.map (Feature.mk k)
  total : (index.map (·.2.length)).sum = rows.countP (·.Keyed column)

theorem Feature.indexed (column : String) (rows : List Row) :
    Indexed column rows (index (rows.filterMap (ofRow? column))) := by
  have hkeys : (index (rows.filterMap (ofRow? column))).map Prod.fst =
      (group (rows.filterMap (ofRow? column))).map Prod.fst := by
    rw [index, List.map_map]
    rfl
  refine ⟨?distinct, ?keys, ?listed, ?total⟩
  case distinct =>
    rw [hkeys]
    exact OrderedMap.nodup_keys_foldl _
  case keys =>
    intro k
    rw [hkeys, group, OrderedMap.mem_keys_foldl]
    constructor
    · intro h
      obtain ⟨f, hf, rfl⟩ := h
      obtain ⟨r, hr, hof⟩ := List.mem_filterMap.mp hf
      exact ⟨r, hr, (ofRow?_eq_some_iff.mp hof).1⟩
    · intro h
      obtain ⟨r, hr, hkey⟩ := h
      exact ⟨⟨k, r⟩, List.mem_filterMap.mpr ⟨r, hr, hasKey_iff.mp hkey⟩, rfl⟩
  case listed =>
    intro k
    rw [List.map_reverse, ← filter_key, ← get?_group, index, OrderedMap.get?_map]
    cases OrderedMap.get? k (group (rows.filterMap (ofRow? column))) with
    | none => rfl
    | some fs => rfl
  case total =>
    have hlengths : (index (rows.filterMap (ofRow? column))).map (·.2.length) =
        (group (rows.filterMap (ofRow? column))).map (·.2.length) := by
      rw [index, List.map_map]
      apply List.map_congr_left
      intro e _
      exact List.length_reverse
    have hgroup := (perm_group (rows.filterMap (ofRow? column))).length_eq
    rw [List.length_flatMap, List.length_filterMap_eq_countP] at hgroup
    rw [hlengths, hgroup]
    apply List.countP_congr
    intro r _
    rw [decide_eq_true_iff, keyed_iff]

/-- The two kinds of features. -/
inductive FeatureKind where
  | input
  | output
deriving DecidableEq, Repr

namespace FeatureKind

def job : FeatureKind → Job
  | input => .inputFeatures
  | output => .outputFeatures

/-- The kind as a path names it. -/
def word : FeatureKind → String
  | input => "input"
  | output => "output"

def index (kind : FeatureKind) (l : DataLake) : List (String × List Feature) :=
  match kind with
  | input => l.inputFeatures.current
  | output => l.outputFeatures.current

variable {kind : FeatureKind}

theorem index_load (l : DataLake) (s : Settings) (rows : List Row) :
    kind.index (l.load s kind.job rows) =
      Feature.index (rows.filterMap (Feature.ofRow? s.featureKeyColumn)) := by
  cases kind with
  | input => rfl
  | output => rfl

theorem getFeatures_word (l : DataLake) (k : String) :
    Http.getFeatures l kind.word k =
      .ofJson 200 (Http.featuresJson ((OrderedMap.get? k (kind.index l)).getD [])) := by
  cases kind with
  | input => rfl
  | output => rfl

/-- The lake answers for the features of the kind as these rows have them. -/
structure Answers (kind : FeatureKind) (column : String) (rows : List Row) (l : DataLake) :
    Prop where
  indexed : Indexed column rows (kind.index l)
  found : ∀ k, Http.getFeatures l kind.word k =
    .ofJson 200 (Http.rowsJson (rows.filter (·.HasKey column k)).reverse)
  absent : ∀ k, (∀ r ∈ rows, ¬ r.HasKey column k) →
    Http.getFeatures l kind.word k = .ofJson 200 (.array [])

theorem answers_of_indexed {column : String} {rows : List Row} {l : DataLake}
    (h : Indexed column rows (kind.index l)) : Answers kind column rows l := by
  have hfound : ∀ k, Http.getFeatures l kind.word k =
      .ofJson 200 (Http.rowsJson (rows.filter (·.HasKey column k)).reverse) := by
    intro k
    rw [getFeatures_word, h.listed, Http.featuresJson, List.map_map,
      show Feature.fields ∘ Feature.mk k = id from rfl, List.map_id]
  refine ⟨h, hfound, ?_⟩
  intro k hnone
  have hempty : rows.filter (·.HasKey column k) = [] :=
    List.filter_eq_nil_iff.mpr fun r hr => by simpa using hnone r hr
  rw [hfound, hempty]
  rfl

/-- A run that has succeeded answers with the rows that it got. -/
theorem answers_of_refresh {l l' : DataLake} {s : Settings} {dialect : Sql.Dialect} {today : Date}
    {es : List Event} (h : (l.refresh s dialect today kind.job).Plays es (l', true)) :
    ∃ sql rows, es = [.sent sql (.ok rows)] ∧ Answers kind s.featureKeyColumn rows l' := by
  cases DataLake.plays_refresh_iff.mp h with
  | @loaded sql hquery rows =>
    refine ⟨sql, rows, rfl, answers_of_indexed ?_⟩
    rw [index_load]
    exact Feature.indexed _ _

end FeatureKind

/-- Two vehicles, one of which is written in two ways, and two rows without a vehicle. -/
def sightings : List Row :=
  [[("vehicle", .ofNat 4711), ("speed", .ofNat 80)], [("vehicle", .null)],
    [("vehicle", .text "F12"), ("speed", .ofNat 30)], [("speed", .ofNat 55)],
    [("vehicle", .text "4711"), ("speed", .ofNat 50)]]

theorem FeatureKind.answers_of_refresh_sightings :
    ∃ l sql, (DataLake.empty.refresh { nightly with cacheOutputFeatures := true } .mysql
        tenthOfJanuary .outputFeatures).Plays [.sent sql (.ok sightings)] (l, true) ∧
      Http.getFeatures l "output" "4711" = .ofJson 200 (Http.rowsJson
        [[("vehicle", .text "4711"), ("speed", .ofNat 50)],
          [("vehicle", .ofNat 4711), ("speed", .ofNat 80)]]) ∧
      Http.getFeatures l "output" "null" = .ofJson 200 (.array []) ∧
      FeatureKind.output.Answers "vehicle" sightings l := by
  have hrelation : Sql.isRelationName nightly.outputFeaturesTable.toList = true := by
    decide +kernel
  obtain ⟨sql, hsql⟩ : ∃ sql, Job.outputFeatures.query { nightly with cacheOutputFeatures := true }
      .mysql tenthOfJanuary = some (.ok sql) :=
    Job.exists_query_iff.mpr ⟨by simp [Job.Off], hrelation⟩
  have hplays :=
    DataLake.plays_refresh_iff.mpr (@DataLake.Ran.loaded _ _ _ _ .empty _ hsql sightings)
  obtain ⟨_, _, hes, hanswers⟩ := @FeatureKind.answers_of_refresh .output _ _ _ _ _ _ hplays
  cases hes
  exact ⟨_, sql, hplays, hanswers.found "4711", hanswers.absent "null" (by decide +kernel),
    hanswers⟩

end GridQuery
