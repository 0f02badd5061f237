import GridQuery.Pivot.Combinations
import Mathlib.Data.List.Forall2
import Mathlib.Data.List.Nodup

/-!
The combinations of pivot values are the tuples of a product. They are built from the left, one
column after the other; the product is defined from the right, one first value after the other.
-/

namespace GridQuery

/-- One value of every list, in all ways, the last list changing fastest. -/
def tuples : List (List String) → List (List String)
  | [] => [[]]
  | values :: r => values.flatMap fun v => (tuples r).map (v :: ·)

theorem mem_tuples {t : List String} {lists : List (List String)} :
    t ∈ tuples lists ↔ List.Forall₂ (fun v values => v ∈ values) t lists := by
  induction lists generalizing t with
  | nil => simp [tuples]
  | cons values r ih =>
    simp only [tuples, List.mem_flatMap, List.mem_map]
    constructor
    · rintro ⟨v, hv, t, ht, rfl⟩
      exact .cons hv (ih.mp ht)
    · rintro (_ | ⟨hv, ht⟩)
      exact ⟨_, hv, _, ih.mpr ht, rfl⟩

theorem nodup_tuples {lists : List (List String)} (h : ∀ values ∈ lists, values.Nodup) :
    (tuples lists).Nodup := by
  induction lists with
  | nil => simp [tuples]
  | cons values r ih =>
    obtain ⟨hvalues, hr⟩ := List.forall_mem_cons.mp h
    rw [tuples, List.nodup_flatMap]
    refine ⟨fun v _ => (ih hr).map List.cons_injective, ?_⟩
    refine hvalues.imp fun hne => ?_
    simp only [Function.onFun, List.disjoint_left, List.mem_map]
    rintro _ ⟨t, -, rfl⟩ ⟨t', -, heq⟩
    exact hne (List.cons.inj heq).1.symm

namespace Domains

/-- The values of a column; none, if it has no domain. -/
def values (d : Domains) (c : Column) : List String :=
  (d.get? c.field).getD []

/-- Every column has a domain, be it empty. -/
def Cover (d : Domains) (columns : List Column) : Prop :=
  ∀ c ∈ columns, (d.get? c.field).isSome = true

variable {d : Domains} {columns : List Column}

theorem length_of_mem_tuples {t : List String} (h : t ∈ tuples (columns.map d.values)) :
    t.length = columns.length := by
  simpa using (mem_tuples.mp h).length_eq

theorem get?_of_cover (h : d.Cover columns) {c : Column} (hc : c ∈ columns) :
    d.get? c.field = some (d.values c) := by
  obtain ⟨vs, hvs⟩ := Option.isSome_iff_exists.mp (h c hc)
  rw [values, hvs, Option.getD_some]

/-- What has been built so far is continued by every tuple of the columns to come. -/
theorem combinationsFrom_of_cover (h : d.Cover columns) (acc : List (List String)) :
    d.combinationsFrom acc columns =
      some (acc.flatMap fun p => (tuples (columns.map d.values)).map (p ++ ·)) := by
  induction columns generalizing acc with
  | nil => simp [combinationsFrom, tuples]
  | cons c r ih =>
    have hr : d.Cover r := fun c' hc' => h c' (List.mem_cons_of_mem _ hc')
    rw [combinationsFrom, get?_of_cover h (by simp), Option.bind_some, ih hr]
    simp [extend, tuples, List.flatMap_assoc, List.flatMap_map, List.map_flatMap,
      Function.comp_def]

theorem cover_of_combinationsFrom {acc combos : List (List String)}
    (h : d.combinationsFrom acc columns = some combos) : d.Cover columns := by
  induction columns generalizing acc with
  | nil =>
    intro c hc
    cases hc
  | cons c r ih =>
    obtain ⟨vs, hvs, hr⟩ := Option.bind_eq_some_iff.mp h
    intro c' hc'
    rcases List.mem_cons.mp hc' with rfl | hc'
    · exact Option.isSome_of_eq_some hvs
    · exact ih hr c' hc'

theorem combinations?_eq_some_iff {combos : List (List String)} :
    d.combinations? columns = some combos ↔
      d.Cover columns ∧ combos = tuples (columns.map d.values) := by
  have hproduct (h : d.Cover columns) :
      d.combinations? columns = some (tuples (columns.map d.values)) := by
    rw [combinations?, combinationsFrom_of_cover h]
    simp
  constructor
  · intro h
    have hcover := cover_of_combinationsFrom h
    rw [hproduct hcover] at h
    exact ⟨hcover, (Option.some.inj h).symm⟩
  · rintro ⟨hcover, rfl⟩
    exact hproduct hcover

end Domains

end GridQuery
