import GridQuery.Proofs.Pivot.Product
import Mathlib.Algebra.GroupWithZero.Nat

/-!
The order in which the combinations of pivot values come: the digits of a place, in the bases of the
sizes of the domains, are the places of the values in their domains.
-/

namespace GridQuery

/-- The digits of a number whose places have these bases. The last place is the lowest. -/
def mixedRadix : List Nat → Nat → List Nat
  | [], _ => []
  | base :: r, i => i / r.prod % base :: mixedRadix r i

/-- What lies above the first place does not show in the digits. -/
theorem mixedRadix_mod (bases : List Nat) (i : Nat) :
    mixedRadix bases (i % bases.prod) = mixedRadix bases i := by
  induction bases generalizing i with
  | nil => rfl
  | cons base r ih =>
    rw [mixedRadix, mixedRadix, List.prod_cons, Nat.mod_mul_left_div_self, Nat.mod_mod,
      ← ih (i % (base * r.prod)), Nat.mod_mul_left_mod, ih]

/-- Blocks of one length, one after the other. -/
theorem getElem?_flatMap {α β : Type} {f : α → List β} {l : List α} {n : Nat} (hn : 0 < n)
    (hlength : ∀ a ∈ l, (f a).length = n) (i : Nat) :
    (l.flatMap f)[i]? = l[i / n]?.bind fun a => (f a)[i % n]? := by
  induction l generalizing i with
  | nil => rfl
  | cons a r ih =>
    obtain ⟨ha, hr⟩ := List.forall_mem_cons.mp hlength
    rw [List.flatMap_cons]
    by_cases hi : i < n
    · rw [List.getElem?_append_left (ha.symm ▸ hi), Nat.div_eq_of_lt hi, Nat.mod_eq_of_lt hi]
      rfl
    · have hle : n ≤ i := Nat.le_of_not_lt hi
      rw [List.getElem?_append_right (ha.symm ▸ hle), ha, ih hr, Nat.div_eq_sub_div hn hle,
        List.getElem?_cons_succ, ← Nat.mod_eq_sub_mod hle]

section

variable {lists : List (List String)}

theorem length_tuples (lists : List (List String)) :
    (tuples lists).length = (lists.map List.length).prod := by
  induction lists with
  | nil => rfl
  | cons values r ih =>
    simp [tuples, List.length_flatMap, ih]

theorem tuples_eq_nil_iff : tuples lists = [] ↔ [] ∈ lists := by
  induction lists with
  | nil => simp [tuples]
  | cons values r ih =>
    rw [tuples, List.flatMap_eq_nil_iff, List.mem_cons, ← ih]
    cases values with
    | nil => simp
    | cons v vs => simp +contextual

/-- A tuple stands at the place whose digits are the places of its values. -/
theorem getElem?_tuples {i : Nat} {t : List String} (h : (tuples lists)[i]? = some t) :
    t.map some =
      List.zipWith (fun values j => values[j]?) lists (mixedRadix (lists.map List.length) i) := by
  induction lists generalizing i t with
  | nil =>
    obtain rfl := List.mem_singleton.mp (List.mem_of_getElem? h)
    rfl
  | cons values r ih =>
    have hlength : ∀ v ∈ values, ((tuples r).map (v :: ·)).length = (tuples r).length :=
      fun v _ => List.length_map _
    have hpos : 0 < (tuples r).length := by
      obtain ⟨v, -, hv⟩ := List.mem_flatMap.mp (List.mem_of_getElem? h)
      obtain ⟨t', ht', -⟩ := List.mem_map.mp hv
      exact List.length_pos_of_mem ht'
    rw [tuples, getElem?_flatMap hpos hlength, Option.bind_eq_some_iff] at h
    obtain ⟨v, hv, ht⟩ := h
    rw [List.getElem?_map, Option.map_eq_some_iff] at ht
    obtain ⟨t', ht', rfl⟩ := ht
    have hlt : i / (tuples r).length < values.length := (List.getElem?_eq_some_iff.mp hv).1
    have hdigit : values[i / (r.map List.length).prod % values.length]? = some v := by
      rw [← length_tuples, Nat.mod_eq_of_lt hlt, hv]
    rw [List.map_cons, List.map_cons, mixedRadix, List.zipWith_cons_cons, hdigit, ih ht',
      length_tuples, mixedRadix_mod]

/-- Only the last list may repeat a value: further to the left it would repeat whole blocks. -/
theorem pairwise_tuples (hsorted : ∀ values ∈ lists, values.Pairwise (· ≤ ·))
    (hdistinct : ∀ values ∈ lists.dropLast, values.Nodup) :
    (tuples lists).Pairwise fun s t => s < t ∨ s = t := by
  induction lists with
  | nil => simp [tuples]
  | cons values r ih =>
    obtain ⟨hvalues, hrest⟩ := List.forall_mem_cons.mp hsorted
    have hdrop : ∀ values' ∈ r.dropLast, values'.Nodup := by
      intro values' h
      cases r with
      | nil => cases h
      | cons w ws => exact hdistinct values' (List.mem_cons_of_mem _ h)
    rw [tuples, List.pairwise_flatMap]
    constructor
    · intro v _
      rw [List.pairwise_map]
      refine (ih hrest hdrop).imp ?_
      rintro s t (hlt | rfl)
      · exact .inl (List.cons_lt_cons_iff.mpr (.inr ⟨rfl, hlt⟩))
      · exact .inr rfl
    · have hblocks : values.Pairwise fun v w => v < w ∨ v = w ∧ r = [] := by
        cases r with
        | nil =>
          refine hvalues.imp ?_
          intro v w hle
          by_cases heq : v = w
          · exact .inr ⟨heq, rfl⟩
          · exact .inl (Std.lt_of_le_of_ne hle heq)
        | cons w ws =>
          have hne : values.Nodup := hdistinct values List.mem_cons_self
          refine (hvalues.and hne).imp ?_
          intro v w h
          exact .inl (Std.lt_of_le_of_ne h.1 h.2)
      refine hblocks.imp ?_
      intro v w h s hs t ht
      obtain ⟨s', hs', rfl⟩ := List.mem_map.mp hs
      obtain ⟨t', ht', rfl⟩ := List.mem_map.mp ht
      rcases h with hlt | ⟨rfl, rfl⟩
      · exact .inl (List.cons_lt_cons_iff.mpr (.inl hlt))
      · rw [List.mem_singleton.mp hs', List.mem_singleton.mp ht']
        exact .inr rfl

end

namespace Domains

/-- What is known of the combinations of some columns. -/
structure Enumerates (d : Domains) (columns : List Column) (combos : List (List String)) :
    Prop where
  domains : ∀ c ∈ columns, d.get? c.field = some (d.values c)
  length : combos.length = (columns.map fun c => (d.values c).length).prod
  digits : ∀ i combo, combos[i]? = some combo →
    combo.map some = List.zipWith (fun c j => (d.values c)[j]?) columns
      (mixedRadix (columns.map fun c => (d.values c).length) i)
  mem_iff : ∀ combo, combo ∈ combos ↔ List.Forall₂ (fun v c => v ∈ d.values c) combo columns
  nodup : (∀ c ∈ columns, (d.values c).Nodup) → combos.Nodup
  ordered : (∀ c ∈ columns, (d.values c).Pairwise (· ≤ ·)) →
    (∀ c ∈ columns.dropLast, (d.values c).Nodup) → combos.Pairwise fun s t => s < t ∨ s = t
  empty_iff : combos = [] ↔ ∃ c ∈ columns, d.values c = []

variable {d : Domains} {columns : List Column}

theorem enumerates_of_cover (h : d.Cover columns) :
    d.Enumerates columns (tuples (columns.map d.values)) where
  domains c hc := get?_of_cover h hc
  length := by
    rw [length_tuples, List.map_map]
    rfl
  digits i combo hcombo := by
    have hdigits := getElem?_tuples hcombo
    rw [List.zipWith_map_left, List.map_map] at hdigits
    exact hdigits
  mem_iff combo := by
    rw [mem_tuples, List.forall₂_map_right_iff]
  nodup hdistinct := nodup_tuples (List.forall_mem_map.mpr hdistinct)
  ordered hsorted hdistinct := by
    apply pairwise_tuples (List.forall_mem_map.mpr hsorted)
    rw [← List.map_dropLast]
    exact List.forall_mem_map.mpr hdistinct
  empty_iff := by
    rw [tuples_eq_nil_iff, List.mem_map]

/-- There are combinations unless a column has no domain, whatever the other columns have. -/
theorem combinations?_enumerates (d : Domains) (columns : List Column) :
    (d.combinations? columns = none ↔ ∃ c ∈ columns, d.get? c.field = none) ∧
      ∀ combos, d.combinations? columns = some combos → d.Enumerates columns combos := by
  constructor
  · rw [Option.eq_none_iff_forall_ne_some]
    constructor
    · intro hnone
      by_contra hall
      have hcover : d.Cover columns := by
        intro c hc
        rw [Option.isSome_iff_ne_none]
        intro hmissing
        exact hall ⟨c, hc, hmissing⟩
      exact hnone _ (combinations?_eq_some_iff.mpr ⟨hcover, rfl⟩)
    · intro hmissing combos hcombos
      obtain ⟨c, hc, hnone⟩ := hmissing
      obtain ⟨hcover, -⟩ := combinations?_eq_some_iff.mp hcombos
      have hsome := hcover c hc
      rw [hnone] at hsome
      cases hsome
  · intro combos hcombos
    obtain ⟨hcover, rfl⟩ := combinations?_eq_some_iff.mp hcombos
    exact enumerates_of_cover hcover

/-- The size and the kind of what is sold. -/
def sizeAndKind : List Column :=
  [⟨"p", "", "size", none, .number⟩, ⟨"k", "", "kind", none, .text⟩]

/-- The last domain repeats a value. -/
def kindsTwice : Domains :=
  .ofList [("size", ["10", "2.5"]), ("kind", ["new", "used", "used"])]

theorem combinations?_enumerates_kindsTwice :
    (∀ c ∈ sizeAndKind, (kindsTwice.values c).Pairwise (· ≤ ·)) ∧
      (∀ c ∈ sizeAndKind.dropLast, (kindsTwice.values c).Nodup) ∧
      ∃ combos, kindsTwice.combinations? sizeAndKind = some combos ∧ combos.length = 6 ∧
        combos[4]? = some ["2.5", "used"] ∧ mixedRadix [2, 3] 4 = [1, 1] ∧
        combos.Pairwise fun s t => s < t ∨ s = t := by
  have hsorted : ∀ c ∈ sizeAndKind, (kindsTwice.values c).Pairwise (· ≤ ·) := by decide +kernel
  have hdistinct : ∀ c ∈ sizeAndKind.dropLast, (kindsTwice.values c).Nodup := by decide +kernel
  have hcombos : kindsTwice.combinations? sizeAndKind =
      some [["10", "new"], ["10", "used"], ["10", "used"], ["2.5", "new"], ["2.5", "used"],
        ["2.5", "used"]] := by
    decide +kernel
  have henumerates := (combinations?_enumerates kindsTwice sizeAndKind).2 _ hcombos
  exact ⟨hsorted, hdistinct, _, hcombos, rfl, rfl, rfl, henumerates.ordered hsorted hdistinct⟩

/-- The first domain repeats a value. -/
def sizesTwice : Domains :=
  .ofList [("size", ["10", "10"]), ("kind", ["new", "used"])]

/-- Both domains are in order, the combinations are not. -/
theorem combinations?_sizesTwice :
    (∀ c ∈ sizeAndKind, (sizesTwice.values c).Pairwise (· ≤ ·)) ∧
      sizesTwice.combinations? sizeAndKind =
        some [["10", "new"], ["10", "used"], ["10", "new"], ["10", "used"]] ∧
      ¬ [["10", "new"], ["10", "used"], ["10", "new"], ["10", "used"]].Pairwise
        fun s t => s < t ∨ s = t :=
  ⟨by decide +kernel, by decide +kernel, by decide +kernel⟩

end Domains

end GridQuery
