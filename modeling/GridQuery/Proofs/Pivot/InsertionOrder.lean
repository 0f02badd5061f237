import GridQuery.Proofs.Pivot.Entries
import Mathlib.Data.Finset.Dedup
import Mathlib.Data.Finset.Card

/-!
Pivot domains as a map that keeps the order of first insertion and the values of the last one.
-/

namespace GridQuery

namespace OrderedMap

variable {κ α : Type} [BEq κ] [LawfulBEq κ] {k k' : κ} {v v' : α} {m : List (κ × α)}

/-- Putting a key leaves every other entry in its place. -/
theorem getElem?_put_of_ne (h : k' ≠ k) (i : Nat) :
    (put k v m)[i]? = some (k', v') ↔ m[i]? = some (k', v') := by
  have hnew : ¬ (k = k' ∧ v = v') := fun heq => h heq.1.symm
  induction m generalizing i with
  | nil => cases i <;> simp [put, hnew]
  | cons e r ih =>
    rw [put]
    split
    · next hkey =>
      obtain rfl : e.1 = k := eq_of_beq hkey
      cases i with
      | zero =>
        refine iff_of_false ?_ ?_
        · simpa using hnew
        · intro heq
          cases heq
          exact h rfl
      | succ i => rfl
    · cases i with
      | zero => rfl
      | succ i => exact ih i

/-- What is found under a key is what is listed under it, as no key is listed twice. -/
theorem mem_iff_get? (h : (m.map Prod.fst).Nodup) : (k, v) ∈ m ↔ get? k m = some v := by
  induction m with
  | nil => simp [get?]
  | cons e r ih =>
    obtain ⟨key, value⟩ := e
    obtain ⟨hkey, hrest⟩ := List.nodup_cons.mp h
    rw [get?, List.mem_cons, Prod.mk.injEq]
    split
    · next heq =>
      obtain rfl : key = k := eq_of_beq heq
      have hnot : (key, v) ∉ r := by
        intro hmem
        exact hkey (List.mem_map.mpr ⟨_, hmem, rfl⟩)
      rw [or_iff_left hnot, Option.some_inj, @eq_comm _ v]
      exact and_iff_right rfl
    · next hne =>
      rw [ih hrest]
      refine or_iff_right ?_
      rintro ⟨rfl, -⟩
      exact hne (beq_self_eq_true _)

end OrderedMap

namespace Domains

/-- The columns that have a domain, in the order in which they are listed. -/
def columns (d : Domains) : List String :=
  d.entries.map Prod.fst

/-- These domains are what insertions have left behind: the columns in the order of their first
insertions, with the values of their last ones. -/
structure Keeps (insertions : List (String × List String)) (d : Domains) : Prop where
  distinct : d.columns.Nodup
  ordered : d.columns.Pairwise fun a b =>
    (insertions.map Prod.fst).idxOf a < (insertions.map Prod.fst).idxOf b
  mem_columns : ∀ column, column ∈ d.columns ↔ column ∈ insertions.map Prod.fst
  latest : ∀ column, d.get? column = insertions.reverse.lookup column
  missing : ∀ column, d.get? column = none ↔ column ∉ insertions.map Prod.fst
  listed : ∀ column values, (column, values) ∈ d.entries ↔ d.get? column = some values
  size : d.size = (insertions.map Prod.fst).toFinset.card
  isEmpty : d.isEmpty = true ↔ insertions = []

theorem columns_insert (d : Domains) (column : String) (values : List String) :
    (d.insert column values).columns =
      d.columns ++ if column ∈ d.columns then [] else [column] :=
  OrderedMap.map_fst_put column values d.entries

theorem ordered_ofList (insertions : List (String × List String)) :
    (ofList insertions).columns.Pairwise fun a b =>
      (insertions.map Prod.fst).idxOf a < (insertions.map Prod.fst).idxOf b := by
  induction insertions using List.reverseRecOn with
  | nil => exact List.Pairwise.nil
  | append_singleton r e ih =>
    rw [ofList_concat, columns_insert, List.map_append]
    -- a column that has been inserted before keeps its place
    have hplace {a : String} (ha : a ∈ (ofList r).columns) :
        (r.map Prod.fst ++ [e].map Prod.fst).idxOf a = (r.map Prod.fst).idxOf a :=
      List.idxOf_append_of_mem (mem_columns_ofList.mp ha)
    have hearlier : (ofList r).columns.Pairwise fun a b =>
        (r.map Prod.fst ++ [e].map Prod.fst).idxOf a <
          (r.map Prod.fst ++ [e].map Prod.fst).idxOf b := by
      refine ih.imp_of_mem ?_
      intro a b ha hb hlt
      rwa [hplace ha, hplace hb]
    by_cases hknown : e.1 ∈ (ofList r).columns
    · rwa [if_pos hknown, List.append_nil]
    · rw [if_neg hknown]
      have hnew : e.1 ∉ r.map Prod.fst := fun h => hknown (mem_columns_ofList.mpr h)
      refine List.pairwise_append.mpr ⟨hearlier, List.pairwise_singleton _ _, ?_⟩
      intro a ha b hb
      rw [List.mem_singleton.mp hb, hplace ha, List.idxOf_append_of_notMem hnew]
      have hlt := List.idxOf_lt_length_iff.mpr (mem_columns_ofList.mp ha)
      exact Nat.lt_of_lt_of_le hlt (Nat.le_add_right _ _)

theorem get?_ofList (insertions : List (String × List String)) (column : String) :
    (ofList insertions).get? column = insertions.reverse.lookup column := by
  induction insertions using List.reverseRecOn with
  | nil => rfl
  | append_singleton r e ih =>
    rw [ofList_concat, List.reverse_concat, List.lookup_cons]
    by_cases h : column = e.1
    · subst h
      rw [beq_self_eq_true]
      exact OrderedMap.get?_put_self e.1 e.2 (ofList r).entries
    · rw [beq_false_of_ne h, ← ih]
      exact OrderedMap.get?_put_of_ne (Ne.symm h) e.2 (ofList r).entries

theorem size_ofList (insertions : List (String × List String)) :
    (ofList insertions).size = (insertions.map Prod.fst).toFinset.card := by
  have hsame : (ofList insertions).columns.toFinset = (insertions.map Prod.fst).toFinset := by
    ext column
    rw [List.mem_toFinset, List.mem_toFinset]
    exact mem_columns_ofList
  have hlength : (ofList insertions).size = (ofList insertions).columns.length :=
    (List.length_map _).symm
  rw [← hsame, hlength]
  exact (List.toFinset_card_of_nodup (nodup_ofList insertions)).symm

theorem isEmpty_ofList {insertions : List (String × List String)} :
    (ofList insertions).isEmpty = true ↔ insertions = [] := by
  rw [isEmpty, List.isEmpty_iff, ← List.map_eq_nil_iff, List.eq_nil_iff_forall_not_mem,
    ← @List.map_eq_nil_iff _ _ Prod.fst insertions, List.eq_nil_iff_forall_not_mem]
  exact forall_congr' fun column => not_congr mem_columns_ofList

theorem keeps_ofList (insertions : List (String × List String)) :
    Keeps insertions (ofList insertions) where
  distinct := nodup_ofList insertions
  ordered := ordered_ofList insertions
  mem_columns _ := mem_columns_ofList
  latest := get?_ofList insertions
  missing column := by
    rw [get?_ofList, List.lookup_eq_none_iff, List.mem_map]
    simp only [List.mem_reverse, bne_iff_ne, ne_eq, not_exists, not_and]
    exact forall₂_congr fun e _ => not_congr eq_comm
  listed _ _ := OrderedMap.mem_iff_get? (nodup_ofList insertions)
  size := size_ofList insertions
  isEmpty := isEmpty_ofList

/-- A way to come by domains: none at all, those of a list, or one more insertion. -/
inductive Building where
  | empty
  | ofList (entries : List (String × List String))
  | insert (earlier : Building) (column : String) (values : List String)

namespace Building

/-- What has been built. -/
def domains : Building → Domains
  | empty => .empty
  | ofList entries => .ofList entries
  | insert earlier column values => earlier.domains.insert column values

/-- All that has been inserted on the way, the oldest first. -/
def insertions : Building → List (String × List String)
  | empty => []
  | ofList entries => entries
  | insert earlier column values => earlier.insertions ++ [(column, values)]

/-- What has been built depends on nothing but what has been inserted. -/
theorem domains_eq (b : Building) : b.domains = .ofList b.insertions := by
  induction b with
  | empty => rfl
  | ofList entries => rfl
  | insert earlier column values ih => rw [domains, insertions, ofList_concat, ih]

/-- However domains have been built, they keep what has been inserted, and one more insertion leaves
all other columns in their places, with their values. -/
theorem keeps_domains (b : Building) :
    b.domains.Keeps b.insertions ∧
      ∀ column values other, other ≠ column → ∀ (i : Nat) vs,
        (b.domains.insert column values).entries[i]? = some (other, vs) ↔
          b.domains.entries[i]? = some (other, vs) := by
  constructor
  · rw [domains_eq]
    exact keeps_ofList b.insertions
  · intro column values other hother i vs
    exact OrderedMap.getElem?_put_of_ne hother i

/-- The year gets other values after the sport has come behind it; then comes the city. -/
def yearTwice : Building :=
  .insert (.insert (.ofList [("year", ["2008"]), ("sport", [])]) "year" ["2012"]) "city" ["Oslo"]

theorem keeps_domains_yearTwice :
    yearTwice.domains.columns = ["year", "sport", "city"] ∧
      yearTwice.domains.get? "year" = some ["2012"] ∧ yearTwice.domains.size = 3 ∧
      "city" ≠ "year" ∧
      (yearTwice.domains.insert "year" []).entries[2]? = some ("city", ["Oslo"]) := by
  obtain ⟨hkeeps, hothers⟩ := keeps_domains yearTwice
  have hyear : yearTwice.insertions.reverse.lookup "year" = some ["2012"] := by decide
  have hcount : (yearTwice.insertions.map Prod.fst).toFinset.card = 3 := by decide
  have hcity : yearTwice.domains.entries[2]? = some ("city", ["Oslo"]) := by decide
  have hne : "city" ≠ "year" := by decide
  exact ⟨by decide, (hkeeps.latest "year").trans hyear, hkeeps.size.trans hcount, hne,
    (hothers "year" [] "city" hne 2 ["Oslo"]).mpr hcity⟩

end Building

end Domains

end GridQuery
