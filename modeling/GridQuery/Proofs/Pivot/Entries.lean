import GridQuery.Pivot.Domains
import Mathlib.Data.List.Induction

/-! The entries of pivot domains that have been inserted one after the other. -/

namespace GridQuery

namespace OrderedMap

variable {κ α : Type} [BEq κ] [LawfulBEq κ]

theorem mem_put {k : κ} {v : α} {m : List (κ × α)} {e : κ × α} (h : e ∈ put k v m) :
    e = (k, v) ∨ e ∈ m := by
  induction m with
  | nil => exact .inl (List.mem_singleton.mp h)
  | cons e' r ih =>
    rw [put] at h
    split at h
    · next hkey =>
      obtain rfl : e'.1 = k := eq_of_beq hkey
      rcases List.mem_cons.mp h with rfl | h
      · exact .inl rfl
      · exact .inr (List.mem_cons_of_mem _ h)
    · rcases List.mem_cons.mp h with rfl | h
      · exact .inr List.mem_cons_self
      · exact (ih h).imp_right (List.mem_cons_of_mem _)

theorem nodup_map_fst_put {k : κ} {v : α} {m : List (κ × α)} (h : (m.map Prod.fst).Nodup) :
    ((put k v m).map Prod.fst).Nodup := by
  rw [map_fst_put]
  by_cases hk : k ∈ m.map Prod.fst
  · rwa [if_pos hk, List.append_nil]
  · rw [if_neg hk, List.nodup_append]
    refine ⟨h, by simp, ?_⟩
    intro a ha b hb hab
    rw [List.mem_singleton.mp hb] at hab
    exact hk (hab ▸ ha)

theorem mem_map_fst_put {k k' : κ} {v : α} {m : List (κ × α)} :
    k' ∈ (put k v m).map Prod.fst ↔ k' ∈ m.map Prod.fst ∨ k' = k := by
  rw [map_fst_put, List.mem_append]
  by_cases hk : k ∈ m.map Prod.fst
  · rw [if_pos hk, or_iff_left List.not_mem_nil]
    refine (or_iff_left_of_imp ?_).symm
    rintro rfl
    exact hk
  · rw [if_neg hk, List.mem_singleton]

section

-- What is put under a key may depend on all that is there already.
variable {β : Type} {key : β → κ} {value : List (κ × α) → β → α}

theorem nodup_keys_foldl (bs : List β) :
    ((bs.foldl (fun m b => put (key b) (value m b) m) []).map Prod.fst).Nodup := by
  induction bs using List.reverseRecOn with
  | nil => exact List.nodup_nil
  | append_singleton r b ih =>
    rw [List.foldl_append]
    exact nodup_map_fst_put ih

theorem mem_keys_foldl {bs : List β} {k : κ} :
    k ∈ (bs.foldl (fun m b => put (key b) (value m b) m) []).map Prod.fst ↔
      ∃ b ∈ bs, key b = k := by
  induction bs using List.reverseRecOn with
  | nil => simp
  | append_singleton r b ih =>
    rw [List.foldl_append, List.foldl_cons, List.foldl_nil, mem_map_fst_put, ih]
    simp [or_and_right, exists_or, eq_comm]

end

end OrderedMap

namespace Domains

variable {entries : List (String × List String)}

theorem ofList_concat (entries : List (String × List String)) (e : String × List String) :
    ofList (entries ++ [e]) = (ofList entries).insert e.1 e.2 := by
  rw [ofList, List.foldl_append]
  rfl

theorem mem_of_mem_ofList {e : String × List String} (h : e ∈ (ofList entries).entries) :
    e ∈ entries := by
  induction entries using List.reverseRecOn with
  | nil => cases h
  | append_singleton r last ih =>
    rw [ofList_concat] at h
    rcases OrderedMap.mem_put h with rfl | h
    · simp
    · simp [ih h]

theorem entries_ofList (entries : List (String × List String)) :
    (ofList entries).entries = entries.foldl (fun m e => OrderedMap.put e.1 e.2 m) [] := by
  induction entries using List.reverseRecOn with
  | nil => rfl
  | append_singleton r last ih =>
    rw [ofList_concat, List.foldl_append, ← ih]
    rfl

theorem nodup_ofList (entries : List (String × List String)) :
    ((ofList entries).entries.map Prod.fst).Nodup := by
  rw [entries_ofList]
  exact OrderedMap.nodup_keys_foldl entries

theorem mem_columns_ofList {column : String} :
    column ∈ (ofList entries).entries.map Prod.fst ↔ column ∈ entries.map Prod.fst := by
  rw [entries_ofList, OrderedMap.mem_keys_foldl, List.mem_map]

end Domains

end GridQuery
