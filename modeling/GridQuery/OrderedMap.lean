/-!
Maps as lists of entries in the order of first insertion. A later value for a key takes the place
of the earlier one.
-/

namespace GridQuery.OrderedMap

variable {κ α : Type} [BEq κ]

def put (k : κ) (v : α) : List (κ × α) → List (κ × α)
  | [] => [(k, v)]
  | (k', v') :: r => if k' == k then (k', v) :: r else (k', v') :: put k v r

def get? (k : κ) : List (κ × α) → Option α
  | [] => none
  | (k', v) :: r => if k' == k then some v else get? k r

def ofList (entries : List (κ × α)) : List (κ × α) :=
  entries.foldl (fun m (k, v) => put k v m) []

theorem get?_put_self [LawfulBEq κ] (k : κ) (v : α) (m : List (κ × α)) :
    get? k (put k v m) = some v := by
  induction m with
  | nil => simp [put, get?]
  | cons e r ih => by_cases h : e.1 == k <;> simp_all [put, get?]

theorem get?_put_of_ne [LawfulBEq κ] {k k' : κ} (h : k ≠ k') (v : α) (m : List (κ × α)) :
    get? k' (put k v m) = get? k' m := by
  induction m with
  | nil => simp [put, get?, h]
  | cons e r ih =>
    by_cases hk : e.1 == k
    · simp_all [put, get?]
    · by_cases hk' : e.1 == k' <;> simp_all [put, get?]

/-- Putting a key keeps the order of the keys; a new one comes last. -/
theorem map_fst_put [LawfulBEq κ] (k : κ) (v : α) (m : List (κ × α)) :
    (put k v m).map Prod.fst =
      m.map Prod.fst ++ (if k ∈ m.map Prod.fst then [] else [k]) := by
  induction m with
  | nil => simp [put]
  | cons e r ih =>
    by_cases hk : e.1 = k
    · simp [put, hk]
    · have hk' : ¬ k = e.1 := fun h => hk h.symm
      have hm : k ∈ (e :: r).map Prod.fst ↔ k ∈ r.map Prod.fst := by
        rw [List.map_cons, List.mem_cons]
        exact or_iff_right hk'
      simp only [hm]
      simp [put, hk, ih]

end GridQuery.OrderedMap
