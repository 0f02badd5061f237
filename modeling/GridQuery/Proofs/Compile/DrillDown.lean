import GridQuery.Proofs.Compile.Plan
import GridQuery.Proofs.Sql.Meaning
import Mathlib.Data.List.Nodup

/-!
Opening a group: the conditions of the request that showed the group and one more, that the grouping
column equals the key.
-/

namespace GridQuery

open GridQuery.Sql

namespace Request

variable {r : Request} {table : String} {d : Domains} {c : Column} {key : GroupKey} {q : Select}

theorem Plans.predicates (h : r.Plans table d q) :
    ∃ keys filters, r.keyPredicates = .ok keys ∧ r.filterPredicates = .ok filters ∧
      q.predicates = keys ++ filters := by
  cases h with
  | rows _ hkeys hfilters => exact ⟨_, _, hkeys, hfilters, rfl⟩
  | groups _ hkeys hfilters => exact ⟨_, _, hkeys, hfilters, rfl⟩

end Request

end GridQuery
