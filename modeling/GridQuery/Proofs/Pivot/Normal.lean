import GridQuery.Pivot.Domains

/-!
The values of a domain after they have been brought into order: they increase strictly and depend on
nothing but the set of the values before.
-/

namespace GridQuery

variable {a v : String} {values acc : List String}

theorem pairwise_eraseReps_loop (hmet : (acc.reverse ++ [a]).Pairwise (· < ·))
    (hsorted : (a :: values).Pairwise (· ≤ ·)) :
    (List.eraseRepsBy.loop (· == ·) a values acc).Pairwise (· < ·) := by
  -- what has been kept, up to `a`, stays strictly increasing; nothing to come is below `a`
  induction values generalizing a acc with
  | nil => simpa [List.eraseRepsBy.loop] using hmet
  | cons b r ih =>
    obtain ⟨hle, hrest⟩ := List.pairwise_cons.mp hsorted
    rw [List.eraseRepsBy.loop]
    split
    · next heq =>
      obtain rfl : a = b := eq_of_beq heq
      exact ih hmet hrest
    · next hne =>
      have hlt : a < b := Std.lt_of_le_of_ne (hle b (by simp)) (by simpa using hne)
      refine ih ?_ hrest
      rw [List.reverse_cons, List.pairwise_append]
      refine ⟨hmet, by simp, ?_⟩
      intro x hx y hy
      obtain rfl := List.mem_singleton.mp hy
      rcases List.mem_append.mp hx with hx | hx
      · exact String.lt_trans ((List.pairwise_append.mp hmet).2.2 x hx a (by simp)) hlt
      · exact List.mem_singleton.mp hx ▸ hlt

theorem mem_eraseReps_loop :
    v ∈ List.eraseRepsBy.loop (· == ·) a values acc ↔ v ∈ acc ∨ v = a ∨ v ∈ values := by
  induction values generalizing a acc with
  | nil => simp [List.eraseRepsBy.loop, or_comm]
  | cons b r ih =>
    rw [List.eraseRepsBy.loop]
    split
    · next heq =>
      obtain rfl : a = b := eq_of_beq heq
      simp [ih]
    · simp only [ih, List.mem_cons, or_assoc, or_left_comm]

theorem eraseReps_loop_of_pairwise (h : (a :: values).Pairwise (· < ·)) :
    List.eraseRepsBy.loop (· == ·) a values acc = acc.reverse ++ a :: values := by
  induction values generalizing a acc with
  | nil => simp [List.eraseRepsBy.loop]
  | cons b r ih =>
    obtain ⟨hlt, hrest⟩ := List.pairwise_cons.mp h
    have hne : (a == b) = false := beq_false_of_ne (String.ne_of_lt (hlt b (by simp)))
    rw [List.eraseRepsBy.loop, hne]
    simp [ih hrest]

namespace Domains

theorem pairwise_normalize (values : List String) : (normalize values).Pairwise (· < ·) := by
  have hsorted : (values.mergeSort fun a b => decide (a ≤ b)).Pairwise (· ≤ ·) := by
    simpa only [decide_eq_true_eq] using
      @List.pairwise_mergeSort String (fun a b => decide (a ≤ b))
        (fun a b c hab hbc => by
          simp only [decide_eq_true_eq] at hab hbc ⊢
          exact String.le_trans hab hbc)
        (fun a b => by simpa using String.le_total a b) values
  unfold normalize
  generalize (values.mergeSort fun a b => decide (a ≤ b)) = sorted at hsorted
  cases sorted with
  | nil => exact List.Pairwise.nil
  | cons a r => exact pairwise_eraseReps_loop (by simp) hsorted

theorem nodup_normalize (values : List String) : (normalize values).Nodup :=
  (pairwise_normalize values).imp fun h => String.ne_of_lt h

theorem normalize_of_pairwise (h : values.Pairwise (· < ·)) : normalize values = values := by
  have hsorted : values.mergeSort (fun a b => decide (a ≤ b)) = values :=
    List.mergeSort_of_pairwise (h.imp fun hlt => decide_eq_true (Std.le_of_lt hlt))
  rw [normalize, hsorted]
  cases values with
  | nil => rfl
  | cons a r => exact eraseReps_loop_of_pairwise h

theorem mem_normalize : v ∈ normalize values ↔ v ∈ values := by
  have hsorted : v ∈ values.mergeSort (fun a b => decide (a ≤ b)) ↔ v ∈ values :=
    List.mem_mergeSort
  rw [← hsorted, normalize]
  cases values.mergeSort fun a b => decide (a ≤ b) with
  | nil => rfl
  | cons a r => simp [List.eraseReps, List.eraseRepsBy, mem_eraseReps_loop]

/-- The values in order stand for the set of them. -/
theorem normalize_eq_iff {values values' : List String} :
    normalize values = normalize values' ↔ ∀ v, v ∈ values ↔ v ∈ values' := by
  constructor
  · intro h v
    rw [← mem_normalize, h, mem_normalize]
  · intro h
    have hperm : (normalize values).Perm (normalize values') := by
      rw [List.perm_ext_iff_of_nodup (nodup_normalize _) (nodup_normalize _)]
      intro v
      rw [mem_normalize, mem_normalize, h]
    exact hperm.eq_of_pairwise (fun a b _ _ hab hba => absurd hba (String.lt_asymm hab))
      (pairwise_normalize _) (pairwise_normalize _)

end Domains

end GridQuery
