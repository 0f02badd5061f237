import GridQuery.Proofs.Number.FixedPoint
import GridQuery.Proofs.Sql.Numeral

/-! Settings that are natural numbers. -/

namespace GridQuery.Number

open GridQuery.Sql

variable {bound acc n : Nat} {cs ds : List Char}

/-- Digits, perhaps with a plus, and the number that they denote. -/
inductive IsNatural : List Char → Nat → Prop where
  | plain {ds : List Char} (h : IsDigits ds) : IsNatural ds (placeValue ds)
  | plus {ds : List Char} (h : IsDigits ds) : IsNatural ('+' :: ds) (placeValue ds)

theorem forall_isDigit_of_readBelow_go (h : readBelow.go bound acc ds = .ok n) :
    ∀ c ∈ ds, isDigit c = true := by
  induction ds generalizing acc with
  | nil => exact fun _ hc => nomatch hc
  | cons c r ih =>
    rw [readBelow.go] at h
    split at h
    · next hc =>
      dsimp only at h
      split at h
      · exact List.forall_mem_cons.mpr ⟨hc, ih h⟩
      · cases h
    · cases h

theorem readBelow_go_eq_ok_iff (hbound : 0 < bound) :
    readBelow.go bound 0 ds = .ok n ↔
      (∀ c ∈ ds, isDigit c = true) ∧ placeValue ds = n ∧ n < bound := by
  rw [← digitsValue_eq_placeValue]
  constructor
  · intro h
    have hd := forall_isDigit_of_readBelow_go h
    rw [Fixed96.readBelow_go hd hbound] at h
    split at h
    · next hlt =>
      cases h
      exact ⟨hd, rfl, hlt⟩
    · cases h
  · rintro ⟨hd, rfl, hlt⟩
    rw [Fixed96.readBelow_go hd hbound, if_pos hlt]

theorem readBelow_eq_ok_iff (hbound : 0 < bound) {s : String} :
    readBelow bound s = .ok n ↔ IsNatural s.toList n ∧ n < bound := by
  have hread {ds : List Char} :
      (if ds = [] then .error .invalidDigit else readBelow.go bound 0 ds) = .ok n ↔
        IsDigits ds ∧ placeValue ds = n ∧ n < bound := by
    split
    · next hnil => exact iff_of_false (fun h => nomatch h) fun h => h.1.1 hnil
    · next hne =>
      rw [readBelow_go_eq_ok_iff hbound, IsDigits, and_iff_right hne]
  rw [readBelow]
  generalize s.toList = cs
  split
  · next r =>
    rw [hread]
    constructor
    · rintro ⟨hd, rfl, hlt⟩
      exact ⟨.plus hd, hlt⟩
    · rintro ⟨h, hlt⟩
      cases h with
      | plain hd => exact absurd (hd.2 '+' List.mem_cons_self) (by decide)
      | plus hd => exact ⟨hd, rfl, hlt⟩
  · next hplus =>
    rw [hread]
    constructor
    · rintro ⟨hd, rfl, hlt⟩
      exact ⟨.plain hd, hlt⟩
    · rintro ⟨h, hlt⟩
      cases h with
      | plain hd => exact ⟨hd, rfl, hlt⟩
      | plus hd => exact absurd rfl (hplus _)

end GridQuery.Number
