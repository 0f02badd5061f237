import GridQuery.Text.Lowercase
import Mathlib.Data.List.Basic

/-!
Words in small and capital letters. A text whose lower case in Unicode is a word of ASCII has this
word for its lower case in ASCII, unless the word has a `k`, which is also the lower case of the
sign for kelvin.
-/

namespace GridQuery.Text

variable {c d : Char} {ds cs before : List Char}

theorem toLower_of_large (h : 0x80 ≤ c.toNat) : c.toLower = c := by
  refine dif_neg ?_
  have hZ : ('Z' : Char).val.toNat = 90 := rfl
  have hc : c.val.toNat = c.toNat := rfl
  rw [ge_iff_le, UInt32.le_iff_toNat_le, UInt32.le_iff_toNat_le, hZ, hc]
  omega

/-- Whether no letter beyond ASCII is lowered to this character. -/
def isOnlyAscii (c : Char) : Bool :=
  c.toNat < 0x80 && c != 'k' && c != '\x00'

theorem isOnlyAscii_iff :
    isOnlyAscii c = true ↔ c.toNat < 0x80 ∧ c ≠ 'k' ∧ c ≠ '\x00' := by
  rw [isOnlyAscii, Bool.and_eq_true, Bool.and_eq_true, decide_eq_true_eq, bne_iff_ne, bne_iff_ne,
    and_assoc]

/-- The run is that of ASCII, lowers to letters beyond ASCII, or is the sign for kelvin. -/
def CaseRun.keepsOut (r : CaseRun) : Bool :=
  r.last < 0x80 || 0x80 ≤ (r.first : Int) + r.shift ||
    (r.first == 0x212A && r.last == 0x212A && r.shift == -8383)

theorem keepsOut_caseRuns : ∀ r ∈ caseRuns, r.keepsOut = true := by
  have hall : caseRuns.toList.all CaseRun.keepsOut = true := by decide +kernel
  intro r hr
  exact List.all_eq_true.mp hall r (Array.mem_toList_iff.mpr hr)

theorem toNat_ofNat_of_ne {n : Nat} (h : Char.ofNat n ≠ '\x00') : (Char.ofNat n).toNat = n := by
  by_cases hvalid : n.isValidChar
  · have hchar : Char.ofNat n = Char.ofNatAux n hvalid := dif_pos hvalid
    rw [hchar]
    rfl
  · exact absurd (dif_neg hvalid) h

theorem not_isOnlyAscii_of_lower? {r : CaseRun} (hr : r.keepsOut = true) (hc : 0x80 ≤ c.toNat)
    (h : r.lower? c = some d) : isOnlyAscii d = false := by
  rw [Bool.eq_false_iff, ne_eq, isOnlyAscii_iff]
  rintro ⟨hsmall, hk, hzero⟩
  rw [CaseRun.lower?, Option.ite_none_right_eq_some, Option.some_inj] at h
  obtain ⟨⟨hfirst, hlast, -⟩, rfl⟩ := h
  rw [toNat_ofNat_of_ne hzero] at hsmall
  simp only [CaseRun.keepsOut, Bool.or_eq_true, Bool.and_eq_true, decide_eq_true_eq,
    beq_iff_eq] at hr
  rcases hr with (hascii | hlarge) | ⟨⟨hf, hl⟩, hshift⟩
  · omega
  · omega
  · have hkelvin : (((c.toNat : Int) + r.shift).toNat) = 0x6B := by omega
    rw [hkelvin] at hk
    exact hk rfl

theorem lowerChar_eq_iff (hd : isOnlyAscii d = true) : lowerChar c = d ↔ c.toLower = d := by
  unfold lowerChar
  split
  · rfl
  · next hlarge =>
    have hc : 0x80 ≤ c.toNat := Nat.le_of_not_lt hlarge
    have hcd : c ≠ d := by
      rintro rfl
      exact hlarge (isOnlyAscii_iff.mp hd).1
    rw [toLower_of_large hc]
    cases h : caseRuns.findSome? (·.lower? c) with
    | none => rfl
    | some e =>
      obtain ⟨r, hr, hlower⟩ := Array.exists_of_findSome?_eq_some h
      have he := not_isOnlyAscii_of_lower? (keepsOut_caseRuns r hr) hc hlower
      refine iff_of_false ?_ hcd
      rintro rfl
      exact Bool.false_ne_true (he.symm.trans hd)

theorem lowerFrom_eq_iff (hds : ∀ d ∈ ds, isOnlyAscii d = true) :
    lowerFrom before cs = ds ↔ cs.map Char.toLower = ds := by
  induction cs generalizing before ds with
  | nil => rfl
  | cons c r ih =>
    cases ds with
    | nil =>
      refine iff_of_false ?_ (by simp)
      rw [lowerFrom]
      split
      · simp
      · split <;> simp
    | cons d ds =>
      obtain ⟨hd, hds⟩ := List.forall_mem_cons.mp hds
      have hsmall := (isOnlyAscii_iff.mp hd).1
      rw [List.map_cons, List.cons_eq_cons, lowerFrom]
      split
      · -- neither form of the small sigma is in ASCII, nor is the capital
        next hsigma =>
        subst hsigma
        refine iff_of_false ?_ ?_
        · rw [List.singleton_append, List.cons_eq_cons]
          rintro ⟨rfl, -⟩
          revert hsmall
          split <;> decide
        · rintro ⟨rfl, -⟩
          exact absurd hsmall (by decide)
      · split
        · -- the dot that is split off is not in ASCII
          next hdotted =>
          subst hdotted
          refine iff_of_false ?_ ?_
          · intro h
            obtain ⟨-, hrest⟩ := List.cons_eq_cons.mp h
            have hdot := hds '\u0307' (hrest ▸ List.mem_cons_self)
            exact absurd hdot (by decide)
          · rintro ⟨rfl, -⟩
            exact absurd hsmall (by decide)
        · rw [List.singleton_append, List.cons_eq_cons, lowerChar_eq_iff hd, ih hds]

theorem lower_eq_iff {word : String} (h : word.toList.all isOnlyAscii = true) (s : String) :
    lower s = word ↔ lowerAscii s = word := by
  rw [← String.toList_inj, ← String.toList_inj, lower, String.toList_ofList, lowerAscii,
    String.toList_map]
  exact lowerFrom_eq_iff (List.all_eq_true.mp h)

theorem lower_mem_iff {words : List String}
    (h : ∀ word ∈ words, word.toList.all isOnlyAscii = true) (s : String) :
    lower s ∈ words ↔ lowerAscii s ∈ words := by
  constructor
  · intro hmem
    rwa [(lower_eq_iff (h _ hmem) s).mp rfl]
  · intro hmem
    rwa [(lower_eq_iff (h _ hmem) s).mpr rfl]

end GridQuery.Text
