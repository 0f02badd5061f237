import GridQuery.Text.Blank
import Mathlib.Data.List.TakeWhile

/-!
Blanks around a text change neither what it is once it has been trimmed nor whether anything is left
of it.
-/

namespace GridQuery.Text

variable {before cs after : List Char}

theorem trimChars_append_left (h : ∀ c ∈ before, isBlank c = true) :
    trimChars (before ++ cs) = trimChars cs := by
  rw [trimChars, List.dropWhile_append_of_pos h, trimChars]

theorem trimChars_append_right (h : ∀ c ∈ after, isBlank c = true) :
    trimChars (cs ++ after) = trimChars cs := by
  have hreverse : ∀ c ∈ after.reverse, isBlank c = true := by
    intro c hc
    exact h c (List.mem_reverse.mp hc)
  rw [trimChars, trimChars, List.dropWhile_append]
  split
  · next hempty =>
    rw [List.isEmpty_iff.mp hempty, List.dropWhile_eq_nil_iff.mpr h]
  · rw [List.reverse_append, List.dropWhile_append_of_pos hreverse]

theorem allBlank_iff {s : String} : allBlank s = true ↔ ∀ c ∈ s.toList, isBlank c = true :=
  List.all_eq_true

theorem trim_amid_blanks {before after : String} (hbefore : allBlank before = true)
    (hafter : allBlank after = true) (s : String) : trim (before ++ s ++ after) = trim s := by
  rw [trim, String.toList_append, trimChars_append_right (allBlank_iff.mp hafter),
    String.toList_append, trimChars_append_left (allBlank_iff.mp hbefore), trim]

theorem allBlank_amid_blanks {before after : String} (hbefore : allBlank before = true)
    (hafter : allBlank after = true) (s : String) :
    allBlank (before ++ s ++ after) = allBlank s := by
  unfold allBlank at hbefore hafter ⊢
  rw [String.toList_append, String.toList_append, List.all_append, List.all_append, hbefore,
    hafter, Bool.true_and, Bool.and_true]

end GridQuery.Text
