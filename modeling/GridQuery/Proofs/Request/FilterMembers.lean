import GridQuery.Filter.Json
import GridQuery.Proofs.Json.Record

/-!
The members of a filter. The tag may stand at any place among them and says which of the others are
known. Unlike the unknown members of other records, those of a filter are read in full.
-/

namespace GridQuery.ColumnFilter

open GridQuery.Json

/-- The filters of a tag have a field of this name beside the tag. -/
def hasField : Tag → String → Bool
  | .set => isField setFields
  | .text => isField textFields
  | .number => isField numberFields

/-- The same value, or objects that are the same for filters of their tag; a member that those do
not know need only be `extra`. -/
def Same (extra : Doc → Prop) (d e : Doc) : Prop :=
  d = e ∨ ∃ ms ms' tag, d = .ofMembers ms ∧ e = .ofMembers ms' ∧
    (∀ t tag', (tagName, t) ∈ ms → readTag t = .ok tag' → tag' = tag) ∧
    SameMembers (fun name => name == tagName || hasField tag name) extra (fun _ => Eq) ms ms'

/-- The members beside the tag. -/
def others (ms : List (String × Doc)) : List (String × Doc) :=
  ms.filter (·.1 != tagName)

section

variable {depth : Nat} {tag : Option Tag} {t : Tag} {ms : List (String × Doc)}
  {rest : List (Option String × Doc)} {f : ColumnFilter}

theorem splitTag_cons_of_ne {m : String × Doc} {r : List (Option String × Doc)}
    (h : m.1 ≠ tagName) :
    splitTag depth tag ((some m.1, m.2) :: r) = .ok (some t, rest) ↔
      m.2.Holds depth ∧ ∃ rest', splitTag depth tag r = .ok (some t, rest') ∧
        rest = (some m.1, m.2) :: rest' := by
  have hname : (m.1 == tagName) = false := beq_eq_false_iff_ne.mpr h
  rw [splitTag.eq_def, Doc.Holds]
  simp only [hname, Bool.false_eq_true, if_false]
  cases m.2.readFault? depth with
  | some fault => simp
  | none =>
    simp only [true_and]
    rw [bind_eq_ok_iff]
    constructor
    · rintro ⟨⟨tag', rest'⟩, hsplit, hrest⟩
      obtain ⟨rfl, rfl⟩ := Prod.mk.inj (pure_eq_ok_iff.mp hrest)
      exact ⟨rest', hsplit, rfl⟩
    · rintro ⟨rest', hsplit, rfl⟩
      exact ⟨_, hsplit, rfl⟩

/-- Behind the tag every member is read in full and kept. -/
theorem splitTag_behind (hno : tagName ∉ ms.map Prod.fst) {t' : Tag} :
    splitTag depth (some t') (ms.map fun m => (some m.1, m.2)) = .ok (some t, rest) ↔
      (∀ m ∈ ms, m.2.Holds depth) ∧ t = t' ∧ rest = ms.map fun m => (some m.1, m.2) := by
  induction ms generalizing rest with
  | nil => simp [splitTag, eq_comm]
  | cons m r ih =>
    rw [List.map_cons, List.mem_cons, not_or] at hno
    rw [List.map_cons, splitTag_cons_of_ne (Ne.symm hno.1), List.forall_mem_cons, and_assoc]
    refine and_congr_right fun _ => ?_
    constructor
    · rintro ⟨rest', hsplit, rfl⟩
      obtain ⟨hholds, ht, rfl⟩ := (ih hno.2).mp hsplit
      exact ⟨hholds, ht, rfl⟩
    · rintro ⟨hholds, ht, rfl⟩
      exact ⟨_, (ih hno.2).mpr ⟨hholds, ht, rfl⟩, rfl⟩

/-- The tag is found wherever it stands, if all other members can be read in full. -/
theorem splitTag_eq_ok_iff (hdistinct : (ms.map Prod.fst).Nodup) :
    splitTag depth none (ms.map fun m => (some m.1, m.2)) = .ok (some t, rest) ↔
      (∀ m ∈ others ms, m.2.Holds depth) ∧ (∃ d, (tagName, d) ∈ ms ∧ readTag d = .ok t) ∧
        rest = (others ms).map fun m => (some m.1, m.2) := by
  induction ms generalizing rest with
  | nil => simp [splitTag]
  | cons m r ih =>
    obtain ⟨hm, hr⟩ := List.nodup_cons.mp hdistinct
    obtain ⟨name, d⟩ := m
    by_cases hname : name = tagName
    · subst hname
      have hbehind : ∀ m ∈ r, m.1 ≠ tagName :=
        fun m hmem heq => hm (List.mem_map.mpr ⟨m, hmem, heq⟩)
      have hothers : others ((tagName, d) :: r) = r := by
        rw [others, List.filter_cons_of_neg (by simp), List.filter_eq_self]
        intro m hmem
        exact bne_iff_ne.mpr (hbehind m hmem)
      have hhere {d' : Doc} : (tagName, d') ∈ (tagName, d) :: r ↔ d' = d := by
        rw [List.mem_cons, Prod.mk.injEq, eq_self, true_and, or_iff_left]
        exact fun hmem => hbehind _ hmem rfl
      rw [List.map_cons, splitTag, if_pos (by simp)]
      simp only [hothers, hhere, exists_eq_left, bind_eq_ok_iff, splitTag_behind hm]
      constructor
      · rintro ⟨t', hread, hholds, rfl, hrest⟩
        exact ⟨hholds, hread, hrest⟩
      · rintro ⟨hholds, hread, hrest⟩
        exact ⟨t, hread, hholds, rfl, hrest⟩
    · have hothers : others ((name, d) :: r) = (name, d) :: others r :=
        List.filter_cons_of_pos (by simpa using hname)
      have hlater {d' : Doc} : (tagName, d') ∈ (name, d) :: r ↔ (tagName, d') ∈ r := by
        rw [List.mem_cons, Prod.mk.injEq, or_iff_right]
        exact fun heq => hname heq.1.symm
      rw [List.map_cons, splitTag_cons_of_ne hname, hothers, List.forall_mem_cons, and_assoc]
      simp only [hlater, List.map_cons]
      refine and_congr_right fun _ => ?_
      constructor
      · rintro ⟨rest', hsplit, rfl⟩
        obtain ⟨hholds, htag, rfl⟩ := (ih hr).mp hsplit
        exact ⟨hholds, htag, rfl⟩
      · rintro ⟨hholds, htag, rfl⟩
        exact ⟨_, (ih hr).mpr ⟨hholds, htag, rfl⟩, rfl⟩

theorem required_eq_ok_iff {α : Type} {o : Option α} {a : α} : required o = .ok a ↔ o = some a := by
  cases o <;> simp [required]

theorem read_ofMembers_eq_ok_iff (hdistinct : (ms.map Prod.fst).Nodup) :
    read depth (.ofMembers ms) = .ok f ↔
      (∀ m ∈ others ms, m.2.Holds (depth + 1)) ∧ ∃ t,
        (∃ d, (tagName, d) ∈ ms ∧ readTag d = .ok t) ∧
        readVariant t (.ofMembers (others ms)) = .ok f := by
  have hclosing (tag : Option Tag) :
      (Doc.closing Tail.closed tag : Except Fault (Option Tag)) = .ok tag := rfl
  simp only [Doc.ofMembers, read, bind_eq_ok_iff, hclosing, Except.ok.injEq, exists_eq_left',
    required_eq_ok_iff, mapError_eq_ok_iff]
  constructor
  · rintro ⟨⟨tag, rest⟩, hsplit, t, rfl, hf⟩
    obtain ⟨hholds, htag, rfl⟩ := (splitTag_eq_ok_iff hdistinct).mp hsplit
    exact ⟨hholds, t, htag, hf⟩
  · rintro ⟨hholds, t, htag, hf⟩
    exact ⟨_, (splitTag_eq_ok_iff hdistinct).mpr ⟨hholds, htag, rfl⟩, t, rfl, hf⟩

end

theorem setFields_commute : setFields.Pairwise Member.Commutes :=
  List.pairwise_singleton _ _

theorem textFields_commute : textFields.Pairwise Member.Commutes := by
  simp only [textFields, List.pairwise_cons, List.forall_mem_cons, List.not_mem_nil,
    false_implies, implies_true, and_true, List.Pairwise.nil]
  exact Member.commutes_of_puts fun _ _ _ => rfl

theorem numberFields_commute : numberFields.Pairwise Member.Commutes := by
  simp only [numberFields, List.pairwise_cons, List.forall_mem_cons, List.not_mem_nil,
    false_implies, implies_true, and_true, List.Pairwise.nil]
  and_intros <;> exact Member.commutes_of_puts fun _ _ _ => rfl

variable {extra : Doc → Prop} {ms ms' : List (String × Doc)} {tag : Tag}

theorem toOption_readVariant
    (h : SameMembers (hasField tag) Doc.Skips (fun _ => Eq) ms ms') :
    (readVariant tag (.ofMembers ms)).toOption = (readVariant tag (.ofMembers ms')).toOption := by
  cases tag with
  | set => exact toOption_bind_congr (toOption_asRecord_of_equalMembers setFields_commute h) _
  | text => exact toOption_bind_congr (toOption_asRecord_of_equalMembers textFields_commute h) _
  | number => exact toOption_bind_congr (toOption_asRecord_of_equalMembers numberFields_commute h) _

/-- What is known beside the tag is the same as well. -/
theorem sameMembers_others (hextra : ∀ d, extra d → d.Skips)
    (h : SameMembers (fun name => name == tagName || hasField tag name) extra (fun _ => Eq)
      ms ms') :
    SameMembers (hasField tag) Doc.Skips (fun _ => Eq) (others ms) (others ms') := by
  have hdistinct {l : List (String × Doc)} (hl : (l.map Prod.fst).Nodup) :
      ((others l).map Prod.fst).Nodup :=
    hl.sublist (List.filter_sublist.map Prod.fst)
  have hfilter (l : List (String × Doc)) : (others l).filter (fun m => hasField tag m.1) =
      (l.filter fun m => m.1 == tagName || hasField tag m.1).filter
        (fun m => m.1 != tagName && hasField tag m.1) := by
    rw [others, List.filter_filter, List.filter_filter]
    refine List.filter_congr fun m _ => ?_
    cases hname : m.1 == tagName <;> cases hasField tag m.1 <;> simp_all
  refine .of_perm (hdistinct h.distinct) (hdistinct h.distinct') ?_ ?_
  · intro m hm hknown
    rw [others, others, ← List.filter_append, List.mem_filter, bne_iff_ne] at hm
    refine hextra m.2 (h.extra m hm.1 ?_)
    simp [hm.2, hknown]
  · rw [hfilter, hfilter]
    exact h.perm.filter _

theorem Same.symm {d e : Doc} (h : Same extra d e) : Same extra e d := by
  obtain rfl | ⟨ms, ms', tag, rfl, rfl, htag, hsame⟩ := h
  · exact .inl rfl
  · refine .inr ⟨ms', ms, tag, rfl, rfl, ?_, hsame.symm⟩
    intro t tag' ht
    exact htag t tag' ((hsame.mem_iff (m := (tagName, t)) (by simp)).mpr ht)

theorem read_of_same {depth : Nat} (hextra : ∀ d, extra d → d.Holds (depth + 1)) {d e : Doc}
    (h : Same extra d e) {f : ColumnFilter} (hread : read depth d = .ok f) :
    read depth e = .ok f := by
  obtain rfl | ⟨ms, ms', tag, rfl, rfl, htag, hsame⟩ := h
  · exact hread
  obtain ⟨hholds, t, ⟨d, hd, ht⟩, hf⟩ := (read_ofMembers_eq_ok_iff hsame.distinct).mp hread
  obtain rfl := htag d t hd ht
  refine (read_ofMembers_eq_ok_iff hsame.distinct').mpr ⟨?_, t, ⟨d, ?_, ht⟩, ?_⟩
  · intro m hm
    rw [others, List.mem_filter] at hm
    cases hknown : m.1 == tagName || hasField t m.1 with
    | true => exact hholds m (List.mem_filter.mpr ⟨(hsame.mem_iff hknown).mpr hm.1, hm.2⟩)
    | false => exact hextra m.2 (hsame.extra m (List.mem_append_right _ hm.1) hknown)
  · exact (hsame.mem_iff (m := (tagName, d)) (by simp)).mp hd
  · have hskips (d : Doc) (hd : extra d) : d.Skips := Doc.Holds.skips d (hextra d hd)
    have hvariant := toOption_readVariant (sameMembers_others hskips hsame)
    exact (toOption_congr_iff.mp hvariant f).mp hf

theorem toOption_read_of_same {depth : Nat} (hextra : ∀ d, extra d → d.Holds (depth + 1))
    {d e : Doc} (h : Same extra d e) : (read depth d).toOption = (read depth e).toOption := by
  rw [toOption_congr_iff]
  intro f
  exact ⟨read_of_same hextra h, read_of_same hextra h.symm⟩

end GridQuery.ColumnFilter
