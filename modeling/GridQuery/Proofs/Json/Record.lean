import GridQuery.Json.Decode
import GridQuery.Proofs.Json.Document
import GridQuery.Proofs.Outcome
import Mathlib.Data.List.Nodup
import Mathlib.Data.List.Pairwise

/-!
Objects whose member names differ, and what a record takes from them: neither the order of the
members counts nor the members that it does not know, if these can be passed over.
-/

namespace GridQuery.Json

variable {σ α : Type}

/-- A complete object. -/
def Doc.ofMembers (ms : List (String × Doc)) : Doc :=
  .object (ms.map fun m => (some m.1, m.2)) .closed

theorem itemsToDoc_eq_map (js : List Json) : itemsToDoc js = js.map toDoc := by
  induction js with
  | nil => rfl
  | cons j r ih => rw [itemsToDoc, ih, List.map_cons]

/-- Members whose values have become documents. -/
def docs (ms : List (String × Json)) : List (String × Doc) :=
  ms.map fun m => (m.1, m.2.toDoc)

theorem map_fst_docs (ms : List (String × Json)) : (docs ms).map Prod.fst = ms.map Prod.fst := by
  rw [docs, List.map_map]
  rfl

theorem toDoc_object (ms : List (String × Json)) :
    (object ms).toDoc = .ofMembers (docs ms) := by
  have hmembers : membersToDoc ms = ms.map fun m => (some m.1, m.2.toDoc) := by
    induction ms with
    | nil => rfl
    | cons m r ih => rw [membersToDoc, ih, List.map_cons]
  rw [toDoc, Doc.ofMembers, hmembers, docs, List.map_map]
  rfl

theorem skips_of_mem_docs {ms : List (String × Json)} {m : String × Doc} (h : m ∈ docs ms) :
    m.2.Skips := by
  obtain ⟨j, -, rfl⟩ := List.mem_map.mp h
  exact skips_toDoc j.2

/-- Two objects, each with different names, whose known members are alike but for their order. All
other members need only be `extra`. -/
structure SameMembers (known : String → Bool) (extra : Doc → Prop) (R : String → Doc → Doc → Prop)
    (ms ms' : List (String × Doc)) : Prop where
  distinct : (ms.map Prod.fst).Nodup
  distinct' : (ms'.map Prod.fst).Nodup
  extra : ∀ m ∈ ms ++ ms', known m.1 = false → extra m.2
  same : ∃ l, l.Perm (ms.filter fun m => known m.1) ∧
    List.Forall₂ (fun m m' => m.1 = m'.1 ∧ R m.1 m.2 m'.2) l (ms'.filter fun m => known m.1)

namespace SameMembers

variable {known : String → Bool} {extra : Doc → Prop} {ms ms' : List (String × Doc)}

theorem of_perm (hdistinct : (ms.map Prod.fst).Nodup) (hdistinct' : (ms'.map Prod.fst).Nodup)
    (hextra : ∀ m ∈ ms ++ ms', known m.1 = false → extra m.2)
    (h : (ms.filter fun m => known m.1).Perm (ms'.filter fun m => known m.1)) :
    SameMembers known extra (fun _ => Eq) ms ms' where
  distinct := hdistinct
  distinct' := hdistinct'
  extra := hextra
  same := ⟨_, h.symm, List.forall₂_same.mpr fun _ _ => ⟨rfl, rfl⟩⟩

/-- Where alike means equal, the known members are the same but for their order. -/
theorem perm (h : SameMembers known extra (fun _ => Eq) ms ms') :
    (ms.filter fun m => known m.1).Perm (ms'.filter fun m => known m.1) := by
  obtain ⟨l, hperm, hvalues⟩ := h.same
  have heq : l = ms'.filter fun m => known m.1 := by
    rw [← List.forall₂_eq_eq_eq]
    exact hvalues.imp fun m m' hm => Prod.ext hm.1 hm.2
  exact heq ▸ hperm.symm

theorem mem_iff (h : SameMembers known extra (fun _ => Eq) ms ms') {m : String × Doc}
    (hm : known m.1 = true) : m ∈ ms ↔ m ∈ ms' := by
  have hmem := h.perm.mem_iff (a := m)
  rwa [List.mem_filter, List.mem_filter, and_iff_left hm, and_iff_left hm] at hmem

theorem symm (h : SameMembers known extra (fun _ => Eq) ms ms') :
    SameMembers known extra (fun _ => Eq) ms' ms :=
  .of_perm h.distinct' h.distinct
    (fun m hm => h.extra m (List.mem_append.mpr (List.mem_append.mp hm).symm)) h.perm.symm

end SameMembers

/-- The record has a field of this name. -/
def isField (fields : List (Member σ)) (name : String) : Bool :=
  fields.any (·.name == name)

/-- The same value, or objects that are the same for a record with these fields. -/
def SameObject (fields : List (Member σ)) (R : String → Doc → Doc → Prop) (d e : Doc) : Prop :=
  d = e ∨ ∃ ms ms', d = .ofMembers ms ∧ e = .ofMembers ms' ∧
    SameMembers (isField fields) Doc.Skips R ms ms'

/-- The same value, or lists whose items are alike one by one. -/
def SameList (R : Doc → Doc → Prop) (d e : Doc) : Prop :=
  d = e ∨ ∃ ds es, d = .array ds .closed ∧ e = .array es .closed ∧ List.Forall₂ R ds es

namespace Member

/-- Either field may be read before the other. -/
def Commutes (f g : Member σ) : Prop :=
  ∀ d e s, (f.read d s >>= g.read e).toOption = (g.read e s >>= f.read d).toOption

instance : Std.Symm (Commutes (σ := σ)) where
  symm _ _ h d e s := (h e d s).symm

/-- Fields that each put a value into a place of its own may be read in either order. -/
theorem commutes_of_puts {α β : Type} {n m : String} {f : Doc → Except Fault α}
    {g : Doc → Except Fault β} {put : α → σ → σ} {put' : β → σ → σ}
    (h : ∀ a b s, put' b (put a s) = put a (put' b s)) :
    Commutes ⟨n, fun d s => do return put (← f d) s⟩ ⟨m, fun d s => do return put' (← g d) s⟩ := by
  intro d e s
  cases hf : f d <;> cases hg : g e <;>
    simp [bind, Except.bind, pure, Except.pure, Except.toOption, hf, hg, h]

/-- Values that are alike are the same to every field that reads them. -/
def Respects (fields : List (Member σ)) (R : String → Doc → Doc → Prop) : Prop :=
  ∀ f ∈ fields, ∀ d e, R f.name d e → ∀ s, (f.read d s).toOption = (f.read e s).toOption

theorem respects_eq (fields : List (Member σ)) : Respects fields fun _ => Eq := by
  rintro f - d _ rfl s
  rfl

/-- What a member makes of a record; a name that no field has leaves it as it is. -/
def put? (fields : List (Member σ)) (s : σ) (m : String × Doc) : Option σ :=
  match fields.find? (·.name == m.1) with
  | some field => (field.read m.2 s).toOption
  | none => some s

end Member

open Member

/-- What is made of a start value by all members in turn, unless one of them is refused. -/
def takeAll? (step : σ → String × Doc → Option σ) (s : Option σ) (ms : List (String × Doc)) :
    Option σ :=
  ms.foldl (fun s m => s.bind (step · m)) s

section

variable {step : σ → String × Doc → Option σ} {ms ms' : List (String × Doc)}

theorem takeAll?_none (ms : List (String × Doc)) : takeAll? step none ms = none := by
  induction ms with
  | nil => rfl
  | cons m r ih => exact ih

theorem takeAll?_cons (m : String × Doc) (r : List (String × Doc)) (s : σ) :
    takeAll? step (some s) (m :: r) = takeAll? step (step s m) r :=
  rfl

/-- If members of different names may change places, the order of them all is free. -/
theorem takeAll?_perm
    (hcomm : ∀ m n : String × Doc, m.1 ≠ n.1 → ∀ s,
      (step s m).bind (step · n) = (step s n).bind (step · m))
    (h : ms.Perm ms') (hdistinct : (ms.map Prod.fst).Nodup) (s : Option σ) :
    takeAll? step s ms = takeAll? step s ms' := by
  apply h.foldl_eq'
  intro m hm n hn s
  by_cases heq : m = n
  · rw [heq]
  · have hname : m.1 ≠ n.1 := fun hname => heq (List.inj_on_of_nodup_map hdistinct hm hn hname)
    cases s with
    | none => rfl
    | some s => exact hcomm m n hname s

theorem takeAll?_forall₂ (h : List.Forall₂ (fun m m' => ∀ s, step s m = step s m') ms ms')
    (s : Option σ) : takeAll? step s ms = takeAll? step s ms' := by
  induction h generalizing s with
  | nil => rfl
  | @cons m m' r r' hm hr ih =>
    have hstep : s.bind (step · m) = s.bind (step · m') := congrArg s.bind (funext hm)
    rw [takeAll?, takeAll?, List.foldl_cons, List.foldl_cons, hstep]
    exact ih _

end

variable {fields : List (Member σ)} {ms ms' : List (String × Doc)} {s : σ}

theorem isField_eq_false_iff {n : String} :
    isField fields n = false ↔ fields.find? (·.name == n) = none := by
  rw [isField, List.find?_eq_none, List.any_eq_false]

/-- The members of an object are put into the record one after the other: a name that does not
repeat is never refused. -/
theorem toOption_readMembers {seen : List String} (hdistinct : (ms.map Prod.fst).Nodup)
    (hseen : ∀ m ∈ ms, m.1 ∉ seen)
    (hskips : ∀ m ∈ ms, isField fields m.1 = false → m.2.Skips) :
    (Doc.readMembers fields seen s (ms.map fun m => (some m.1, m.2))).toOption =
      takeAll? (put? fields) (some s) ms := by
  induction ms generalizing seen s with
  | nil => rfl
  | cons m r ih =>
    obtain ⟨hm, hr⟩ := List.nodup_cons.mp hdistinct
    rw [List.map_cons, Doc.readMembers, toOption_bind, Doc.readMember, takeAll?_cons, put?]
    cases hfind : fields.find? (·.name == m.1) with
    | none =>
      have hskip : m.2.skipFault? = none :=
        hskips m List.mem_cons_self (isField_eq_false_iff.mpr hfind)
      simp only [hskip]
      exact ih hr (fun m' hm' => hseen m' (List.mem_cons_of_mem m hm'))
        fun m' hm' => hskips m' (List.mem_cons_of_mem m hm')
    | some field =>
      have hnew : seen.contains m.1 = false := by
        simpa using hseen m List.mem_cons_self
      simp only [hnew, Bool.false_eq_true, if_false]
      cases hread : field.read m.2 s with
      | error f => exact (takeAll?_none r).symm
      | ok s' =>
        refine ih hr ?_ fun m' hm' => hskips m' (List.mem_cons_of_mem m hm')
        intro m' hm' hmem
        rcases List.mem_cons.mp hmem with heq | hmem
        · exact hm (heq ▸ List.mem_map_of_mem hm')
        · exact hseen m' (List.mem_cons_of_mem m hm') hmem

/-- Members of different names may change places. -/
theorem put?_comm (hfields : fields.Pairwise Commutes) {m n : String × Doc} (h : m.1 ≠ n.1)
    (s : σ) : (put? fields s m).bind (put? fields · n) =
      (put? fields s n).bind (put? fields · m) := by
  unfold put?
  cases hm : fields.find? (·.name == m.1) with
  | none => simp
  | some f =>
    cases hn : fields.find? (·.name == n.1) with
    | none => simp
    | some g =>
      have hne : f ≠ g := by
        rintro rfl
        have hf := List.find?_some hm
        have hg := List.find?_some hn
        exact h ((eq_of_beq hf).symm.trans (eq_of_beq hg))
      have hcommutes := hfields.forall (List.mem_of_find?_eq_some hm)
        (List.mem_of_find?_eq_some hn) hne m.2 n.2 s
      rwa [toOption_bind, toOption_bind] at hcommutes

/-- Unknown members leave no trace. -/
theorem takeAll?_filter (ms : List (String × Doc)) (s : Option σ) :
    takeAll? (put? fields) s (ms.filter fun m => isField fields m.1) =
      takeAll? (put? fields) s ms := by
  induction ms generalizing s with
  | nil => rfl
  | cons m r ih =>
    cases hknown : isField fields m.1 with
    | true =>
      rw [List.filter_cons, if_pos hknown]
      exact ih _
    | false =>
      have hput : (s.bind fun s => put? fields s m) = s := by
        cases s with
        | none => rfl
        | some s =>
          rw [Option.bind_some, put?, isField_eq_false_iff.mp hknown]
      rw [List.filter_cons, if_neg (by simp [hknown]), ih, takeAll?, takeAll?, List.foldl_cons,
        hput]

/-- Members with alike values make the same of a record. -/
theorem put?_congr {R : String → Doc → Doc → Prop} (hR : Respects fields R) {m m' : String × Doc}
    (hm : m.1 = m'.1 ∧ R m.1 m.2 m'.2) (s : σ) :
    put? fields s m = put? fields s m' := by
  obtain ⟨hname, hvalue⟩ := hm
  unfold put?
  rw [← hname]
  cases hfind : fields.find? (·.name == m.1) with
  | none => rfl
  | some field =>
    have hfield := List.find?_some hfind
    have hfield : field.name = m.1 := eq_of_beq hfield
    exact hR field (List.mem_of_find?_eq_some hfind) m.2 m'.2 (hfield.symm ▸ hvalue) s

theorem toOption_asRecord_ofMembers {start : σ} (hdistinct : (ms.map Prod.fst).Nodup)
    (hskips : ∀ m ∈ ms, isField fields m.1 = false → m.2.Skips) :
    (Doc.asRecord fields start (.ofMembers ms)).toOption =
      takeAll? (put? fields) (some start) ms := by
  have hread := @toOption_readMembers _ fields ms start [] hdistinct (by simp) hskips
  rw [Doc.ofMembers, Doc.asRecord, toOption_bind, hread]
  cases takeAll? (put? fields) (some start) ms <;> rfl

theorem toOption_asRecord_of_sameMembers {R : String → Doc → Doc → Prop} {start : σ}
    (hfields : fields.Pairwise Commutes) (hR : Respects fields R)
    (h : SameMembers (isField fields) Doc.Skips R ms ms') :
    (Doc.asRecord fields start (.ofMembers ms)).toOption =
      (Doc.asRecord fields start (.ofMembers ms')).toOption := by
  obtain ⟨hdistinct, hdistinct', hextra, l, hperm, hvalues⟩ := h
  have hknown : ((ms.filter fun m => isField fields m.1).map Prod.fst).Nodup :=
    hdistinct.sublist (List.filter_sublist.map Prod.fst)
  rw [toOption_asRecord_ofMembers hdistinct fun m hm => hextra m (List.mem_append_left _ hm),
    toOption_asRecord_ofMembers hdistinct' fun m hm => hextra m (List.mem_append_right _ hm)]
  calc takeAll? (put? fields) (some start) ms
      = takeAll? (put? fields) (some start) (ms.filter fun m => isField fields m.1) :=
        (takeAll?_filter ms _).symm
    _ = takeAll? (put? fields) (some start) l :=
        takeAll?_perm (fun _ _ hname => put?_comm hfields hname) hperm.symm hknown _
    _ = takeAll? (put? fields) (some start) (ms'.filter fun m => isField fields m.1) :=
        takeAll?_forall₂ (hvalues.imp fun _ _ => put?_congr hR) _
    _ = takeAll? (put? fields) (some start) ms' := takeAll?_filter ms' _

theorem toOption_asRecord_of_equalMembers {start : σ} (hfields : fields.Pairwise Commutes)
    (h : SameMembers (isField fields) Doc.Skips (fun _ => Eq) ms ms') :
    (Doc.asRecord fields start (.ofMembers ms)).toOption =
      (Doc.asRecord fields start (.ofMembers ms')).toOption :=
  toOption_asRecord_of_sameMembers hfields (respects_eq fields) h

theorem toOption_asRecord_of_sameObject {R : String → Doc → Doc → Prop} {start : σ} {d e : Doc}
    (hfields : fields.Pairwise Commutes) (hR : Respects fields R)
    (h : SameObject fields R d e) :
    (Doc.asRecord fields start d).toOption = (Doc.asRecord fields start e).toOption := by
  obtain rfl | ⟨ms, ms', rfl, rfl, hsame⟩ := h
  · rfl
  · exact toOption_asRecord_of_sameMembers hfields hR hsame

theorem toOption_asList_of_sameList {read : Doc → Except Fault α} {R : Doc → Doc → Prop} {d e : Doc}
    (hR : ∀ d e, R d e → (read d).toOption = (read e).toOption) (h : SameList R d e) :
    (d.asList read).toOption = (e.asList read).toOption := by
  obtain rfl | ⟨ds, es, rfl, rfl, hitems⟩ := h
  · rfl
  · have hread : (Doc.readItems read ds).toOption = (Doc.readItems read es).toOption := by
      induction hitems with
      | nil => rfl
      | cons hitem _ ih =>
        simp only [Doc.readItems, toOption_bind, hR _ _ hitem, ih]
    exact toOption_bind_congr hread _

theorem of_closing {tail : Tail} {a b : α} (h : Doc.closing tail a = .ok b) : a = b := by
  unfold Doc.closing at h
  split at h
  · cases h
  · exact Except.ok.inj h

section

variable {P : σ → Prop} (hfields : ∀ f ∈ fields, ∀ d s s', P s → f.read d s = .ok s' → P s')

include hfields

theorem readMembers_invariant {seen : List String} {members : List (Option String × Doc)} {s s' : σ}
    (hs : P s) (h : Doc.readMembers fields seen s members = .ok s') : P s' := by
  induction members generalizing seen s with
  | nil =>
    cases h
    exact hs
  | cons m r ih =>
    obtain ⟨_ | name, d⟩ := m
    · cases h
    · obtain ⟨⟨seen', s₁⟩, hmember, h⟩ := bind_eq_ok_iff.mp h
      refine ih ?_ h
      unfold Doc.readMember at hmember
      split at hmember
      · next field hfind =>
        split at hmember
        · cases hmember
        · obtain ⟨s₂, hread, hmember⟩ := bind_eq_ok_iff.mp hmember
          obtain ⟨-, rfl⟩ := Prod.mk.inj (pure_eq_ok_iff.mp hmember)
          exact hfields field (List.mem_of_find?_eq_some hfind) d s s₂ hs hread
      · split at hmember
        · cases hmember
        · cases hmember
          exact hs

theorem readPositions_invariant {tail : Tail} {items : List Doc} {s s' : σ} (hs : P s)
    (h : Doc.readPositions tail fields items s = .ok s') : P s' := by
  induction fields generalizing items s with
  | nil =>
    cases items with
    | nil => exact of_closing h ▸ hs
    | cons d r => cases h
  | cons f fs ih =>
    cases items with
    | nil => exact of_closing h ▸ hs
    | cons d r =>
      obtain ⟨s₁, hread, h⟩ := bind_eq_ok_iff.mp h
      refine ih (fun g hg => hfields g (List.mem_cons_of_mem f hg)) ?_ h
      exact hfields f List.mem_cons_self d s s₁ hs hread

/-- What the start value has and no field destroys, a record has from whatever form it is read. -/
theorem asRecord_invariant {start r : σ} {d : Doc} (hstart : P start)
    (h : Doc.asRecord fields start d = .ok r) : P r := by
  cases d with
  | object members tail =>
    obtain ⟨s, hread, h⟩ := bind_eq_ok_iff.mp h
    exact of_closing h ▸ readMembers_invariant hfields hstart hread
  | array items tail => exact readPositions_invariant hfields hstart h
  | null => cases h
  | bool b => cases h
  | number n => cases h
  | text s => cases h
  | valueless => cases h
  | broken why => cases h

end

end GridQuery.Json
