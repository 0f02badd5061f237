import GridQuery.Proofs.Number.Rounding
import GridQuery.Proofs.Request.FilterMembers

/-!
Filters written as JSON and read again. Every filter that has been read has finite operands, and so
is read back.
-/

namespace GridQuery

open GridQuery.Json GridQuery.Number

/-- Every number that JSON has is finite as a floating-point value. -/
theorem JsonNumber.exists_toBinary64 (n : JsonNumber) : ∃ x, n.toBinary64 = .finite x := by
  have hsmall {k : Nat} (hk : k ≤ 2 ^ 64) : (k : ℚ) / (1 : Nat) < 2 ^ (1023 : ℤ) := by
    have hcast : (k : ℚ) ≤ 2 ^ (64 : ℤ) := by exact_mod_cast hk
    rw [Nat.cast_one, div_one]
    exact hcast.trans_lt (zpow_lt_zpow_right₀ (by norm_num) (by norm_num))
  have h63 : twoTo 63 = 2 ^ 63 := rfl
  have h64 : twoTo 64 = 2 ^ 64 := rfl
  cases n with
  | natural n hn => exact Binary64.exists_finite_ofRatio Nat.one_pos (hsmall (by omega))
  | negative n hn => exact Binary64.exists_finite_ofRatio Nat.one_pos (hsmall (by omega))
  | float x => exact ⟨x, rfl⟩

section

variable {α : Type} {words : List (String × α)} {a : α}

theorem lookup_of_mem {word : String} (hdistinct : (words.map Prod.fst).Nodup)
    (h : (word, a) ∈ words) : words.lookup word = some a := by
  induction words with
  | nil => cases h
  | cons w r ih =>
    obtain ⟨hw, hr⟩ := List.nodup_cons.mp hdistinct
    rcases List.mem_cons.mp h with rfl | h
    · exact List.lookup_cons_self
    · have hne : word ≠ w.1 := by
        intro heq
        exact hw (heq ▸ List.mem_map_of_mem h)
      rw [List.lookup_cons, beq_eq_false_iff_ne.mpr hne]
      exact ih hr h

theorem wordOf_mem [DecidableEq α] (ha : a ∈ words.map Prod.snd) :
    (wordOf words a, a) ∈ words := by
  obtain ⟨w, hw, rfl⟩ := List.mem_map.mp ha
  cases hfind : words.find? fun v => v.2 = w.2 with
  | none =>
    have hnone := List.find?_eq_none.mp hfind w hw
    simp at hnone
  | some v =>
    have hv : v.2 = w.2 := by simpa using List.find?_some hfind
    have hword : wordOf words w.2 = v.1 := by rw [wordOf, hfind]; rfl
    rw [hword, ← hv]
    exact List.mem_of_find?_eq_some hfind

/-- The word that is written for a kind is read as this kind. -/
theorem lookupWord_wordOf [DecidableEq α] (hdistinct : (words.map Prod.fst).Nodup)
    (ha : a ∈ words.map Prod.snd) : Doc.lookupWord words (wordOf words a) = .ok a := by
  rw [Doc.lookupWord, lookup_of_mem hdistinct (wordOf_mem ha)]

end

namespace ColumnFilter

def IsFiniteOperand (operand : Option Binary64) : Prop :=
  ∀ x ∈ operand, x.isFinite = true

theorem isFiniteOperand_none : IsFiniteOperand none := by
  intro x hx
  cases hx

theorem isFiniteOperand_some {x : Binary64} (h : x.isFinite = true) :
    IsFiniteOperand (some x) := by
  intro y hy
  cases hy
  exact h

/-- The operands that are there are finite. -/
def IsFinite : ColumnFilter → Prop
  | set _ => True
  | text _ _ => True
  | number _ operand upper => IsFiniteOperand operand ∧ IsFiniteOperand upper

def tag : ColumnFilter → Tag
  | set _ => .set
  | text _ _ => .text
  | number _ _ _ => .number

/-- The members that a filter is written with, the tag apart. -/
def fields : ColumnFilter → List (String × Json)
  | set values => [("values", .array (values.map .text))]
  | text kind operand =>
    [("type", .text (wordOf textFilterWords kind)), ("filter", (operand.map .text).getD .null)]
  | number kind operand upper =>
    [("type", .text (wordOf numberFilterWords kind)), ("filter", ofNumber operand),
      ("filterTo", ofNumber upper)]

theorem toJson_eq (f : ColumnFilter) :
    f.toJson = .object ((tagName, .text (wordOf tagWords f.tag)) :: f.fields) := by
  cases f with
  | set values => rfl
  | text kind operand => rfl
  | number kind operand upper => rfl

theorem readTag_wordOf (tag : Tag) : readTag (.text (wordOf tagWords tag)) = .ok tag :=
  lookupWord_wordOf (by decide) (by cases tag <;> decide)

theorem nodup_names (f : ColumnFilter) : (tagName :: f.fields.map Prod.fst).Nodup := by
  cases f with
  | set values => exact (by decide : [tagName, "values"].Nodup)
  | text kind operand => exact (by decide : [tagName, "type", "filter"].Nodup)
  | number kind operand upper =>
    exact (by decide : [tagName, "type", "filter", "filterTo"].Nodup)

theorem height_texts (values : List String) : (Json.array (values.map .text)).height = 1 := by
  have hitems : itemsHeight (values.map .text) = 0 := by
    induction values with
    | nil => rfl
    | cons v r ih =>
      rw [List.map_cons, itemsHeight, ih]
      rfl
  rw [height, hitems]

theorem height_ofNumber (operand : Option Binary64) : (ofNumber operand).height = 0 := by
  cases operand with
  | none => rfl
  | some x =>
    cases x with
    | finite x => rfl
    | nan => rfl
    | infinite s => rfl

theorem height_ofText (operand : Option String) :
    ((operand.map Json.text).getD .null).height = 0 := by
  cases operand with
  | none => rfl
  | some s => rfl

/-- No field has more inside it than the texts of a list. -/
theorem height_fields (f : ColumnFilter) : ∀ m ∈ f.fields, m.2.height ≤ 1 := by
  cases f with
  | set values => simp [fields, height_texts]
  | text kind operand => simp [fields, height, height_ofText]
  | number kind operand upper => simp [fields, height, height_ofNumber]

theorem asList_texts (values : List String) :
    Doc.asList Doc.asText (Json.array (values.map .text)).toDoc = .ok values := by
  have hitems : Doc.readItems Doc.asText ((values.map Json.text).map toDoc) = .ok values := by
    induction values with
    | nil => rfl
    | cons v r ih =>
      rw [List.map_cons, List.map_cons, Doc.readItems, ih]
      rfl
  rw [toDoc, itemsToDoc_eq_map, Doc.asList, hitems]
  rfl

theorem asOptional_text (operand : Option String) :
    Doc.asOptional Doc.asText ((operand.map Json.text).getD .null).toDoc = .ok operand := by
  cases operand with
  | none => rfl
  | some s => rfl

theorem asOptional_number {operand : Option Binary64} (h : IsFiniteOperand operand) :
    Doc.asOptional Doc.asNumber (ofNumber operand).toDoc = .ok operand := by
  cases operand with
  | none => rfl
  | some x =>
    cases x with
    | finite x => rfl
    | nan => cases h _ rfl
    | infinite s => cases h _ rfl

theorem readVariant_fields {f : ColumnFilter} (hf : f.IsFinite) :
    readVariant f.tag (.ofMembers (docs f.fields)) = .ok f := by
  cases f with
  | set values =>
    simp [readVariant, tag, fields, docs, Doc.ofMembers, Doc.asRecord, Doc.readMembers,
      Doc.readMember, setFields, asList_texts, bind, Except.bind, pure, Except.pure, Doc.closing,
      Tail.readFault?]
  | text kind operand =>
    have hkind : Doc.asHeldWord textFilterWords (.text (wordOf textFilterWords kind)) = .ok kind :=
      lookupWord_wordOf (by decide) (by cases kind <;> decide)
    simp [readVariant, tag, fields, docs, toDoc, Doc.ofMembers, Doc.asRecord, Doc.readMembers,
      Doc.readMember, textFields, hkind, asOptional_text, bind, Except.bind, pure, Except.pure,
      Doc.closing, Tail.readFault?, required]
  | number kind operand upper =>
    have hkind : Doc.asHeldWord numberFilterWords (.text (wordOf numberFilterWords kind)) =
        .ok kind :=
      lookupWord_wordOf (by decide) (by cases kind <;> decide)
    simp [readVariant, tag, fields, docs, toDoc, Doc.ofMembers, Doc.asRecord, Doc.readMembers,
      Doc.readMember, numberFields, hkind, asOptional_number hf.1, asOptional_number hf.2, bind,
      Except.bind, pure, Except.pure, Doc.closing, Tail.readFault?, required]

variable {depth : Nat} {ms : List (String × Json)} {f : ColumnFilter}

/-- Beside the tag there are the fields, in some order. -/
theorem perm_others (hperm : ms.Perm ((tagName, .text (wordOf tagWords f.tag)) :: f.fields)) :
    (others (docs ms)).Perm (docs f.fields) := by
  have hkept : others (docs ((tagName, .text (wordOf tagWords f.tag)) :: f.fields)) =
      docs f.fields := by
    have hcons : docs ((tagName, .text (wordOf tagWords f.tag)) :: f.fields) =
        (tagName, .text (wordOf tagWords f.tag)) :: docs f.fields := rfl
    rw [hcons, others, List.filter_cons_of_neg (by simp), List.filter_eq_self]
    intro m hm
    rw [bne_iff_ne]
    intro heq
    apply (List.nodup_cons.mp f.nodup_names).1
    rw [← map_fst_docs]
    exact heq ▸ List.mem_map_of_mem hm
  rw [← hkept]
  exact (hperm.map _).filter _

/-- A filter is read back wherever it may stand, and whatever the order of its members. -/
theorem read_of_perm (hf : f.IsFinite) (hdepth : depth + 2 ≤ maxDepth)
    (hperm : ms.Perm ((tagName, .text (wordOf tagWords f.tag)) :: f.fields)) :
    read depth (Json.object ms).toDoc = .ok f := by
  have hnames : ((docs ms).map Prod.fst).Nodup := by
    rw [map_fst_docs, (hperm.map Prod.fst).nodup_iff]
    exact f.nodup_names
  have hothers := perm_others hperm
  rw [toDoc_object, read_ofMembers_eq_ok_iff hnames]
  refine ⟨?_, f.tag, ⟨_, ?_, readTag_wordOf f.tag⟩, ?_⟩
  · intro m hm
    obtain ⟨j, hj, rfl⟩ := List.mem_map.mp (hothers.mem_iff.mp hm)
    have hheight := f.height_fields j hj
    exact (holds_toDoc_iff j.2 (by omega)).mpr (by omega)
  · exact List.mem_map.mpr ⟨_, hperm.mem_iff.mpr List.mem_cons_self, rfl⟩
  · have hsame : SameMembers (hasField f.tag) Doc.Skips (fun _ => Eq) (docs f.fields)
        (others (docs ms)) := by
      refine .of_perm ?_ (hnames.sublist (List.filter_sublist.map _)) ?_ (hothers.symm.filter _)
      · rw [map_fst_docs]
        exact (List.nodup_cons.mp f.nodup_names).2
      · intro m hm _
        rcases List.mem_append.mp hm with hm | hm
        · exact skips_of_mem_docs hm
        · exact skips_of_mem_docs (List.mem_of_mem_filter hm)
    exact (toOption_congr_iff.mp (toOption_readVariant hsame) f).mp (readVariant_fields hf)

theorem isFiniteOperand_of_asOptional {d : Doc} {operand : Option Binary64}
    (h : Doc.asOptional Doc.asNumber d = .ok operand) : IsFiniteOperand operand := by
  cases d with
  | null =>
    cases h
    exact isFiniteOperand_none
  | number n =>
    obtain ⟨x, hx⟩ := n.exists_toBinary64
    cases h
    exact isFiniteOperand_some (hx ▸ rfl)
  | bool b => cases h
  | text s => cases h
  | valueless => cases h
  | broken why => cases h
  | array items tail => cases h
  | object members tail => cases h

def Parts.IsFinite {κ : Type} (p : Parts κ Binary64) : Prop :=
  IsFiniteOperand p.operand ∧ IsFiniteOperand p.upper

theorem isFinite_numberFields :
    ∀ field ∈ numberFields, ∀ (d : Doc) (p p' : Parts NumberFilterKind Binary64),
      p.IsFinite → field.read d p = .ok p' → p'.IsFinite := by
  simp only [numberFields, List.forall_mem_cons, List.not_mem_nil, false_implies, implies_true,
    and_true]
  refine ⟨?kind, ?operand, ?upper⟩
  case kind =>
    intro d p p' hp hread
    obtain ⟨kind, -, hp'⟩ := bind_eq_ok_iff.mp hread
    cases hp'
    exact hp
  case operand =>
    intro d p p' hp hread
    obtain ⟨operand, hoperand, hp'⟩ := bind_eq_ok_iff.mp hread
    cases hp'
    exact ⟨isFiniteOperand_of_asOptional hoperand, hp.2⟩
  case upper =>
    intro d p p' hp hread
    obtain ⟨upper, hupper, hp'⟩ := bind_eq_ok_iff.mp hread
    cases hp'
    exact ⟨hp.1, isFiniteOperand_of_asOptional hupper⟩

/-- Whatever a filter is read from, its operands are finite. -/
theorem isFinite_of_readVariant {tag : Tag} {d : Doc} (h : readVariant tag d = .ok f) :
    f.IsFinite := by
  cases tag with
  | set =>
    obtain ⟨values, -, hf⟩ := bind_eq_ok_iff.mp h
    cases hf
    trivial
  | text =>
    obtain ⟨p, -, hf⟩ := bind_eq_ok_iff.mp h
    obtain ⟨kind, -, hf⟩ := bind_eq_ok_iff.mp hf
    cases hf
    trivial
  | number =>
    obtain ⟨p, hp, hf⟩ := bind_eq_ok_iff.mp h
    obtain ⟨kind, -, hf⟩ := bind_eq_ok_iff.mp hf
    cases hf
    exact asRecord_invariant isFinite_numberFields ⟨isFiniteOperand_none, isFiniteOperand_none⟩ hp

theorem isFinite_of_read {d : Doc} (h : read depth d = .ok f) : f.IsFinite := by
  unfold read at h
  split at h
  · obtain ⟨⟨tag, rest⟩, -, h⟩ := bind_eq_ok_iff.mp h
    obtain ⟨tag', -, h⟩ := bind_eq_ok_iff.mp h
    obtain ⟨tag'', -, h⟩ := bind_eq_ok_iff.mp h
    exact isFinite_of_readVariant (mapError_eq_ok_iff.mp h)
  · split at h
    · obtain ⟨found, hclosing, h⟩ := bind_eq_ok_iff.mp h
      rw [← of_closing hclosing] at h
      cases h
    · obtain ⟨tag, -, h⟩ := bind_eq_ok_iff.mp h
      split at h
      · cases h
      · exact isFinite_of_readVariant (mapError_eq_ok_iff.mp h)
  · cases h

theorem decodeValue_eq_ok_iff {v : Json} :
    Doc.decodeValue (read 0) v = .ok f ↔ read 0 v.toDoc = .ok f :=
  mapError_eq_ok_iff

/-- The same SQL or the same error, on every column and in every dialect. -/
def Alike (f g : ColumnFilter) : Prop :=
  ∀ (column : String) (dialect : Sql.Dialect),
    (f.toPredicate column).map (·.render dialect) = (g.toPredicate column).map (·.render dialect)

/-- What becomes of a filter that is written and read. -/
structure RoundTrip (f : ColumnFilter) : Prop where
  own : Doc.decodeValue (read 0) f.toJson = .ok f ↔ f.IsFinite
  reordered : f.IsFinite → ∀ ms ms', f.toJson = .object ms → ms'.Perm ms →
    Doc.decodeValue (read 0) (.object ms') = .ok f
  /-- A filter that has been read is written as what is read as this filter again. -/
  again : ∀ v, Doc.decodeValue (read 0) v = .ok f →
    Doc.decodeValue (read 0) f.toJson = .ok f ∧
      ∀ g, Doc.decodeValue (read 0) f.toJson = .ok g → Alike g f
  /-- Of a value that is nested deeper than any text, too, the fields beside the tag are read. -/
  beside : ∀ tag d, readVariant tag d = .ok f →
    Doc.decodeValue (read 0) f.toJson = .ok f ∧
      ∀ g, Doc.decodeValue (read 0) f.toJson = .ok g → Alike g f

/-- A filter is read back exactly if its operands are finite, as those of all filters are that have
been read. -/
theorem roundTrip (f : ColumnFilter) : RoundTrip f := by
  have hreordered (hf : f.IsFinite) (ms ms' : List (String × Json)) (hms : f.toJson = .object ms)
      (hperm : ms'.Perm ms) : Doc.decodeValue (read 0) (.object ms') = .ok f := by
    rw [toJson_eq, Json.object.injEq] at hms
    subst hms
    exact decodeValue_eq_ok_iff.mpr (read_of_perm hf (by decide) hperm)
  have hown (hf : f.IsFinite) : Doc.decodeValue (read 0) f.toJson = .ok f := by
    rw [toJson_eq]
    exact hreordered hf _ _ f.toJson_eq (.refl _)
  have hagain (hf : f.IsFinite) : Doc.decodeValue (read 0) f.toJson = .ok f ∧
      ∀ g, Doc.decodeValue (read 0) f.toJson = .ok g → Alike g f := by
    refine ⟨hown hf, ?_⟩
    intro g hg
    obtain rfl : f = g := Except.ok.inj ((hown hf).symm.trans hg)
    exact fun _ _ => rfl
  refine ⟨⟨?finite, hown⟩, hreordered, ?again, ?beside⟩
  case finite =>
    intro h
    exact isFinite_of_read (decodeValue_eq_ok_iff.mp h)
  case again =>
    intro v hv
    exact hagain (isFinite_of_read (decodeValue_eq_ok_iff.mp hv))
  case beside =>
    intro tag d hd
    exact hagain (isFinite_of_readVariant hd)

/-- A filter between integers, as a grid sends it. -/
def ages : Json :=
  .object [("filterType", .text "number"), ("type", .text "inRange"), ("filter", .ofNat 1),
    ("filterTo", .ofNat 9)]

/-- The integers are written as floating-point numbers, which are read as the same filter. -/
theorem roundTrip_ages :
    ∃ f, Doc.decodeValue (read 0) ages = .ok f ∧
      f = number .inRange (some (.ofNat 1)) (some (.ofNat 9)) ∧
      Doc.decodeValue (read 0) f.toJson = .ok f ∧
      Doc.decodeValue (read 0) (.object
        [("filterTo", .ofBinary64 (.ofNat 9)), ("filterType", .text "number"),
          ("type", .text "inRange"), ("filter", .ofBinary64 (.ofNat 1))]) = .ok f ∧
      ∀ g, Doc.decodeValue (read 0) f.toJson = .ok g → Alike g f := by
  have hread : Doc.decodeValue (read 0) ages =
      .ok (number .inRange (some (.ofNat 1)) (some (.ofNat 9))) :=
    toOption_eq_some_iff.mp (by decide +kernel)
  have hfinite : (number .inRange (some (.ofNat 1)) (some (.ofNat 9))).IsFinite :=
    ⟨isFiniteOperand_some (by decide +kernel), isFiniteOperand_some (by decide +kernel)⟩
  obtain ⟨-, hreordered, hagain, -⟩ :=
    roundTrip (number .inRange (some (.ofNat 1)) (some (.ofNat 9)))
  obtain ⟨hself, halike⟩ := hagain ages hread
  refine ⟨_, hread, rfl, hself, hreordered hfinite _ _ rfl ?_, halike⟩
  exact @List.perm_append_comm _ [_] [_, _, _]

end ColumnFilter

end GridQuery
