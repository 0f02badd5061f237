import GridQuery.Json.Document

/-!
Documents: when two are equal, and how deep a value may be nested for its readers. A value that is
passed over may be nested to any depth, one that is read in full may not.
-/

namespace GridQuery.Json

deriving instance DecidableEq for Tail

namespace Doc

mutual

def agrees : Doc → Doc → Bool
  | null, null => true
  | bool b, bool c => b == c
  | number n, number m => n == m
  | text s, text t => s == t
  | valueless, valueless => true
  | broken b, broken c => b == c
  | array ds t, array es u => itemsAgree ds es && t == u
  | object ms t, object ns u => membersAgree ms ns && t == u
  | _, _ => false

def itemsAgree : List Doc → List Doc → Bool
  | [], [] => true
  | d :: ds, e :: es => d.agrees e && itemsAgree ds es
  | _, _ => false

def membersAgree : List (Option String × Doc) → List (Option String × Doc) → Bool
  | [], [] => true
  | (n, d) :: ms, (m, e) :: ns => n == m && d.agrees e && membersAgree ms ns
  | _, _ => false

end

mutual

theorem agrees_iff : (d e : Doc) → (d.agrees e = true ↔ d = e)
  | null, e => by cases e <;> simp [agrees]
  | bool b, e => by cases e <;> simp [agrees]
  | number n, e => by cases e <;> simp [agrees]
  | text s, e => by cases e <;> simp [agrees]
  | valueless, e => by cases e <;> simp [agrees]
  | broken b, e => by cases e <;> simp [agrees]
  | array ds t, e => by cases e <;> simp [agrees, itemsAgree_iff ds]
  | object ms t, e => by cases e <;> simp [agrees, membersAgree_iff ms]

theorem itemsAgree_iff : (ds es : List Doc) → (itemsAgree ds es = true ↔ ds = es)
  | [], es => by cases es <;> simp [itemsAgree]
  | d :: ds, es => by cases es <;> simp [itemsAgree, agrees_iff d, itemsAgree_iff ds]

theorem membersAgree_iff :
    (ms ns : List (Option String × Doc)) → (membersAgree ms ns = true ↔ ms = ns)
  | [], ns => by cases ns <;> simp [membersAgree]
  | (n, d) :: ms, ns => by
    cases ns <;> simp [membersAgree, agrees_iff d, membersAgree_iff ms, Prod.ext_iff]

end

end Doc

instance : DecidableEq Doc :=
  fun d e => decidable_of_iff (d.agrees e = true) (d.agrees_iff e)

theorem Doc.ofText_ofList (cs : List Char) :
    Doc.ofText (String.ofList cs) =
      match Doc.parseValue (3 * (lexAll cs.length cs).length + 3) (lexAll cs.length cs) with
      | (d, rest) => (d, !rest.isEmpty) := by
  rw [Doc.ofText, tokens, String.toList_ofList]

theorem Tail.skipFault?_of_readFault? {tail : Tail} (h : tail.readFault? = none) :
    tail.skipFault? = none := by
  cases tail with
  | closed => rfl
  | broken why => cases h
  | stray asValue => cases h

namespace Doc

/-- The value may be passed over. -/
def Skips (d : Doc) : Prop := d.skipFault? = none

/-- The value may be read in full inside `depth` containers. -/
def Holds (depth : Nat) (d : Doc) : Prop := d.readFault? depth = none

instance : DecidablePred Skips :=
  fun d => inferInstanceAs (Decidable (d.skipFault? = none))

instance (depth : Nat) : DecidablePred (Holds depth) :=
  fun d => inferInstanceAs (Decidable (d.readFault? depth = none))

mutual

/-- What can be read in full can be passed over. -/
theorem Holds.skips {depth : Nat} : (d : Doc) → d.Holds depth → d.Skips
  | null, _ => rfl
  | bool _, _ => rfl
  | number _, _ => rfl
  | text _, _ => rfl
  | valueless, h => by cases h
  | broken _, h => by cases h
  | array items tail, h => by
    rw [Holds, readFault?] at h
    split at h
    · cases h
    · obtain ⟨hitems, htail⟩ := Option.or_eq_none_iff.mp h
      rw [Skips, skipFault?, itemsSkipFault?_of_itemsReadFault? items hitems,
        Tail.skipFault?_of_readFault? htail]
      rfl
  | object members tail, h => by
    rw [Holds, readFault?] at h
    split at h
    · cases h
    · obtain ⟨hmembers, htail⟩ := Option.or_eq_none_iff.mp h
      rw [Skips, skipFault?, membersSkipFault?_of_membersReadFault? members hmembers,
        Tail.skipFault?_of_readFault? htail]
      rfl

theorem itemsSkipFault?_of_itemsReadFault? {depth : Nat} :
    (ds : List Doc) → itemsReadFault? depth ds = none → itemsSkipFault? ds = none
  | [], _ => rfl
  | d :: r, h => by
    obtain ⟨hd, hr⟩ := Option.or_eq_none_iff.mp h
    have hskips : d.skipFault? = none := Holds.skips d hd
    rw [itemsSkipFault?, hskips, itemsSkipFault?_of_itemsReadFault? r hr]
    rfl

theorem membersSkipFault?_of_membersReadFault? {depth : Nat} :
    (ms : List (Option String × Doc)) → membersReadFault? depth ms = none →
      membersSkipFault? ms = none
  | [], _ => rfl
  | (none, _) :: _, h => by cases h
  | (some _, d) :: r, h => by
    obtain ⟨hd, hr⟩ := Option.or_eq_none_iff.mp h
    have hskips : d.skipFault? = none := Holds.skips d hd
    rw [membersSkipFault?, hskips, membersSkipFault?_of_membersReadFault? r hr]
    rfl

end

end Doc

mutual

/-- Every value can be passed over, to whatever depth it is nested. -/
theorem skips_toDoc : (j : Json) → j.toDoc.Skips
  | null => rfl
  | bool _ => rfl
  | number _ => rfl
  | text _ => rfl
  | array items => by
    rw [toDoc, Doc.Skips, Doc.skipFault?, itemsSkipFault?_itemsToDoc items]
    rfl
  | object members => by
    rw [toDoc, Doc.Skips, Doc.skipFault?, membersSkipFault?_membersToDoc members]
    rfl

theorem itemsSkipFault?_itemsToDoc : (js : List Json) → Doc.itemsSkipFault? (itemsToDoc js) = none
  | [] => rfl
  | j :: r => by
    have hskips : j.toDoc.skipFault? = none := skips_toDoc j
    rw [itemsToDoc, Doc.itemsSkipFault?, hskips, itemsSkipFault?_itemsToDoc r]
    rfl

theorem membersSkipFault?_membersToDoc :
    (ms : List (String × Json)) → Doc.membersSkipFault? (membersToDoc ms) = none
  | [] => rfl
  | (_, j) :: r => by
    have hskips : j.toDoc.skipFault? = none := skips_toDoc j
    rw [membersToDoc, Doc.membersSkipFault?, hskips, membersSkipFault?_membersToDoc r]
    rfl

end

mutual

/-- How many arrays and objects stand in one another. -/
def height : Json → Nat
  | array items => itemsHeight items + 1
  | object members => membersHeight members + 1
  | _ => 0

def itemsHeight : List Json → Nat
  | [] => 0
  | j :: r => max j.height (itemsHeight r)

def membersHeight : List (String × Json) → Nat
  | [] => 0
  | (_, j) :: r => max j.height (membersHeight r)

end

mutual

theorem holds_toDoc_iff {depth : Nat} :
    (j : Json) → depth ≤ maxDepth → (j.toDoc.Holds depth ↔ depth + j.height ≤ maxDepth)
  | null, h => iff_of_true rfl h
  | bool _, h => iff_of_true rfl h
  | number _, h => iff_of_true rfl h
  | text _, h => iff_of_true rfl h
  | array items, h => by
    rw [height, toDoc, Doc.Holds, Doc.readFault?]
    split
    · next hdeep => exact iff_of_false (by simp) (by omega)
    · next hdeep =>
      rw [Tail.readFault?, Option.or_none, itemsReadFault?_itemsToDoc_iff items (by omega)]
      omega
  | object members, h => by
    rw [height, toDoc, Doc.Holds, Doc.readFault?]
    split
    · next hdeep => exact iff_of_false (by simp) (by omega)
    · next hdeep =>
      rw [Tail.readFault?, Option.or_none, membersReadFault?_membersToDoc_iff members (by omega)]
      omega

theorem itemsReadFault?_itemsToDoc_iff {depth : Nat} :
    (js : List Json) → depth ≤ maxDepth →
      (Doc.itemsReadFault? depth (itemsToDoc js) = none ↔ depth + itemsHeight js ≤ maxDepth)
  | [], h => iff_of_true rfl h
  | j :: r, h => by
    have hj := holds_toDoc_iff j h
    rw [Doc.Holds] at hj
    rw [itemsHeight, itemsToDoc, Doc.itemsReadFault?, Option.or_eq_none_iff, hj,
      itemsReadFault?_itemsToDoc_iff r h]
    omega

theorem membersReadFault?_membersToDoc_iff {depth : Nat} :
    (ms : List (String × Json)) → depth ≤ maxDepth →
      (Doc.membersReadFault? depth (membersToDoc ms) = none ↔ depth + membersHeight ms ≤ maxDepth)
  | [], h => iff_of_true rfl h
  | (_, j) :: r, h => by
    have hj := holds_toDoc_iff j h
    rw [Doc.Holds] at hj
    rw [membersHeight, membersToDoc, Doc.membersReadFault?, Option.or_eq_none_iff, hj,
      membersReadFault?_membersToDoc_iff r h]
    omega

end

end GridQuery.Json
