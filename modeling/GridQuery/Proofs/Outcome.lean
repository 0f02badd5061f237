import GridQuery.Compile
import Mathlib.Data.List.Forall2

/-!
What a sequence of steps that may be refused has done when it succeeds, and where its error came
from when it does not. Later modules take compilation apart with these facts alone.
-/

namespace GridQuery

variable {ε α β γ : Type}

theorem bind_eq_ok_iff {x : Except ε α} {f : α → Except ε β} {b : β} :
    (x >>= f) = .ok b ↔ ∃ a, x = .ok a ∧ f a = .ok b := by
  cases x with
  | error e => simp [bind, Except.bind]
  | ok a => simp [bind, Except.bind]

theorem bind_eq_error_iff {x : Except ε α} {f : α → Except ε β} {e : ε} :
    (x >>= f) = .error e ↔ x = .error e ∨ ∃ a, x = .ok a ∧ f a = .error e := by
  cases x with
  | error e => simp [bind, Except.bind]
  | ok a => simp [bind, Except.bind]

theorem pure_eq_ok_iff {a b : α} : (pure a : Except ε α) = .ok b ↔ a = b := by
  simp [pure, Except.pure]

theorem pure_ne_error {a : α} {e : ε} : (pure a : Except ε α) ≠ .error e := by
  simp [pure, Except.pure]

/-- The step is not refused. -/
def Succeeds (x : Except ε α) : Prop :=
  ∃ a, x = .ok a

theorem exists_eq_ok {x : Except ε α} : (∃ a, x = .ok a) ↔ Succeeds x := Iff.rfl

@[simp] theorem succeeds_ok (a : α) : Succeeds (.ok a : Except ε α) := ⟨a, rfl⟩

@[simp] theorem succeeds_pure (a : α) : Succeeds (pure a : Except ε α) := ⟨a, rfl⟩

@[simp] theorem not_succeeds_error (e : ε) : ¬ Succeeds (.error e : Except ε α) := by
  rintro ⟨a, h⟩
  cases h

theorem succeeds_bind {x : Except ε α} {f : α → Except ε β} :
    Succeeds (x >>= f) ↔ ∃ a, x = .ok a ∧ Succeeds (f a) := by
  simp only [Succeeds, bind_eq_ok_iff]
  exact ⟨fun ⟨b, a, ha, hb⟩ => ⟨a, ha, b, hb⟩, fun ⟨a, ha, b, hb⟩ => ⟨b, a, ha, hb⟩⟩

/-- If what follows does not depend on the value, both steps succeed on their own. -/
theorem succeeds_bind_const {x : Except ε α} {y : Except ε β} :
    Succeeds (x >>= fun _ => y) ↔ Succeeds x ∧ Succeeds y := by
  rw [succeeds_bind]
  exact ⟨fun ⟨a, ha, hy⟩ => ⟨⟨a, ha⟩, hy⟩, fun ⟨⟨a, ha⟩, hy⟩ => ⟨a, ha, hy⟩⟩

theorem succeeds_of_isOk {x : Except ε α} (h : x.isOk = true) : Succeeds x := by
  cases x with
  | error e => cases h
  | ok a => exact succeeds_ok a

theorem succeeds_unit {x : Except ε Unit} : Succeeds x ↔ x = .ok () :=
  ⟨fun ⟨_, h⟩ => h, fun h => ⟨_, h⟩⟩

theorem toOption_eq_some_iff {x : Except ε α} {a : α} : x.toOption = some a ↔ x = .ok a := by
  cases x with
  | error e => simp [Except.toOption]
  | ok b => simp [Except.toOption]

theorem exists_ok_of_map {x : Except ε α} {f : α → β} {b : β} (h : x.toOption.map f = some b) :
    ∃ a, x = .ok a ∧ f a = b := by
  obtain ⟨a, ha, hb⟩ := Option.map_eq_some_iff.mp h
  exact ⟨a, toOption_eq_some_iff.mp ha, hb⟩

theorem isSome_toOption_iff {x : Except ε α} : x.toOption.isSome = true ↔ Succeeds x := by
  rw [Option.isSome_iff_exists]
  exact exists_congr fun _ => toOption_eq_some_iff

theorem toOption_bind (x : Except ε α) (f : α → Except ε β) :
    (x >>= f).toOption = x.toOption.bind fun a => (f a).toOption := by
  cases x <;> rfl

theorem toOption_bind_congr {x y : Except ε α} (h : x.toOption = y.toOption)
    (f : α → Except ε β) : (x >>= f).toOption = (y >>= f).toOption := by
  rw [toOption_bind, toOption_bind, h]

theorem mapError_eq_ok_iff {δ : Type} {x : Except ε α} {f : ε → δ} {a : α} :
    x.mapError f = .ok a ↔ x = .ok a := by
  cases x with
  | error e => simp [Except.mapError]
  | ok b => simp [Except.mapError]

theorem exists_of_mapError_eq_error {δ : Type} {x : Except ε α} {f : ε → δ} {d : δ}
    (h : x.mapError f = .error d) : ∃ cause, d = f cause := by
  cases x with
  | ok a => cases h
  | error cause =>
    cases h
    exact ⟨cause, rfl⟩

theorem toOption_mapError {δ : Type} (x : Except ε α) (f : ε → δ) :
    (x.mapError f).toOption = x.toOption := by
  cases x <;> rfl

theorem toOption_congr_iff {x y : Except ε α} :
    x.toOption = y.toOption ↔ ∀ a, x = .ok a ↔ y = .ok a := by
  constructor
  · intro h a
    rw [← toOption_eq_some_iff, h, toOption_eq_some_iff]
  · intro h
    ext a
    exact toOption_eq_some_iff.trans ((h a).trans toOption_eq_some_iff.symm)

theorem succeeds_congr {x y : Except ε α} (h : x.toOption = y.toOption) :
    Succeeds x ↔ Succeeds y :=
  exists_congr (toOption_congr_iff.mp h)

variable {f : α → Except QueryError β}

theorem eachOf_eq_ok_iff {l : List α} {bs : List β} :
    eachOf f l = .ok bs ↔ List.Forall₂ (fun a b => f a = .ok b) l bs := by
  induction l generalizing bs with
  | nil => simp [eachOf, eq_comm]
  | cons a r ih =>
    simp only [eachOf, bind_eq_ok_iff, pure_eq_ok_iff, ih]
    constructor
    · rintro ⟨b, hb, bs', hbs, rfl⟩
      exact .cons hb hbs
    · rintro (_ | ⟨hb, hbs⟩)
      exact ⟨_, hb, _, hbs, rfl⟩

theorem succeeds_eachOf {l : List α} : Succeeds (eachOf f l) ↔ ∀ a ∈ l, Succeeds (f a) := by
  induction l with
  | nil => simp [eachOf]
  | cons a r ih =>
    simp only [eachOf, succeeds_bind, succeeds_pure, and_true, List.forall_mem_cons]
    rw [← ih]
    exact ⟨fun ⟨b, hb, bs, hbs⟩ => ⟨⟨b, hb⟩, bs, hbs⟩, fun ⟨⟨b, hb⟩, bs, hbs⟩ => ⟨b, hb, bs, hbs⟩⟩

theorem length_eachOf {l : List α} {bs : List β} (h : eachOf f l = .ok bs) :
    bs.length = l.length :=
  (eachOf_eq_ok_iff.mp h).length_eq.symm

/-- What is read off each result is known from its source. -/
theorem map_eachOf {l : List α} {bs : List β} (h : eachOf f l = .ok bs) {g : α → γ} {k : β → γ}
    (hf : ∀ a ∈ l, ∀ b, f a = .ok b → k b = g a) : bs.map k = l.map g := by
  rw [eachOf_eq_ok_iff] at h
  induction h with
  | nil => rfl
  | cons hb _ ih =>
    rw [List.map_cons, List.map_cons, hf _ (by simp) _ hb, ih fun a ha => hf a (by simp [ha])]

theorem forall_mem_eachOf {l : List α} {bs : List β} (h : eachOf f l = .ok bs) {P : β → Prop}
    (hf : ∀ a ∈ l, ∀ b, f a = .ok b → P b) : ∀ b ∈ bs, P b := by
  rw [eachOf_eq_ok_iff] at h
  induction h with
  | nil => simp
  | cons hb _ ih =>
    intro b' hb'
    rcases List.mem_cons.mp hb' with rfl | hb'
    · exact hf _ (by simp) _ hb
    · exact ih (fun a ha => hf a (by simp [ha])) b' hb'

theorem exists_of_mem_eachOf {l : List α} {bs : List β} (h : eachOf f l = .ok bs) {a : α}
    (ha : a ∈ l) : ∃ b ∈ bs, f a = .ok b := by
  rw [eachOf_eq_ok_iff] at h
  induction h with
  | nil => cases ha
  | cons hb _ ih =>
    rcases List.mem_cons.mp ha with rfl | ha
    · exact ⟨_, by simp, hb⟩
    · obtain ⟨b', hb', hf⟩ := ih ha
      exact ⟨b', by simp [hb'], hf⟩

theorem exists_of_mem_forall₂ {R : α → β → Prop} {as : List α} {bs : List β}
    (h : List.Forall₂ R as bs) {b : β} (hb : b ∈ bs) : ∃ a ∈ as, R a b := by
  induction h with
  | nil => cases hb
  | cons hr _ ih =>
    rcases List.mem_cons.mp hb with rfl | hb
    · exact ⟨_, by simp, hr⟩
    · obtain ⟨a, ha, hr⟩ := ih hb
      exact ⟨a, by simp [ha], hr⟩

/-- If each step drops its element or gives something, what is given belongs to the elements that
are kept. -/
theorem forall₂_filterMap_eachOf {f : α → Except QueryError (Option β)} {l : List α}
    {os : List (Option β)} (h : eachOf f l = .ok os) {p : α → Bool} {R : α → β → Prop}
    (hkept : ∀ a o, p a = true → f a = .ok o → ∃ b, o = some b ∧ R a b)
    (hdropped : ∀ a o, p a = false → f a = .ok o → o = none) :
    List.Forall₂ R (l.filter p) (os.filterMap id) := by
  rw [eachOf_eq_ok_iff] at h
  induction h with
  | nil => exact .nil
  | @cons a o l os ho _ ih =>
    cases hp : p a with
    | true =>
      obtain ⟨b, rfl, hb⟩ := hkept a o hp ho
      simpa [List.filter_cons_of_pos hp] using ⟨hb, ih⟩
    | false =>
      obtain rfl := hdropped a o hp ho
      simpa [List.filter_cons_of_neg (Bool.eq_false_iff.mp hp)] using ih

/-- The error of a sequence is the error of one of its steps. -/
theorem exists_of_eachOf_eq_error {l : List α} {e : QueryError} (h : eachOf f l = .error e) :
    ∃ a ∈ l, f a = .error e := by
  induction l with
  | nil => cases h
  | cons a r ih =>
    rcases bind_eq_error_iff.mp h with ha | ⟨b, _, hr⟩
    · exact ⟨a, by simp, ha⟩
    · rcases bind_eq_error_iff.mp hr with hr | ⟨bs, _, hbs⟩
      · obtain ⟨a', ha', he⟩ := ih hr
        exact ⟨a', by simp [ha'], he⟩
      · exact absurd hbs pure_ne_error

end GridQuery
