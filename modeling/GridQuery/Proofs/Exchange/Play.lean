import GridQuery.Exchange

/-!
Plays of an exchange. In a play, the cache and the source answer every question as they please: time
may pass and other exchanges may come in at any point, so nothing ties an answer to those before it.
-/

namespace GridQuery

open GridQuery.Sql

/-- A step of an exchange and the answer to it. -/
inductive Event where
  | looked (table column : String) (answer : Option (List String))
  | stored (table column : String) (values : List String)
  | read (relation : Relation) (column : Ident) (answer : Except String (List String))
  | sent (sql : String) (answer : Except String (List Row))

namespace Event

/-- The call that the source got, if it was asked at all. -/
def call? : Event → Option SourceCall
  | read relation column _ => some (.distinct relation column)
  | sent sql _ => some (.execute sql)
  | _ => none

end Event

namespace Exchange

variable {α β σ : Type}

/-- The exchange can go through these events and end with this result. -/
inductive Plays : Exchange α → List Event → α → Prop where
  | done (a : α) : Plays (.done a) [] a
  | lookup {t c : String} {next : Option (List String) → Exchange α} {es : List Event} {a : α}
    (answer : Option (List String)) (h : Plays (next answer) es a) :
    Plays (.lookup t c next) (.looked t c answer :: es) a
  | store {t c : String} {values : List String} {next : Exchange α} {es : List Event} {a : α}
    (h : Plays next es a) : Plays (.store t c values next) (.stored t c values :: es) a
  | distinct {r : Relation} {c : Ident} {next : Except String (List String) → Exchange α}
    {es : List Event} {a : α} (answer : Except String (List String))
    (h : Plays (next answer) es a) :
    Plays (.distinct r c next) (.read r c answer :: es) a
  | execute {sql : String} {next : Except String (List Row) → Exchange α} {es : List Event} {a : α}
    (answer : Except String (List Row)) (h : Plays (next answer) es a) :
    Plays (.execute sql next) (.sent sql answer :: es) a

theorem plays_done_iff {a b : α} {es : List Event} : (done a).Plays es b ↔ es = [] ∧ b = a := by
  constructor
  · rintro ⟨⟩
    exact ⟨rfl, rfl⟩
  · rintro ⟨rfl, rfl⟩
    exact .done b

theorem Plays.bind {x : Exchange α} {f : α → Exchange β} {es es' : List Event} {a : α} {b : β}
    (hx : x.Plays es a) (hf : (f a).Plays es' b) : (x.bind f).Plays (es ++ es') b := by
  induction hx with
  | done a => exact hf
  | lookup answer _ ih => exact .lookup answer (ih hf)
  | store _ ih => exact .store (ih hf)
  | distinct answer _ ih => exact .distinct answer (ih hf)
  | execute answer _ ih => exact .execute answer (ih hf)

theorem plays_bind {x : Exchange α} {f : α → Exchange β} {es : List Event} {b : β} :
    (x.bind f).Plays es b ↔
      ∃ es₁ a es₂, x.Plays es₁ a ∧ (f a).Plays es₂ b ∧ es = es₁ ++ es₂ := by
  constructor
  · intro h
    induction x generalizing es with
    | done a => exact ⟨[], a, es, .done a, h, rfl⟩
    | lookup t c next ih =>
      cases h with
      | lookup answer h =>
        obtain ⟨es₁, a, es₂, hx, hf, rfl⟩ := ih answer h
        exact ⟨_, a, es₂, .lookup answer hx, hf, rfl⟩
    | store t c values next ih =>
      cases h with
      | store h =>
        obtain ⟨es₁, a, es₂, hx, hf, rfl⟩ := ih h
        exact ⟨_, a, es₂, .store hx, hf, rfl⟩
    | distinct r c next ih =>
      cases h with
      | distinct answer h =>
        obtain ⟨es₁, a, es₂, hx, hf, rfl⟩ := ih answer h
        exact ⟨_, a, es₂, .distinct answer hx, hf, rfl⟩
    | execute sql next ih =>
      cases h with
      | execute answer h =>
        obtain ⟨es₁, a, es₂, hx, hf, rfl⟩ := ih answer h
        exact ⟨_, a, es₂, .execute answer hx, hf, rfl⟩
  · rintro ⟨es₁, a, es₂, hx, hf, rfl⟩
    exact hx.bind hf

/-- The events of an uninterrupted run. -/
def transcript (source : Source σ) : Exchange α → World σ → List Event
  | done _, _ => []
  | lookup t c next, w =>
    let answer := w.cache.bind (·.lookup w.now t c)
    .looked t c answer :: (next answer).transcript source w
  | store t c vs next, w =>
    .stored t c vs ::
      next.transcript source { w with cache := w.cache.map (·.store w.now t c vs) }
  | distinct r c next, w =>
    match source.distinct r c w.state with
    | (answer, s) =>
      .read r c answer ::
        (next answer).transcript source { w with state := s, calls := .distinct r c :: w.calls }
  | execute q next, w =>
    match source.execute q w.state with
    | (answer, s) =>
      .sent q answer ::
        (next answer).transcript source { w with state := s, calls := .execute q :: w.calls }

theorem run_bind (source : Source σ) (x : Exchange α) (f : α → Exchange β) (w : World σ) :
    (x.bind f).run source w = (f (x.run source w).1).run source (x.run source w).2 := by
  induction x generalizing w with
  | done a => rfl
  | lookup t c next ih => exact ih _ w
  | store t c values next ih => exact ih _
  | distinct r c next ih => exact ih _ _
  | execute sql next ih => exact ih _ _

theorem transcript_bind (source : Source σ) (x : Exchange α) (f : α → Exchange β) (w : World σ) :
    (x.bind f).transcript source w =
      x.transcript source w ++ (f (x.run source w).1).transcript source (x.run source w).2 := by
  induction x generalizing w with
  | done a => rfl
  | lookup t c next ih => exact congrArg (List.cons _) (ih _ w)
  | store t c values next ih => exact congrArg (List.cons _) (ih _)
  | distinct r c next ih => exact congrArg (List.cons _) (ih _ _)
  | execute sql next ih => exact congrArg (List.cons _) (ih _ _)

theorem plays_transcript (source : Source σ) (x : Exchange α) (w : World σ) :
    x.Plays (x.transcript source w) (x.run source w).1 := by
  induction x generalizing w with
  | done a => exact .done a
  | lookup t c next ih => exact .lookup _ (ih _ w)
  | store t c values next ih => exact .store (ih _)
  | distinct r c next ih => exact .distinct _ (ih _ _)
  | execute sql next ih => exact .execute _ (ih _ _)

/-- A run adds the calls of its events to those made before. -/
theorem calls_run (source : Source σ) (x : Exchange α) (w : World σ) :
    (x.run source w).2.calls =
      ((x.transcript source w).filterMap Event.call?).reverse ++ w.calls := by
  induction x generalizing w with
  | done a => rfl
  | lookup t c next ih => exact ih _ w
  | store t c values next ih => exact ih _
  | distinct r c next ih =>
    refine (ih _ _).trans ?_
    simp [transcript, Event.call?]
  | execute sql next ih =>
    refine (ih _ _).trans ?_
    simp [transcript, Event.call?]

end Exchange

end GridQuery
