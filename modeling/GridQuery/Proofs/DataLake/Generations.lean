import GridQuery.Proofs.Exchange.Play
import GridQuery.Proofs.Compile.Validity
import GridQuery.Service
import Mathlib.Data.List.Induction

/-!
The snapshots of the data lake over any number of runs of its jobs: each holds what the last
successful run of its own job has loaded, and counts these runs.
-/

namespace GridQuery

open GridQuery.Sql

namespace Job

/-- What the snapshot of a job holds. -/
abbrev Value : Job → Type
  | inputFeatures => List (String × List Feature)
  | outputFeatures => List (String × List Feature)
  | movements => List (String × Int)
  | dashboard => List Row

def initial : (job : Job) → job.Value
  | inputFeatures => []
  | outputFeatures => []
  | movements => []
  | dashboard => []

/-- What the rows of a job come to. -/
def value (s : Settings) : (job : Job) → List Row → job.Value
  | inputFeatures, rows => DataLake.featureIndex s rows
  | outputFeatures, rows => DataLake.featureIndex s rows
  | movements, rows => DataLake.movementIndex rows
  | dashboard, rows => rows

def Off (s : Settings) : Job → Prop
  | inputFeatures => s.cacheInputFeatures = false
  | outputFeatures => s.cacheOutputFeatures = false
  | movements => s.movementsSql = none
  | dashboard => False

/-- There is a query for the settings. -/
def Buildable (s : Settings) : Job → Prop
  | inputFeatures => s.inputFeatures ≠ [] ∧ isRelationName s.inputFeaturesTable.toList = true
  | outputFeatures => isRelationName s.outputFeaturesTable.toList = true
  | movements => True
  | dashboard => isRelationName s.dashboardTable.toList = true

end Job

theorem succeeds_lakeQuery {table : String} {predicates : List Predicate} {latestBy : Option Ident}
    {dialect : Dialect} :
    Succeeds (lakeQuery table predicates latestBy dialect) ↔
      isRelationName table.toList = true := by
  rw [← Relation.succeeds_ofText, lakeQuery, succeeds_bind]
  constructor
  · intro h
    obtain ⟨relation, hrelation, -⟩ := h
    exact ⟨relation, hrelation⟩
  · intro h
    obtain ⟨relation, hrelation⟩ := h
    exact ⟨relation, hrelation, succeeds_pure _⟩

namespace Job

variable {s : Settings} {dialect : Dialect} {today : Date} {job : Job}

/-- A job that is not switched off has a query exactly if one can be built. -/
theorem exists_query_iff :
    (∃ sql, job.query s dialect today = some (.ok sql)) ↔ ¬ job.Off s ∧ job.Buildable s := by
  cases job with
  | inputFeatures =>
    by_cases hon : s.cacheInputFeatures = true
    · by_cases hnone : s.inputFeatures = []
      · simp [query, Off, Buildable, hon, hnone, Settings.inputFeaturesSql]
      · simp [query, Off, Buildable, hon, hnone, Settings.inputFeaturesSql, exists_eq_ok,
          succeeds_lakeQuery]
    · simp [query, Off, hon]
  | outputFeatures =>
    by_cases hon : s.cacheOutputFeatures = true
    · simp [query, Off, Buildable, hon, Settings.outputFeaturesSql, exists_eq_ok,
        succeeds_lakeQuery]
    · simp [query, Off, hon]
  | movements => simp [query, Off, Buildable, Option.ne_none_iff_exists']
  | dashboard =>
    simp [query, Off, Buildable, Settings.dashboardSql, exists_eq_ok, succeeds_lakeQuery]

end Job

namespace DataLake

def snapshot (l : DataLake) : (job : Job) → Snapshot job.Value
  | .inputFeatures => l.inputFeatures
  | .outputFeatures => l.outputFeatures
  | .movements => l.movements
  | .dashboard => l.dashboard

variable {l l' m : DataLake} {s : Settings} {dialect : Dialect} {today : Date} {job other : Job}

theorem eq_of_snapshot_eq (h : ∀ job, l.snapshot job = l'.snapshot job) : l = l' := by
  obtain ⟨input, output, movements, dashboard⟩ := l
  obtain ⟨input', output', movements', dashboard'⟩ := l'
  have hinput : input = input' := h .inputFeatures
  have houtput : output = output' := h .outputFeatures
  have hmovements : movements = movements' := h .movements
  have hdashboard : dashboard = dashboard' := h .dashboard
  rw [hinput, houtput, hmovements, hdashboard]

theorem snapshot_empty : empty.snapshot job = .start job.initial := by
  cases job with
  | inputFeatures => rfl
  | outputFeatures => rfl
  | movements => rfl
  | dashboard => rfl

theorem snapshot_load (rows : List Row) :
    (l.load s job rows).snapshot job = (l.snapshot job).replace (job.value s rows) := by
  cases job with
  | inputFeatures => rfl
  | outputFeatures => rfl
  | movements => rfl
  | dashboard => rfl

theorem snapshot_load_of_ne (h : job ≠ other) (rows : List Row) :
    (l.load s job rows).snapshot other = l.snapshot other := by
  cases job with
  | inputFeatures =>
    cases other with
    | inputFeatures => exact absurd rfl h
    | outputFeatures => rfl
    | movements => rfl
    | dashboard => rfl
  | outputFeatures =>
    cases other with
    | inputFeatures => rfl
    | outputFeatures => exact absurd rfl h
    | movements => rfl
    | dashboard => rfl
  | movements =>
    cases other with
    | inputFeatures => rfl
    | outputFeatures => rfl
    | movements => exact absurd rfl h
    | dashboard => rfl
  | dashboard =>
    cases other with
    | inputFeatures => rfl
    | outputFeatures => rfl
    | movements => rfl
    | dashboard => exact absurd rfl h

/-- What one run of a job can do. -/
inductive Ran (s : Settings) (dialect : Dialect) (today : Date) (job : Job) (l : DataLake) :
    List Event → DataLake → Bool → Prop where
  | off (h : job.query s dialect today = none) : Ran s dialect today job l [] l false
  | unbuilt {e : QueryError} (h : job.query s dialect today = some (.error e)) :
    Ran s dialect today job l [] l false
  | failed {sql : String} (h : job.query s dialect today = some (.ok sql)) (cause : String) :
    Ran s dialect today job l [.sent sql (.error cause)] l false
  | loaded {sql : String} (h : job.query s dialect today = some (.ok sql)) (rows : List Row) :
    Ran s dialect today job l [.sent sql (.ok rows)] (l.load s job rows) true

theorem plays_refresh_iff {es : List Event} {done : Bool} :
    (l.refresh s dialect today job).Plays es (l', done) ↔ Ran s dialect today job l es l' done := by
  constructor
  · intro h
    rw [refresh] at h
    split at h
    · next hquery =>
      cases h
      exact .off hquery
    · next hquery =>
      cases h
      exact .unbuilt hquery
    · next hquery =>
      cases h with
      | execute answer h =>
        cases answer with
        | error cause =>
          cases h
          exact .failed hquery cause
        | ok rows =>
          cases h
          exact .loaded hquery rows
  · intro h
    rw [refresh]
    cases h with
    | off hquery =>
      rw [hquery]
      exact .done _
    | unbuilt hquery =>
      rw [hquery]
      exact .done _
    | failed hquery cause =>
      rw [hquery]
      exact .execute _ (.done _)
    | loaded hquery rows =>
      rw [hquery]
      exact .execute _ (.done _)

end DataLake

/-- One run of a job: what it sent, and whether it said that it replaced its snapshot. -/
structure Round where
  job : Job
  today : Date
  events : List Event
  done : Bool

namespace Round

/-- The rows that a run of the job has got. -/
def rows? (job : Job) (r : Round) : Option (List Row) :=
  if r.job = job then
    match r.events with
    | [.sent _ (.ok rows)] => some rows
    | _ => none
  else none

/-- The round takes one lake to the other. -/
def Takes (s : Settings) (dialect : Dialect) (r : Round) (l l' : DataLake) : Prop :=
  (l.refresh s dialect r.today r.job).Plays r.events (l', r.done)

variable {s : Settings} {dialect : Dialect} {r : Round} {l l' : DataLake}

theorem Takes.snapshot (h : r.Takes s dialect l l') (job : Job) :
    l'.snapshot job =
      (r.rows? job).toList.foldl (fun snap rows => snap.replace (job.value s rows))
        (l.snapshot job) := by
  obtain ⟨own, today, events, done⟩ := r
  by_cases hjob : own = job
  · subst hjob
    cases DataLake.plays_refresh_iff.mp h with
    | off => simp [rows?]
    | unbuilt => simp [rows?]
    | failed => simp [rows?]
    | loaded => simp [rows?, DataLake.snapshot_load]
  · cases DataLake.plays_refresh_iff.mp h with
    | off => simp [rows?, hjob]
    | unbuilt => simp [rows?, hjob]
    | failed => simp [rows?, hjob]
    | loaded => simp [rows?, hjob, DataLake.snapshot_load_of_ne hjob]

theorem Takes.done_iff (h : r.Takes s dialect l l') :
    r.done = true ↔ ∃ sql rows, r.job.query s dialect r.today = some (.ok sql) ∧
      r.events = [.sent sql (.ok rows)] := by
  obtain ⟨job, today, events, done⟩ := r
  cases DataLake.plays_refresh_iff.mp h with
  | off => simp
  | unbuilt => simp
  | failed => simp
  | loaded hquery rows => simp [hquery]

theorem Takes.isSome_rows? (h : r.Takes s dialect l l') (job : Job) :
    (r.rows? job).isSome = (r.job == job && r.done) := by
  obtain ⟨own, today, events, done⟩ := r
  cases DataLake.plays_refresh_iff.mp h with
  | off => simp [rows?]
  | unbuilt => simp [rows?]
  | failed => simp [rows?]
  | loaded =>
    by_cases hjob : own = job
    · simp [rows?, hjob]
    · simp [rows?, hjob]

/-- Whether and what a job sends does not depend on the lake. -/
theorem Takes.exists_of_any (h : r.Takes s dialect l l') (m : DataLake) :
    ∃ m', r.Takes s dialect m m' := by
  obtain ⟨job, today, events, done⟩ := r
  cases DataLake.plays_refresh_iff.mp h with
  | off hquery => exact ⟨m, DataLake.plays_refresh_iff.mpr (.off hquery)⟩
  | unbuilt hquery => exact ⟨m, DataLake.plays_refresh_iff.mpr (.unbuilt hquery)⟩
  | failed hquery cause => exact ⟨m, DataLake.plays_refresh_iff.mpr (.failed hquery cause)⟩
  | loaded hquery rows => exact ⟨_, DataLake.plays_refresh_iff.mpr (.loaded hquery rows)⟩

theorem Takes.unchanged (h : r.Takes s dialect l l')
    (hfails : r.job.Off s ∨ ¬ r.job.Buildable s ∨
      ∃ sql cause, r.events = [.sent sql (.error cause)]) :
    l' = l ∧ r.done = false := by
  obtain ⟨job, today, events, done⟩ := r
  cases DataLake.plays_refresh_iff.mp h with
  | off => exact ⟨rfl, rfl⟩
  | unbuilt => exact ⟨rfl, rfl⟩
  | failed => exact ⟨rfl, rfl⟩
  | loaded hquery rows =>
    obtain ⟨hon, hbuildable⟩ := Job.exists_query_iff.mp ⟨_, hquery⟩
    simp [hon, hbuildable] at hfails

theorem Takes.silent (h : r.Takes s dialect l l') (hnone : r.job.Off s ∨ ¬ r.job.Buildable s) :
    r.events = [] := by
  obtain ⟨job, today, events, done⟩ := r
  have hnot {sql : String} : job.query s dialect today ≠ some (.ok sql) := by
    intro hquery
    obtain ⟨hon, hbuildable⟩ := Job.exists_query_iff.mp ⟨sql, hquery⟩
    exact hnone.elim hon (absurd hbuildable)
  cases DataLake.plays_refresh_iff.mp h with
  | off => rfl
  | unbuilt => rfl
  | failed hquery => exact absurd hquery hnot
  | loaded hquery => exact absurd hquery hnot

theorem Takes.sends (h : r.Takes s dialect l l') (hon : ¬ r.job.Off s)
    (hbuildable : r.job.Buildable s) :
    ∃ sql answer, r.job.query s dialect r.today = some (.ok sql) ∧
      r.events = [.sent sql answer] := by
  obtain ⟨job, today, events, done⟩ := r
  obtain ⟨sql, hsql⟩ := Job.exists_query_iff.mpr ⟨hon, hbuildable⟩
  cases DataLake.plays_refresh_iff.mp h with
  | off hquery => cases hsql.symm.trans hquery
  | unbuilt hquery => cases hsql.symm.trans hquery
  | failed hquery cause => exact ⟨_, _, hquery, rfl⟩
  | loaded hquery rows => exact ⟨_, _, hquery, rfl⟩

end Round

namespace Snapshot

variable {α β : Type} {f : β → α} {bs : List β}

theorem generation_foldl (snap : Snapshot α) :
    (bs.foldl (fun snap b => snap.replace (f b)) snap).generation =
      snap.generation + bs.length := by
  induction bs generalizing snap with
  | nil => rfl
  | cons b r ih =>
    rw [List.foldl_cons, ih, List.length_cons]
    exact Nat.add_right_comm _ _ _

theorem current_foldl (snap : Snapshot α) :
    (bs.foldl (fun snap b => snap.replace (f b)) snap).current =
      (bs.getLast?.map f).getD snap.current := by
  induction bs generalizing snap with
  | nil => rfl
  | cons b r ih =>
    rw [List.foldl_cons, ih, List.getLast?_cons]
    cases r.getLast? with
    | none => rfl
    | some last => rfl

end Snapshot

/-- The rows of all runs of the job that have got any. -/
def loads (job : Job) (rounds : List Round) : List (List Row) :=
  rounds.filterMap (Round.rows? job)

/-- Rounds that follow one another take one lake to the other. -/
inductive Refreshes (s : Settings) (dialect : Dialect) :
    DataLake → List Round → DataLake → Prop where
  | refl (l : DataLake) : Refreshes s dialect l [] l
  | tail {l m l' : DataLake} {rounds : List Round} {r : Round} (h : Refreshes s dialect l rounds m)
    (hround : r.Takes s dialect m l') : Refreshes s dialect l (rounds ++ [r]) l'

namespace Refreshes

variable {s : Settings} {dialect : Dialect} {l m l' : DataLake} {rounds rounds' : List Round}
  {r : Round}

theorem snapshot (h : Refreshes s dialect l rounds l') (job : Job) :
    l'.snapshot job =
      (loads job rounds).foldl (fun snap rows => snap.replace (job.value s rows))
        (l.snapshot job) := by
  induction h with
  | refl => rfl
  | @tail m l' rounds r h hround ih =>
    have hloads : loads job (rounds ++ [r]) = loads job rounds ++ (r.rows? job).toList := by
      rw [loads, List.filterMap_append, loads]
      cases hrows : r.rows? job with
      | none => simp [hrows]
      | some rows => simp [hrows]
    rw [hround.snapshot, ih, hloads, List.foldl_append]

theorem takes (h : Refreshes s dialect l rounds l') (hr : r ∈ rounds) :
    ∃ m m', r.Takes s dialect m m' := by
  induction h with
  | refl => cases hr
  | tail h hround ih =>
    rcases List.mem_append.mp hr with hr | hr
    · exact ih hr
    · exact ⟨_, _, List.mem_singleton.mp hr ▸ hround⟩

theorem exists_of_takes (h : ∀ r ∈ rounds, ∃ m m', r.Takes s dialect m m') (l : DataLake) :
    ∃ l', Refreshes s dialect l rounds l' := by
  induction rounds using List.reverseRecOn with
  | nil => exact ⟨l, .refl l⟩
  | append_singleton rounds r ih =>
    obtain ⟨m, hm⟩ := ih fun r hr => h r (by simp [hr])
    obtain ⟨_, _, hround⟩ := h r (by simp)
    obtain ⟨l', hl'⟩ := hround.exists_of_any m
    exact ⟨l', hm.tail hl'⟩

/-- Runs in another order come to the same, as long as each job keeps the order of its own. -/
theorem reorder (h : Refreshes s dialect l rounds l')
    (horder : ∀ job, rounds'.filter (·.job == job) = rounds.filter (·.job == job)) :
    Refreshes s dialect l rounds' l' := by
  have hmem {r : Round} (hr : r ∈ rounds') : r ∈ rounds := by
    have hown : r ∈ rounds'.filter (·.job == r.job) := List.mem_filter.mpr ⟨hr, by simp⟩
    rw [horder] at hown
    exact (List.mem_filter.mp hown).1
  -- no round depends on the lake that it finds, so each can be taken where it stands now
  obtain ⟨m, hm⟩ := exists_of_takes (fun r hr => h.takes (hmem hr)) l
  have hloads (job : Job) : loads job rounds' = loads job rounds := by
    have hfilter (rs : List Round) : loads job rs = loads job (rs.filter (·.job == job)) := by
      rw [loads, loads, List.filterMap_filter]
      apply List.filterMap_congr
      intro r hr
      by_cases hjob : r.job = job
      · simp [hjob]
      · simp [Round.rows?, hjob]
    rw [hfilter rounds', horder, ← hfilter]
  obtain rfl : m = l' := by
    apply DataLake.eq_of_snapshot_eq
    intro job
    rw [hm.snapshot, h.snapshot, hloads]
  exact hm

theorem generation (h : Refreshes s dialect .empty rounds l) (job : Job) :
    (l.snapshot job).generation = rounds.countP fun r => r.job == job && r.done := by
  rw [h.snapshot, Snapshot.generation_foldl, DataLake.snapshot_empty, loads,
    List.length_filterMap_eq_countP]
  refine (Nat.zero_add _).trans (List.countP_congr ?_)
  intro r hr
  obtain ⟨m, m', hround⟩ := h.takes hr
  rw [hround.isSome_rows?]

/-- As long as the generation is the same, so is the snapshot. -/
theorem snapshot_eq (h : Refreshes s dialect .empty (rounds ++ rounds') l')
    (hearlier : Refreshes s dialect .empty rounds l) (job : Job)
    (hgeneration : (l.snapshot job).generation = (l'.snapshot job).generation) :
    l.snapshot job = l'.snapshot job := by
  have hlater := h.snapshot job
  rw [loads, List.filterMap_append, ← loads, ← loads, List.foldl_append,
    ← hearlier.snapshot] at hlater
  have hlength := congrArg Snapshot.generation hlater
  rw [Snapshot.generation_foldl, ← hgeneration] at hlength
  have hnone : loads job rounds' = [] := List.length_eq_zero_iff.mp (by omega)
  rw [hlater, hnone, List.foldl_nil]

theorem ran {today : Date} {job : Job} {es : List Event} {done : Bool}
    (h : Refreshes s dialect l rounds m) (hran : DataLake.Ran s dialect today job m es l' done) :
    Refreshes s dialect l (rounds ++ [⟨job, today, es, done⟩]) l' :=
  h.tail (DataLake.plays_refresh_iff.mpr hran)

theorem append (h : Refreshes s dialect l rounds m) (h' : Refreshes s dialect m rounds' l') :
    Refreshes s dialect l (rounds ++ rounds') l' := by
  induction h' with
  | refl => rwa [List.append_nil]
  | tail _ hround ih =>
    rw [← List.append_assoc]
    exact ih.tail hround

end Refreshes

/-- What is known of the lake after these rounds. -/
structure Generations (s : Settings) (dialect : Dialect) (rounds : List Round) (l : DataLake) :
    Prop where
  current : ∀ job, (l.snapshot job).current =
    ((loads job rounds).getLast?.map (job.value s)).getD job.initial
  generation : ∀ job, (l.snapshot job).generation = rounds.countP fun r => r.job == job && r.done
  succeeded : ∀ r ∈ rounds, r.done = true ↔
    ∃ sql rows, r.job.query s dialect r.today = some (.ok sql) ∧ r.events = [.sent sql (.ok rows)]
  sends : ∀ r ∈ rounds, ¬ r.job.Off s → r.job.Buildable s →
    ∃ sql answer, r.job.query s dialect r.today = some (.ok sql) ∧ r.events = [.sent sql answer]
  silent : ∀ r ∈ rounds, r.job.Off s ∨ ¬ r.job.Buildable s → r.events = []
  /-- The next run, if it fails or is switched off. -/
  unchanged : ∀ (r : Round) (l' : DataLake), r.Takes s dialect l l' →
    (r.job.Off s ∨ ¬ r.job.Buildable s ∨ ∃ sql cause, r.events = [.sent sql (.error cause)]) →
      l' = l ∧ r.done = false
  /-- A snapshot of an earlier lake is the one of now, or of an older generation. -/
  kept : ∀ earlier later l₀, rounds = earlier ++ later → Refreshes s dialect .empty earlier l₀ →
    ∀ job, l₀.snapshot job = l.snapshot job ∨
      (l₀.snapshot job).generation < (l.snapshot job).generation
  commutes : ∀ before r₁ r₂ after, rounds = before ++ r₁ :: r₂ :: after → r₁.job ≠ r₂.job →
    Refreshes s dialect .empty (before ++ r₂ :: r₁ :: after) l

/-- Each job answers for its own snapshot alone, over any number of rounds. -/
theorem Refreshes.generations {s : Settings} {dialect : Dialect} {rounds : List Round}
    {l : DataLake} (h : Refreshes s dialect .empty rounds l) : Generations s dialect rounds l where
  current job := by
    rw [h.snapshot, Snapshot.current_foldl, DataLake.snapshot_empty]
    rfl
  generation := h.generation
  succeeded r hr := by
    obtain ⟨m, m', hround⟩ := h.takes hr
    exact hround.done_iff
  sends r hr := by
    obtain ⟨m, m', hround⟩ := h.takes hr
    exact hround.sends
  silent r hr := by
    obtain ⟨m, m', hround⟩ := h.takes hr
    exact hround.silent
  unchanged r l' hround hfails := hround.unchanged hfails
  kept earlier later l₀ hrounds hearlier job := by
    subst hrounds
    by_cases hsame : (l₀.snapshot job).generation = (l.snapshot job).generation
    · exact .inl (h.snapshot_eq hearlier job hsame)
    · have hcount := h.generation job
      rw [List.countP_append, ← hearlier.generation] at hcount
      exact .inr (by omega)
  commutes before r₁ r₂ after hrounds hne := by
    subst hrounds
    apply h.reorder
    intro job
    by_cases h₁ : r₁.job = job
    · have h₂ : r₂.job ≠ job := fun h₂ => hne (h₁.trans h₂.symm)
      simp [h₁, h₂]
    · by_cases h₂ : r₂.job = job
      · simp [h₁, h₂]
      · simp [h₁, h₂]

def nightly : Settings where
  databaseUrl := "postgres://lake"
  maxConnections := 10
  bindAddress := Settings.defaultAddress
  paging := none
  domainLifetimeSecs := 300
  refreshSecs := 35000
  cacheInputFeatures := true
  cacheOutputFeatures := false
  inputFeatures := []
  inputFeaturesTable := "input_features"
  outputFeaturesTable := "output_features"
  dashboardTable := "lake.dashboard"
  movementsSql := some "SELECT * FROM movements"
  featureKeyColumn := "vehicle"
  monthRolloverDay := 14

def tenthOfJanuary : Date := ⟨2024, 1, 10⟩

/-- Two trips of one vehicle, and a row without a key. -/
def tripRows : List Row :=
  [[("key", .text "7"), ("mileage", .ofNat 120)], [("mileage", .ofNat 80)],
    [("key", .text "7"), ("mileage", .text " 95 ")]]

def speedRow : Row := [("vehicle", .text "7"), ("var", .text "speed")]

def loadRow : Row := [("vehicle", .text "7"), ("var", .text "load")]

/-- First the dashboard is loaded twice; in between, the movements fail once and are then loaded,
there is no query for the input features, and the output features are switched off. Where they are
switched on, they are loaded and stay so when a later run fails. -/
theorem generations_nightly :
    (∃ rounds l, Refreshes nightly .mysql .empty rounds l ∧
      rounds.map (fun r => (r.job, r.done)) =
        [(.dashboard, true), (.movements, false), (.inputFeatures, false),
          (.outputFeatures, false), (.movements, true), (.dashboard, true)] ∧
      l = ⟨.start [], .start [], ⟨[("7", 95)], 1⟩, ⟨[[("id", .ofNat 2)]], 2⟩⟩ ∧
      Generations nightly .mysql rounds l) ∧
    ∃ rounds l, Refreshes { nightly with cacheOutputFeatures := true } .mysql .empty rounds l ∧
      rounds.map (fun r => (r.job, r.done)) = [(.outputFeatures, true), (.outputFeatures, false)] ∧
      l = ⟨.start [], ⟨[("7", [⟨"7", loadRow⟩, ⟨"7", speedRow⟩])], 1⟩, .start [], .start []⟩ ∧
      Generations { nightly with cacheOutputFeatures := true } .mysql rounds l := by
  constructor
  · have hrelation : isRelationName nightly.dashboardTable.toList = true := by decide +kernel
    obtain ⟨sql, hsql⟩ :
        ∃ sql, Job.dashboard.query nightly .mysql tenthOfJanuary = some (.ok sql) :=
      Job.exists_query_iff.mpr ⟨id, hrelation⟩
    have hload := (Refreshes.refl .empty).ran (.loaded hsql [[("id", .ofNat 1)]])
    have hfail := hload.ran
      (@DataLake.Ran.failed nightly .mysql tenthOfJanuary .movements _ _ rfl "timeout")
    have hunbuilt := hfail.ran
      (@DataLake.Ran.unbuilt nightly .mysql tenthOfJanuary .inputFeatures _
        (.invalidRequest .noInputFeatures) rfl)
    have hoff := hunbuilt.ran
      (@DataLake.Ran.off nightly .mysql tenthOfJanuary .outputFeatures _ rfl)
    have hmoved := hoff.ran
      (@DataLake.Ran.loaded nightly .mysql tenthOfJanuary .movements _ _ rfl tripRows)
    have hagain := hmoved.ran (.loaded hsql [[("id", .ofNat 2)]])
    exact ⟨_, _, hagain, rfl, rfl, hagain.generations⟩
  · have hrelation : isRelationName nightly.outputFeaturesTable.toList = true := by decide +kernel
    obtain ⟨sql, hsql⟩ : ∃ sql, Job.outputFeatures.query
        { nightly with cacheOutputFeatures := true } .mysql tenthOfJanuary = some (.ok sql) :=
      Job.exists_query_iff.mpr ⟨by simp [Job.Off], hrelation⟩
    have hload := (Refreshes.refl .empty).ran (.loaded hsql [speedRow, loadRow])
    have hfail := hload.ran (.failed hsql "timeout")
    exact ⟨_, _, hfail, rfl, rfl, hfail.generations⟩

/-- Runs of several jobs in one round are rounds of these jobs, one after the other. -/
theorem DataLake.exists_rounds {s : Settings} {dialect : Dialect} {today : Date} {jobs : List Job}
    {l l' : DataLake} {es : List Event}
    (h : (l.refreshEach s dialect today jobs).Plays es l') :
    ∃ rounds : List Round, rounds.map (fun r => (r.job, r.today)) = jobs.map (·, today) ∧
      rounds.flatMap (·.events) = es ∧ Refreshes s dialect l rounds l' := by
  induction jobs generalizing l es with
  | nil =>
    cases h
    exact ⟨[], rfl, rfl, .refl _⟩
  | cons job jobs ih =>
    rw [refreshEach, Exchange.plays_bind] at h
    obtain ⟨es₁, ⟨m, done⟩, es₂, hround, hrest, rfl⟩ := h
    obtain ⟨rounds, hjobs, rfl, hrounds⟩ := ih hrest
    have hfirst : Refreshes s dialect l ([] ++ [⟨job, today, es₁, done⟩]) m :=
      (Refreshes.refl l).tail hround
    exact ⟨⟨job, today, es₁, done⟩ :: rounds, by simp [hjobs], rfl, hfirst.append hrounds⟩

namespace Service

variable {σ : Type} (sv : Service σ) (source : Source σ) (today : Date)

theorem takes_refresh (job : Job) :
    ∃ es, Round.Takes sv.settings sv.dialect ⟨job, today, es, (sv.refresh source today job).1⟩
      sv.lake (sv.refresh source today job).2.lake :=
  ⟨_, Exchange.plays_transcript source (sv.lake.refresh sv.settings sv.dialect today job) sv.world⟩

theorem refreshes_refreshEach (jobs : List Job) :
    ∃ rounds : List Round, rounds.map (fun r => (r.job, r.today)) = jobs.map (·, today) ∧
      Refreshes sv.settings sv.dialect sv.lake rounds (sv.refreshEach source today jobs).lake := by
  obtain ⟨rounds, hjobs, -, hrounds⟩ :=
    DataLake.exists_rounds (Exchange.plays_transcript source
      (sv.lake.refreshEach sv.settings sv.dialect today jobs) sv.world)
  exact ⟨rounds, hjobs, hrounds⟩

end Service

end GridQuery
