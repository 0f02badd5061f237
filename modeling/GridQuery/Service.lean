import GridQuery.Http.Router
import GridQuery.DataLake.Schedule

/-!
The service as a value: dialect and settings, the snapshots of the lake, the timers that refresh
them, and the world in which its exchanges run. Each operation runs its exchanges to the end
before the next one starts.
-/

namespace GridQuery

structure Service (σ : Type) where
  dialect : Sql.Dialect
  settings : Settings
  lake : DataLake
  timers : List Timer
  world : World σ

namespace Service

variable {α σ : Type}

/-- A service that has done nothing yet, at time zero. -/
def start (dialect : Sql.Dialect) (settings : Settings) (cache : Option DomainCache) (state : σ) :
    Service σ where
  dialect := dialect
  settings := settings
  lake := .empty
  timers := []
  world := ⟨state, cache, 0, []⟩

def perform (s : Service σ) (source : Source σ) (e : Exchange α) : α × Service σ :=
  match e.run source s.world with
  | (a, w) => (a, { s with world := w })

def getData (s : Service σ) (source : Source σ) (table : String) (r : Request) :
    Except QueryError Response × Service σ :=
  s.perform source (r.getData table s.dialect)

/-- The domains of some columns of a table. -/
def resolve (s : Service σ) (source : Source σ) (table : String) (columns : List Column) :
    Except QueryError Domains × Service σ :=
  s.perform source (resolveDomains table .empty columns)

def invalidate (s : Service σ) (table : String) : Service σ :=
  { s with world := { s.world with cache := s.world.cache.map (·.invalidate table) } }

def handle (s : Service σ) (source : Source σ) (call : Http.Call) : Http.Reply × Service σ :=
  s.perform source (Http.handle call s.dialect s.lake)

/-- Runs one refresh job, and tells whether it replaced its snapshot. -/
def refresh (s : Service σ) (source : Source σ) (today : Date) (job : Job) : Bool × Service σ :=
  match s.perform source (s.lake.refresh s.settings s.dialect today job) with
  | ((lake, done), s) => (done, { s with lake := lake })

def refreshEach (s : Service σ) (source : Source σ) (today : Date) (jobs : List Job) : Service σ :=
  match s.perform source (s.lake.refreshEach s.settings s.dialect today jobs) with
  | (lake, s) => { s with lake := lake }

/-- Runs the jobs whose timers are due. -/
def tick (s : Service σ) (source : Source σ) (today : Date) : Service σ :=
  match Schedule.advance s.timers s.world.now with
  | (jobs, timers) => { s with timers := timers }.refreshEach source today jobs

/-- Starts a timer for every job and runs the first round. -/
def schedule (s : Service σ) (source : Source σ) (today : Date) (period : Nat) : Service σ :=
  { s with timers := s.timers ++ Schedule.start s.world.now period }.tick source today

/-- Time passes, and the jobs that fall due are run. -/
def elapse (s : Service σ) (source : Source σ) (today : Date) (duration : Nat) : Service σ :=
  { s with world := { s.world with now := s.world.now + duration } }.tick source today

end Service

end GridQuery
