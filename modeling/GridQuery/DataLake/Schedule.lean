import GridQuery.DataLake.Refresh

/-!
Timers that run refresh jobs. The first tick is at once; ticks that were missed are made up for.
-/

namespace GridQuery

structure Timer where
  job : Job
  due : Nat
  period : Nat
deriving DecidableEq, Repr

namespace Timer

/-- Ticks that are due by `now`, and the timer after them. -/
def advance (t : Timer) (now : Nat) : Nat × Timer :=
  if now < t.due ∨ t.period = 0 then (0, t)
  else
    let n := (now - t.due) / t.period + 1
    (n, { t with due := t.due + n * t.period })

end Timer

namespace Schedule

/-- The period, in milliseconds, that stands for none. -/
def defaultPeriod : Nat := 1000

/-- One timer for each job, from `now` on. -/
def start (now period : Nat) : List Timer :=
  let period := if period = 0 then defaultPeriod else period
  Job.all.map fun job => ⟨job, now, period⟩

/-- The jobs that are due by `now`, and the timers after them. -/
def advance (timers : List Timer) (now : Nat) : List Job × List Timer :=
  (timers.flatMap fun t => List.replicate (t.advance now).1 t.job,
    timers.map fun t => (t.advance now).2)

end Schedule

end GridQuery
