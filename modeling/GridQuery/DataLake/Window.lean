import GridQuery.Date

/-!
The partitions of the data lake that a refresh reads: this month and, early in the month, the one
before; this year and, in January, the one before.
-/

namespace GridQuery

open GridQuery.Number

namespace Date

def monthText (year : Int) (month : Nat) : String :=
  intText year ++ "-" ++ String.ofList (paddedDigits 2 month)

/-- The month before, as year and month. -/
def previousMonth (d : Date) : Int × Nat :=
  if 1 < d.month then (d.year, d.month - 1) else (d.year - 1, 12)

/-- This month, and the month before until the day of rolling over. -/
def monthWindow (d : Date) (rolloverDay : Nat) : List String :=
  monthText d.year d.month ::
    (if d.day < rolloverDay then [monthText d.previousMonth.1 d.previousMonth.2] else [])

/-- This year, and the year before in January. -/
def yearWindow (d : Date) : List String :=
  intText d.year :: (if d.month < 2 then [intText (d.year - 1)] else [])

end Date

end GridQuery
