import GridQuery.Number.Digits

/-!
Calendar dates and times of day, and their text in the order year, month, day.
-/

namespace GridQuery

open GridQuery.Number

structure Date where
  year : Int
  month : Nat
  day : Nat
deriving DecidableEq, Repr

namespace Date

def isLeapYear (year : Int) : Bool :=
  year % 4 == 0 && (year % 100 != 0 || year % 400 == 0)

def monthLength (year : Int) (month : Nat) : Nat :=
  if month = 2 then (if isLeapYear year then 29 else 28)
  else if month = 4 ∨ month = 6 ∨ month = 9 ∨ month = 11 then 30
  else 31

/-- The date is in the calendar. -/
def isValid (d : Date) : Bool :=
  1 ≤ d.month && d.month ≤ 12 && 1 ≤ d.day && d.day ≤ monthLength d.year d.month

/-- At least four digits; a sign stands before a year that is negative or has more of them. -/
def yearText (year : Int) : List Char :=
  let ds := paddedDigits 4 year.natAbs
  if year < 0 then '-' :: ds else if 9999 < year then '+' :: ds else ds

def text (d : Date) : String :=
  String.ofList (yearText d.year ++ '-' :: paddedDigits 2 d.month ++ '-' :: paddedDigits 2 d.day)

end Date

structure TimeOfDay where
  hour : Nat
  minute : Nat
  second : Nat
  micros : Nat
deriving DecidableEq, Repr

namespace TimeOfDay

def isValid (t : TimeOfDay) : Bool :=
  t.hour < 24 && t.minute < 60 && t.second < 60 && t.micros < 1000000

/-- No places for a whole second, three for whole milliseconds, else six. -/
def fractionText (micros : Nat) : List Char :=
  if micros = 0 then []
  else if micros % 1000 = 0 then '.' :: paddedDigits 3 (micros / 1000)
  else '.' :: paddedDigits 6 micros

def text (t : TimeOfDay) : String :=
  String.ofList (paddedDigits 2 t.hour ++ ':' :: paddedDigits 2 t.minute ++ ':' ::
    paddedDigits 2 t.second ++ fractionText t.micros)

end TimeOfDay

end GridQuery
