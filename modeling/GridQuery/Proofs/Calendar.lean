import GridQuery.Date
import Mathlib.Algebra.BigOperators.Intervals
import Mathlib.Algebra.Order.BigOperators.Group.Finset

/-!
Days are numbered so that the day before has the number before: a date is so many days before
another exactly if its number is smaller by so many.
-/

namespace GridQuery.Date

variable {d d' : Date} {year : Int} {month n : Nat}

theorem isValid_iff :
    d.isValid = true ↔
      (1 ≤ d.month ∧ d.month ≤ 12) ∧ 1 ≤ d.day ∧ d.day ≤ monthLength d.year d.month := by
  simp only [isValid, Bool.and_eq_true, decide_eq_true_eq, and_assoc]

theorem monthLength_bounds (year : Int) (month : Nat) :
    28 ≤ monthLength year month ∧ monthLength year month ≤ 31 := by
  unfold monthLength
  split
  · split <;> decide
  · split <;> decide

/-- The day before. -/
def previousDay (d : Date) : Date :=
  if 1 < d.day then ⟨d.year, d.month, d.day - 1⟩
  else if 1 < d.month then ⟨d.year, d.month - 1, monthLength d.year (d.month - 1)⟩
  else ⟨d.year - 1, 12, 31⟩

/-- The date so many days before. -/
def daysAgo (today : Date) : Nat → Date
  | 0 => today
  | n + 1 => (today.daysAgo n).previousDay

/-- The day before, by where in the year it is. -/
theorem previousDay_cases (h : d.isValid = true) :
    (1 < d.day ∧ d.previousDay = ⟨d.year, d.month, d.day - 1⟩) ∨
      (d.day = 1 ∧ 1 < d.month ∧
        d.previousDay = ⟨d.year, d.month - 1, monthLength d.year (d.month - 1)⟩) ∨
      (d.day = 1 ∧ d.month = 1 ∧ d.previousDay = ⟨d.year - 1, 12, 31⟩) := by
  obtain ⟨⟨hmonth, -⟩, hday, -⟩ := isValid_iff.mp h
  unfold previousDay
  split
  · next hlater => exact .inl ⟨hlater, rfl⟩
  · split
    · next hlater => exact .inr (.inl ⟨by omega, hlater, rfl⟩)
    · exact .inr (.inr ⟨by omega, by omega, rfl⟩)

theorem isValid_previousDay (h : d.isValid = true) : d.previousDay.isValid = true := by
  obtain ⟨⟨hmonth, htwelve⟩, hday, hlength⟩ := isValid_iff.mp h
  rcases previousDay_cases h with ⟨hlater, heq⟩ | ⟨-, hlater, heq⟩ | ⟨-, -, heq⟩
  · rw [heq, isValid_iff]
    dsimp only
    omega
  · have hlengths := monthLength_bounds d.year (d.month - 1)
    rw [heq, isValid_iff]
    dsimp only
    omega
  · have hdecember : monthLength (d.year - 1) 12 = 31 := rfl
    rw [heq, isValid_iff]
    dsimp only
    omega

theorem isValid_daysAgo {today : Date} (h : today.isValid = true) (n : Nat) :
    (today.daysAgo n).isValid = true := by
  induction n with
  | zero => exact h
  | succ n ih => exact isValid_previousDay ih

/-- The days of all years up to this one, a leap year every four years, less one every hundred, and
again one every four hundred. -/
def daysBeforeYear (year : Int) : Int :=
  365 * (year - 1) + (year - 1) / 4 - (year - 1) / 100 + (year - 1) / 400

/-- The days of a year up to this month. -/
def daysBeforeMonth (year : Int) (month : Nat) : Nat :=
  ∑ m ∈ Finset.Ico 1 month, monthLength year m

/-- The number of a day, counted from the first of January of the year 1. -/
def dayNumber (d : Date) : Int :=
  daysBeforeYear d.year + daysBeforeMonth d.year d.month + d.day

def yearLength (year : Int) : Nat :=
  if isLeapYear year then 366 else 365

theorem daysBeforeYear_succ (year : Int) :
    daysBeforeYear (year + 1) = daysBeforeYear year + yearLength year := by
  unfold daysBeforeYear yearLength isLeapYear
  split
  · next h =>
    simp only [Bool.and_eq_true, Bool.or_eq_true, beq_iff_eq, bne_iff_ne] at h
    omega
  · next h =>
    simp only [Bool.and_eq_true, Bool.or_eq_true, beq_iff_eq, bne_iff_ne] at h
    omega

theorem daysBeforeYear_mono {year' : Int} (h : year ≤ year') :
    daysBeforeYear year ≤ daysBeforeYear year' := by
  unfold daysBeforeYear
  omega

theorem daysBeforeMonth_succ (year : Int) (h : 1 ≤ month) :
    daysBeforeMonth year (month + 1) = daysBeforeMonth year month + monthLength year month :=
  Finset.sum_Ico_succ_top h _

theorem daysBeforeMonth_mono (year : Int) {month' : Nat} (h : month ≤ month') :
    daysBeforeMonth year month ≤ daysBeforeMonth year month' :=
  Finset.sum_le_sum_of_subset (Finset.Ico_subset_Ico_right h)

/-- The twelve months make up the year. -/
theorem daysBeforeMonth_thirteen (year : Int) :
    daysBeforeMonth year 13 = yearLength year := by
  cases hleap : isLeapYear year <;>
    simp [daysBeforeMonth, Finset.sum_Ico_succ_top, monthLength, yearLength, hleap]

theorem dayNumber_previousDay (h : d.isValid = true) :
    d.previousDay.dayNumber + 1 = d.dayNumber := by
  rcases previousDay_cases h with ⟨hlater, heq⟩ | ⟨hday, hlater, heq⟩ | ⟨hday, hmonth, heq⟩
  · rw [heq]
    simp only [dayNumber]
    omega
  · have hsucc := daysBeforeMonth_succ d.year (Nat.le_sub_one_of_lt hlater)
    rw [Nat.sub_add_cancel (Nat.le_of_lt hlater)] at hsucc
    rw [heq]
    simp only [dayNumber, hday, hsucc]
    omega
  · have hyear := daysBeforeYear_succ (d.year - 1)
    have hdecember := daysBeforeMonth_succ (d.year - 1) (by decide : 1 ≤ 12)
    have hlength : monthLength (d.year - 1) 12 = 31 := rfl
    have hjanuary : daysBeforeMonth d.year 1 = 0 := rfl
    rw [daysBeforeMonth_thirteen] at hdecember
    rw [Int.sub_add_cancel] at hyear
    rw [heq]
    simp only [dayNumber, hday, hmonth, hjanuary]
    omega

theorem dayNumber_daysAgo {today : Date} (h : today.isValid = true) (n : Nat) :
    (today.daysAgo n).dayNumber + n = today.dayNumber := by
  induction n with
  | zero => exact Int.add_zero _
  | succ n ih =>
    have hstep := dayNumber_previousDay (isValid_daysAgo h n)
    rw [← ih, ← hstep, daysAgo]
    push_cast
    omega

theorem dayNumber_lt_of_month_lt (hd : d.isValid = true) (hd' : d'.isValid = true)
    (hyear : d.year = d'.year) (h : d.month < d'.month) : d.dayNumber < d'.dayNumber := by
  obtain ⟨⟨hmonth, -⟩, -, hlength⟩ := isValid_iff.mp hd
  obtain ⟨-, hday', -⟩ := isValid_iff.mp hd'
  have hnext : d.month + 1 ≤ d'.month := h
  have hsucc := daysBeforeMonth_succ d.year hmonth
  have hmono := daysBeforeMonth_mono d.year hnext
  simp only [dayNumber, ← hyear]
  omega

theorem daysBeforeYear_lt_dayNumber (h : d.isValid = true) :
    daysBeforeYear d.year < d.dayNumber := by
  obtain ⟨-, hday, -⟩ := isValid_iff.mp h
  unfold dayNumber
  omega

theorem dayNumber_le_daysBeforeYear (h : d.isValid = true) :
    d.dayNumber ≤ daysBeforeYear (d.year + 1) := by
  obtain ⟨⟨hmonth, htwelve⟩, -, hlength⟩ := isValid_iff.mp h
  have hsucc := daysBeforeMonth_succ d.year hmonth
  have hmono := daysBeforeMonth_mono d.year (Nat.add_le_add_right htwelve 1)
  rw [daysBeforeMonth_thirteen] at hmono
  rw [daysBeforeYear_succ, dayNumber]
  omega

theorem dayNumber_lt_of_year_lt (hd : d.isValid = true) (hd' : d'.isValid = true)
    (h : d.year < d'.year) : d.dayNumber < d'.dayNumber :=
  calc d.dayNumber
    _ ≤ daysBeforeYear (d.year + 1) := dayNumber_le_daysBeforeYear hd
    _ ≤ daysBeforeYear d'.year := daysBeforeYear_mono (Int.add_one_le_of_lt h)
    _ < d'.dayNumber := daysBeforeYear_lt_dayNumber hd'

theorem eq_of_dayNumber_eq (hd : d.isValid = true) (hd' : d'.isValid = true)
    (h : d.dayNumber = d'.dayNumber) : d = d' := by
  rcases lt_trichotomy d.year d'.year with hlt | hyear | hlt
  · exact absurd h (dayNumber_lt_of_year_lt hd hd' hlt).ne
  · rcases lt_trichotomy d.month d'.month with hlt | hmonth | hlt
    · exact absurd h (dayNumber_lt_of_month_lt hd hd' hyear hlt).ne
    · obtain ⟨year, month, day⟩ := d
      obtain ⟨year', month', day'⟩ := d'
      dsimp only at hyear hmonth
      subst hyear hmonth
      simp only [dayNumber] at h
      rw [Date.mk.injEq]
      exact ⟨rfl, rfl, by omega⟩
    · exact absurd h (dayNumber_lt_of_month_lt hd' hd hyear.symm hlt).ne'
  · exact absurd h (dayNumber_lt_of_year_lt hd' hd hlt).ne'

/-- Counting days and numbering them come to the same. -/
theorem daysAgo_eq_iff {today : Date} (htoday : today.isValid = true) (hd : d.isValid = true) :
    today.daysAgo n = d ↔ d.dayNumber + n = today.dayNumber := by
  constructor
  · rintro rfl
    exact dayNumber_daysAgo htoday n
  · intro h
    apply eq_of_dayNumber_eq (isValid_daysAgo htoday n) hd
    have hago := dayNumber_daysAgo htoday n
    omega

end GridQuery.Date
