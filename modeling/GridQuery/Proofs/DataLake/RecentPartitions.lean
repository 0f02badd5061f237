import GridQuery.DataLake.Window
import GridQuery.Proofs.Calendar
import GridQuery.Proofs.Sql.NumeralValue

/-!
The partitions that a refresh reads reach far enough back, and no further than the month or the year
before. The shortest month has 28 days, so the months are sure to hold no more than the last 28.
-/

namespace GridQuery

open GridQuery.Number GridQuery.Sql

variable {d today : Date} {year year' : Int} {month month' n rolloverDay : Nat}

theorem intText_injective : Function.Injective intText := by
  intro i j h
  have hvalue := numeralValue?_intText i
  rw [h, numeralValue?_intText, Option.some_inj] at hvalue
  exact_mod_cast hvalue.symm

theorem length_paddedDigits_two (h : n < 100) : (paddedDigits 2 n).length = 2 := by
  have hlength : (digits n).length ≤ 2 := (length_digits_le_iff Nat.two_pos).mpr h
  rw [paddedDigits, List.length_append, List.length_replicate, Nat.sub_add_cancel hlength]

theorem digitsValue_paddedDigits (width n : Nat) : digitsValue 0 (paddedDigits width n) = n := by
  rw [paddedDigits, digitsValue_zeros_append, digitsValue_digits]

namespace Date

/-- Different months have different texts. -/
theorem eq_of_monthText_eq (hmonth : month ≤ 12) (hmonth' : month' ≤ 12)
    (h : monthText year month = monthText year' month') : year = year' ∧ month = month' := by
  have hchars := congrArg String.toList h
  simp only [monthText, String.toList_append, String.toList_ofList] at hchars
  have hlength : (paddedDigits 2 month).length = (paddedDigits 2 month').length := by
    rw [length_paddedDigits_two (by omega), length_paddedDigits_two (by omega)]
  obtain ⟨hfront, hdigits⟩ := List.append_inj' hchars hlength
  constructor
  · exact intText_injective (String.toList_inj.mp (List.append_cancel_right hfront))
  · rw [← digitsValue_paddedDigits 2 month, hdigits, digitsValue_paddedDigits]

theorem previousMonth_cases (h : today.isValid = true) :
    (1 < today.month ∧ today.previousMonth = (today.year, today.month - 1)) ∨
      (today.month = 1 ∧ today.previousMonth = (today.year - 1, 12)) := by
  obtain ⟨⟨hmonth, -⟩, -⟩ := isValid_iff.mp h
  unfold previousMonth
  split
  · next hlater => exact .inl ⟨hlater, rfl⟩
  · exact .inr ⟨by omega, rfl⟩

/-- Going back some days from `today` has come to `d`, in the same month or in the one before. -/
inductive Near (today : Date) (n : Nat) (d : Date) : Prop where
  | sameMonth (hyear : d.year = today.year) (hmonth : d.month = today.month)
      (hday : d.day + n = today.day)
  | monthBefore (hmonth : (d.year, d.month) = today.previousMonth)
      (hday : d.day + n = today.day + monthLength d.year d.month)

theorem near_previousDay (htoday : today.isValid = true) (hd : d.isValid = true) (hn : n < 28)
    (h : Near today n d) : Near today (n + 1) d.previousDay := by
  obtain ⟨-, hfirst, -⟩ := isValid_iff.mp htoday
  cases h with
  | sameMonth hyear hmonth hday =>
    rcases previousDay_cases hd with ⟨hlater, heq⟩ | ⟨hone, hlater, heq⟩ | ⟨hone, hjanuary, heq⟩
    · rw [heq]
      exact .sameMonth hyear hmonth (by dsimp only; omega)
    · have hprevious : today.previousMonth = (today.year, today.month - 1) :=
        if_pos (hmonth ▸ hlater)
      rw [heq]
      refine .monthBefore ?_ (by dsimp only; omega)
      rw [hprevious, hyear, hmonth]
    · have hnot : ¬ 1 < today.month := by omega
      have hprevious : today.previousMonth = (today.year - 1, 12) := if_neg hnot
      have hdecember : monthLength (d.year - 1) 12 = 31 := rfl
      rw [heq]
      refine .monthBefore ?_ (by dsimp only; omega)
      rw [hprevious, hyear]
  | monthBefore hmonth hday =>
    -- the first of the month before is at least 28 days back, so one can still go back in it
    have hlength := monthLength_bounds d.year d.month
    have hlater : 1 < d.day := by omega
    have heq : d.previousDay = ⟨d.year, d.month, d.day - 1⟩ := if_pos hlater
    rw [heq]
    exact .monthBefore hmonth (by dsimp only; omega)

theorem near_daysAgo (htoday : today.isValid = true) (hn : n ≤ 28) :
    Near today n (today.daysAgo n) := by
  induction n with
  | zero => exact .sameMonth rfl rfl rfl
  | succ n ih =>
    exact near_previousDay htoday (isValid_daysAgo htoday n) hn (ih (Nat.le_of_succ_le hn))

/-- What is known of the months that a refresh reads. -/
structure MonthsCovered (today : Date) (rolloverDay : Nat) : Prop where
  recent : ∀ d : Date, d.isValid = true → d.dayNumber ≤ today.dayNumber →
    today.dayNumber ≤ d.dayNumber + min (rolloverDay - 1) 28 →
      monthText d.year d.month ∈ today.monthWindow rolloverDay
  first : (today.monthWindow rolloverDay)[0]? = some (monthText today.year today.month)
  second : ∀ t, (today.monthWindow rolloverDay)[1]? = some t → ∃ year month,
    t = monthText year month ∧ 1 ≤ month ∧ month ≤ 12 ∧
      12 * year + month + 1 = 12 * today.year + today.month
  length : (today.monthWindow rolloverDay).length = if today.day < rolloverDay then 2 else 1
  nodup : (today.monthWindow rolloverDay).Nodup

theorem monthText_mem_monthWindow (htoday : today.isValid = true) (hd : d.isValid = true)
    (hle : d.dayNumber ≤ today.dayNumber)
    (hrecent : today.dayNumber ≤ d.dayNumber + min (rolloverDay - 1) 28) :
    monthText d.year d.month ∈ today.monthWindow rolloverDay := by
  obtain ⟨n, hn⟩ := Int.le.dest hle
  obtain rfl := (daysAgo_eq_iff htoday hd).mpr hn
  have hbound : n ≤ min (rolloverDay - 1) 28 := by omega
  obtain ⟨-, hfirst, -⟩ := isValid_iff.mp htoday
  obtain ⟨-, hday, hlength⟩ := isValid_iff.mp hd
  cases near_daysAgo htoday (hbound.trans (Nat.min_le_right _ _)) with
  | sameMonth hyear hmonth hday =>
    rw [hyear, hmonth]
    exact List.mem_cons_self
  | monthBefore hmonth hday =>
    have hroll : today.day < rolloverDay := by omega
    rw [monthWindow, if_pos hroll, ← hmonth]
    exact List.mem_cons_of_mem _ (List.mem_singleton_self _)

theorem monthsCovered (htoday : today.isValid = true) (rolloverDay : Nat) :
    MonthsCovered today rolloverDay := by
  obtain ⟨⟨hmonth, htwelve⟩, -⟩ := isValid_iff.mp htoday
  have hprevious : (1 ≤ today.previousMonth.2 ∧ today.previousMonth.2 ≤ 12) ∧
      12 * today.previousMonth.1 + today.previousMonth.2 + 1 =
        12 * today.year + today.month := by
    rcases previousMonth_cases htoday with ⟨hlater, heq⟩ | ⟨hjanuary, heq⟩
    · rw [heq]
      dsimp only
      omega
    · rw [heq]
      dsimp only
      omega
  obtain ⟨⟨hone, hle⟩, hcount⟩ := hprevious
  refine ⟨fun d hd hle hrecent => monthText_mem_monthWindow htoday hd hle hrecent, rfl, ?_, ?_, ?_⟩
  · intro t ht
    rw [monthWindow, List.getElem?_cons_succ] at ht
    have hmem := List.mem_of_getElem? ht
    split at hmem
    · exact ⟨_, _, List.mem_singleton.mp hmem, hone, hle, hcount⟩
    · cases hmem
  · rw [monthWindow]
    split <;> rfl
  · rw [monthWindow]
    split
    · refine List.nodup_cons.mpr ⟨?_, List.nodup_singleton _⟩
      intro hmem
      obtain ⟨hyear, hsame⟩ := eq_of_monthText_eq htwelve hle (List.mem_singleton.mp hmem)
      omega
    · exact List.nodup_singleton _

/-- What is known of the years that a refresh reads. -/
structure YearsCovered (today : Date) : Prop where
  recent : ∀ d : Date, d.isValid = true → d.dayNumber ≤ today.dayNumber →
    today.dayNumber ≤ d.dayNumber + 31 → intText d.year ∈ today.yearWindow
  mem_iff : ∀ t, t ∈ today.yearWindow ↔
    t = intText today.year ∨ (today.month = 1 ∧ t = intText (today.year - 1))
  nodup : today.yearWindow.Nodup

/-- Within 31 days one gets from January to the year before, and from no other month. -/
theorem year_of_recent (htoday : today.isValid = true) (hd : d.isValid = true)
    (hle : d.dayNumber ≤ today.dayNumber) (hrecent : today.dayNumber ≤ d.dayNumber + 31) :
    d.year = today.year ∨ (today.month = 1 ∧ d.year = today.year - 1) := by
  obtain ⟨⟨hmonth, -⟩, hday, -⟩ := isValid_iff.mp htoday
  have hnot : ¬ today.year < d.year := by
    intro hlt
    exact absurd hle (not_le.mpr (dayNumber_lt_of_year_lt htoday hd hlt))
  by_cases hyear : d.year = today.year
  · exact .inl hyear
  · have hend := dayNumber_le_daysBeforeYear hd
    have hnext : d.year + 1 ≤ today.year := by omega
    have hyears := daysBeforeYear_mono hnext
    rw [dayNumber] at hrecent
    have hjanuary : today.month = 1 := by
      by_contra hother
      have hlater : 2 ≤ today.month := by omega
      have hmonths := daysBeforeMonth_mono today.year hlater
      have hlength : daysBeforeMonth today.year 2 = 31 := rfl
      omega
    refine .inr ⟨hjanuary, ?_⟩
    by_contra hearlier
    have hsecond : d.year + 1 + 1 ≤ today.year := by omega
    have hsucc := daysBeforeYear_succ (d.year + 1)
    have hlength : 365 ≤ yearLength (d.year + 1) := by
      unfold yearLength
      split <;> decide
    have hmore := daysBeforeYear_mono hsecond
    omega

theorem mem_yearWindow_iff (htoday : today.isValid = true) {t : String} :
    t ∈ today.yearWindow ↔
      t = intText today.year ∨ (today.month = 1 ∧ t = intText (today.year - 1)) := by
  obtain ⟨⟨hmonth, -⟩, -⟩ := isValid_iff.mp htoday
  have hjanuary : today.month < 2 ↔ today.month = 1 := by omega
  rw [yearWindow, List.mem_cons, List.mem_ite_nil_right, List.mem_singleton, hjanuary]

theorem yearsCovered (htoday : today.isValid = true) : YearsCovered today where
  recent d hd hle hrecent := by
    rw [mem_yearWindow_iff htoday]
    rcases year_of_recent htoday hd hle hrecent with hyear | ⟨hjanuary, hyear⟩
    · exact .inl (congrArg intText hyear)
    · exact .inr ⟨hjanuary, congrArg intText hyear⟩
  mem_iff _ := mem_yearWindow_iff htoday
  nodup := by
    rw [yearWindow]
    split
    · refine List.nodup_cons.mpr ⟨?_, List.nodup_singleton _⟩
      intro hmem
      have hyear := intText_injective (List.mem_singleton.mp hmem)
      omega
    · exact List.nodup_singleton _

/-- On every day of the calendar, and whatever day the month rolls over on, the partitions that are
read hold the days just past. -/
theorem windows_cover_recent (today : Date) (htoday : today.isValid = true) (rolloverDay : Nat) :
    MonthsCovered today rolloverDay ∧ YearsCovered today :=
  ⟨monthsCovered htoday rolloverDay, yearsCovered htoday⟩

def firstOfMarch : Date := ⟨2024, 3, 1⟩

/-- It is 13 days before the first of March, as February has 29 days. -/
def middleOfFebruary : Date := ⟨2024, 2, 17⟩

theorem windows_cover_recent_leapYear :
    firstOfMarch.isValid = true ∧ middleOfFebruary.isValid = true ∧
      middleOfFebruary.dayNumber + 13 = firstOfMarch.dayNumber ∧
      "2024-02" ∈ firstOfMarch.monthWindow 14 ∧ "2024" ∈ firstOfMarch.yearWindow := by
  have htoday : firstOfMarch.isValid = true := by decide
  have hd : middleOfFebruary.isValid = true := by decide
  have hdistance : middleOfFebruary.dayNumber + 13 = firstOfMarch.dayNumber := by decide
  have hmonth : monthText 2024 2 = "2024-02" := by decide
  have hyear : intText 2024 = "2024" := by decide
  obtain ⟨hmonths, hyears⟩ := windows_cover_recent firstOfMarch htoday 14
  refine ⟨htoday, hd, hdistance, ?_, ?_⟩
  · rw [← hmonth]
    exact hmonths.recent middleOfFebruary hd (by omega) (by omega)
  · rw [← hyear]
    exact hyears.recent middleOfFebruary hd (by omega) (by omega)

end Date

end GridQuery
