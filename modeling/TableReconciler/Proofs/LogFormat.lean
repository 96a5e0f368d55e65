import Mathlib.Tactic.IntervalCases
import TableReconciler.LogFormat

/-!
# Dates and lines of a log

The date of a day is found by a formula.  That it is the right one is said by the calendar: the date
of the next day is the next date (`dateOfDays_add_one`), and the count starts at the right date
(`dateOfDays_zero`).  A log grows by the lines of its new records (`lines_append`).

Years are counted from March.  `exists_year` says what the formula for the year comes to: the year
is the one whose days the day is among.  The first days of the years, and the first days of the
months in a year, decide the rest.
-/

namespace TableReconciler.LogFormat

/-! ## The calendar -/

/-- Whether a year has a leap day. -/
def IsLeapYear (year : Int) : Prop :=
  year % 4 = 0 ∧ (year % 100 ≠ 0 ∨ year % 400 = 0)

instance (year : Int) : Decidable (IsLeapYear year) :=
  inferInstanceAs (Decidable (_ ∧ _))

/-- The number of days of a month. -/
def daysOfMonth (year month : Int) : Int :=
  if month = 2 then if IsLeapYear year then 29 else 28
  else if month = 4 ∨ month = 6 ∨ month = 9 ∨ month = 11 then 30
  else 31

/-- The date of the next day. -/
def Date.next (date : Date) : Date :=
  if date.day < daysOfMonth date.year date.month then { date with day := date.day + 1 }
  else if date.month < 12 then { date with month := date.month + 1, day := 1 }
  else { year := date.year + 1, month := 1, day := 1 }

/-- A month goes on until its last day. -/
theorem Date.next_of_lt {date : Date} (h : date.day < daysOfMonth date.year date.month) :
    date.next = { date with day := date.day + 1 } :=
  if_pos h

/-- After its last day comes the first day of the next month. -/
theorem Date.next_of_eq {date : Date} (h : date.day = daysOfMonth date.year date.month) :
    date.next = if date.month < 12 then ⟨date.year, date.month + 1, 1⟩
      else ⟨date.year + 1, 1, 1⟩ :=
  if_neg (by omega)

/-! ## Years -/

/-- The first day of a year, counted from the first of March of the year zero.  The leap day of the
year is its last day, and stands in the next year of the calendar. -/
def startOfYear (year : Int) : Int :=
  365 * year + year / 4 - year / 100 + year / 400

/-- The number of days of a year. -/
def daysOfYear (year : Int) : Int :=
  if IsLeapYear (year + 1) then 366 else 365

/-- A year begins when the one before it ends. -/
theorem startOfYear_add_one (year : Int) :
    startOfYear (year + 1) = startOfYear year + daysOfYear year := by
  unfold startOfYear daysOfYear
  by_cases hleap : IsLeapYear (year + 1)
  · rw [if_pos hleap]
    unfold IsLeapYear at hleap
    omega
  · rw [if_neg hleap]
    unfold IsLeapYear at hleap
    omega

/-- Years follow each other. -/
theorem startOfYear_le_startOfYear {year year' : Int} (h : year ≤ year') :
    startOfYear year ≤ startOfYear year' := by
  unfold startOfYear
  omega

/-- A day is among the days of a year. -/
def InYear (day year : Int) : Prop :=
  startOfYear year ≤ day ∧ day < startOfYear (year + 1)

/-- A day is in one year only. -/
theorem InYear.unique {day year year' : Int} (h : InYear day year) (h' : InYear day year') :
    year = year' := by
  by_contra hne
  rcases lt_or_gt_of_ne hne with hlt | hlt
  · have hstart : startOfYear (year + 1) ≤ startOfYear year' :=
      startOfYear_le_startOfYear (by omega)
    exact absurd (h'.1.trans_lt h.2) (not_lt.mpr hstart)
  · have hstart : startOfYear (year' + 1) ≤ startOfYear year :=
      startOfYear_le_startOfYear (by omega)
    exact absurd (h.1.trans_lt h'.2) (not_lt.mpr hstart)

/-- The years of an era of 400 years are those of the first era, later. -/
theorem startOfYear_add_era (year era : Int) :
    startOfYear (year + era * 400) = startOfYear year + era * 146097 := by
  unfold startOfYear
  omega

/-! ## The year of a day -/

/-- The days of an era up to a day, less one for each leap day. -/
def withoutLeapDays (day : Int) : Int :=
  day - day / 1460 + day / 36524 - day / 146096

/-- Leap days are not left out twice: a later day does not come before an earlier one. -/
theorem withoutLeapDays_le_withoutLeapDays {day day' : Int} (h : day ≤ day') :
    withoutLeapDays day ≤ withoutLeapDays day' := by
  unfold withoutLeapDays
  omega

/-- Without leap days every year of an era has 365 days. -/
theorem withoutLeapDays_startOfYear : ∀ year ∈ List.range 400,
    365 * (year : Int) ≤ withoutLeapDays (startOfYear year) ∧
      withoutLeapDays (startOfYear (year + 1) - 1) < 365 * ((year : Int) + 1) := by
  decide +kernel

/-- The year of a day of an era. -/
theorem inYear_of_era {day : Int} (h : 0 ≤ day) (hend : day < 146097) :
    let year := withoutLeapDays day / 365
    0 ≤ year ∧ year < 400 ∧ InYear day year := by
  intro year
  have hlow : withoutLeapDays 0 ≤ withoutLeapDays day := withoutLeapDays_le_withoutLeapDays h
  have hhigh : withoutLeapDays day ≤ withoutLeapDays 146096 :=
    withoutLeapDays_le_withoutLeapDays (by omega)
  have hfirst : withoutLeapDays 0 = 0 := rfl
  have hlast : withoutLeapDays 146096 = 145999 := rfl
  obtain ⟨n, hn⟩ : ∃ n : Nat, year = n := Int.eq_ofNat_of_zero_le (by omega)
  have hlt : n < 400 := by omega
  refine ⟨by omega, by omega, ?_, ?_⟩
  · -- on a day before its year, 365 days would be missing for one of the years so far
    by_contra hbefore
    rw [hn] at hbefore
    cases n with
    | zero =>
        have hzero : startOfYear 0 = 0 := rfl
        exact hbefore (by simpa [hzero] using h)
    | succ n =>
        have hshort := (withoutLeapDays_startOfYear n (List.mem_range.mpr (by omega))).2
        have hle : withoutLeapDays day ≤ withoutLeapDays (startOfYear (n + 1) - 1) := by
          refine withoutLeapDays_le_withoutLeapDays ?_
          push_cast at hbefore
          omega
        omega
  · by_contra hafter
    rw [hn] at hafter
    by_cases hlastYear : n = 399
    · subst hlastYear
      have hend' : startOfYear (399 + 1) = 146097 := rfl
      simp only [Nat.cast_ofNat, hend'] at hafter
      exact hafter hend
    · have hlong := (withoutLeapDays_startOfYear (n + 1) (List.mem_range.mpr (by omega))).1
      have hle : withoutLeapDays (startOfYear (n + 1)) ≤ withoutLeapDays day :=
        withoutLeapDays_le_withoutLeapDays (not_lt.mp hafter)
      push_cast at hlong
      omega

/-- The date of a day of a year. -/
def dateInYear (year day : Int) : Date :=
  let monthFromMarch := (5 * day + 2) / 153
  let month := if monthFromMarch < 10 then monthFromMarch + 3 else monthFromMarch - 9
  { year := year + (if month ≤ 2 then 1 else 0)
    month
    day := day - (153 * monthFromMarch + 2) / 5 + 1 }

/-- The date of a day is its date in the year that it is in. -/
theorem exists_year (days : Int) :
    ∃ year, InYear (days + 719468) year ∧
      dateOfDays days = dateInYear year (days + 719468 - startOfYear year) := by
  let day := (days + 719468) % 146097
  let era := (days + 719468) / 146097
  let year := withoutLeapDays day / 365
  have hday : days + 719468 = day + era * 146097 := by omega
  have hinYear : 0 ≤ year ∧ year < 400 ∧ InYear day year := inYear_of_era (by omega) (by omega)
  obtain ⟨hnonneg, hlt, hstart, hend⟩ := hinYear
  have hfirst : startOfYear (year + era * 400) = startOfYear year + era * 146097 :=
    startOfYear_add_era year era
  have hnext : startOfYear (year + era * 400 + 1) = startOfYear (year + 1) + era * 146097 := by
    rw [← startOfYear_add_era]
    congr 1
    omega
  refine ⟨year + era * 400, ⟨?_, ?_⟩, ?_⟩
  · rw [hfirst, hday]
    omega
  · rw [hnext, hday]
    omega
  · have hrest : days + 719468 - startOfYear (year + era * 400) =
        day - (365 * year + year / 4 - year / 100) := by
      rw [hfirst]
      unfold startOfYear
      omega
    rw [hrest]
    rfl

/-! ## The days of a year -/

/-- The first day of a month, counted from the first of March; March is the month zero. -/
def startOfMonth (month : Int) : Int :=
  (153 * month + 2) / 5

/-- The number of a month in the calendar. -/
def calendarMonth (month : Int) : Int :=
  if month < 10 then month + 3 else month - 9

/-- A month before the last has the days up to the next one. -/
theorem daysOfMonth_calendarMonth (year : Int) {month : Int} (h : 0 ≤ month) (hlast : month ≤ 10) :
    daysOfMonth year (calendarMonth month) = startOfMonth (month + 1) - startOfMonth month := by
  interval_cases month <;> rfl

/-- The last month has the rest of the days of the year. -/
theorem daysOfMonth_february (year : Int) :
    daysOfMonth (year + 1) 2 = daysOfYear year - startOfMonth 11 := by
  unfold daysOfMonth daysOfYear
  rw [if_pos rfl]
  split <;> rfl

/-- The date of a day that is among the days of a month. -/
theorem dateInYear_eq (year : Int) {day month : Int} (h : 0 ≤ month) (hlast : month ≤ 11)
    (hstart : startOfMonth month ≤ day) (hend : day < startOfMonth (month + 1)) :
    dateInYear year day =
      ⟨year + if month < 10 then 0 else 1, calendarMonth month, day - startOfMonth month + 1⟩ := by
  have hmonth : (5 * day + 2) / 153 = month := by
    unfold startOfMonth at hstart hend
    omega
  have hyear : calendarMonth month ≤ 2 ↔ ¬month < 10 := by
    unfold calendarMonth
    split <;> omega
  unfold calendarMonth at hyear
  unfold dateInYear
  simp only [hmonth, hyear, ite_not]
  rfl

/-- Within a year the next day has the next date. -/
theorem dateInYear_add_one (year : Int) {day : Int} (h : 0 ≤ day)
    (hnext : day + 1 < daysOfYear year) :
    dateInYear year (day + 1) = (dateInYear year day).next := by
  have hdays : daysOfYear year ≤ 366 := by unfold daysOfYear; split <;> omega
  obtain ⟨month, hmonth⟩ : ∃ month, month = (5 * day + 2) / 153 := ⟨_, rfl⟩
  have hstart : startOfMonth month ≤ day := by unfold startOfMonth; omega
  have hend : day < startOfMonth (month + 1) := by unfold startOfMonth; omega
  rw [dateInYear_eq year (by omega) (by omega) hstart hend]
  rcases lt_or_eq_of_le (show day + 1 ≤ startOfMonth (month + 1) by omega) with hsame | hcross
  · -- the month goes on
    have hlt : day - startOfMonth month + 1 <
        daysOfMonth (year + if month < 10 then 0 else 1) (calendarMonth month) := by
      by_cases hlast : month ≤ 10
      · rw [daysOfMonth_calendarMonth _ (by omega) hlast]
        omega
      · obtain rfl : month = 11 := by omega
        change day - startOfMonth 11 + 1 < daysOfMonth (year + 1) 2
        rw [daysOfMonth_february]
        omega
    rw [dateInYear_eq year (by omega) (by omega) (by omega) hsame, Date.next_of_lt hlt]
    simp only [Date.mk.injEq, true_and]
    omega
  · -- another month begins
    have hbefore : month ≤ 10 := by
      unfold startOfMonth at hcross
      omega
    have hlonger : startOfMonth (month + 1) < startOfMonth (month + 1 + 1) := by
      unfold startOfMonth
      omega
    have heq : day - startOfMonth month + 1 =
        daysOfMonth (year + if month < 10 then 0 else 1) (calendarMonth month) := by
      rw [daysOfMonth_calendarMonth _ (by omega) hbefore]
      omega
    rw [dateInYear_eq year (by omega) (by omega) (Int.le_of_eq hcross.symm)
      (by rw [hcross]; exact hlonger), Date.next_of_eq heq]
    dsimp only [calendarMonth]
    split_ifs <;> simp only [Date.mk.injEq, true_and] <;> omega

/-- The first day of a year has the date after that of the last day of the year before. -/
theorem dateInYear_zero (year : Int) :
    dateInYear (year + 1) 0 = (dateInYear year (daysOfYear year - 1)).next := by
  unfold daysOfYear
  by_cases hleap : IsLeapYear (year + 1)
  · rw [if_pos hleap]
    simp [dateInYear, Date.next, daysOfMonth, hleap]
  · rw [if_neg hleap]
    simp [dateInYear, Date.next, daysOfMonth, hleap]

/-! ## All days -/

/-- The count of days starts with the first of January 1970. -/
theorem dateOfDays_zero : dateOfDays 0 = ⟨1970, 1, 1⟩ := by
  decide

/-- **The calendar of a log.** The next day has the next date. -/
theorem dateOfDays_add_one (days : Int) : dateOfDays (days + 1) = (dateOfDays days).next := by
  obtain ⟨year, hyear, hdate⟩ := exists_year days
  obtain ⟨year', hyear', hdate'⟩ := exists_year (days + 1)
  have hdays := startOfYear_add_one year
  rw [hdate, hdate']
  by_cases hsame : days + 1 + 719468 < startOfYear (year + 1)
  · obtain rfl : year' = year := hyear'.unique ⟨by have := hyear.1; omega, hsame⟩
    have hrest : days + 1 + 719468 - startOfYear year' =
        days + 719468 - startOfYear year' + 1 := by omega
    rw [hrest]
    exact dateInYear_add_one year' (by have := hyear.1; omega) (by omega)
  · have hlast : days + 719468 - startOfYear year = daysOfYear year - 1 := by
      have := hyear.2
      omega
    have hlonger : startOfYear (year + 1) < startOfYear (year + 1 + 1) := by
      rw [startOfYear_add_one (year + 1)]
      unfold daysOfYear
      split <;> omega
    obtain rfl : year' = year + 1 := hyear'.unique ⟨by omega, by have := hyear.2; omega⟩
    have hfirst : days + 1 + 719468 - startOfYear (year + 1) = 0 := by omega
    rw [hfirst, hlast]
    exact dateInYear_zero year

/-! ## Lines -/

/-- The lines of more records are put behind those of the records before them. -/
theorem lines_append (level name : String) (coloured : Bool) (before after : List Record) :
    lines level name coloured (before ++ after) = do
      return (← lines level name coloured before) ++ (← lines level name coloured after) := by
  unfold lines
  cases levelNumber level with
  | error fault => rfl
  | ok least =>
      simp only [List.filter_append, List.filterMap_append, String.join_append]
      rfl

end TableReconciler.LogFormat
