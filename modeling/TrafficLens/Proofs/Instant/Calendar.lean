import Mathlib.Tactic.IntervalCases
import TrafficLens.Instant.Basic

/-!
# Days and dates

Every day has a date of the calendar, and the date has that number of days (`toDays_ofDays`). The
calendar repeats itself after an era of four hundred years. Its years begin with March, so that a
leap day is the last day of its year: `IsDayOfYear` says which days a year has, and
`isDayOfYear_yearOfEra` that the formula for the year finds it. The formula cuts off years of 365
days after days have been taken out for leap days; the proof counts the days in centuries of 36524
days and in runs of four years, 1461 days long.
-/

namespace TrafficLens.Instant

/-! ## Years -/

/-- The year of an era that a day of the era lies in. -/
def yearOfEra (day : Int) : Int := (day - day / 1460 + day / 36524 - day / 146096) / 365

/-- The day of an era that a year of the era begins with. -/
def firstOfYear (year : Int) : Int := year * 365 + year / 4 - year / 100

/-- A year of an era with a day of the year. Only a year before a leap year has 366 days. -/
structure IsDayOfYear (year day : Int) : Prop where
  year_nonneg : 0 ≤ year
  year_lt : year < 400
  day_nonneg : 0 ≤ day
  day_le : day ≤ 365
  leap : day = 365 → isLeapYear (year + 1)

/-- A day of an era, but the last one, by its century, its run of four years in the century, its
year in the run and its day in the year. -/
theorem yearOfEra_cases {day : Int} (h0 : 0 ≤ day) (h1 : day < 146096) :
    ∃ c q u d : Int, 0 ≤ c ∧ c < 4 ∧ 0 ≤ q ∧ q < 25 ∧ 0 ≤ u ∧ u < 4 ∧
      0 ≤ d ∧ d ≤ 365 ∧ (d = 365 → u = 3 ∧ q < 24) ∧
      day = 36524 * c + 1461 * q + 365 * u + d ∧ yearOfEra day = 100 * c + 4 * q + u := by
  obtain ⟨c, hc⟩ : ∃ c, c = day / 36524 := ⟨_, rfl⟩
  obtain ⟨q, hq⟩ : ∃ q, q = (day - 36524 * c) / 1461 := ⟨_, rfl⟩
  obtain ⟨t, ht⟩ : ∃ t, t = day - 36524 * c - 1461 * q := ⟨_, rfl⟩
  have hc3 : c < 4 := by omega
  have hq24 : q < 25 := by omega
  obtain ⟨e, he⟩ : ∃ e, e = (24 * c + q + t) / 1460 := ⟨_, rfl⟩
  -- the leap day of the run is taken out before the run is over, in its last year
  have he1 : 0 ≤ e ∧ e ≤ 1 := by omega
  have hdiv : day / 1460 = 25 * c + q + e := by omega
  have hyear : yearOfEra day = 100 * c + 4 * q + (t - e) / 365 := by
    rw [yearOfEra, ← hc, hdiv]
    omega
  refine ⟨c, q, (t - e) / 365, t - 365 * ((t - e) / 365), ?_⟩
  omega

/-- The formula finds the year. -/
theorem isDayOfYear_yearOfEra {day : Int} (h0 : 0 ≤ day) (h1 : day < 146097) :
    IsDayOfYear (yearOfEra day) (day - firstOfYear (yearOfEra day)) := by
  by_cases hlast : day = 146096
  · subst hlast
    exact ⟨by decide, by decide, by decide, by decide, by decide⟩
  · obtain ⟨c, q, u, d, hc0, hc, hq0, hq, hu0, hu, hd0, hd, hlong, hday, hyear⟩ :=
      yearOfEra_cases h0 (by omega)
    have hquarter : (100 * c + 4 * q + u) / 4 = 25 * c + q := by omega
    have hcentury : (100 * c + 4 * q + u) / 100 = c := by omega
    have hrest : day - firstOfYear (yearOfEra day) = d := by
      rw [hyear, firstOfYear, hquarter, hcentury, hday]
      omega
    rw [hrest, hyear]
    refine ⟨by omega, by omega, hd0, hd, fun h => ?_⟩
    obtain ⟨rfl, hq⟩ := hlong h
    have h4 : (100 * c + 4 * q + 3 + 1) % 4 = 0 := by omega
    have h100 : (100 * c + 4 * q + 3 + 1) % 100 ≠ 0 := by omega
    simp [isLeapYear, h4, h100]

theorem isLeapYear_add (era year : Int) : isLeapYear (year + era * 400) = isLeapYear year := by
  have h4 : (year + era * 400) % 4 = year % 4 := by omega
  have h100 : (year + era * 400) % 100 = year % 100 := by omega
  have h400 : (year + era * 400) % 400 = year % 400 := by omega
  rw [isLeapYear, h4, h100, h400, isLeapYear]

/-! ## Months -/

/-- The month that a day of a year lies in. -/
def monthOfYear (day : Int) : Int := (5 * day + 2) / 153

/-- The day of a year that a month begins with. -/
def firstOfMonth (month : Int) : Int := (153 * month + 2) / 5

/-- The number of a month in the calendar, whose first month is January. -/
def numberOfMonth (month : Int) : Int := if month < 10 then month + 3 else month - 9

theorem monthOfYear_bounds {year day : Int} (h : IsDayOfYear year day) :
    0 ≤ monthOfYear day ∧ monthOfYear day < 12 ∧
    firstOfMonth (monthOfYear day) ≤ day ∧ day < firstOfMonth (monthOfYear day + 1) := by
  have := h.day_nonneg
  have := h.day_le
  simp only [monthOfYear, firstOfMonth]
  omega

theorem daysInMonth_le (year : Int) (month : Nat) : daysInMonth year month ≤ 31 := by
  unfold daysInMonth
  split
  · split <;> decide
  all_goals decide

/-- Only the last month has not always the same length. -/
theorem daysInMonth_numberOfMonth {month : Int} (h0 : 0 ≤ month) (h : month < 11) (year : Int) :
    (daysInMonth year (numberOfMonth month).toNat : Int) =
      firstOfMonth (month + 1) - firstOfMonth month := by
  interval_cases month <;> rfl

/-! ## Dates -/

/-- The date of a day of a year of an era. -/
def dateOf (era year day : Int) : Date :=
  let month := monthOfYear day
  ⟨year + era * 400 + (if numberOfMonth month ≤ 2 then 1 else 0), (numberOfMonth month).toNat,
    (day - firstOfMonth month + 1).toNat⟩

/-- Days are split into eras, years and days of a year. -/
theorem ofDays_eq (n : Int) : ∃ era year day, IsDayOfYear year day ∧
    n = era * 146097 + firstOfYear year + day - 719468 ∧ Date.ofDays n = dateOf era year day := by
  have hera : (n + 719468).fdiv 146097 = (n + 719468) / 146097 :=
    Int.fdiv_eq_ediv_of_nonneg _ (by decide)
  obtain ⟨d, hd⟩ : ∃ d, d = n + 719468 - (n + 719468) / 146097 * 146097 := ⟨_, rfl⟩
  refine ⟨(n + 719468) / 146097, yearOfEra d, d - firstOfYear (yearOfEra d),
    isDayOfYear_yearOfEra (by omega) (by omega), by omega, ?_⟩
  have hdays : d - (365 * yearOfEra d + yearOfEra d / 4 - yearOfEra d / 100) =
      d - firstOfYear (yearOfEra d) := by
    rw [firstOfYear, Int.mul_comm]
  simp only [Date.ofDays, hera, ← hd]
  rw [← yearOfEra, hdays]
  rfl

variable {era year day : Int}

/-- The days are counted back. -/
theorem toDays_dateOf (h : IsDayOfYear year day) :
    (dateOf era year day).toDays = era * 146097 + firstOfYear year + day - 719468 := by
  obtain ⟨hmonth0, hmonth, hfirst, -⟩ := monthOfYear_bounds h
  generalize hm : monthOfYear day = month at hmonth0 hmonth hfirst
  have hyear0 := h.year_nonneg
  have hyear := h.year_lt
  have hera : (year + era * 400).fdiv 400 = era := by
    rw [Int.fdiv_eq_ediv_of_nonneg _ (by decide)]
    omega
  have hrest : year + era * 400 - era * 400 = year := by omega
  simp only [dateOf, Date.toDays, numberOfMonth, hm]
  -- January and February belong to the year before
  by_cases hlate : month < 10
  · have hnumber : ¬ month + 3 ≤ 2 := by omega
    have hnumber' : ¬ (month + 3).toNat ≤ 2 := by omega
    have hback : 2 < (month + 3).toNat := by omega
    have hmonth : ((month + 3).toNat : Int) - 3 = month := by omega
    simp only [if_pos hlate, if_neg hnumber, if_neg hnumber', if_pos hback, hmonth, Int.add_zero,
      hera, hrest, firstOfMonth, firstOfYear] at hfirst ⊢
    omega
  · have hnumber : month - 9 ≤ 2 := by omega
    have hnumber' : (month - 9).toNat ≤ 2 := by omega
    have hback : ¬ 2 < (month - 9).toNat := by omega
    have hmonth : ((month - 9).toNat : Int) + 9 = month := by omega
    have hyear : year + era * 400 + 1 - 1 = year + era * 400 := by omega
    simp only [if_neg hlate, if_pos hnumber, if_pos hnumber', if_neg hback, hmonth, hyear,
      hera, hrest, firstOfMonth, firstOfYear] at hfirst ⊢
    omega

/-- There are such a month and such a day of it. -/
theorem dateOf_bounds (h : IsDayOfYear year day) :
    1 ≤ (dateOf era year day).month ∧ (dateOf era year day).month ≤ 12 ∧
    1 ≤ (dateOf era year day).day ∧
    (dateOf era year day).day ≤
      daysInMonth (dateOf era year day).year (dateOf era year day).month := by
  obtain ⟨hmonth0, hmonth, hfirst, hnext⟩ := monthOfYear_bounds h
  have hday := h.day_le
  have hleap := h.leap
  simp only [dateOf]
  generalize monthOfYear day = month at hmonth0 hmonth hfirst hnext
  refine ⟨?_, ?_, by omega, ?_⟩
  · rw [numberOfMonth]
    split <;> omega
  · rw [numberOfMonth]
    split <;> omega
  · by_cases hlast : month = 11
    · -- February has a twenty-ninth day if the year that its last days belong to is a leap year
      subst hlast
      have hyear : year + era * 400 + 1 = year + 1 + era * 400 := by omega
      have hlen : daysInMonth (year + era * 400 + 1) 2 =
          if isLeapYear (year + 1) then 29 else 28 := by
        rw [hyear, daysInMonth, isLeapYear_add]
      change _ ≤ daysInMonth (year + era * 400 + 1) 2
      rw [hlen]
      split
      · simp only [firstOfMonth]
        omega
      · next hnot =>
        have := mt hleap hnot
        simp only [firstOfMonth]
        omega
    · have := daysInMonth_numberOfMonth hmonth0 (by omega)
        (year + era * 400 + if numberOfMonth month ≤ 2 then 1 else 0)
      omega

/-- **Every day is the day of its date.** -/
theorem toDays_ofDays (n : Int) : (Date.ofDays n).toDays = n := by
  obtain ⟨era, year, day, hday, hn, hdate⟩ := ofDays_eq n
  rw [hdate, toDays_dateOf hday, ← hn]

/-- The date of a day is one of the calendar, if its year is in range. -/
theorem isValid_ofDays {n : Int} (hmin : minYear ≤ (Date.ofDays n).year)
    (hmax : (Date.ofDays n).year ≤ maxYear) : (Date.ofDays n).isValid := by
  obtain ⟨era, year, day, hday, -, hdate⟩ := ofDays_eq n
  rw [hdate] at hmin hmax ⊢
  exact decide_eq_true ⟨hmin, hmax, dateOf_bounds hday⟩

end TrafficLens.Instant
