import OrderDesk.Time.Calendar

/-!
# Days and dates

The date of a day is a date of the calendar (`Date.isValid_ofDays`), and it is the date of that day
only: the day can be computed from it (`Date.toDays_ofDays`). First a day of an era is taken apart
into centuries, cycles of four years and years (`Date.InYear`), then a day of a year into months
(`Date.ofDayOfYear`).
-/

namespace OrderDesk.Date

/-! ## Years of an era -/

/-- A day of an era by its century, its cycle of four years, its year in that cycle and its day in
that year. Only the last year of a cycle has a leap day, unless the cycle ends a century. The last
century of an era ends with a leap day all the same. -/
structure InYear (dayOfEra century cycle year day : Int) : Prop where
  dayOfEra_eq : dayOfEra = 36524 * century + 1461 * cycle + 365 * year + day
  century_mem : 0 ≤ century ∧ century ≤ 3
  cycle_mem : 0 ≤ cycle ∧ cycle ≤ 24
  year_mem : 0 ≤ year ∧ year ≤ 3
  day_mem : 0 ≤ day ∧ day ≤ 365
  leap : day = 365 → year = 3 ∧ (cycle = 24 → century = 3)

variable {dayOfEra century cycle year day : Int}

theorem exists_inYear (h : 0 ≤ dayOfEra) (hlt : dayOfEra < 146097) :
    ∃ century cycle year day, InYear dayOfEra century cycle year day := by
  -- the last day of an era and the last day of a cycle would begin another century and year
  obtain ⟨c, hc⟩ : ∃ c, c = if dayOfEra = 146096 then 3 else dayOfEra / 36524 := ⟨_, rfl⟩
  obtain ⟨d, hd⟩ : ∃ d, d = dayOfEra - 36524 * c := ⟨_, rfl⟩
  obtain ⟨q, hq⟩ : ∃ q, q = d / 1461 := ⟨_, rfl⟩
  obtain ⟨y, hy⟩ : ∃ y, y = if d - 1461 * q = 1460 then 3 else (d - 1461 * q) / 365 := ⟨_, rfl⟩
  refine ⟨c, q, y, d - 1461 * q - 365 * y, ?_, ?_, ?_, ?_, ?_, ?_⟩
  all_goals omega

/-- The year of a day, without the days that leap years have in addition. -/
theorem yearOfEra_eq (h : InYear dayOfEra century cycle year day) :
    (dayOfEra - dayOfEra / 1460 + dayOfEra / 36524 - dayOfEra / 146096) / 365 =
      100 * century + 4 * cycle + year := by
  obtain ⟨hd, hc, hq, hy, hday, hleap⟩ := h
  by_cases hlast : dayOfEra = 146096
  · have hparts : century = 3 ∧ cycle = 24 ∧ year = 3 := by omega
    obtain ⟨rfl, rfl, rfl⟩ := hparts
    rw [hlast]
    rfl
  · have hera : dayOfEra / 146096 = 0 := by omega
    have hcentury : dayOfEra / 36524 = century := by omega
    have hcycle : dayOfEra / 1460 = 25 * century + cycle ∨
        dayOfEra / 1460 = 25 * century + cycle + 1 ∧ year = 3 := by omega
    rw [hera, hcentury]
    omega

/-- The days of an era before one of its years. -/
def daysBeforeYear (yearOfEra : Int) : Int :=
  365 * yearOfEra + yearOfEra / 4 - yearOfEra / 100

theorem daysBeforeYear_eq (h : InYear dayOfEra century cycle year day) :
    daysBeforeYear (100 * century + 4 * cycle + year) = dayOfEra - day := by
  obtain ⟨hd, hc, hq, hy, hday, hleap⟩ := h
  unfold daysBeforeYear
  omega

/-! ## Months of a year -/

/-- The number of a month, counted from March. -/
def monthFrom (fromMarch : Int) : Int :=
  if fromMarch < 10 then fromMarch + 3 else fromMarch - 9

/-- The date of a day of a year that starts in March. -/
def ofDayOfYear (year day : Int) : Date :=
  let fromMarch := (5 * day + 2) / 153
  { year := if monthFrom fromMarch ≤ 2 then year + 1 else year
    month := (monthFrom fromMarch).toNat
    day := (day - daysBeforeMonth fromMarch + 1).toNat }

/-- Months other than February have as many days in every year. -/
theorem daysInMonth_monthFrom {fromMarch : Int} (h : 0 ≤ fromMarch) (hlt : fromMarch < 11)
    (year : Int) : (daysInMonth year (monthFrom fromMarch).toNat : Int) =
      daysBeforeMonth (fromMarch + 1) - daysBeforeMonth fromMarch := by
  have hcases : fromMarch = 0 ∨ fromMarch = 1 ∨ fromMarch = 2 ∨ fromMarch = 3 ∨ fromMarch = 4 ∨
      fromMarch = 5 ∨ fromMarch = 6 ∨ fromMarch = 7 ∨ fromMarch = 8 ∨ fromMarch = 9 ∨
      fromMarch = 10 := by omega
  rcases hcases with rfl | rfl | rfl | rfl | rfl | rfl | rfl | rfl | rfl | rfl | rfl
  all_goals rfl

/-- A day does not come before the month that is computed for it. -/
theorem daysBeforeMonth_le (day : Int) : daysBeforeMonth ((5 * day + 2) / 153) ≤ day := by
  unfold daysBeforeMonth
  omega

section
variable (h : 0 ≤ day) (hle : day ≤ 365)
include h hle

theorem isValid_ofDayOfYear (hleap : day = 365 → isLeapYear (year + 1) = true) :
    (ofDayOfYear year day).isValid = true := by
  have hfirst := daysBeforeMonth_le day
  obtain ⟨m, hm⟩ : ∃ m, m = (5 * day + 2) / 153 := ⟨_, rfl⟩
  rw [← hm] at hfirst
  have hmonth : 1 ≤ (monthFrom m).toNat ∧ (monthFrom m).toNat ≤ 12 := by
    unfold monthFrom
    omega
  have hlast : day - daysBeforeMonth m + 1 ≤
      daysInMonth (if monthFrom m ≤ 2 then year + 1 else year) (monthFrom m).toNat := by
    by_cases hfebruary : m = 11
    · rw [hfebruary] at hm ⊢
      change day - 337 + 1 ≤ ((if isLeapYear (year + 1) then 29 else 28 : Nat) : Int)
      split
      · omega
      · next hcommon =>
        have hday : day ≠ 365 := fun heq => hcommon (hleap heq)
        omega
    · have hm0 : 0 ≤ m := by omega
      have hm11 : m < 11 := by omega
      rw [daysInMonth_monthFrom hm0 hm11]
      unfold daysBeforeMonth
      omega
  simp only [ofDayOfYear, isValid, ← hm, Bool.and_eq_true, decide_eq_true_eq]
  omega

theorem toDays_ofDayOfYear : (ofDayOfYear year day).toDays =
    year / 400 * 146097 + (daysBeforeYear (year % 400) + day) - 719468 := by
  have hfirst := daysBeforeMonth_le day
  obtain ⟨m, hm⟩ : ∃ m, m = (5 * day + 2) / 153 := ⟨_, rfl⟩
  rw [← hm] at hfirst
  have hmonth : ((monthFrom m).toNat : Int) = monthFrom m := by
    unfold monthFrom
    omega
  have hback : (monthFrom m + 9) % 12 = m := by
    unfold monthFrom
    omega
  have hyear : (if (monthFrom m).toNat ≤ 2 then
      (if monthFrom m ≤ 2 then year + 1 else year) - 1
      else (if monthFrom m ≤ 2 then year + 1 else year)) = year := by
    split <;> split <;> omega
  simp only [ofDayOfYear, toDays, ← hm, hmonth, hback, hyear, daysBeforeYear]
  omega

end

/-! ## Days -/

/-- Days are counted from the start of an era. -/
theorem exists_inYear_days (days : Int) :
    ∃ century cycle year day, InYear ((days + 719468) % 146097) century cycle year day :=
  exists_inYear (Int.emod_nonneg _ (by decide)) (Int.emod_lt_of_pos _ (by decide))

section
variable {days : Int} (h : InYear ((days + 719468) % 146097) century cycle year day)
include h

theorem ofDays_eq : ofDays days =
    ofDayOfYear (100 * century + 4 * cycle + year + (days + 719468) / 146097 * 400) day := by
  have hday : (days + 719468) % 146097 -
      daysBeforeYear (100 * century + 4 * cycle + year) = day := by
    rw [daysBeforeYear_eq h]
    omega
  rw [← hday, ← yearOfEra_eq h]
  rfl

/-- A leap day comes before the March of its year. -/
theorem isLeapYear_of_inYear (hday : day = 365) :
    isLeapYear (100 * century + 4 * cycle + year + (days + 719468) / 146097 * 400 + 1) = true := by
  obtain ⟨-, hc, hq, hy, -, hleap⟩ := h
  obtain ⟨rfl, hcentury⟩ := hleap hday
  simp only [isLeapYear, Bool.and_eq_true, Bool.or_eq_true, beq_iff_eq, bne_iff_ne, ne_eq]
  omega

end

/-- What a day is written as is a date. -/
theorem isValid_ofDays (days : Int) : (ofDays days).isValid = true := by
  obtain ⟨c, q, y, day, h⟩ := exists_inYear_days days
  rw [ofDays_eq h]
  exact isValid_ofDayOfYear h.day_mem.1 h.day_mem.2 (isLeapYear_of_inYear h)

/-- A date tells the day that it was computed from. -/
theorem toDays_ofDays (days : Int) : (ofDays days).toDays = days := by
  obtain ⟨c, q, y, day, h⟩ := exists_inYear_days days
  have hyear : (100 * c + 4 * q + y + (days + 719468) / 146097 * 400) % 400 =
      100 * c + 4 * q + y := by
    have := h.century_mem
    have := h.cycle_mem
    have := h.year_mem
    omega
  rw [ofDays_eq h, toDays_ofDayOfYear h.day_mem.1 h.day_mem.2, hyear, daysBeforeYear_eq h]
  omega

end OrderDesk.Date
