import Mathlib.Tactic.IntervalCases
import TaskRunner.Calendar
/- # TaskRunner.Proofs.Calendar -- days and dates are two names for the same thing

The date of a number of days is one that the calendar has (`isValid_ofDays`), and counting the days
up to it gives the number back (`toDays_ofDays`).

Dates are found by a division that corrects for leap days beforehand.  Why it is right shows when an
era is cut into centuries, cycles of four years, years and days (`DayOfEra`): for each such cut the
division gives the year, and every day of an era has one. -/

namespace TaskRunner.Date
set_option autoImplicit false

/-- A day of an era by its century, its cycle of four years, its year and the day of that year.
There is a last day of a leap year only in the last year of a cycle, and in the last cycle of a
century only if the era ends with it. -/
structure DayOfEra (n century cycle year day : Int) : Prop where
  sum : n = 36524 * century + 1461 * cycle + 365 * year + day
  century_range : 0 ≤ century ∧ century ≤ 3
  cycle_range : 0 ≤ cycle ∧ cycle ≤ 24
  year_range : 0 ≤ year ∧ year ≤ 3
  day_range : 0 ≤ day ∧ day ≤ 365
  leap : day = 365 → year = 3 ∧ (cycle = 24 → century = 3)

theorem dayOfEra_of_range {n : Int} (low : 0 ≤ n) (high : n < eraDays) :
    ∃ century cycle year day, DayOfEra n century cycle year day := by
  unfold eraDays at high
  -- The last day of an era would begin a fifth century, and that of a cycle a fifth year.
  obtain ⟨century, centuries⟩ : ∃ century, century = n / 36524 - n / 146096 := ⟨_, rfl⟩
  obtain ⟨left, rest⟩ : ∃ left, left = n - 36524 * century := ⟨_, rfl⟩
  obtain ⟨inside, days⟩ : ∃ inside, inside = left % 1461 := ⟨_, rfl⟩
  obtain ⟨year, years⟩ : ∃ year, year = inside / 365 - inside / 1460 := ⟨_, rfl⟩
  exact ⟨century, left / 1461, year, inside - 365 * year, by omega, by omega, by omega, by omega,
    by omega, by omega⟩

namespace DayOfEra

variable {n century cycle year day : Int}

/-- The year of an era by its parts. -/
theorem yearOfEra (split : DayOfEra n century cycle year day) :
    (n - n / 1460 + n / 36524 - n / 146096) / 365 = 100 * century + 4 * cycle + year := by
  obtain ⟨sum, _, _, _, _, leap⟩ := split
  have last : n / 146096 = if n = 146096 then 1 else 0 := by split <;> omega
  have centuries : n / 36524 - n / 146096 = century := by split at last <;> omega
  -- Each century and each cycle puts the correction one day ahead, and it is never a day behind.
  have cycles : n / 1460 =
      25 * century + cycle + (24 * century + cycle + 365 * year + day) / 1460 := by omega
  have ahead : (24 * century + cycle + 365 * year + day) / 1460 = 0 ∨
      (24 * century + cycle + 365 * year + day) / 1460 = 1 := by omega
  omega

theorem dayOfYear (split : DayOfEra n century cycle year day) {y : Int}
    (years : y = 100 * century + 4 * cycle + year) : n - (365 * y + y / 4 - y / 100) = day := by
  obtain ⟨sum, _, _, _, _, _⟩ := split
  omega

/-- A year with a last day that only leap years have is a leap year of the calendar, where it goes
on to the February after. -/
theorem isLeap (split : DayOfEra n century cycle year day) (last : day = 365) (era : Int) :
    isLeap (100 * century + 4 * cycle + year + era * 400 + 1) = true := by
  obtain ⟨-, _, _, _, -, leap⟩ := split
  obtain ⟨rfl, ends⟩ := leap last
  simp only [Date.isLeap, Bool.and_eq_true, Bool.or_eq_true, beq_iff_eq, bne_iff_ne]
  omega

end DayOfEra

/-- The month of a day of the year, counted from March, and the day of that month. -/
structure DayOfMonth (dayOfYear month day : Int) : Prop where
  sum : dayOfYear = (153 * month + 2) / 5 + day - 1
  month_range : 0 ≤ month ∧ month ≤ 11
  day_range : 1 ≤ day ∧ day ≤ 31
  short : month = 1 ∨ month = 3 ∨ month = 6 ∨ month = 8 → day ≤ 30
  february : month = 11 → day ≤ 28 ∨ day = 29 ∧ dayOfYear = 365

theorem dayOfMonth_of_range {n : Int} (low : 0 ≤ n) (high : n ≤ 365) :
    DayOfMonth n ((5 * n + 2) / 153) (n - (153 * ((5 * n + 2) / 153) + 2) / 5 + 1) := by
  constructor <;> omega

/-- The date of a number of days by the parts of the era and of the year. -/
theorem ofDays_parts (days : Int) :
    ∃ era n century cycle year dayOfYear month day, days + 719468 = era * eraDays + n ∧
      DayOfEra n century cycle year dayOfYear ∧ DayOfMonth dayOfYear month day ∧
      ofDays days = {
        year := 100 * century + 4 * cycle + year + era * 400 + (if month < 10 then 0 else 1)
        month := (if month < 10 then month + 3 else month - 9).toNat
        day := day.toNat } := by
  obtain ⟨era, eras⟩ : ∃ era, era = (days + 719468) / eraDays := ⟨_, rfl⟩
  obtain ⟨n, rest⟩ : ∃ n, n = (days + 719468) % eraDays := ⟨_, rfl⟩
  have whole : days + 719468 = era * eraDays + n := by unfold eraDays at *; omega
  obtain ⟨century, cycle, year, dayOfYear, split⟩ :=
    dayOfEra_of_range (n := n) (by unfold eraDays at *; omega) (by unfold eraDays at *; omega)
  have within := dayOfMonth_of_range split.day_range.1 split.day_range.2
  refine ⟨era, n, century, cycle, year, dayOfYear, _, _, whole, split, within, ?_⟩
  have months := within.month_range
  unfold ofDays
  simp only [← eras, ← rest, split.yearOfEra, split.dayOfYear rfl, mk.injEq, and_true]
  congr 1
  split <;> split <;> omega

/-- **The date of a number of days is in the calendar.** -/
theorem isValid_ofDays (days : Int) : (ofDays days).isValid = true := by
  obtain ⟨era, n, century, cycle, year, dayOfYear, month, day, -, split, within, date⟩ :=
    ofDays_parts days
  obtain ⟨-, ⟨low, high⟩, ⟨first, last⟩, short, february⟩ := within
  have leap := fun ends => split.isLeap ends era
  rw [date]
  simp only [isValid, Bool.and_eq_true, decide_eq_true_eq]
  refine ⟨⟨⟨?_, ?_⟩, by omega⟩, ?_⟩
  · split <;> omega
  · split <;> omega
  · by_cases winter : month = 11
    · subst winter
      rcases february rfl with few | ⟨rfl, ends⟩
      · have shortest : 28 ≤ monthLength
            (100 * century + 4 * cycle + year + era * 400 + 1) 2 := by
          simp only [monthLength]
          split <;> split <;> simp_all
        exact le_trans (by omega) shortest
      · simp [monthLength, leap ends]
    · interval_cases month <;> simp [monthLength] at short winter ⊢ <;> omega

/-- **The days up to the date of a number of days are that number.** -/
theorem toDays_ofDays (days : Int) : (ofDays days).toDays = days := by
  obtain ⟨era, n, century, cycle, year, dayOfYear, month, day, whole, split, within, date⟩ :=
    ofDays_parts days
  obtain ⟨sum, ⟨low, high⟩, ⟨first, last⟩, -, -⟩ := within
  have begins := split.dayOfYear rfl
  obtain ⟨-, _, _, _, _, -⟩ := split
  rw [date, toDays]
  unfold eraDays at *
  interval_cases month <;> simp [dayOfMarchYear] at sum ⊢ <;> omega

end TaskRunner.Date
