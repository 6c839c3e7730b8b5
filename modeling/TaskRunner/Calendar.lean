/- # TaskRunner.Calendar -- days and dates

The calendar is the Gregorian one, extended to all years in both directions; the year zero comes
before the year one.  Days are counted from the first of January 1970.

A year is taken to begin in March, so that the leap day is its last day.  Four hundred such years
are an era of a fixed number of days, and within an era the years, centuries and months are found by
division. -/

namespace TaskRunner
set_option autoImplicit false

/-- A date of the Gregorian calendar. -/
structure Date where
  year : Int
  month : Nat
  day : Nat
  deriving DecidableEq, Repr, Inhabited

namespace Date

def isLeap (year : Int) : Bool := year % 4 == 0 && (year % 100 != 0 || year % 400 == 0)

/-- The number of days of a month. -/
def monthLength (year : Int) (month : Nat) : Nat :=
  if month == 2 then (if isLeap year then 29 else 28)
  else if month == 4 || month == 6 || month == 9 || month == 11 then 30
  else 31

/-- Whether the calendar has the date. -/
def isValid (date : Date) : Bool :=
  1 ≤ date.month && date.month ≤ 12 && 1 ≤ date.day && date.day ≤ monthLength date.year date.month

/-- The number of days of four hundred years. -/
def eraDays : Int := 146097

/-- The day of a year that begins in March. -/
def dayOfMarchYear (month day : Nat) : Int :=
  (153 * ((month + 9 : Int) % 12) + 2) / 5 + day - 1

/-- The number of days from the beginning of 1970 to a date. -/
def toDays (date : Date) : Int :=
  let year := if date.month ≤ 2 then date.year - 1 else date.year
  let yearOfEra := year % 400
  let day := yearOfEra * 365 + yearOfEra / 4 - yearOfEra / 100 +
    dayOfMarchYear date.month date.day
  (year / 400) * eraDays + day - 719468

/-- The date that lies a number of days after the beginning of 1970. -/
def ofDays (days : Int) : Date :=
  let era := (days + 719468) / eraDays
  let dayOfEra := (days + 719468) % eraDays
  let yearOfEra := (dayOfEra - dayOfEra / 1460 + dayOfEra / 36524 - dayOfEra / 146096) / 365
  let dayOfYear := dayOfEra - (365 * yearOfEra + yearOfEra / 4 - yearOfEra / 100)
  let monthFromMarch := (5 * dayOfYear + 2) / 153
  let day := dayOfYear - (153 * monthFromMarch + 2) / 5 + 1
  let month := if monthFromMarch < 10 then monthFromMarch + 3 else monthFromMarch - 9
  { year := yearOfEra + era * 400 + (if month ≤ 2 then 1 else 0)
    month := month.toNat
    day := day.toNat }

end Date
end TaskRunner
