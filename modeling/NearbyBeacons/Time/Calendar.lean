/-!
# The calendar

Days of the proleptic Gregorian calendar, counted from 1 January 1970, and their
years, months and days. Year 0 precedes year 1. `daysBeforeYear` counts the days of
all years before one, and `yearOfDay` inverts it.
-/

namespace NearbyBeacons.Calendar

/-- A day of a month of a year. -/
structure Date where
  year : Int
  month : Nat
  day : Nat
  deriving DecidableEq, Repr

/-- Whether `year` has a 29 February. -/
def isLeapYear (year : Int) : Bool :=
  year % 4 == 0 && (year % 100 != 0 || year % 400 == 0)

/-- The lengths of the twelve months. -/
def monthLengths (leap : Bool) : List Nat :=
  [31, if leap then 29 else 28, 31, 30, 31, 30, 31, 31, 30, 31, 30, 31]

/-- The length of a month, zero for a number that is no month. -/
def daysInMonth (year : Int) (month : Nat) : Nat :=
  if month = 0 then 0 else (monthLengths (isLeapYear year)).getD (month - 1) 0

/-- A date that the calendar has. -/
def Date.isValid (d : Date) : Bool :=
  1 ≤ d.month && d.month ≤ 12 && 1 ≤ d.day && d.day ≤ daysInMonth d.year d.month

/-- The days from 1 January of year 0 to 1 January of `year`. -/
def daysBeforeYear (year : Int) : Int :=
  365 * year + (year - 1) / 4 - (year - 1) / 100 + (year - 1) / 400 + 1

/-- The days from 1 January to the first day of `month`. -/
def daysBeforeMonth (leap : Bool) (month : Nat) : Nat :=
  ((monthLengths leap).take (month - 1)).foldl (· + ·) 0

/-- The number of days from 1 January of year 0 to 1 January 1970. -/
def epoch : Int := 719528

/-- The day number of a date: 0 for 1 January 1970. -/
def dayNumber (d : Date) : Int :=
  daysBeforeYear d.year + (daysBeforeMonth (isLeapYear d.year) d.month : Int) + (d.day : Int) - 1
    - epoch

/-- The year of the day that follows 1 January of year 0 by `days` days. The mean
length of a year gives it to within one. -/
def yearOfDay (days : Int) : Int :=
  let guess := 400 * days / 146097
  if daysBeforeYear (guess + 1) ≤ days then guess + 1
  else if daysBeforeYear guess ≤ days then guess
  else guess - 1

/-- The month, counted from `month` on, and the day of the day that follows the first
day of `month` by `days` days. -/
def splitMonths (month days : Nat) : List Nat → Nat × Nat
  | [] => (month, days + 1)
  | length :: rest =>
    if days < length then (month, days + 1) else splitMonths (month + 1) (days - length) rest

/-- The date of a day number. -/
def ofDayNumber (n : Int) : Date :=
  let days := n + epoch
  let year := yearOfDay days
  let (month, day) := splitMonths 1 (days - daysBeforeYear year).toNat
    (monthLengths (isLeapYear year))
  { year, month, day }

end NearbyBeacons.Calendar
