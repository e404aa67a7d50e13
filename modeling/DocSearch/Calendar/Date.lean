/-!
Days of the proleptic Gregorian calendar, counted from the first of January 1970.
-/

namespace DocSearch.Calendar

/-- A day by its year, month and day of the month. -/
structure Date where
  year : Int
  month : Nat
  day : Nat
  deriving Repr, DecidableEq

def isLeapYear (year : Int) : Bool := (year % 4 == 0 && year % 100 != 0) || year % 400 == 0

/-- The length of a month, zero for a number that is no month. -/
def daysInMonth (year : Int) (month : Nat) : Nat :=
  if month = 2 then (if isLeapYear year then 29 else 28)
  else if month = 4 ∨ month = 6 ∨ month = 9 ∨ month = 11 then 30
  else if 1 ≤ month ∧ month ≤ 12 then 31
  else 0

namespace Date

/-- The first and the last year that dates may have. -/
def firstYear : Int := -262143

@[inherit_doc firstYear]
def lastYear : Int := 262142

/-- Whether the calendar has the day, in the years that dates may have. -/
def valid (d : Date) : Bool :=
  decide (firstYear ≤ d.year ∧ d.year ≤ lastYear) && decide (1 ≤ d.day) &&
    decide (d.day ≤ daysInMonth d.year d.month)

/-- How many days lie between the first of January 1970 and a day. Years begin with March here, so
that the leap day is the last of its year. -/
def dayNumber (d : Date) : Int :=
  let year := if d.month ≤ 2 then d.year - 1 else d.year
  let month := if d.month ≤ 2 then d.month + 9 else d.month - 3
  365 * year + year / 4 - year / 100 + year / 400 + ((153 * month + 2) / 5 + d.day : Nat) - 719469

def ofDayNumber (n : Int) : Date :=
  let shifted := n + 719468
  let era := shifted / 146097
  let inEra := (shifted % 146097).toNat
  let yearOfEra := (inEra - inEra / 1460 + inEra / 36524 - inEra / 146096) / 365
  let inYear := inEra - (365 * yearOfEra + yearOfEra / 4 - yearOfEra / 100)
  let month := (5 * inYear + 2) / 153
  let day := inYear - (153 * month + 2) / 5 + 1
  let year := era * 400 + yearOfEra
  if month < 10 then ⟨year, month + 3, day⟩ else ⟨year + 1, month - 9, day⟩

/-- The day of the week, counted from Sunday. -/
def weekday (d : Date) : Nat := ((d.dayNumber + 4) % 7).toNat

end Date

end DocSearch.Calendar
