import DocSearch.Calendar.Date

/-!
Moments of universal time and their text. A leap second belongs to the second before it.
-/

namespace DocSearch.Calendar

/-- A moment by its day, the second of the day, and the nanoseconds since that second began; in a
leap second there are a billion or more of them. -/
structure Instant where
  date : Date
  second : Nat
  nano : Nat
  deriving Repr, DecidableEq

def nanosPerSecond : Nat := 1000000000

def secondsPerDay : Nat := 86400

/-- A number with leading zeros up to a width. -/
def padded (width n : Nat) : String :=
  let ds := Nat.toDigits 10 n
  String.ofList (List.replicate (width - ds.length) '0' ++ ds)

/-- A year of up to four digits has four; any other has a sign too. -/
def yearText (year : Int) : String :=
  if 0 ≤ year ∧ year ≤ 9999 then padded 4 year.toNat
  else (if year < 0 then "-" else "+") ++ padded 4 year.natAbs

/-- The fraction of a second in three, six or nine digits, as few as hold it. -/
def fractionText (nano : Nat) : String :=
  if nano = 0 then ""
  else if nano % 1000000 = 0 then "." ++ padded 3 (nano / 1000000)
  else if nano % 1000 = 0 then "." ++ padded 6 (nano / 1000)
  else "." ++ padded 9 nano

namespace Instant

/-- Moves a moment by seconds, if the day it reaches is a date. -/
def shift (t : Instant) (seconds : Int) : Option Instant :=
  let total := t.date.dayNumber * secondsPerDay + t.second + seconds
  let date := Date.ofDayNumber (total / secondsPerDay)
  if date.valid then some ⟨date, (total % secondsPerDay).toNat, t.nano⟩ else none

/-- The text of a moment: day, time and the offset of universal time. -/
def text (t : Instant) : String :=
  let leap := t.nano / nanosPerSecond
  yearText t.date.year ++ "-" ++ padded 2 t.date.month ++ "-" ++ padded 2 t.date.day ++ "T" ++
    padded 2 (t.second / 3600) ++ ":" ++ padded 2 (t.second / 60 % 60) ++ ":" ++
    padded 2 (t.second % 60 + leap) ++ fractionText (t.nano % nanosPerSecond) ++ "+00:00"

end Instant

end DocSearch.Calendar
