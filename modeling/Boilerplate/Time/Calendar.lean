/-!
# Calendar days

Dates of the proleptic Gregorian calendar as days since 1 January 1970, and back. Years are counted
from March, so that the leap day is the last day of a year, and in cycles of 400 years.
-/

namespace Boilerplate

structure Date where
  year : Int
  month : Nat
  day : Nat
  deriving DecidableEq, Repr

namespace Date

def isLeapYear (year : Int) : Bool :=
  year % 4 = 0 ∧ (year % 100 ≠ 0 ∨ year % 400 = 0)

def daysInMonth (year : Int) (month : Nat) : Nat :=
  if month = 2 then (if isLeapYear year then 29 else 28)
  else if month = 4 ∨ month = 6 ∨ month = 9 ∨ month = 11 then 30
  else 31

def isValid (d : Date) : Bool :=
  1 ≤ d.month && d.month ≤ 12 && 1 ≤ d.day && d.day ≤ daysInMonth d.year d.month

/-- Days of a cycle of 400 years. -/
def cycleDays : Int := 146097

/-- Days from 1 March of the year 0 to 1 January 1970. -/
def epochDay : Int := 719468

def toDays (d : Date) : Int :=
  let year := if d.month ≤ 2 then d.year - 1 else d.year
  let month : Int := if d.month ≤ 2 then d.month + 9 else d.month - 3
  let yearOfCycle := Int.fmod year 400
  let dayOfYear := (153 * month + 2) / 5 + d.day - 1
  Int.fdiv year 400 * cycleDays + yearOfCycle * 365 + yearOfCycle / 4 - yearOfCycle / 100
    + dayOfYear - epochDay

def ofDays (days : Int) : Date :=
  let shifted := days + epochDay
  let cycle := Int.fdiv shifted cycleDays
  let dayOfCycle := Int.fmod shifted cycleDays
  let yearOfCycle :=
    (dayOfCycle - dayOfCycle / 1460 + dayOfCycle / 36524 - dayOfCycle / 146096) / 365
  let dayOfYear := dayOfCycle - (365 * yearOfCycle + yearOfCycle / 4 - yearOfCycle / 100)
  let month := (5 * dayOfYear + 2) / 153
  let day := dayOfYear - (153 * month + 2) / 5 + 1
  let calendarMonth := if month < 10 then month + 3 else month - 9
  let year := yearOfCycle + cycle * 400 + (if calendarMonth ≤ 2 then 1 else 0)
  ⟨year, calendarMonth.toNat, day.toNat⟩

end Date

end Boilerplate
