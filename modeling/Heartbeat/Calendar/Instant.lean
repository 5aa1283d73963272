/-!
Instants of coordinated universal time, with the leap seconds that were written down as such, and
the days of the Gregorian calendar, extended to all years.
-/

namespace Heartbeat.Calendar

/-- A day counted from 1970-01-01, a second of it and nanoseconds. A leap second is the last
second of its minute with a billion nanoseconds added. -/
structure Instant where
  day : Int
  second : Nat
  nano : Nat
deriving DecidableEq

structure Date where
  year : Int
  month : Nat
  day : Nat
deriving DecidableEq

namespace Date

def isLeapYear (year : Int) : Bool :=
  year.emod 4 = 0 && (year.emod 100 ≠ 0 || year.emod 400 = 0)

def daysInMonth (year : Int) (month : Nat) : Nat :=
  if month = 2 then (if isLeapYear year then 29 else 28)
  else if month = 4 ∨ month = 6 ∨ month = 9 ∨ month = 11 then 30
  else 31

/-- Years are counted from March here, so that a leap day ends its year. -/
def number (date : Date) : Int :=
  let year := if date.month ≤ 2 then date.year - 1 else date.year
  let month := if date.month ≤ 2 then date.month + 9 else date.month - 3
  let dayOfYear : Int := (((153 * month + 2) / 5 + date.day : Nat) : Int) - 1
  year * 365 + year.fdiv 4 - year.fdiv 100 + year.fdiv 400 + dayOfYear - 719468

/-- The date with a given day number, found within its cycle of 400 years. -/
def ofNumber (n : Int) : Date :=
  let shifted := n + 719468
  let cycle := shifted.fdiv 146097
  let dayOfCycle := (shifted.fmod 146097).toNat
  let yearOfCycle :=
    (dayOfCycle - dayOfCycle / 1460 + dayOfCycle / 36524 - dayOfCycle / 146096) / 365
  let dayOfYear :=
    dayOfCycle - (365 * yearOfCycle + yearOfCycle / 4 - yearOfCycle / 100)
  let month := (5 * dayOfYear + 2) / 153
  let year : Int := yearOfCycle + cycle * 400
  { year := if month < 10 then year else year + 1
    month := if month < 10 then month + 3 else month - 9
    day := dayOfYear - (153 * month + 2) / 5 + 1 }

example : (Date.mk 1970 1 1).number = 0 := by decide

example : (Date.mk 2024 2 29).number = 19782 := by decide

example : ofNumber 19782 = ⟨2024, 2, 29⟩ := by decide

example : ofNumber (Date.mk (-262143) 1 1).number = ⟨-262143, 1, 1⟩ := by decide

end Date

namespace Instant

/-- Seconds since 1970-01-01, a leap second counting as the second before it. -/
def unixSeconds (t : Instant) : Int := t.day * 86400 + t.second

def date (t : Instant) : Date := .ofNumber t.day

def ofUnix (seconds : Int) (nano : Nat) : Instant :=
  ⟨seconds.fdiv 86400, (seconds.fmod 86400).toNat, nano⟩

end Instant

end Heartbeat.Calendar
