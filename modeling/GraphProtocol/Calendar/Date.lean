/-!
# Dates

A date is a day counted from 1970-01-01. The year, month and day of the
proleptic Gregorian calendar are a view of that count.
-/

set_option autoImplicit false

namespace GraphProtocol.Calendar

def firstDay : Int := -96465292

def lastDay : Int := 95026236

/-- A day between -262143-01-01 and 262142-12-31, counted from 1970-01-01. -/
structure Date where
  day : Int
  first_le : firstDay ≤ day
  le_last : day ≤ lastDay
  deriving DecidableEq, Repr

structure CivilDate where
  year : Int
  month : Nat
  day : Nat
  deriving DecidableEq, Repr

def isLeapYear (year : Int) : Bool :=
  year % 4 == 0 && (year % 100 != 0 || year % 400 == 0)

def daysInMonth (year : Int) (month : Nat) : Nat :=
  match month with
  | 2 => if isLeapYear year then 29 else 28
  | 4 | 6 | 9 | 11 => 30
  | _ => 31

def CivilDate.isValid (c : CivilDate) : Bool :=
  1 ≤ c.month && c.month ≤ 12 && 1 ≤ c.day && c.day ≤ daysInMonth c.year c.month

def CivilDate.dayNumber (c : CivilDate) : Int :=
  let year := if c.month ≤ 2 then c.year - 1 else c.year
  let era := year / 400
  let yearOfEra := year % 400
  let monthFromMarch : Int := (c.month + 9) % 12
  let dayOfYear := (153 * monthFromMarch + 2) / 5 + c.day - 1
  let dayOfEra := yearOfEra * 365 + yearOfEra / 4 - yearOfEra / 100 + dayOfYear
  era * 146097 + dayOfEra - 719468

def CivilDate.ofDayNumber (day : Int) : CivilDate :=
  let shifted := day + 719468
  let era := shifted / 146097
  let dayOfEra := shifted % 146097
  let yearOfEra := (dayOfEra - dayOfEra / 1460 + dayOfEra / 36524 - dayOfEra / 146096) / 365
  let dayOfYear := dayOfEra - (365 * yearOfEra + yearOfEra / 4 - yearOfEra / 100)
  let monthFromMarch := (5 * dayOfYear + 2) / 153
  let dayOfMonth := dayOfYear - (153 * monthFromMarch + 2) / 5 + 1
  let month := if monthFromMarch < 10 then monthFromMarch + 3 else monthFromMarch - 9
  let year := yearOfEra + era * 400 + (if month ≤ 2 then 1 else 0)
  ⟨year, month.toNat, dayOfMonth.toNat⟩

def Date.ofDay? (day : Int) : Option Date :=
  if h : firstDay ≤ day ∧ day ≤ lastDay then some ⟨day, h.1, h.2⟩ else none

def Date.ofCivil? (c : CivilDate) : Option Date :=
  if c.isValid then Date.ofDay? c.dayNumber else none

def Date.civil (d : Date) : CivilDate := CivilDate.ofDayNumber d.day

end GraphProtocol.Calendar
