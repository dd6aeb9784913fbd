/-!
# Calendar dates

Dates of the Gregorian calendar, extended to all years in the range that a date can hold, and
the step from one date to its neighbours.

## Main definitions

* `Date` : a year, a month and a day.
* `Date.ofParts?` : the date with given parts, if the calendar has it.
* `Date.next`, `Date.previous` : the neighbouring dates.
-/

namespace PageMigration

/-- A date of the Gregorian calendar, extended to years before its introduction. -/
structure Date where
  year : Int
  month : Nat
  day : Nat
  deriving DecidableEq, Repr

namespace Date

/-- A year is a leap year if four divides it, except for centuries that four hundred does not
divide. -/
def isLeapYear (year : Int) : Bool :=
  year % 4 == 0 && (year % 100 != 0 || year % 400 == 0)

/-- The number of days in a month. -/
def daysInMonth (year : Int) (month : Nat) : Nat :=
  match month with
  | 2 => if isLeapYear year then 29 else 28
  | 4 | 6 | 9 | 11 => 30
  | _ => 31

/-- The first year that a date can hold. -/
def firstYear : Int := -262143

/-- The last year that a date can hold. -/
def lastYear : Int := 262142

/-- The date with given parts, if the calendar has it. -/
def ofParts? (year : Int) (month day : Nat) : Option Date :=
  if firstYear ≤ year ∧ year ≤ lastYear ∧ 1 ≤ month ∧ month ≤ 12 ∧ 1 ≤ day ∧
      day ≤ daysInMonth year month then
    some ⟨year, month, day⟩
  else none

/-- The date after a given one. -/
def next (d : Date) : Date :=
  if d.day < daysInMonth d.year d.month then { d with day := d.day + 1 }
  else if d.month < 12 then ⟨d.year, d.month + 1, 1⟩
  else ⟨d.year + 1, 1, 1⟩

/-- The date before a given one. -/
def previous (d : Date) : Date :=
  if 1 < d.day then { d with day := d.day - 1 }
  else if 1 < d.month then ⟨d.year, d.month - 1, daysInMonth d.year (d.month - 1)⟩
  else ⟨d.year - 1, 12, 31⟩

end Date

end PageMigration
