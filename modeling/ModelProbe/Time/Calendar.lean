/-! The proleptic Gregorian calendar.

A date is a year, a month and a day. Days are numbered from 1970-01-01, which was a
Thursday; the number carries the arithmetic, and weekdays and ISO weeks follow from it.
Weekdays count from Monday, which is 0. -/
namespace ModelProbe.Time

structure Date where
  year : Int
  month : Nat
  day : Nat
deriving DecidableEq

namespace Date

/-- The years a date may have. -/
def minYear : Int := -262143
def maxYear : Int := 262142

def isLeap (year : Int) : Bool :=
  year % 4 == 0 && (year % 100 != 0 || year % 400 == 0)

def monthLengths (year : Int) : List Nat :=
  [31, if isLeap year then 29 else 28, 31, 30, 31, 30, 31, 31, 30, 31, 30, 31]

def yearLength (year : Int) : Nat :=
  if isLeap year then 366 else 365

def ofYmd? (year : Int) (month day : Nat) : Option Date :=
  if minYear ≤ year ∧ year ≤ maxYear ∧ 1 ≤ month ∧ 1 ≤ day ∧
      day ≤ (monthLengths year).getD (month - 1) 0 then
    some ⟨year, month, day⟩
  else none

/-- The place of the date in its year, from 1. -/
def dayOfYear (d : Date) : Nat :=
  ((monthLengths d.year).take (d.month - 1)).foldr (· + ·) d.day

/-- Month and day of the `n`-th day, from 1, of the months with these lengths. -/
def monthAndDay (month : Nat) : List Nat → Nat → Nat × Nat
  | [], n => (month, n)
  | length :: rest, n =>
    if n ≤ length then (month, n) else monthAndDay (month + 1) rest (n - length)

/-- The date at a place in a year. -/
def ofDayOfYear? (year : Int) (n : Nat) : Option Date :=
  if minYear ≤ year ∧ year ≤ maxYear ∧ 1 ≤ n ∧ n ≤ yearLength year then
    let (month, day) := monthAndDay 1 (monthLengths year) n
    some ⟨year, month, day⟩
  else none

/-- Days from the start of year 0 to the start of a year. -/
def daysBefore (year : Int) : Int :=
  365 * year + Int.fdiv (year + 3) 4 - Int.fdiv (year + 99) 100 + Int.fdiv (year + 399) 400

def number (d : Date) : Int :=
  daysBefore d.year - daysBefore 1970 + d.dayOfYear - 1

/-- The year that holds a day, which is numbered from the start of year 0. An estimate from
the mean length of a year is at most one off. -/
def yearOf (n : Int) : Int :=
  let year := Int.fdiv (400 * n) 146097
  if n < daysBefore year then year - 1
  else if daysBefore (year + 1) ≤ n then year + 1
  else year

def ofNumber? (n : Int) : Option Date :=
  let n := n + daysBefore 1970
  let year := yearOf n
  ofDayOfYear? year (n - daysBefore year + 1).toNat

/-! ### Weeks -/

/-- Days since Monday. -/
def weekday (d : Date) : Nat :=
  ((d.number + 3) % 7).toNat

/-- Days from one weekday forward to another. -/
def daysSince (weekday start : Nat) : Nat :=
  (weekday + 7 - start) % 7

/-- The week of the year when weeks begin on `start` and the first is the first full one. -/
def weekFrom (start : Nat) (d : Date) : Nat :=
  (d.dayOfYear + 6 - daysSince d.weekday start) / 7

/-- The day of that week, when it lies in the year. -/
def ofWeekFrom? (start : Nat) (year : Int) (week weekday : Nat) : Option Date := do
  let first ← ofDayOfYear? year 1
  let opening : Int := 1 + daysSince start first.weekday
  let n := opening + ((week : Int) - 1) * 7 + daysSince weekday start
  ofDayOfYear? year n.toNat

/-- Year and number of the ISO week, which belongs to the year that holds its Thursday. -/
def isoWeek (d : Date) : Int × Nat :=
  let thursday := d.number - d.weekday + 3 + daysBefore 1970
  let year := yearOf thursday
  (year, ((thursday - daysBefore year) / 7).toNat + 1)

/-- The day of an ISO week, if the year has that week. The first week holds January 4. -/
def ofIsoWeek? (year : Int) (week weekday : Nat) : Option Date := do
  let january4 := daysBefore year - daysBefore 1970 + 3
  let monday := january4 - (january4 + 3) % 7
  let d ← ofNumber? (monday + ((week : Int) - 1) * 7 + weekday)
  if d.isoWeek = (year, week) then some d else none

def quarter (d : Date) : Nat :=
  (d.month - 1) / 3 + 1

end Date

end ModelProbe.Time
