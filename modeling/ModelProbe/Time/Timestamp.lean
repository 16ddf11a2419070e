import ModelProbe.Time.Calendar

/-! Timestamps: a date and a time of day, without an offset.

A leap second is second 59 with a billion nanoseconds or more, so timestamps ascend through
it. `Timestamp.rank` is an integer that orders them. -/
namespace ModelProbe.Time

structure TimeOfDay where
  hour : Nat
  minute : Nat
  second : Nat
  nanosecond : Nat
deriving DecidableEq

structure Timestamp where
  date : Date
  time : TimeOfDay
deriving DecidableEq

def TimeOfDay.midnight : TimeOfDay := ⟨0, 0, 0, 0⟩

/-- Seconds since midnight. -/
def TimeOfDay.seconds (t : TimeOfDay) : Nat :=
  3600 * t.hour + 60 * t.minute + t.second

def TimeOfDay.ofSeconds (n nanosecond : Nat) : TimeOfDay :=
  ⟨n / 3600, n / 60 % 60, n % 60, nanosecond⟩

namespace Timestamp

/-- Seconds since the start of 1970; a leap second counts as the second before it. -/
def epochSeconds (t : Timestamp) : Int :=
  86400 * t.date.number + t.time.seconds

def rank (t : Timestamp) : Int :=
  2000000000 * t.epochSeconds + t.time.nanosecond

def ofEpoch? (seconds : Int) (nanosecond : Nat) : Option Timestamp :=
  (Date.ofNumber? (Int.fdiv seconds 86400)).map fun date =>
    ⟨date, .ofSeconds (Int.fmod seconds 86400).toNat nanosecond⟩

/-! ### Writing -/

/-- At least `width` digits. -/
def padded (width n : Nat) : List Char :=
  let digits := Nat.toDigits 10 n
  List.replicate (width - digits.length) '0' ++ digits

/-- Years from 0 to 9999 have four digits, others a sign as well. -/
def yearText (year : Int) : List Char :=
  if 0 ≤ year ∧ year ≤ 9999 then padded 4 year.toNat
  else (if year < 0 then '-' else '+') :: padded 4 year.natAbs

/-- A point and 3, 6 or 9 digits; nothing for a whole second. -/
def fractionText (nanosecond : Nat) : List Char :=
  if nanosecond = 0 then []
  else if nanosecond % 1000000 = 0 then '.' :: padded 3 (nanosecond / 1000000)
  else if nanosecond % 1000 = 0 then '.' :: padded 6 (nanosecond / 1000)
  else '.' :: padded 9 nanosecond

/-- ISO 8601, with a leap second as second 60. -/
def text (t : Timestamp) : String :=
  let nanosecond := t.time.nanosecond
  String.ofList (yearText t.date.year ++ '-' :: padded 2 t.date.month ++ '-' ::
    padded 2 t.date.day ++ 'T' :: padded 2 t.time.hour ++ ':' :: padded 2 t.time.minute ++ ':' ::
    padded 2 (t.time.second + nanosecond / 1000000000) ++ fractionText (nanosecond % 1000000000))

end Timestamp

end ModelProbe.Time
