import ModelProbe.Time.Timestamp

/-! The fields a text gives about a date and a time.

Fields are checked against their ranges one by one as they come, and one that comes twice
must say the same twice. A date is then made from the first sufficient set of fields, and
every other field must agree with it. -/
namespace ModelProbe.Time

/-- Why a text is not the timestamp a format asks for. -/
inductive Fault where
  | outOfRange
  | contradiction
  | incomplete
  | invalid
  | tooShort
  | trailing
  | badFormat
deriving DecidableEq

def Fault.message : Fault → String
  | outOfRange => "input is out of range"
  | contradiction => "no possible date and time matching input"
  | incomplete => "input is not enough for unique date and time"
  | invalid => "input contains invalid characters"
  | tooShort => "premature end of input"
  | trailing => "trailing input"
  | badFormat => "bad or unsupported format string"

structure Fields where
  year : Option Int := none
  century : Option Int := none
  yearOfCentury : Option Int := none
  isoYear : Option Int := none
  isoYearOfCentury : Option Int := none
  quarter : Option Nat := none
  month : Option Nat := none
  day : Option Nat := none
  weekFromSunday : Option Nat := none
  weekFromMonday : Option Nat := none
  isoWeek : Option Nat := none
  /-- Days since Monday. -/
  weekday : Option Nat := none
  dayOfYear : Option Nat := none
  /-- 0 before noon, 1 after. -/
  halfOfDay : Option Nat := none
  /-- The hour within its half of the day. -/
  hourOfHalf : Option Nat := none
  minute : Option Nat := none
  second : Option Nat := none
  nanosecond : Option Nat := none
  epochSecond : Option Int := none
  offset : Option Int := none

namespace Fields

/-- A field's new value, which must be its old value if it has one. -/
def agree {α : Type} [DecidableEq α] (old : Option α) (new : α) : Except Fault (Option α) :=
  match old with
  | some v => if v = new then .ok old else .error .contradiction
  | none => .ok (some new)

/-- A value that must lie in a range. -/
def within (low high v : Int) : Except Fault Nat :=
  if low ≤ v ∧ v ≤ high then .ok v.toNat else .error .outOfRange

/-- A year must fit 32 bits. -/
def asYear (v : Int) : Except Fault Int :=
  if Int32.minValue.toInt ≤ v ∧ v ≤ Int32.maxValue.toInt then .ok v else .error .outOfRange

variable (f : Fields)

def setYear (v : Int) : Except Fault Fields :=
  return { f with year := ← agree f.year (← asYear v) }

def setCentury (v : Int) : Except Fault Fields :=
  return { f with century := ← agree f.century (← within 0 Int32.maxValue.toInt v : Nat) }

def setYearOfCentury (v : Int) : Except Fault Fields :=
  return { f with yearOfCentury := ← agree f.yearOfCentury (← within 0 99 v : Nat) }

def setIsoYear (v : Int) : Except Fault Fields :=
  return { f with isoYear := ← agree f.isoYear (← asYear v) }

def setIsoYearOfCentury (v : Int) : Except Fault Fields :=
  return { f with isoYearOfCentury := ← agree f.isoYearOfCentury (← within 0 99 v : Nat) }

def setQuarter (v : Int) : Except Fault Fields :=
  return { f with quarter := ← agree f.quarter (← within 1 4 v) }

def setMonth (v : Int) : Except Fault Fields :=
  return { f with month := ← agree f.month (← within 1 12 v) }

def setDay (v : Int) : Except Fault Fields :=
  return { f with day := ← agree f.day (← within 1 31 v) }

def setWeekFromSunday (v : Int) : Except Fault Fields :=
  return { f with weekFromSunday := ← agree f.weekFromSunday (← within 0 53 v) }

def setWeekFromMonday (v : Int) : Except Fault Fields :=
  return { f with weekFromMonday := ← agree f.weekFromMonday (← within 0 53 v) }

def setIsoWeek (v : Int) : Except Fault Fields :=
  return { f with isoWeek := ← agree f.isoWeek (← within 1 53 v) }

def setWeekday (v : Nat) : Except Fault Fields :=
  return { f with weekday := ← agree f.weekday v }

def setDayOfYear (v : Int) : Except Fault Fields :=
  return { f with dayOfYear := ← agree f.dayOfYear (← within 1 366 v) }

def setHalfOfDay (v : Nat) : Except Fault Fields :=
  return { f with halfOfDay := ← agree f.halfOfDay v }

def setHour (v : Int) : Except Fault Fields := do
  let hour ← within 0 23 v
  let half ← agree f.halfOfDay (hour / 12)
  return { f with halfOfDay := half, hourOfHalf := ← agree f.hourOfHalf (hour % 12) }

/-- Twelve o'clock starts a half. -/
def setHour12 (v : Int) : Except Fault Fields := do
  return { f with hourOfHalf := ← agree f.hourOfHalf ((← within 1 12 v) % 12) }

def setMinute (v : Int) : Except Fault Fields :=
  return { f with minute := ← agree f.minute (← within 0 59 v) }

/-- Second 60 is a leap second. -/
def setSecond (v : Int) : Except Fault Fields :=
  return { f with second := ← agree f.second (← within 0 60 v) }

def setNanosecond (v : Int) : Except Fault Fields :=
  return { f with nanosecond := ← agree f.nanosecond (← within 0 999999999 v) }

def setEpochSecond (v : Int) : Except Fault Fields :=
  return { f with epochSecond := ← agree f.epochSecond v }

def setOffset (v : Int) : Except Fault Fields :=
  return { f with offset := ← agree f.offset v }

/-! ### Dates -/

/-- The year that a year, a century and a year of the century make together. A year of the
century alone lies between 1970 and 2069; a century needs a year that is not negative. -/
def resolveYear (year century ofCentury : Option Int) : Except Fault (Option Int) :=
  match year, century, ofCentury with
  | y, none, none => .ok y
  | some y, c, r =>
    if 0 ≤ y ∧ c.getD (y / 100) = y / 100 ∧ r.getD (y % 100) = y % 100 then .ok (some y)
    else .error .contradiction
  | none, some c, some r =>
    if 100 * c + r ≤ Int32.maxValue.toInt then .ok (some (100 * c + r)) else .error .outOfRange
  | none, none, some r => .ok (some (r + if r < 70 then 2000 else 1900))
  | none, some _, none => .error .incomplete

/-- Whether a field that is given has this value. -/
def allows {α : Type} [DecidableEq α] (field : Option α) (v : α) : Bool :=
  field.all (· = v)

/-- Whether century and year of the century, where given, are those of a year. -/
def allowsCentury (century ofCentury : Option Int) (year : Int) : Bool :=
  if 0 ≤ year then allows century (year / 100) && allows ofCentury (year % 100)
  else century.isNone && ofCentury.isNone

def allowsYmd (d : Date) : Bool :=
  allows f.year d.year && allowsCentury f.century f.yearOfCentury d.year &&
    allows f.month d.month && allows f.day d.day

def allowsIsoWeek (d : Date) : Bool :=
  let (year, week) := d.isoWeek
  allows f.isoYear year && allowsCentury none f.isoYearOfCentury year &&
    allows f.isoWeek week && allows f.weekday d.weekday

/-- Checks the day of the year and the weeks counted from a first Sunday or Monday. -/
def allowsDayOfYear (d : Date) : Bool :=
  allows f.dayOfYear d.dayOfYear && allows f.weekFromSunday (d.weekFrom 6) &&
    allows f.weekFromMonday (d.weekFrom 0)

def ofOption {α : Type} (fault : Fault) : Option α → Except Fault α
  | some a => .ok a
  | none => .error fault

/-- The day of a week counted from the first full one. A day before or after the year
contradicts it. -/
def weekDate (start : Nat) (year : Int) (week weekday : Nat) : Except Fault Date :=
  if Date.minYear ≤ year ∧ year ≤ Date.maxYear then
    ofOption .contradiction (Date.ofWeekFrom? start year week weekday)
  else .error .outOfRange

/-- The date of the first sufficient set of fields, and whether the others agree. -/
def candidate (year isoYear : Option Int) : Except Fault (Date × Bool) :=
  let checked (d : Date) := (d, f.allowsYmd d && f.allowsIsoWeek d && f.allowsDayOfYear d)
  match year, f.month, f.day with
  | some y, some m, some d => do
    let date ← ofOption .outOfRange (Date.ofYmd? y m d)
    return (date, f.allowsIsoWeek date && f.allowsDayOfYear date)
  | _, _, _ =>
    match year, f.dayOfYear with
    | some y, some n => checked <$> ofOption .outOfRange (Date.ofDayOfYear? y n)
    | _, _ =>
      match year, f.weekFromSunday, f.weekday with
      | some y, some week, some day => checked <$> weekDate 6 y week day
      | _, _, _ =>
        match year, f.weekFromMonday, f.weekday with
        | some y, some week, some day => checked <$> weekDate 0 y week day
        | _, _, _ =>
          match isoYear, f.isoWeek, f.weekday with
          | some y, some week, some day => do
            let date ← ofOption .outOfRange (Date.ofIsoWeek? y week day)
            return (date, f.allowsYmd date && f.allowsDayOfYear date)
          | _, _, _ => .error .incomplete

def date : Except Fault Date := do
  let year ← resolveYear f.year f.century f.yearOfCentury
  let isoYear ← resolveYear f.isoYear none f.isoYearOfCentury
  let (d, agreed) ← f.candidate year isoYear
  if agreed && allows f.quarter d.quarter then return d else throw .contradiction

/-! ### Times -/

/-- Hour and minute are needed, and a second where there is a fraction of one. -/
def time : Except Fault TimeOfDay :=
  match f.halfOfDay, f.hourOfHalf, f.minute with
  | some half, some hour, some minute =>
    let second := f.second.getD 0
    let leap := if second = 60 then 1000000000 else 0
    match f.nanosecond, f.second with
    | some _, none => .error .incomplete
    | nanosecond, _ =>
      .ok ⟨12 * half + hour, minute, min second 59, leap + nanosecond.getD 0⟩
  | _, _, _ => .error .incomplete

/-- The fields that the seconds since the epoch determine, put beside the given ones. A
second 60 stands for the second before it. -/
def fillFromEpoch (seconds : Int) : Except Fault Fields := do
  let t ← ofOption .outOfRange (Timestamp.ofEpoch? seconds 0)
  let (t, f) ←
    if f.second = some 60 then
      match t.time.second with
      | 59 => pure (t, f)
      | 0 => do
        let before ← ofOption .outOfRange (Timestamp.ofEpoch? (seconds - 1) 0)
        pure (before, f)
      | _ => throw .contradiction
    else do
      let f ← f.setSecond t.time.second
      pure (t, f)
  let f ← f.setYear t.date.year
  let f ← f.setDayOfYear t.date.dayOfYear
  let f ← f.setHour t.time.hour
  f.setMinute t.time.minute

/-- The date and time, read as UTC whatever offset is given. Seconds since the epoch stand
in for what is missing and must agree with what is not. -/
def timestamp : Except Fault Timestamp :=
  match f.date, f.time with
  | .ok date, .ok time =>
    let t : Timestamp := ⟨date, time⟩
    let seconds := t.epochSeconds
    if f.epochSecond.all fun given =>
        given = seconds ∨ (1000000000 ≤ time.nanosecond ∧ given = seconds + 1) then .ok t
    else .error .contradiction
  | date, time =>
    match f.epochSecond with
    | some seconds =>
      if date matches .error .outOfRange || time matches .error .outOfRange then
        .error .outOfRange
      else if date matches .error .contradiction || time matches .error .contradiction then
        .error .contradiction
      else do
        let f ← f.fillFromEpoch seconds
        return ⟨← f.date, ← f.time⟩
    | none => do
      let _ ← date
      let _ ← time
      throw .incomplete

end Fields

end ModelProbe.Time
