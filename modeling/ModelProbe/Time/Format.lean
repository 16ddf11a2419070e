import ModelProbe.Text.Blank

/-! Timestamp formats.

A format is text with fields in it, each a percent sign and a letter. `Item.ofFormat` takes
it apart: white space stands for any white space, other text for itself, and the composite
letters for the fields they abbreviate. A field the format language does not have becomes
`Item.unknown`, which refuses every text that gets as far. -/
namespace ModelProbe.Time

/-- Fields written in digits. -/
inductive NumericField where
  | year
  | century
  | yearOfCentury
  | isoYear
  | isoYearOfCentury
  | quarter
  | month
  | day
  | weekFromSunday
  | weekFromMonday
  | isoWeek
  /-- Weekdays from Sunday, which is 0. -/
  | weekdayFromSunday
  /-- Weekdays from Monday, which is 1. -/
  | weekdayFromMonday
  | dayOfYear
  | hour
  | hour12
  | minute
  | second
  | nanosecond
  | epochSecond
deriving DecidableEq

inductive Item where
  | literal (cs : List Char)
  | space
  | numeric (field : NumericField)
  /-- The short name of a month, or either name. -/
  | monthName (either : Bool)
  /-- The short name of a weekday, or either name. -/
  | weekdayName (either : Bool)
  | halfOfDay
  /-- A point and any number of digits, or nothing. -/
  | fraction
  /-- A point and exactly so many digits, or nothing. -/
  | pointedFraction (digits : Nat)
  /-- Exactly so many digits after a point that is no part of it. -/
  | bareFraction (digits : Nat)
  | zoneName
  /-- Hours and minutes from UTC. A lenient one may be `Z` or lack the minutes. -/
  | offset (lenient : Bool)
  /-- A whole date and time with its offset. -/
  | dateTime
  | unknown
deriving DecidableEq

namespace Item

def colon : Item := .literal [':']
def dash : Item := .literal ['-']
def slash : Item := .literal ['/']

def hourMinute : List Item := [.numeric .hour, colon, .numeric .minute]
def clock : List Item := hourMinute ++ [colon, .numeric .second]
def monthDayYear : List Item :=
  [.numeric .month, slash, .numeric .day, slash, .numeric .yearOfCentury]

/-- What a single letter after the percent sign stands for. -/
def ofLetter : Char → List Item
  | 'A' => [.weekdayName true]
  | 'B' => [.monthName true]
  | 'C' => [.numeric .century]
  | 'D' | 'x' => monthDayYear
  | 'F' => [.numeric .year, dash, .numeric .month, dash, .numeric .day]
  | 'G' => [.numeric .isoYear]
  | 'H' | 'k' => [.numeric .hour]
  | 'I' | 'l' => [.numeric .hour12]
  | 'M' => [.numeric .minute]
  | 'P' | 'p' => [.halfOfDay]
  | 'R' => hourMinute
  | 'S' => [.numeric .second]
  | 'T' | 'X' => clock
  | 'U' => [.numeric .weekFromSunday]
  | 'V' => [.numeric .isoWeek]
  | 'W' => [.numeric .weekFromMonday]
  | 'Y' => [.numeric .year]
  | 'Z' => [.zoneName]
  | 'a' => [.weekdayName false]
  | 'b' | 'h' => [.monthName false]
  | 'c' => [.weekdayName false, .space, .monthName false, .space, .numeric .day, .space] ++
      clock ++ [.space, .numeric .year]
  | 'd' | 'e' => [.numeric .day]
  | 'f' => [.numeric .nanosecond]
  | 'g' => [.numeric .isoYearOfCentury]
  | 'j' => [.numeric .dayOfYear]
  | 'm' => [.numeric .month]
  | 'n' | 't' => [.space]
  | 'q' => [.numeric .quarter]
  | 'r' => [.numeric .hour12, colon, .numeric .minute, colon, .numeric .second, .space, .halfOfDay]
  | 's' => [.numeric .epochSecond]
  | 'u' => [.numeric .weekdayFromMonday]
  | 'v' => [.numeric .day, dash, .monthName false, dash, .numeric .year]
  | 'w' => [.numeric .weekdayFromSunday]
  | 'y' => [.numeric .yearOfCentury]
  | 'z' => [.offset false]
  | '+' => [.dateTime]
  | '%' => [.literal ['%']]
  | _ => [.unknown]

/-- A single numeric field may be padded in writing, which reading does not mind. -/
def ofPaddedLetter (c : Char) : List Item :=
  match ofLetter c with
  | [.numeric field] => [.numeric field]
  | _ => [.unknown]

/-- The items of a field and what follows it, from after the percent sign. -/
def ofField : List Char → List Item × List Char
  | '-' :: c :: rest | '0' :: c :: rest | '_' :: c :: rest => (ofPaddedLetter c, rest)
  | '#' :: 'z' :: rest => ([.offset true], rest)
  | ':' :: ':' :: ':' :: 'z' :: rest => ([.offset false], rest)
  | ':' :: ':' :: 'z' :: rest => ([.offset false], rest)
  | ':' :: 'z' :: rest => ([.offset false], rest)
  | '.' :: 'f' :: rest => ([.fraction], rest)
  | '.' :: '3' :: 'f' :: rest => ([.pointedFraction 3], rest)
  | '.' :: '6' :: 'f' :: rest => ([.pointedFraction 6], rest)
  | '.' :: '9' :: 'f' :: rest => ([.pointedFraction 9], rest)
  | '3' :: 'f' :: rest => ([.bareFraction 3], rest)
  | '6' :: 'f' :: rest => ([.bareFraction 6], rest)
  | '9' :: 'f' :: rest => ([.bareFraction 9], rest)
  | c :: rest => (ofLetter c, rest)
  | [] => ([.unknown], [])

theorem ofField_length (cs : List Char) : (ofField cs).2.length ≤ cs.length := by
  unfold ofField
  split <;> simp <;> omega

/-- Characters that stand for themselves in a format. -/
def isPlain (c : Char) : Bool :=
  !Text.isBlank c && c != '%'

def ofFormat (cs : List Char) : List Item :=
  match cs with
  | [] => []
  | '%' :: rest => (ofField rest).1 ++ ofFormat (ofField rest).2
  | c :: rest =>
    if Text.isBlank c then .space :: ofFormat (rest.dropWhile Text.isBlank)
    else .literal (c :: rest.takeWhile isPlain) :: ofFormat (rest.dropWhile isPlain)
termination_by cs.length
decreasing_by
  · exact Nat.lt_succ_of_le (ofField_length rest)
  · exact Nat.lt_succ_of_le (List.dropWhile_suffix _).length_le
  · exact Nat.lt_succ_of_le (List.dropWhile_suffix _).length_le

end Item

end ModelProbe.Time
