import ModelProbe.Time.Fields
import ModelProbe.Time.Format

/-! Reading a text by the items of a format.

An item takes what it needs from the front of the text and notes it in the fields. Numbers
pass over white space in front of them and end at their width; names and fractions start
at once. Whether a text is too short is a question of its UTF-8 bytes. -/
namespace ModelProbe.Time

abbrev Scanned := Except Fault (Fields × List Char)

def byteLength (cs : List Char) : Nat :=
  cs.foldr (fun c n => c.utf8Size + n) 0

def digitsToNat (cs : List Char) : Nat :=
  cs.foldl (fun n c => 10 * n + (c.toNat - '0'.toNat)) 0

/-- A number of `least` to `most` digits, which must fit 64 bits with a sign. -/
def scanNumber (least : Nat) (most : Option Nat) (cs : List Char) :
    Except Fault (Nat × List Char) :=
  let digits := (most.elim cs cs.take).takeWhile Char.isDigit
  if byteLength cs < least then .error .tooShort
  else if digits.length < least then .error .invalid
  else if Nat.pow 2 63 ≤ digitsToNat digits then .error .outOfRange
  else .ok (digitsToNat digits, cs.drop digits.length)

/-- A given character. -/
def scanChar (c : Char) : List Char → Except Fault (List Char)
  | [] => .error .tooShort
  | d :: rest => if d = c then .ok rest else .error .invalid

def lower (c : Char) : Char :=
  c.toLower

/-- What follows a word in any case, if the text starts with it. -/
def afterWord? (word cs : List Char) : Option (List Char) :=
  if (cs.take word.length).map lower = word then some (cs.drop word.length) else none

/-! ### Names -/

def monthNames : List String :=
  ["january", "february", "march", "april", "may", "june", "july", "august", "september",
    "october", "november", "december"]

def weekdayNames : List String :=
  ["monday", "tuesday", "wednesday", "thursday", "friday", "saturday", "sunday"]

/-- The place of the name whose first three letters the text starts with. The rest of the
name is taken as well where `either` asks for it and it is there in full. -/
def scanName (names : List String) (either : Bool) (cs : List Char) :
    Except Fault (Nat × List Char) :=
  if byteLength cs < 3 then .error .tooShort
  else
    match names.zipIdx.find? fun (name, _) => (afterWord? (name.toList.take 3) cs).isSome with
    | none => .error .invalid
    | some (name, i) =>
      let rest := cs.drop 3
      .ok (i, if either then (afterWord? (name.toList.drop 3) rest).getD rest else rest)

def scanHalfOfDay (cs : List Char) : Except Fault (Nat × List Char) :=
  if byteLength cs < 2 then .error .tooShort
  else
    match afterWord? ['a', 'm'] cs, afterWord? ['p', 'm'] cs with
    | some rest, _ => .ok (0, rest)
    | none, some rest => .ok (1, rest)
    | none, none => .error .invalid

/-! ### Fractions -/

/-- Nanoseconds from so many digits. -/
def scanFixedFraction (digits : Nat) (cs : List Char) : Except Fault (Nat × List Char) := do
  let (n, rest) ← scanNumber digits (some digits) cs
  return (n * Nat.pow 10 (9 - digits), rest)

/-- Nanoseconds from any number of digits; those after the ninth say nothing. -/
def scanFraction (cs : List Char) : Except Fault (Nat × List Char) := do
  let (n, rest) ← scanNumber 1 (some 9) cs
  let taken := cs.length - rest.length
  return (n * Nat.pow 10 (9 - taken), rest.dropWhile Char.isDigit)

/-! ### Offsets -/

/-- The sign of an offset; the minus may be the typographic one. -/
def scanSign : List Char → Except Fault (Bool × List Char)
  | '+' :: rest => .ok (false, rest)
  | '-' :: rest | '\u2212' :: rest => .ok (true, rest)
  | [] => .error .tooShort
  | _ => .error .invalid

/-- The minutes of an offset, which may be missing at the very end where `lenient`. -/
def scanOffsetMinutes (lenient : Bool) (cs : List Char) : Except Fault (Nat × List Char) :=
  if byteLength cs < 2 then
    if lenient ∧ cs = [] then .ok (0, []) else .error .tooShort
  else
    match cs with
    | a :: b :: rest =>
      if a.isDigit ∧ b.isDigit then
        if a ≤ '5' then .ok (digitsToNat [a, b], rest) else .error .outOfRange
      else .error .invalid
    | _ => .error .invalid

/-- Seconds east of UTC. What may stand between hours and minutes is up to `separator`. -/
def scanOffset (separator : List Char → Except Fault (List Char)) (zulu lenient : Bool)
    (cs : List Char) : Except Fault (Int × List Char) :=
  match zulu, cs with
  | true, 'Z' :: rest | true, 'z' :: rest => .ok (0, rest)
  | _, _ => do
    let (negative, rest) ← scanSign cs
    let (hours, rest) ← scanNumber 2 (some 2) rest
    let (minutes, rest) ← scanOffsetMinutes lenient (← separator rest)
    let seconds : Int := (3600 * hours + 60 * minutes : Nat)
    return (if negative then -seconds else seconds, rest)

/-- Colons and white space, as many as there are. -/
def colonOrBlank (cs : List Char) : Except Fault (List Char) :=
  .ok (cs.dropWhile fun c => c == ':' || Text.isBlank c)

/-! ### Items -/

/-- The most digits a field has without a sign. -/
def NumericField.width : NumericField → Option Nat
  | .year | .isoYear => some 4
  | .dayOfYear => some 3
  | .quarter | .weekdayFromSunday | .weekdayFromMonday => some 1
  | .nanosecond => some 9
  | .epochSecond => none
  | _ => some 2

/-- A numeric field; the years may have a sign and then any number of digits. -/
def scanNumeric (field : NumericField) (cs : List Char) : Except Fault (Int × List Char) := do
  let plain := do
    let (n, rest) ← scanNumber 1 field.width cs
    return ((n : Int), rest)
  match field, cs with
  | .year, '-' :: rest | .isoYear, '-' :: rest =>
    let (n, rest) ← scanNumber 1 none rest
    return (-(n : Int), rest)
  | .year, '+' :: rest | .isoYear, '+' :: rest =>
    let (n, rest) ← scanNumber 1 none rest
    return ((n : Int), rest)
  | _, _ => plain

def Fields.set (f : Fields) (field : NumericField) (v : Int) : Except Fault Fields :=
  match field with
  | .year => f.setYear v
  | .century => f.setCentury v
  | .yearOfCentury => f.setYearOfCentury v
  | .isoYear => f.setIsoYear v
  | .isoYearOfCentury => f.setIsoYearOfCentury v
  | .quarter => f.setQuarter v
  | .month => f.setMonth v
  | .day => f.setDay v
  | .weekFromSunday => f.setWeekFromSunday v
  | .weekFromMonday => f.setWeekFromMonday v
  | .isoWeek => f.setIsoWeek v
  | .weekdayFromSunday => do f.setWeekday (((← within 0 6 v) + 6) % 7)
  | .weekdayFromMonday => do f.setWeekday ((← within 1 7 v) - 1)
  | .dayOfYear => f.setDayOfYear v
  | .hour => f.setHour v
  | .hour12 => f.setHour12 v
  | .minute => f.setMinute v
  | .second => f.setSecond v
  | .nanosecond => f.setNanosecond v
  | .epochSecond => f.setEpochSecond v

/-- One item that is not a whole date and time. -/
def scanPart (f : Fields) (cs : List Char) : Item → Scanned
  | .literal word =>
    if byteLength cs < byteLength word then .error .tooShort
    else if word.isPrefixOf cs then .ok (f, cs.drop word.length)
    else .error .invalid
  | .space => .ok (f, cs.dropWhile Text.isBlank)
  | .numeric field => do
    let (v, rest) ← scanNumeric field (cs.dropWhile Text.isBlank)
    return (← f.set field v, rest)
  | .monthName either => do
    let (i, rest) ← scanName monthNames either cs
    return (← f.setMonth (i + 1), rest)
  | .weekdayName either => do
    let (i, rest) ← scanName weekdayNames either cs
    return (← f.setWeekday i, rest)
  | .halfOfDay => do
    let (half, rest) ← scanHalfOfDay cs
    return (← f.setHalfOfDay half, rest)
  | .fraction =>
    match cs with
    | '.' :: rest => do
      let (n, rest) ← scanFraction rest
      return (← f.setNanosecond n, rest)
    | _ => .ok (f, cs)
  | .pointedFraction digits =>
    match cs with
    | '.' :: rest => do
      let (n, rest) ← scanFixedFraction digits rest
      return (← f.setNanosecond n, rest)
    | _ => .ok (f, cs)
  | .bareFraction digits => do
    let (n, rest) ← scanFixedFraction digits cs
    return (← f.setNanosecond n, rest)
  | .zoneName => .ok (f, cs.dropWhile fun c => !Text.isBlank c)
  | .offset lenient => do
    let (n, rest) ← scanOffset colonOrBlank lenient lenient (cs.dropWhile Text.isBlank)
    return (← f.setOffset n, rest)
  | .dateTime | .unknown => .error .badFormat

def scanParts (f : Fields) (cs : List Char) (items : List Item) : Scanned :=
  items.foldlM (fun (f, cs) item => scanPart f cs item) (f, cs)

/-- What may stand between a date and a time. -/
def scanDateTimeMark : List Char → Except Fault (List Char)
  | 'T' :: rest | 't' :: rest | ' ' :: rest => .ok rest
  | [] => .error .tooShort
  | _ => .error .invalid

def spacedDate : List Item :=
  [.numeric .year, .space, .dash, .numeric .month, .space, .dash, .numeric .day]

def spacedTime : List Item :=
  [.numeric .hour, .space, .colon, .numeric .minute, .space, .colon, .numeric .second,
    .fraction, .space]

/-- A date and time in loose form: white space between its parts, and `UTC` for the offset. -/
def scanDateTime (f : Fields) (cs : List Char) : Scanned := do
  let (f, rest) ← scanParts f cs spacedDate
  let (f, rest) ← scanParts f (← scanDateTimeMark rest) spacedTime
  let rest := rest.dropWhile Text.isBlank
  let (n, rest) ←
    match afterWord? ['u', 't', 'c'] rest with
    | some rest => pure ((0 : Int), rest)
    | none => scanOffset colonOrBlank true false rest
  return (← f.setOffset n, rest)

def scanItem (f : Fields) (cs : List Char) : Item → Scanned
  | .dateTime => scanDateTime f cs
  | item => scanPart f cs item

/-- The fields of a text that a format accounts for from end to end. -/
def Fields.ofText (format text : String) : Except Fault Fields := do
  let items := Item.ofFormat format.toList
  let (f, rest) ← items.foldlM (fun (f, cs) item => scanItem f cs item) ({}, text.toList)
  if rest = [] then return f else throw .trailing

end ModelProbe.Time
