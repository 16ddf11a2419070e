import ModelProbe.Time.Scan

/-! Timestamps from text.

With a format the text must match it, as a date and time or as a bare date, which means
midnight. Without one it may be an RFC 3339 date-time, whose offset is taken into account,
a date and time without an offset, or a bare date. -/
namespace ModelProbe.Time

/-- The timestamp in UTC of an RFC 3339 date-time. -/
def Timestamp.ofRfc3339? (text : String) : Option Timestamp :=
  Except.toOption do
    let cs := text.toList
    let (year, rest) ← scanNumber 4 (some 4) cs
    let (month, rest) ← scanNumber 2 (some 2) (← scanChar '-' rest)
    let (day, rest) ← scanNumber 2 (some 2) (← scanChar '-' rest)
    let (hour, rest) ← scanNumber 2 (some 2) (← scanDateTimeMark rest)
    let (minute, rest) ← scanNumber 2 (some 2) (← scanChar ':' rest)
    let (second, rest) ← scanNumber 2 (some 2) (← scanChar ':' rest)
    let f ← Fields.setYear {} year
    let f ← f.setMonth month
    let f ← f.setDay day
    let f ← f.setHour hour
    let f ← f.setMinute minute
    let f ← f.setSecond second
    let (f, rest) ← scanPart f rest .fraction
    let (offset, rest) ← scanOffset (scanChar ':') true false rest
    let t ← f.timestamp
    if rest = [] ∧ offset.natAbs < 86400 then
      Fields.ofOption .outOfRange (ofEpoch? (t.epochSeconds - offset) t.time.nanosecond)
    else throw .trailing

/-- A date and time by a format, or a bare date by it. -/
def Timestamp.ofFormat (format text : String) : Except Fault Timestamp :=
  let fields := Fields.ofText format text
  match fields.bind Fields.timestamp with
  | .ok t => .ok t
  | .error _ => (fields.bind Fields.date).map fun d => ⟨d, .midnight⟩

/-- Dates and times without an offset, by the mark between them. -/
def plainFormats : List String :=
  ["%Y-%m-%dT%H:%M:%S%.f", "%Y-%m-%d %H:%M:%S%.f"]

def Timestamp.ofPlain? (format text : String) : Option Timestamp :=
  ((Fields.ofText format text).bind Fields.timestamp).toOption

/-- The first reading that fits a text without a format. -/
def Timestamp.ofText? (text : String) : Option Timestamp :=
  (ofRfc3339? text).or ((plainFormats.findSome? fun format => ofPlain? format text).or
    (((Fields.ofText "%Y-%m-%d" text).bind Fields.date).toOption.map fun d => ⟨d, .midnight⟩))

end ModelProbe.Time
