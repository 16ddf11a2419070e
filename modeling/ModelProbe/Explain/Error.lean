import ModelProbe.Error
import ModelProbe.Text.Quoted
import ModelProbe.Time.Fields

/-! What can go wrong while a prediction is explained.

As with the errors of the models themselves, causes are named here and worded here. -/
namespace ModelProbe.Explain

/-- How many value columns a point must have. -/
inductive ColumnCount where
  | exactly (n : Nat)
  | atLeast (n : Nat)
deriving DecidableEq

namespace ColumnCount

def accepts : ColumnCount → Nat → Bool
  | exactly want, n => n == want
  | atLeast least, n => least ≤ n

def text : ColumnCount → String
  | exactly n => s!"Exactly({n})"
  | atLeast n => s!"AtLeast({n})"

end ColumnCount

/-- Parameters or framing refused. -/
inductive ConfigurationFault where
  | zero (parameter : String)
  | windowTooLong (length inputLength : Nat)
  | windowOutside (start length inputLength : Nat)
  | noFeatures
  | noPerturbers
  | relevantHistory (inputLength history : Nat)
  | emptyTimestampColumn
  | emptyTimestampFormat
  /-- The model's own configuration was refused. -/
  | model (fault : ModelProbe.ConfigurationFault)

def ConfigurationFault.message : ConfigurationFault → String
  | zero parameter => s!"{parameter} must be greater than zero"
  | windowTooLong length inputLength =>
    s!"explanation_window_length {length} exceeds input_length {inputLength}"
  | windowOutside start length inputLength =>
    s!"explanation window starting at {start} with length {length} " ++
      s!"exceeds input_length {inputLength}"
  | noFeatures => "features_to_analyze cannot be empty"
  | noPerturbers => "perturbers must be omitted rather than empty"
  | relevantHistory inputLength history =>
    s!"relevant_history must be in 1..={inputLength}, got {history}"
  | emptyTimestampColumn => "timestamp_column cannot be empty"
  | emptyTimestampFormat => "timestamp_format must be omitted rather than empty"
  | model fault => fault.message

/-- A point that does not fit. -/
inductive InputFault where
  | noTimestampColumn (name : String) (columns : List String)
  | missingTimestampColumn (name : String)
  | valueColumns (given : Nat) (expected : ColumnCount)
  | tooFewRows (rows inputLength : Nat)
  /-- A fault in one row. -/
  | row (n : Nat) (fault : InputFault)
  | mismatch (text format : String) (fault : Time.Fault)
  | unrecognized (text : String)
  | epochNotFinite (x : Double)
  | epochOutOfRange (x : Double)
  | columnNames (names columns : Nat)
  | window (start length rows : Nat)
  | replacement (given frame : Nat × Nat)

def InputFault.message : InputFault → String
  | noTimestampColumn name columns =>
    s!"point has no timestamp column `{name}` (columns: {Text.quotes columns})"
  | missingTimestampColumn name => s!"missing timestamp column `{name}`"
  | valueColumns given expected =>
    s!"point has {given} value columns, expected {expected.text}"
  | tooFewRows rows inputLength => s!"point has {rows} rows, input_length is {inputLength}"
  | row n fault => s!"row {n}: {fault.message}"
  | mismatch text format fault => s!"`{text}` does not match `{format}`: {fault.message}"
  | unrecognized text => s!"unrecognized timestamp `{text}`"
  | epochNotFinite x => s!"epoch {x.text} is not a finite number"
  | epochOutOfRange x => s!"epoch {x.text} is out of range"
  | columnNames names columns => s!"{names} column names given for {columns} columns"
  | window start length rows => s!"window [{start}, {start}+{length}) exceeds {rows} rows"
  | replacement given frame =>
    s!"replacement values are {Text.pair given.1 given.2}, frame is {Text.pair frame.1 frame.2}"

inductive Error where
  | configuration (fault : ConfigurationFault)
  | invalidInput (fault : InputFault)
  /-- The first prediction of an explanation that failed, counted from 1. -/
  | prediction (call : Nat) (source : ModelProbe.Error)
  | engine (message : String)
  /-- A failure of the table, the frame or the client outside any prediction. -/
  | frame (source : ModelProbe.Error)

def Error.message : Error → String
  | configuration fault => s!"configuration error: {fault.message}"
  | invalidInput fault => s!"invalid input: {fault.message}"
  | prediction call source => s!"predict call {call} failed: {source.message}"
  | engine message => s!"explainer engine failed: {message}"
  | frame source => source.message

end ModelProbe.Explain
