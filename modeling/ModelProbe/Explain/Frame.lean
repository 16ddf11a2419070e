import ModelProbe.Codec
import ModelProbe.Explain.Error
import ModelProbe.Time.Parse

/-! Time series: rows of observations, oldest first.

`Frame.ofTable` reads one column of a table as timestamps and sorts the rows by them;
rows with the same timestamp keep their order. The timestamps stand apart from the
values, which are what a forecaster sees. -/
namespace ModelProbe.Explain

open Time (Timestamp)

/-! ### Timestamps from cells -/

/-- The timestamp a text stands for, white space around it aside. -/
def parseTimestamp (raw : String) (format : Option String) : Except InputFault Timestamp :=
  let text := Text.trim raw
  match format with
  | some format =>
    match Timestamp.ofFormat format text with
    | .ok t => .ok t
    | .error fault => .error (.mismatch text format fault)
  | none =>
    match Timestamp.ofText? text with
    | some t => .ok t
    | none => .error (.unrecognized text)

/-- The timestamp of a number of seconds since the epoch, to the nearest nanosecond within
its second. -/
def epochTimestamp (x : Double) : Except InputFault Timestamp :=
  match x.floor? with
  | none => .error (.epochNotFinite x)
  | some seconds =>
    let part := ((x.sub (.ofInt seconds)).mul (.ofNat 1000000000)).round?.getD 0
    match Timestamp.ofEpoch? seconds (min part.toNat 999999999) with
    | some t => .ok t
    | none => .error (.epochOutOfRange x)

/-- With a format a number is read as its text. -/
def cellTimestamp (format : Option String) : Cell → Except InputFault Timestamp
  | .text s => parseTimestamp s format
  | .number x =>
    match format with
    | none => epochTimestamp x
    | some _ => parseTimestamp x.text format

/-- The timestamp of the cell in a row. -/
def rowTimestamp (format : Option String) (row : Nat) (cell : Cell) : Except Error Timestamp :=
  match cellTimestamp format cell with
  | .ok t => .ok t
  | .error fault => .error (.invalidInput (.row row fault))

/-! ### Frames -/

structure Frame where
  timestampColumn : String
  timestamps : List Timestamp
  columns : List String
  values : Matrix Double
deriving DecidableEq

namespace Frame

/-- A result about tables as one about frames. -/
def liftTable {α : Type} : Except ModelProbe.Error α → Except Error α
  | .ok a => .ok a
  | .error e => .error (.frame e)

/-- The row numbers in the order of their timestamps. -/
def sortedRows (timestamps : List Timestamp) : List Nat :=
  (timestamps.zipIdx.mergeSort fun a b => a.1.rank ≤ b.1.rank).map Prod.snd

/-- Whether row numbers ascend. -/
def ascends (order : List Nat) : Bool :=
  (order.zip order.tail).all fun (i, j) => i < j

/-- The rows with these numbers, in this order. -/
def selectRows (f : Frame) (order : List Nat) : Frame :=
  { f with
    timestamps := order.filterMap fun i => f.timestamps[i]?
    values := f.values.selectRows order }

/-- The rows by their timestamps. Those that are in order already are left alone. -/
def sorted (f : Frame) : Frame :=
  let order := sortedRows f.timestamps
  if ascends order then f else f.selectRows order

def ofTable (table : Table) (timestampColumn : String) (format : Option String) :
    Except Error Frame :=
  match table.column? timestampColumn with
  | none => .error (.invalidInput (.missingTimestampColumn timestampColumn))
  | some cells => do
    let timestamps ← cells.zipIdx.mapM fun (cell, row) => rowTimestamp format row cell
    let rest := table.without timestampColumn
    let values ←
      if rest.columns = [] then pure ⟨timestamps.length, 0, []⟩ else liftTable rest.toMatrix
    return sorted ⟨timestampColumn, timestamps, rest.names, values⟩

/-- Column-oriented data: as many names as columns. -/
def ofColumns (names : List String) (columns : List (List Cell)) (timestampColumn : String)
    (format : Option String) : Except Error Frame := do
  if names.length ≠ columns.length then
    throw (.invalidInput (.columnNames names.length columns.length))
  let table ← liftTable (Table.ofColumns (names.zipWith Column.mk columns))
  ofTable table timestampColumn format

variable (f : Frame)

def rows : Nat :=
  f.timestamps.length

def sliceRows (start stop : Nat) : Frame :=
  { f with
    timestamps := (f.timestamps.drop start).take (stop - start)
    values := f.values.slice start stop }

/-- The last `n` rows, or all of them. -/
def tail (n : Nat) : Frame :=
  f.sliceRows (f.rows - n) f.rows

/-- The `length` rows from `start`. -/
def window (start length : Nat) : Except Error Frame :=
  if start + length ≤ f.rows then .ok (f.sliceRows start (start + length))
  else .error (.invalidInput (.window start length f.rows))

/-- The same rows with other observations. -/
def withValues (values : Matrix Double) : Except Error Frame :=
  if values.rows = f.values.rows ∧ values.cols = f.values.cols then .ok { f with values }
  else
    .error (.invalidInput
      (.replacement (values.rows, values.cols) (f.values.rows, f.values.cols)))

/-- What a forecaster is asked about. -/
def toInput : ModelInput :=
  .fp64 f.values

/-- A table with the timestamps as text in front. -/
def toTable : Except Error Table :=
  liftTable (Table.ofColumns
    (⟨f.timestampColumn, f.timestamps.map fun t => .text t.text⟩ ::
      f.columns.zipWith (fun name values => ⟨name, values.map .number⟩) f.values.columns))

/-- Whether two frames agree, their values as numbers. -/
def agrees (g : Frame) : Bool :=
  f.timestampColumn == g.timestampColumn && f.timestamps == g.timestamps &&
    f.columns == g.columns && f.values.rows == g.values.rows && f.values.cols == g.values.cols &&
    f.values.entries.length == g.values.entries.length &&
    (f.values.entries.zip g.values.entries).all fun (x, y) => x.agrees y

end Frame

end ModelProbe.Explain
