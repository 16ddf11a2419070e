import ModelProbe.Matrix
import ModelProbe.Tensor.Shape

/-! Tables of named columns.

A cell is a number or a text. `Table.ofColumns` refuses a name that stands twice and a
column that is not as long as the first; a table without columns has no rows. -/
namespace ModelProbe

inductive Cell where
  | number (x : Double)
  | text (s : String)
deriving DecidableEq

namespace Cell

def number? : Cell → Option Double
  | number x => some x
  | text _ => none

def text? : Cell → Option String
  | text s => some s
  | number _ => none

/-- A cell in JSON is a bare number or string. -/
def ofTree? : Json.Tree → Option Cell
  | .number l => l.number?.map fun n => .number n.toDouble
  | .string s => s.map .text
  | _ => none

def toJson : Cell → Json.Value
  | number x => .double x
  | text s => .string s

end Cell

structure Column where
  name : String
  cells : List Cell
deriving DecidableEq

structure Table where
  columns : List Column
  rows : Nat
deriving DecidableEq

namespace Table

def empty : Table := ⟨[], 0⟩

def names (t : Table) : List String :=
  t.columns.map Column.name

def width (t : Table) : Nat :=
  t.columns.length

/-- One more column; the first one sets the number of rows. -/
def append (t : Table) (c : Column) : Except Error Table :=
  if c.name ∈ t.names then .error (.configuration (.duplicateColumn c.name))
  else if t.columns = [] then .ok ⟨[c], c.cells.length⟩
  else if c.cells.length = t.rows then .ok ⟨t.columns ++ [c], t.rows⟩
  else .error (.shapeMismatch c.name [t.rows] t.rows c.cells.length)

def ofColumns (columns : List Column) : Except Error Table :=
  columns.foldlM append empty

/-- A numeric matrix with names for its columns. -/
def ofMatrix (m : Matrix Double) (names : List String) : Except Error Table :=
  if names.length = m.cols then
    ofColumns (names.zipWith (fun name column => ⟨name, column.map .number⟩) m.columns)
  else .error (.configuration (.columnNames names.length m.cols))

def index? (t : Table) (name : String) : Option Nat :=
  t.names.findIdx? (· = name)

def column? (t : Table) (name : String) : Option (List Cell) :=
  (t.columns.find? (·.name = name)).map Column.cells

/-- The cells of the column with this name. -/
def column (t : Table) (name : String) : Except Error (List Cell) :=
  match t.column? name with
  | some cells => .ok cells
  | none => .error (.configuration (.missingColumn name))

/-- The number in a cell, which stands in a column at a row. -/
def numberAt (column : String) (row : Nat) (cell : Cell) : Except Error Double :=
  match cell.number? with
  | some x => .ok x
  | none => .error (.unsupported (.nonNumericCell column row))

def numericColumn (t : Table) (name : String) : Except Error (List Double) := do
  (← t.column name).zipIdx.mapM fun (cell, row) => numberAt name row cell

/-- The columns with these names, in this order. -/
def select (t : Table) (names : List String) : Except Error Table := do
  ofColumns (← names.mapM fun name => return ⟨name, ← t.column name⟩)

/-- The table less the column with this name, if it has one. -/
def without (t : Table) (name : String) : Table :=
  let columns := t.columns.eraseP (·.name = name)
  ⟨columns, if columns = [] then 0 else t.rows⟩

/-- The last `n` rows, or all of them. -/
def tail (t : Table) (n : Nat) : Table :=
  let start := t.rows - n
  ⟨t.columns.map fun c => { c with cells := c.cells.drop start }, t.rows - start⟩

/-- The numbers of one row, column by column. -/
def numericRow (t : Table) (row : Nat) : Except Error (List Double) :=
  t.columns.mapM fun c => numberAt c.name row (c.cells.getD row (.number .zero))

/-- All cells as a matrix. The first text cell by rows is the one reported. -/
def toMatrix (t : Table) : Except Error (Matrix Double) := do
  let rows ← (List.range t.rows).mapM t.numericRow
  match Matrix.ofEntries? t.rows t.width rows.flatten with
  | some m => return m
  | none => throw (.unsupported .tableTooLarge)

end Table

end ModelProbe
