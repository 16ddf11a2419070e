/-! Matrices, row-major.

A matrix is plain data; the operations keep the number of entries at `rows * cols`. A
matrix may have no rows and still as many columns as an array can count. -/
namespace ModelProbe

structure Matrix (α : Type) where
  rows : Nat
  cols : Nat
  entries : List α
deriving DecidableEq

namespace Matrix

variable {α β : Type}

/-- Whether an array can have these dimensions: those that are not zero multiply to less
than `2 ^ 63`. -/
def fits (rows cols : Nat) : Bool :=
  (if rows = 0 then 1 else rows) * (if cols = 0 then 1 else cols) < Nat.pow 2 63

/-- Lays entries out in rows. -/
def ofEntries? (rows cols : Nat) (entries : List α) : Option (Matrix α) :=
  if fits rows cols ∧ entries.length = rows * cols then some ⟨rows, cols, entries⟩ else none

def row (m : Matrix α) (i : Nat) : List α :=
  (m.entries.drop (i * m.cols)).take m.cols

def get? (m : Matrix α) (i j : Nat) : Option α :=
  if j < m.cols then m.entries[i * m.cols + j]? else none

def column (m : Matrix α) (j : Nat) : List α :=
  (List.range m.rows).filterMap fun i => m.get? i j

def columns (m : Matrix α) : List (List α) :=
  (List.range m.cols).map m.column

def transpose (m : Matrix α) : Matrix α :=
  ⟨m.cols, m.rows, if m.rows = 0 then [] else m.columns.flatten⟩

/-- The rows with these numbers, in this order. -/
def selectRows (m : Matrix α) (order : List Nat) : Matrix α :=
  ⟨order.length, m.cols, order.flatMap m.row⟩

/-- The rows from `start` to before `stop`. -/
def slice (m : Matrix α) (start stop : Nat) : Matrix α :=
  ⟨stop - start, m.cols, (m.entries.drop (start * m.cols)).take ((stop - start) * m.cols)⟩

def map (f : α → β) (m : Matrix α) : Matrix β :=
  ⟨m.rows, m.cols, m.entries.map f⟩

/-- The entries of blocks that stand side by side. Blocks without columns have none, however
many rows they have. -/
def entriesBeside (rows : Nat) (blocks : List (Matrix α)) : List α :=
  if blocks.all fun b => b.cols = 0 then []
  else (List.range rows).flatMap fun i => blocks.flatMap fun b => b.row i

/-- Blocks with as many rows each, side by side; none when the result is past counting. -/
def beside? (rows : Nat) (blocks : List (Matrix α)) : Option (Matrix α) :=
  let cols := blocks.foldr (fun b n => b.cols + n) 0
  if fits rows cols then some ⟨rows, cols, entriesBeside rows blocks⟩ else none

end Matrix

end ModelProbe
