import Mathlib.Data.List.Basic
import ModelProbe.Matrix

/-! Rows laid out one after another, and arrays in any memory layout.

A matrix keeps its rows one after another, so entry `(i, j)` stands at `i * cols + j`
(`getElem?_flatten`). A caller's array may lie in memory otherwise: transposed, reversed, or as
a part of something larger. `Strided` is an array over a buffer with a step from row to row and
one from column to column, and `Strided.toMatrix` is the matrix it is read as, with the entries
of the array at their places (`getElem?_toMatrix`). Every matrix is read from some array
(`toMatrix_ofMatrix`). -/
namespace ModelProbe

variable {α : Type}

namespace Matrix

/-- Rows of one length are found by their number in what they make up. -/
theorem getElem?_flatten {rows : List (List α)} {cols : Nat}
    (h : ∀ row ∈ rows, row.length = cols) (i : Nat) {j : Nat} (hj : j < cols) :
    rows.flatten[i * cols + j]? = rows[i]?.bind (·[j]?) := by
  induction rows generalizing i with
  | nil => simp
  | cons row rest ih =>
    have hrow : row.length = cols := h row (List.mem_cons_self ..)
    rw [List.flatten_cons]
    cases i with
    | zero => rw [Nat.zero_mul, Nat.zero_add, List.getElem?_append_left (by omega)]; rfl
    | succ i =>
      have hplace : (i + 1) * cols + j = row.length + (i * cols + j) := by
        rw [Nat.succ_mul, hrow]
        omega
      rw [hplace, List.getElem?_append_right (Nat.le_add_right ..), Nat.add_sub_cancel_left,
        ih (fun r hr => h r (List.mem_cons_of_mem row hr))]
      rfl

theorem length_flatten {rows : List (List α)} {cols : Nat}
    (h : ∀ row ∈ rows, row.length = cols) : rows.flatten.length = rows.length * cols := by
  induction rows with
  | nil => simp
  | cons row rest ih =>
    rw [List.flatten_cons, List.length_append, h row (List.mem_cons_self ..),
      ih fun r hr => h r (List.mem_cons_of_mem row hr), List.length_cons, Nat.succ_mul,
      Nat.add_comm]

/-- Every position below `rows * cols` is that of a row and a column. -/
theorem exists_place {rows cols k : Nat} (h : k < rows * cols) :
    ∃ i < rows, ∃ j < cols, i * cols + j = k := by
  have hcols : 0 < cols := Nat.pos_of_mul_pos_left (Nat.zero_lt_of_lt h)
  refine ⟨k / cols, Nat.div_lt_of_lt_mul (by rwa [Nat.mul_comm] at h), k % cols,
    Nat.mod_lt _ hcols, ?_⟩
  rw [Nat.mul_comm, Nat.div_add_mod]

/-- As many entries as the dimensions say. -/
def Regular (m : Matrix α) : Prop :=
  m.entries.length = m.rows * m.cols

theorem Regular.place_lt {m : Matrix α} (hm : m.Regular) {i j : Nat} (hi : i < m.rows)
    (hj : j < m.cols) : i * m.cols + j < m.entries.length := by
  rw [hm]
  calc i * m.cols + j < i * m.cols + m.cols := Nat.add_lt_add_left hj _
    _ = (i + 1) * m.cols := (Nat.succ_mul ..).symm
    _ ≤ m.rows * m.cols := Nat.mul_le_mul_right _ hi

end Matrix

/-- An array over a buffer. Entry `(i, j)` stands `i` row steps and `j` column steps from the
first one, and never outside the buffer. -/
structure Strided (α : Type) where
  buffer : List α
  rows : Nat
  cols : Nat
  first : Int
  rowStep : Int
  colStep : Int
  inside : ∀ i < rows, ∀ j < cols,
    0 ≤ first + i * rowStep + j * colStep ∧ first + i * rowStep + j * colStep < buffer.length

namespace Strided

variable (a : Strided α)

def get? (i j : Nat) : Option α :=
  if i < a.rows ∧ j < a.cols then a.buffer[(a.first + i * a.rowStep + j * a.colStep).toNat]?
  else none

/-- The array read row by row, as it is numbered and not as it lies. -/
def toMatrix : Matrix α :=
  ⟨a.rows, a.cols, (List.range a.rows).flatMap fun i => (List.range a.cols).filterMap (a.get? i)⟩

theorem exists_entry {i j : Nat} (hi : i < a.rows) (hj : j < a.cols) :
    ∃ x, a.get? i j = some x := by
  obtain ⟨hlow, hhigh⟩ := a.inside i hi j hj
  rw [get?, if_pos ⟨hi, hj⟩, List.getElem?_eq_getElem (by omega)]
  exact ⟨_, rfl⟩

/-- The entries of a row are as many as there are columns, each at its place. -/
theorem row_entries {i : Nat} (hi : i < a.rows) :
    ((List.range a.cols).filterMap (a.get? i)).length = a.cols ∧
      ∀ j < a.cols, ((List.range a.cols).filterMap (a.get? i))[j]? = a.get? i j := by
  suffices ∀ n ≤ a.cols, ((List.range n).filterMap (a.get? i)).length = n ∧
      ∀ j < n, ((List.range n).filterMap (a.get? i))[j]? = a.get? i j from
    this a.cols (Nat.le_refl _)
  intro n hn
  induction n with
  | zero => exact ⟨rfl, fun j hj => absurd hj (Nat.not_lt_zero j)⟩
  | succ n ih =>
    obtain ⟨hlength, hentry⟩ := ih (Nat.le_of_succ_le hn)
    obtain ⟨x, hx⟩ := a.exists_entry hi (Nat.lt_of_succ_le hn)
    rw [List.range_succ, List.filterMap_append]
    simp only [List.filterMap_cons, hx, List.filterMap_nil, List.length_append, hlength,
      List.length_singleton, true_and]
    intro j hj
    rcases Nat.lt_succ_iff_lt_or_eq.1 hj with hj | rfl
    · rw [List.getElem?_append_left (by omega), hentry j hj]
    · rw [List.getElem?_append_right (by omega), hlength, Nat.sub_self, hx]
      rfl

theorem rows_length : ∀ row ∈ (List.range a.rows).map fun i =>
    (List.range a.cols).filterMap (a.get? i), row.length = a.cols := by
  intro row hrow
  obtain ⟨i, hi, rfl⟩ := List.mem_map.1 hrow
  exact (a.row_entries (List.mem_range.1 hi)).1

theorem regular_toMatrix : a.toMatrix.Regular := by
  rw [Matrix.Regular, toMatrix, List.flatMap_def, Matrix.length_flatten a.rows_length,
    List.length_map, List.length_range]

/-- **Reading by rows puts every entry at its place**, whatever the layout. -/
theorem getElem?_toMatrix {i j : Nat} (hi : i < a.rows) (hj : j < a.cols) :
    a.toMatrix.entries[i * a.cols + j]? = a.get? i j := by
  rw [toMatrix, List.flatMap_def, Matrix.getElem?_flatten a.rows_length i hj, List.getElem?_map,
    List.getElem?_range hi]
  exact (a.row_entries hi).2 j hj

/-- The array that lies row by row. -/
def ofMatrix (m : Matrix α) (h : m.Regular) : Strided α where
  buffer := m.entries
  rows := m.rows
  cols := m.cols
  first := 0
  rowStep := m.cols
  colStep := 1
  inside := by
    intro i hi j hj
    have hplace : (0 : Int) + i * m.cols + j * 1 = (i * m.cols + j : Nat) := by
      rw [Int.zero_add, Int.mul_one, Int.natCast_add, Int.natCast_mul]
    rw [hplace]
    exact ⟨Int.natCast_nonneg _, Int.ofNat_lt.2 (h.place_lt hi hj)⟩

/-- Every matrix is read from an array. -/
theorem toMatrix_ofMatrix {m : Matrix α} (h : m.Regular) : (ofMatrix m h).toMatrix = m := by
  have hlength : (ofMatrix m h).toMatrix.entries.length = m.rows * m.cols :=
    (ofMatrix m h).regular_toMatrix
  have hentries : (ofMatrix m h).toMatrix.entries = m.entries := by
    refine List.ext_getElem? fun k => ?_
    by_cases hk : k < m.rows * m.cols
    · obtain ⟨i, hi, j, hj, rfl⟩ := Matrix.exists_place hk
      have hplace : ((0 : Int) + i * m.cols + j * 1).toNat = i * m.cols + j := by
        rw [Int.zero_add, Int.mul_one, ← Int.natCast_mul, ← Int.natCast_add, Int.toNat_natCast]
      refine ((ofMatrix m h).getElem?_toMatrix hi hj).trans ?_
      rw [get?, if_pos ⟨hi, hj⟩]
      exact congrArg (m.entries[·]?) hplace
    · rw [List.getElem?_eq_none (hlength ▸ Nat.not_lt.1 hk),
        List.getElem?_eq_none (h ▸ Nat.not_lt.1 hk)]
  exact congrArg (Matrix.mk m.rows m.cols) hentries

end Strided

end ModelProbe
