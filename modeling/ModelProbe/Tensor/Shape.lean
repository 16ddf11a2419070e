import ModelProbe.Error

/-! Tensor shapes.

Shapes travel as signed 64-bit dimensions. `Shape.ofWire` is the gate every shape from
outside passes: no dimension is negative, and the non-zero dimensions multiply to less
than `2 ^ 64`, so no product of some of them ever leaves the machine word. The gate
multiplies with checks, from the left, and stops at the first product that is too large
(`checkedExtent?`); no dimension left over could bring it back (`foldlM_checkedMul`). -/
namespace ModelProbe

structure Shape where
  dims : List Nat
deriving DecidableEq

namespace Shape

def product (dims : List Nat) : Nat :=
  dims.foldr (· * ·) 1

/-- The product of the dimensions that are not zero. -/
def extent (dims : List Nat) : Nat :=
  product (dims.filter (· ≠ 0))

/-- One factor more, unless the product leaves the machine word. -/
def checkedMul? (n d : Nat) : Option Nat :=
  if n * d < UInt64.size then some (n * d) else none

/-- The extent, unless one of the products on the way leaves the machine word. -/
def checkedExtent? (dims : List Nat) : Option Nat :=
  (dims.filter (· ≠ 0)).foldlM checkedMul? 1

def ofWire (dims : List Int64) : Except Error Shape :=
  match dims.find? (· < 0) with
  | some dim => .error (Malformed.negativeDimension dim dims).error
  | none =>
    let sizes := dims.map Int64.toNatClampNeg
    if (checkedExtent? sizes).isSome then .ok ⟨sizes⟩
    else .error (Malformed.tooManyElements dims).error

theorem product_pos {dims : List Nat} (h : ∀ d ∈ dims, d ≠ 0) : 0 < product dims := by
  induction dims with
  | nil => exact Nat.one_pos
  | cons d rest ih =>
    exact Nat.mul_pos (Nat.pos_of_ne_zero (h d (List.mem_cons_self ..)))
      (ih fun d' hd' => h d' (List.mem_cons_of_mem d hd'))

/-- Multiplying with checks gives the product exactly when that fits: where an earlier product
does not, factors that are not zero only make it larger. -/
theorem foldlM_checkedMul {dims : List Nat} (h : ∀ d ∈ dims, d ≠ 0) {n : Nat}
    (hn : n < UInt64.size) : dims.foldlM checkedMul? n =
      if n * product dims < UInt64.size then some (n * product dims) else none := by
  induction dims generalizing n with
  | nil =>
    have hone : n * product [] = n := Nat.mul_one n
    rw [hone, if_pos hn]
    rfl
  | cons d rest ih =>
    have hrest : ∀ d ∈ rest, d ≠ 0 := fun d' hd' => h d' (List.mem_cons_of_mem d hd')
    have hproduct : n * product (d :: rest) = n * d * product rest := (Nat.mul_assoc ..).symm
    rw [List.foldlM_cons, hproduct, checkedMul?]
    by_cases hfits : n * d < UInt64.size
    · rw [if_pos hfits]
      exact ih hrest hfits
    · have hgrows : n * d ≤ n * d * product rest := Nat.le_mul_of_pos_right _ (product_pos hrest)
      rw [if_neg hfits, if_neg fun hlt => hfits (Nat.lt_of_le_of_lt hgrows hlt)]
      rfl

/-- **The gate's products with checks fit exactly when the extent does.** -/
theorem checkedExtent?_eq (dims : List Nat) :
    checkedExtent? dims = if extent dims < UInt64.size then some (extent dims) else none := by
  have hnonzero : ∀ d ∈ dims.filter (· ≠ 0), d ≠ 0 := by
    intro d hd
    exact of_decide_eq_true (List.mem_filter.1 hd).2
  rw [checkedExtent?, foldlM_checkedMul hnonzero (by decide), Nat.one_mul]
  rfl

theorem isSome_checkedExtent?_iff {dims : List Nat} :
    (checkedExtent? dims).isSome ↔ extent dims < UInt64.size := by
  rw [checkedExtent?_eq]
  split <;> simp [*]

def toWire (s : Shape) : List Int64 :=
  s.dims.map Int64.ofNat

def rank (s : Shape) : Nat :=
  s.dims.length

/-- How many elements a tensor of this shape has. -/
def count (s : Shape) : Nat :=
  product s.dims

/-- Rows and columns of the matrix a tensor is laid out as: a scalar is one cell, a vector a
column, and higher ranks keep the first dimension and flatten the rest. -/
def matrixDims (s : Shape) : Nat × Nat :=
  match s.dims with
  | [] => (1, 1)
  | [n] => (n, 1)
  | rows :: rest => (rows, product rest)

theorem matrixDims_cons (rows : Nat) (rest : List Nat) :
    (⟨rows :: rest⟩ : Shape).matrixDims = (rows, product rest) := by
  cases rest <;> rfl

/-- The columns are all dimensions but the first. -/
theorem snd_matrixDims (s : Shape) : s.matrixDims.2 = product s.dims.tail := by
  obtain ⟨dims⟩ := s
  cases dims with
  | nil => rfl
  | cons rows rest => rw [matrixDims_cons, List.tail_cons]

end Shape

end ModelProbe
