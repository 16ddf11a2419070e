import ModelProbe.Proofs.Table.Algebra

/-! Tables of numbers.

A regular table of numbers gives a number for each of its names and rows (`number?`). A numeric
column lists them by row (`numericColumn_eq_ok_iff`), and the matrix of a table has them in the
order of its names (`get?_toMatrix`); there is one exactly when all cells are numbers and an array
can count them (`exists_toMatrix_iff`). -/
namespace ModelProbe.Table

variable {t s : Table} {name : String} {i : Nat}

/-- The number in the column with this name at row `i`. -/
def number? (t : Table) (name : String) (i : Nat) : Option Double :=
  (t.lookup? name i).bind Cell.number?

/-- Every cell is a number. -/
def Numeric (t : Table) : Prop :=
  ∀ name ∈ t.names, ∀ i < t.rows, ∃ x, t.number? name i = some x

theorem number?_eq_some_iff {x : Double} :
    t.number? name i = some x ↔ t.lookup? name i = some (.number x) := by
  rw [number?, Option.bind_eq_some_iff]
  constructor
  · rintro ⟨cell, hcell, h⟩
    cases cell with
    | number y => cases h; exact hcell
    | text s => cases h
  · intro h
    exact ⟨_, h, rfl⟩

theorem number?_of_column? {cells : List Cell} (h : t.column? name = some cells) (i : Nat) :
    t.number? name i = cells[i]?.bind Cell.number? := by
  rw [number?, lookup?, h, Option.bind_some]

/-- A table that has another's columns has its numbers under their names. -/
theorem number?_of_subset (hs : s.Regular) (ht : t.Regular)
    (h : ∀ c ∈ s.columns, c ∈ t.columns) (hname : name ∈ s.names) (i : Nat) :
    s.number? name i = t.number? name i := by
  obtain ⟨c, hc, rfl⟩ := List.mem_map.1 hname
  rw [number?, number?, lookup?_of_mem hs hc, lookup?_of_mem ht (h c hc)]

theorem rows_of_subset (hs : s.Regular) (ht : t.Regular) (h : ∀ c ∈ s.columns, c ∈ t.columns)
    (hne : s.columns ≠ []) : s.rows = t.rows := by
  obtain ⟨c, hc⟩ := List.exists_mem_of_ne_nil _ hne
  exact (hs.lengths c hc).symm.trans (ht.lengths c (h c hc))

theorem Numeric.of_subset (hnumeric : t.Numeric) (hs : s.Regular) (ht : t.Regular)
    (h : ∀ c ∈ s.columns, c ∈ t.columns) : s.Numeric := by
  intro name hname i hi
  rw [number?_of_subset hs ht h hname]
  refine hnumeric name ?_ i (rows_of_subset hs ht h (columns_ne_nil hname) ▸ hi)
  obtain ⟨c, hc, rfl⟩ := List.mem_map.1 hname
  exact List.mem_map_of_mem (h c hc)

/-- A chosen row has the numbers of the row with that number. -/
theorem number?_selectRows (ht : t.Regular) {order : List Nat} (horder : ∀ i ∈ order, i < t.rows)
    {k : Nat} (hi : order[k]? = some i) (name : String) :
    (t.selectRows order).number? name k = t.number? name i := by
  rw [number?, lookup?_selectRows ht horder, hi, Option.bind_some]
  rfl

/-! ### Columns -/

theorem column_eq_ok_iff {cells : List Cell} :
    t.column name = .ok cells ↔ t.column? name = some cells := by
  rw [column]
  cases t.column? name <;> simp

theorem mapM_numberAt_eq_ok_iff {cells : List Cell} {xs : List Double} :
    (cells.zipIdx.mapM fun p => numberAt name p.2 p.1) = .ok xs ↔ cells = xs.map .number := by
  simp only [mapM_eq_ok_iff, numberAt_eq_ok_iff]
  rw [← List.forall₂_eq_eq_eq, List.forall₂_map_right_iff]
  nth_rewrite 2 [← List.zipIdx_map_fst 0 cells]
  rw [List.forall₂_map_left_iff]

theorem numericColumn_eq_ok_iff {xs : List Double} :
    t.numericColumn name = .ok xs ↔ t.column? name = some (xs.map .number) := by
  rw [numericColumn, bind_eq_ok_iff]
  constructor
  · rintro ⟨cells, hcells, h⟩
    rw [← mapM_numberAt_eq_ok_iff.1 h]
    exact column_eq_ok_iff.1 hcells
  · intro h
    exact ⟨_, column_eq_ok_iff.2 h, mapM_numberAt_eq_ok_iff.2 rfl⟩

/-- **A numeric column** has the numbers under its name, by row. -/
theorem number?_of_numericColumn (ht : t.Regular) {xs : List Double}
    (h : t.numericColumn name = .ok xs) :
    xs.length = t.rows ∧ ∀ i, t.number? name i = xs[i]? := by
  have hcells := numericColumn_eq_ok_iff.1 h
  refine ⟨(List.length_map ..).symm.trans (length_of_column? ht hcells), fun i => ?_⟩
  rw [number?_of_column? hcells, List.getElem?_map]
  cases xs[i]? <;> rfl

theorem exists_numericColumn (ht : t.Regular) (hnumeric : t.Numeric) (hname : name ∈ t.names) :
    ∃ xs, t.numericColumn name = .ok xs := by
  obtain ⟨cells, hcells⟩ := (exists_column_iff t name).2 hname
  have hlength := length_of_column? ht hcells
  have hnumbers : ∀ p ∈ cells.zipIdx, ∃ x, numberAt name p.2 p.1 = .ok x ∧ p.1 = .number x := by
    intro p hp
    have hcell : cells[p.2]? = some p.1 := List.mem_zipIdx_iff_getElem?.1 hp
    have hi : p.2 < t.rows := hlength ▸ (List.getElem?_eq_some_iff.1 hcell).1
    obtain ⟨x, hx⟩ := hnumeric name hname p.2 hi
    have hlookup : t.lookup? name p.2 = some p.1 := by
      rw [lookup?, hcells, Option.bind_some, hcell]
    have hvalue : p.1 = .number x :=
      Option.some.inj (hlookup.symm.trans (number?_eq_some_iff.1 hx))
    exact ⟨x, numberAt_eq_ok_iff.2 hvalue, hvalue⟩
  obtain ⟨xs, hxs, -⟩ := exists_mapM_eq_ok hnumbers
  exact ⟨xs, numericColumn_eq_ok_iff.2 (mapM_numberAt_eq_ok_iff.1 hxs ▸ hcells)⟩

/-! ### Matrices -/

theorem exists_toMatrix_iff (ht : t.Regular) :
    (∃ m, t.toMatrix = .ok m) ↔ t.Numeric ∧ Matrix.fits t.rows t.width = true := by
  constructor
  · rintro ⟨m, hm⟩
    refine ⟨fun name hname i hi => ?_, fits_of_toMatrix hm⟩
    obtain ⟨-, -, -, hnumbers⟩ := toMatrix_eq_ok ht hm
    obtain ⟨j, hj, hget⟩ := List.getElem_of_mem hname
    obtain ⟨x, hx, -⟩ := hnumbers i hi j (t.length_names ▸ hj)
    have hj? : t.names[j]? = some name := List.getElem?_eq_some_iff.2 ⟨hj, hget⟩
    exact ⟨x, number?_eq_some_iff.2 ((cell?_eq_lookup? ht hj? i).symm.trans hx)⟩
  · rintro ⟨hnumeric, hfits⟩
    refine exists_toMatrix ht hfits fun i hi j hj => ?_
    have hj' : j < t.names.length := t.length_names ▸ hj
    obtain ⟨x, hx⟩ := hnumeric _ (List.getElem_mem hj') i hi
    exact ⟨x, (cell?_eq_lookup? ht (List.getElem?_eq_getElem hj') i).trans
      (number?_eq_some_iff.1 hx)⟩

/-- The numbers of a table are the entries of its matrix. -/
theorem get?_toMatrix (ht : t.Regular) {m : Matrix Double} (h : t.toMatrix = .ok m) {j : Nat}
    (hname : t.names[j]? = some name) (hi : i < t.rows) : m.get? i j = t.number? name i := by
  obtain ⟨-, hcols, -, hnumbers⟩ := toMatrix_eq_ok ht h
  have hj : j < t.width := t.length_names ▸ (List.getElem?_eq_some_iff.1 hname).1
  obtain ⟨x, hcell, hx⟩ := hnumbers i hi j hj
  rw [cell?_eq_lookup? ht hname] at hcell
  rw [Matrix.get?, hcols, if_pos hj, hx, number?_eq_some_iff.2 hcell]

end ModelProbe.Table
