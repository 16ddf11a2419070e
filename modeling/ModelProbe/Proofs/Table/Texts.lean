import ModelProbe.Proofs.Table.Numbers

/-! Texts among the numbers.

A numeric column fails at its first text (`numericColumn_eq_error_iff`), and the matrix of a table
at the first text row by row (`toMatrix_eq_error_iff`); the error names the column and the row it
stands in. Nothing else fails but a matrix that no array can count. -/
namespace ModelProbe.Table

variable {t : Table} {name : String} {i : Nat} {e : Error}

/-- The cell in the column with this name at row `i` is a text. -/
def IsText (t : Table) (name : String) (i : Nat) : Prop :=
  ∃ s, t.lookup? name i = some (.text s)

/-- The first text of a column. -/
structure FirstTextOf (t : Table) (name : String) (i : Nat) : Prop where
  text : t.IsText name i
  above : ∀ k < i, ¬t.IsText name k

/-- The first text row by row, and in its row column by column. -/
structure FirstText (t : Table) (name : String) (i : Nat) : Prop where
  here : ∃ j, FirstAt (t.IsText · i) t.names j name
  above : ∀ k < i, ∀ other ∈ t.names, ¬t.IsText other k

/-! ### Cells -/

theorem exists_number?_iff (ht : t.Regular) (hname : name ∈ t.names) (hi : i < t.rows) :
    (∃ x, t.number? name i = some x) ↔ ¬t.IsText name i := by
  obtain ⟨c, hc, rfl⟩ := List.mem_map.1 hname
  have hi : i < c.cells.length := ht.lengths c hc ▸ hi
  have hcell : t.lookup? c.name i = some c.cells[i] := by
    rw [lookup?_of_mem ht hc, List.getElem?_eq_getElem hi]
  simp only [number?, IsText, hcell, Option.bind_some]
  cases c.cells[i] <;> simp [Cell.number?]

theorem numeric_iff (ht : t.Regular) :
    t.Numeric ↔ ∀ name ∈ t.names, ∀ i < t.rows, ¬t.IsText name i :=
  forall₂_congr fun _ hname => forall₂_congr fun _ hi => exists_number?_iff ht hname hi

/-- A text stands in a column at a row. -/
theorem IsText.mem (ht : t.Regular) (h : t.IsText name i) : name ∈ t.names ∧ i < t.rows := by
  obtain ⟨s, hs⟩ := h
  obtain ⟨cells, hcells, hcell⟩ := Option.bind_eq_some_iff.1 hs
  refine ⟨(exists_column_iff t name).1 ⟨cells, hcells⟩, ?_⟩
  rw [← length_of_column? ht hcells]
  exact (List.getElem?_eq_some_iff.1 hcell).1

/-- A table that has another's columns has its texts under their names. -/
theorem isText_of_subset {s : Table} (hs : s.Regular) (ht : t.Regular)
    (h : ∀ c ∈ s.columns, c ∈ t.columns) (hname : name ∈ s.names) :
    s.IsText name i ↔ t.IsText name i := by
  obtain ⟨c, hc, rfl⟩ := List.mem_map.1 hname
  rw [IsText, IsText, lookup?_of_mem hs hc, lookup?_of_mem ht (h c hc)]

/-! ### Columns -/

/-- **A numeric column fails at its first text.** -/
theorem numericColumn_eq_error_iff (hname : name ∈ t.names) :
    t.numericColumn name = .error e ↔
      ∃ i, t.FirstTextOf name i ∧ e = .unsupported (.nonNumericCell name i) := by
  obtain ⟨cells, hcells⟩ := (exists_column_iff t name).2 hname
  have htext : ∀ i, t.IsText name i ↔ ∃ s, cells[i]? = some (.text s) := by
    intro i
    rw [IsText, lookup?, hcells, Option.bind_some]
  rw [numericColumn, bind_of_ok (column_eq_ok_iff.2 hcells),
    mapM_eq_error_iff_firstAt (P := fun p => ∃ s, p.1 = .text s)
      (g := fun p => .unsupported (.nonNumericCell name p.2))]
  · constructor
    · rintro ⟨i, p, hfirst, rfl⟩
      obtain ⟨rfl, hfirst⟩ :=
        (firstAt_zipIdx_iff (P := fun cell => ∃ s, cell = Cell.text s)).1 hfirst
      refine ⟨p.2, ⟨(htext _).2 ?_, fun k hk hk' => ?_⟩, rfl⟩
      · obtain ⟨s, hs⟩ := hfirst.holds
        exact ⟨s, hs ▸ hfirst.here⟩
      · obtain ⟨s, hs⟩ := (htext k).1 hk'
        exact hfirst.before k _ hk hs ⟨s, rfl⟩
    · rintro ⟨i, hfirst, rfl⟩
      obtain ⟨s, hs⟩ := (htext i).1 hfirst.text
      refine ⟨i, (.text s, i), (firstAt_zipIdx_iff (P := fun cell => ∃ s, cell = Cell.text s)).2
        ⟨rfl, hs, ⟨s, rfl⟩, ?_⟩, rfl⟩
      rintro k cell hk hcell ⟨s', rfl⟩
      exact hfirst.above k hk ((htext k).2 ⟨s', hcell⟩)
  · rintro ⟨cell, row⟩ - htext
    cases cell with
    | number x => exact ⟨x, rfl⟩
    | text s => exact absurd ⟨s, rfl⟩ htext
  · rintro ⟨cell, row⟩ - ⟨s, rfl⟩
    rfl

/-- Without texts a column is numeric. -/
theorem exists_numericColumn_iff (ht : t.Regular) (hname : name ∈ t.names) :
    (∃ xs, t.numericColumn name = .ok xs) ↔ ∀ i < t.rows, ¬t.IsText name i := by
  constructor
  · rintro ⟨xs, hxs⟩ i hi
    obtain ⟨hrows, hnumbers⟩ := number?_of_numericColumn ht hxs
    rw [← exists_number?_iff ht hname hi]
    exact ⟨_, (hnumbers i).trans (List.getElem?_eq_getElem (hrows ▸ hi))⟩
  · intro h
    cases hcolumn : t.numericColumn name with
    | ok xs => exact ⟨xs, rfl⟩
    | error e =>
      obtain ⟨i, hfirst, -⟩ := (numericColumn_eq_error_iff hname).1 hcolumn
      exact absurd hfirst.text (h i (hfirst.text.mem ht).2)

/-! ### Matrices -/

/-- A row fails at its first text. -/
theorem numericRow_eq_error_iff (ht : t.Regular) (hi : i < t.rows) :
    t.numericRow i = .error e ↔ ∃ j name, FirstAt (t.IsText · i) t.names j name ∧
      e = .unsupported (.nonNumericCell name i) := by
  have hcell : ∀ c ∈ t.columns, t.lookup? c.name i = some (c.cells.getD i (.number .zero)) := by
    intro c hc
    have hlt : i < c.cells.length := ht.lengths c hc ▸ hi
    rw [lookup?_of_mem ht hc, List.getD_eq_getElem?_getD, List.getElem?_eq_getElem hlt]
    rfl
  rw [numericRow, mapM_eq_error_iff_firstAt (P := fun c => t.IsText c.name i)
    (g := fun c => .unsupported (.nonNumericCell c.name i))]
  · constructor
    · rintro ⟨j, c, hfirst, rfl⟩
      exact ⟨j, c.name, firstAt_map_iff.2 ⟨c, rfl, hfirst⟩, rfl⟩
    · rintro ⟨j, name, hname, rfl⟩
      obtain ⟨c, rfl, hfirst⟩ := firstAt_map_iff.1 hname
      exact ⟨j, c, hfirst, rfl⟩
  · intro c hc htext
    rw [IsText, hcell c hc] at htext
    cases hvalue : c.cells.getD i (.number .zero) with
    | number x => exact ⟨x, rfl⟩
    | text s => exact absurd ⟨s, by rw [hvalue]⟩ htext
  · rintro c hc ⟨s, hs⟩
    rw [hcell c hc, Option.some.injEq] at hs
    rw [hs]
    rfl

/-- A row without texts does not fail. -/
theorem numericRow_ne_ok_iff (ht : t.Regular) (hi : i < t.rows) :
    (∀ xs, t.numericRow i ≠ .ok xs) ↔ ∃ name ∈ t.names, t.IsText name i := by
  constructor
  · intro h
    cases hrow : t.numericRow i with
    | ok xs => exact absurd hrow (h xs)
    | error e =>
      obtain ⟨j, name, hfirst, -⟩ := (numericRow_eq_error_iff ht hi).1 hrow
      exact ⟨name, hfirst.mem, hfirst.holds⟩
  · intro h xs hxs
    obtain ⟨j, name, hfirst⟩ := exists_firstAt h
    rw [(numericRow_eq_error_iff ht hi).2 ⟨j, name, hfirst, rfl⟩] at hxs
    cases hxs

/-- Rows fail at the first text among them. -/
theorem numericRows_eq_error_iff (ht : t.Regular) :
    (List.range t.rows).mapM t.numericRow = .error e ↔
      ∃ name i, t.FirstText name i ∧ e = .unsupported (.nonNumericCell name i) := by
  have hfails : ∀ k ∈ List.range t.rows,
      (∀ xs, t.numericRow k ≠ .ok xs) ↔ ∃ name ∈ t.names, t.IsText name k :=
    fun k hk => numericRow_ne_ok_iff ht (List.mem_range.1 hk)
  rw [mapM_eq_error_iff]
  constructor
  · rintro ⟨i, k, hfirst, he⟩
    obtain ⟨rfl, hi, -, habove⟩ := firstAt_range_iff.1 (hfirst.congr hfails)
    obtain ⟨j, name, hname, rfl⟩ := (numericRow_eq_error_iff ht hi).1 he
    refine ⟨name, k, ⟨⟨j, hname⟩, fun k' hk' other hother htext => ?_⟩, rfl⟩
    exact habove k' hk' ⟨other, hother, htext⟩
  · rintro ⟨name, i, ⟨⟨j, hname⟩, habove⟩, rfl⟩
    have hi : i < t.rows := (hname.holds.mem ht).2
    refine ⟨i, i, FirstAt.congr (fun k hk => (hfails k hk).symm) (firstAt_range_iff.2
      ⟨rfl, hi, ⟨name, hname.mem, hname.holds⟩, ?_⟩),
      (numericRow_eq_error_iff ht hi).2 ⟨j, name, hname, rfl⟩⟩
    rintro k hk ⟨other, hother, htext⟩
    exact habove k hk other hother htext

/-- A table with a text has a first one. -/
theorem exists_firstText_iff (ht : t.Regular) :
    (∃ name i, t.FirstText name i) ↔ ¬t.Numeric := by
  rw [numeric_iff ht]
  constructor
  · rintro ⟨name, i, ⟨j, hname⟩, -⟩ h
    exact h name hname.mem i (hname.holds.mem ht).2 hname.holds
  · intro h
    have htext : ∃ k ∈ List.range t.rows, ∃ name ∈ t.names, t.IsText name k := by
      push Not at h
      obtain ⟨name, hname, k, hk, htext⟩ := h
      exact ⟨k, List.mem_range.2 hk, name, hname, htext⟩
    obtain ⟨i, k, hrow⟩ := exists_firstAt htext
    obtain ⟨rfl, -, htext, habove⟩ := firstAt_range_iff.1 hrow
    obtain ⟨j, name, hname⟩ := exists_firstAt htext
    refine ⟨name, k, ⟨j, hname⟩, fun k' hk' other hother htext' => ?_⟩
    exact habove k' hk' ⟨other, hother, htext'⟩

/-- **A matrix fails at the first text row by row**, and without texts only past counting. -/
theorem toMatrix_eq_error_iff (ht : t.Regular) : t.toMatrix = .error e ↔
    (∃ name i, t.FirstText name i ∧ e = .unsupported (.nonNumericCell name i)) ∨
      t.Numeric ∧ Matrix.fits t.rows t.width = false ∧ e = .unsupported .tableTooLarge := by
  rw [toMatrix, bind_eq_error_iff, numericRows_eq_error_iff ht]
  refine or_congr_right ?_
  constructor
  · rintro ⟨rows, hrows, h⟩
    obtain ⟨hcount, hlengths, -⟩ := numericRows_eq_ok ht hrows
    have hentries : rows.flatten.length = t.rows * t.width := by
      rw [Matrix.length_flatten hlengths, hcount]
    have hnumeric : t.Numeric := by
      by_contra htext
      obtain ⟨name, i, hfirst⟩ := (exists_firstText_iff ht).2 htext
      rw [(numericRows_eq_error_iff ht).2 ⟨name, i, hfirst, rfl⟩] at hrows
      cases hrows
    cases hfits : Matrix.fits t.rows t.width with
    | true =>
      simp only [Matrix.ofEntries?, if_pos (And.intro hfits hentries)] at h
      cases h
    | false =>
      simp only [Matrix.ofEntries?, hfits, Bool.false_eq_true, false_and, if_false] at h
      cases h
      exact ⟨hnumeric, rfl, rfl⟩
  · rintro ⟨hnumeric, hfits, rfl⟩
    cases hrows : (List.range t.rows).mapM t.numericRow with
    | error e =>
      obtain ⟨name, i, hfirst, -⟩ := (numericRows_eq_error_iff ht).1 hrows
      exact absurd hnumeric ((exists_firstText_iff ht).1 ⟨name, i, hfirst⟩)
    | ok rows =>
      refine ⟨rows, rfl, ?_⟩
      simp only [Matrix.ofEntries?, hfits, Bool.false_eq_true, false_and, if_false]
      rfl

end ModelProbe.Table
