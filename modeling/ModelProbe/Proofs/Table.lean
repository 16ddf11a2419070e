import ModelProbe.Proofs.Matrix.Strided
import ModelProbe.Proofs.Traversal
import ModelProbe.Table

/-! Tables are regular.

Building a table refuses columns that do not fit, so a table that was built is `Regular`: its
names are distinct, its columns are as long as it has rows, and without columns it has none.
`ofColumns_eq_ok_iff` says that these are all tables there are, and every operation on tables
gives a regular one again. A regular table is laid out as a matrix exactly when all its cells
are numbers and an array can count them (`toMatrix_eq_ok`, `exists_text_of_toMatrix_eq_error`). -/
namespace ModelProbe.Table

structure Regular (t : Table) : Prop where
  distinct : t.names.Nodup
  lengths : ∀ c ∈ t.columns, c.cells.length = t.rows
  no_rows : t.columns = [] → t.rows = 0

/-! ### Building -/

theorem regular_empty : empty.Regular :=
  ⟨List.nodup_nil, fun _ hc => absurd hc List.not_mem_nil, fun _ => rfl⟩

/-- One more column goes in exactly when the result is regular. -/
theorem append_eq_ok_iff {t t' : Table} (ht : t.Regular) (c : Column) :
    t.append c = .ok t' ↔
      t'.columns = t.columns ++ [c] ∧ t'.Regular ∧ (t.columns ≠ [] → t'.rows = t.rows) := by
  have hnames : ∀ rows, (⟨t.columns ++ [c], rows⟩ : Table).names = t.names ++ [c.name] := by
    simp [names]
  constructor
  · intro h
    unfold append at h
    split at h
    · cases h
    rename_i hname
    have hdistinct : (t.names ++ [c.name]).Nodup := by
      refine List.nodup_append.2 ⟨ht.distinct, by simp, fun n hn m hm he => ?_⟩
      rw [he, List.mem_singleton.1 hm] at hn
      exact hname hn
    split at h
    · rename_i hempty
      cases h
      exact ⟨by simp [hempty], ⟨by simp [names], by simp, by simp⟩, fun hne => absurd hempty hne⟩
    · split at h
      · rename_i hrows
        cases h
        refine ⟨rfl, ⟨by rw [hnames]; exact hdistinct, fun d hd => ?_, by simp⟩, fun _ => rfl⟩
        rcases List.mem_append.1 hd with hd | hd
        · exact ht.lengths d hd
        · rw [List.mem_singleton.1 hd, hrows]
      · cases h
  · rintro ⟨hcolumns, ht', hrows⟩
    obtain ⟨columns, rows⟩ := t'
    subst hcolumns
    have hname : c.name ∉ t.names := by
      have h := ht'.distinct
      rw [hnames, List.nodup_append] at h
      exact fun hmem => h.2.2 _ hmem _ (List.mem_singleton_self _) rfl
    have hlength : c.cells.length = rows := ht'.lengths c (by simp)
    unfold append
    rw [if_neg hname]
    split
    · rename_i hempty
      simp [hempty, hlength]
    · rename_i hempty
      have hsame : rows = t.rows := hrows hempty
      rw [if_pos (by rw [hlength, hsame]), hsame]

/-- Columns go in one after another exactly when the result is regular. The rows are free as long
as there are no columns and stay as they are from then on. -/
theorem foldlM_append_eq_ok_iff {columns : List Column} {s t : Table} (hs : s.Regular) :
    columns.foldlM append s = .ok t ↔
      t.columns = s.columns ++ columns ∧ t.Regular ∧ (s.columns ≠ [] → t.rows = s.rows) := by
  induction columns generalizing s with
  | nil =>
    rw [List.foldlM_nil, List.append_nil]
    constructor
    · intro h
      cases h
      exact ⟨rfl, hs, fun _ => rfl⟩
    · rintro ⟨hcolumns, ht, hrows⟩
      have hsame : t.rows = s.rows := by
        by_cases hempty : s.columns = []
        · rw [hs.no_rows hempty, ht.no_rows (hcolumns.trans hempty)]
        · exact hrows hempty
      obtain ⟨columns, rows⟩ := t
      cases hcolumns
      cases hsame
      rfl
  | cons c rest ih =>
    rw [List.foldlM_cons]
    constructor
    · intro h
      cases hc : s.append c with
      | error e => rw [hc] at h; cases h
      | ok s' =>
        rw [hc] at h
        obtain ⟨hcolumns, hs', hrows⟩ := (append_eq_ok_iff hs c).1 hc
        obtain ⟨hall, ht, hrows'⟩ := (ih hs').1 h
        have hne : s'.columns ≠ [] := by simp [hcolumns]
        refine ⟨by simp [hall, hcolumns], ht, fun h => ?_⟩
        rw [hrows' hne, hrows h]
    · rintro ⟨hall, ht, hrows⟩
      have hs' : (⟨s.columns ++ [c], t.rows⟩ : Table).Regular := by
        refine ⟨?_, fun d hd => ht.lengths d ?_, by simp⟩
        · have h := ht.distinct
          rw [names, hall, List.append_cons, List.map_append] at h
          exact (List.nodup_append.1 h).1
        · rw [hall, List.append_cons]
          exact List.mem_append_left _ hd
      have hc := (append_eq_ok_iff hs c).2 ⟨rfl, hs', hrows⟩
      rw [hc]
      exact (ih hs').2 ⟨by simp [hall], ht, fun _ => rfl⟩

/-- **The tables there are.** Columns make up a table exactly when that table is regular. -/
theorem ofColumns_eq_ok_iff {columns : List Column} {t : Table} :
    ofColumns columns = .ok t ↔ t.columns = columns ∧ t.Regular := by
  refine (foldlM_append_eq_ok_iff regular_empty).trans ?_
  constructor
  · rintro ⟨hcolumns, ht, -⟩
    exact ⟨hcolumns, ht⟩
  · rintro ⟨hcolumns, ht⟩
    exact ⟨hcolumns, ht, fun hne => absurd rfl hne⟩

theorem regular_ofColumns {columns : List Column} {t : Table} (h : ofColumns columns = .ok t) :
    t.Regular :=
  (ofColumns_eq_ok_iff.1 h).2

theorem regular_ofMatrix {m : Matrix Double} {names : List String} {t : Table}
    (h : ofMatrix m names = .ok t) : t.Regular := by
  unfold ofMatrix at h
  split at h
  · exact regular_ofColumns h
  · cases h

theorem regular_select {t s : Table} {names : List String} (h : t.select names = .ok s) :
    s.Regular := by
  unfold select at h
  cases hc : names.mapM fun name => (do return ⟨name, ← t.column name⟩ : Except Error Column) with
  | error e => rw [hc] at h; cases h
  | ok columns =>
    rw [hc] at h
    exact regular_ofColumns h

theorem regular_without {t : Table} (ht : t.Regular) (name : String) :
    (t.without name).Regular := by
  have hsub : (t.columns.eraseP (·.name = name)).Sublist t.columns := List.eraseP_sublist
  refine ⟨ht.distinct.sublist (hsub.map _), fun c hc => ?_, fun h => ?_⟩
  · have hne : t.columns.eraseP (·.name = name) ≠ [] := List.ne_nil_of_mem hc
    have hrows : (t.without name).rows = t.rows := if_neg hne
    rw [hrows]
    exact ht.lengths c (hsub.subset hc)
  · exact if_pos h

theorem regular_tail {t : Table} (ht : t.Regular) (n : Nat) : (t.tail n).Regular := by
  refine ⟨?_, fun c hc => ?_, fun h => ?_⟩
  · have hnames : (t.tail n).names = t.names := by
      simp [tail, names, Function.comp_def]
    rw [hnames]
    exact ht.distinct
  · obtain ⟨d, hd, rfl⟩ := List.mem_map.1 hc
    simp only [tail, List.length_drop, ht.lengths d hd]
  · have hempty : t.columns = [] := by simpa [tail] using h
    simp [tail, ht.no_rows hempty]

/-! ### Laying out -/

/-- The cell of row `i` in column `j`. -/
def cell? (t : Table) (i j : Nat) : Option Cell :=
  t.columns[j]?.bind (·.cells[i]?)

theorem numberAt_eq_ok_iff {column : String} {row : Nat} {cell : Cell} {x : Double} :
    numberAt column row cell = .ok x ↔ cell = .number x := by
  cases cell <;> simp [numberAt, Cell.number?]

variable {t : Table}

theorem cell?_eq (ht : t.Regular) {i j : Nat} (hi : i < t.rows) (hj : j < t.columns.length) :
    t.cell? i j = some (t.columns[j].cells.getD i (.number .zero)) := by
  have hlength := ht.lengths _ (List.getElem_mem hj)
  rw [cell?, List.getElem?_eq_getElem hj, Option.bind_some,
    List.getD_eq_getElem?_getD, List.getElem?_eq_getElem (hlength ▸ hi), Option.getD_some]

theorem lt_of_cell (ht : t.Regular) {i j : Nat} {cell : Cell} (h : t.cell? i j = some cell) :
    i < t.rows ∧ j < t.width := by
  obtain ⟨c, hc, hcell⟩ := Option.bind_eq_some_iff.1 h
  obtain ⟨hj, hget⟩ := List.getElem?_eq_some_iff.1 hc
  obtain ⟨hi, -⟩ := List.getElem?_eq_some_iff.1 hcell
  exact ⟨ht.lengths c (hget ▸ List.getElem_mem hj) ▸ hi, hj⟩

/-- A row of numbers. -/
theorem numericRow_eq_ok_iff (ht : t.Regular) {i : Nat} (hi : i < t.rows) {xs : List Double} :
    t.numericRow i = .ok xs ↔ xs.length = t.width ∧
      ∀ j < t.width, ∃ x, t.cell? i j = some (.number x) ∧ xs[j]? = some x := by
  rw [numericRow, mapM_eq_ok_iff, List.forall₂_iff_get, width]
  constructor
  · rintro ⟨hlength, h⟩
    refine ⟨hlength.symm, fun j hj => ⟨xs[j], ?_, List.getElem?_eq_getElem _⟩⟩
    rw [cell?_eq ht hi hj]
    exact congrArg some (numberAt_eq_ok_iff.1 (h j hj (hlength ▸ hj)))
  · rintro ⟨hlength, h⟩
    refine ⟨hlength.symm, fun j hj hj' => numberAt_eq_ok_iff.2 ?_⟩
    obtain ⟨x, hcell, hx⟩ := h j hj
    rw [cell?_eq ht hi hj, Option.some.injEq] at hcell
    rw [List.getElem?_eq_getElem hj', Option.some.injEq] at hx
    rw [List.get_eq_getElem, List.get_eq_getElem, hcell, hx]

/-- A row with a text in it. -/
theorem exists_text_of_numericRow_eq_error (ht : t.Regular) {i : Nat} (hi : i < t.rows)
    {e : Error} (h : t.numericRow i = .error e) :
    ∃ j < t.width, ∃ s, t.cell? i j = some (.text s) := by
  obtain ⟨c, hc, he⟩ := exists_of_mapM_eq_error h
  obtain ⟨j, hj, rfl⟩ := List.getElem_of_mem hc
  refine ⟨j, hj, ?_⟩
  rw [cell?_eq ht hi hj]
  cases hcell : t.columns[j].cells.getD i (.number .zero) with
  | number x => rw [hcell, numberAt_eq_ok_iff.2 rfl] at he; cases he
  | text s => exact ⟨s, rfl⟩

/-- What the rows of a table of numbers hold. -/
theorem numericRows_eq_ok (ht : t.Regular) {rows : List (List Double)}
    (h : (List.range t.rows).mapM t.numericRow = .ok rows) :
    rows.length = t.rows ∧ (∀ row ∈ rows, row.length = t.width) ∧
      ∀ i < t.rows, ∀ j < t.width, ∃ x, t.cell? i j = some (.number x) ∧
        rows[i]?.bind (·[j]?) = some x := by
  obtain ⟨hcount, hrow⟩ := List.forall₂_iff_get.1 (mapM_eq_ok_iff.1 h)
  rw [List.length_range] at hcount
  have hnumbers : ∀ i (hi : i < rows.length), rows[i].length = t.width ∧
      ∀ j < t.width, ∃ x, t.cell? i j = some (.number x) ∧ rows[i][j]? = some x := by
    intro i hi
    have h := hrow i (by rwa [List.length_range, hcount]) hi
    simp only [List.get_eq_getElem, List.getElem_range] at h
    exact (numericRow_eq_ok_iff ht (hcount ▸ hi)).1 h
  refine ⟨hcount.symm, fun row hmem => ?_, fun i hi j hj => ?_⟩
  · obtain ⟨i, hi, rfl⟩ := List.getElem_of_mem hmem
    exact (hnumbers i hi).1
  · rw [List.getElem?_eq_getElem (hcount ▸ hi), Option.bind_some]
    exact (hnumbers i (hcount ▸ hi)).2 j hj

theorem toMatrix_of_rows {rows : List (List Double)}
    (h : (List.range t.rows).mapM t.numericRow = .ok rows) :
    t.toMatrix = match Matrix.ofEntries? t.rows t.width rows.flatten with
      | some m => .ok m
      | none => .error (.unsupported .tableTooLarge) := by
  rw [toMatrix, h]
  rfl

/-- **The matrix of a table** has the table's numbers at their rows and columns. -/
theorem toMatrix_eq_ok (ht : t.Regular) {m : Matrix Double} (h : t.toMatrix = .ok m) :
    m.rows = t.rows ∧ m.cols = t.width ∧ m.Regular ∧
      ∀ i < t.rows, ∀ j < t.width, ∃ x, t.cell? i j = some (.number x) ∧
        m.entries[i * t.width + j]? = some x := by
  cases hrows : (List.range t.rows).mapM t.numericRow with
  | error e =>
    rw [toMatrix, hrows] at h
    cases h
  | ok rows =>
    obtain ⟨-, hlengths, hnumbers⟩ := numericRows_eq_ok ht hrows
    rw [toMatrix_of_rows hrows, Matrix.ofEntries?] at h
    split at h
    · rename_i hentries
      split at hentries
      · rename_i hfits
        cases hentries
        cases h
        refine ⟨rfl, rfl, hfits.2, fun i hi j hj => ?_⟩
        rw [Matrix.getElem?_flatten hlengths i hj]
        exact hnumbers i hi j hj
      · cases hentries
    · cases h

/-- A table that an array can count fails to have a matrix for a text in it alone. -/
theorem exists_text_of_toMatrix_eq_error (ht : t.Regular)
    (hfits : Matrix.fits t.rows t.width = true) {e : Error} (h : t.toMatrix = .error e) :
    ∃ i < t.rows, ∃ j < t.width, ∃ s, t.cell? i j = some (.text s) := by
  cases hrows : (List.range t.rows).mapM t.numericRow with
  | error e =>
    obtain ⟨i, hi, he⟩ := exists_of_mapM_eq_error hrows
    exact ⟨i, List.mem_range.1 hi, exists_text_of_numericRow_eq_error ht (List.mem_range.1 hi) he⟩
  | ok rows =>
    obtain ⟨hcount, hlengths, -⟩ := numericRows_eq_ok ht hrows
    have hentries : rows.flatten.length = t.rows * t.width := by
      rw [Matrix.length_flatten hlengths, hcount]
    rw [toMatrix_of_rows hrows, Matrix.ofEntries?, if_pos ⟨hfits, hentries⟩] at h
    cases h

end ModelProbe.Table
