import ModelProbe.Proofs.Matrix.Rows
import ModelProbe.Proofs.Table

/-! Tables by column name and row number.

The names of a regular table are distinct, so a name and a row number say which cell is meant
(`lookup?`). Dropping a column leaves the others as they are and in their order (`columns_without`),
and choosing rows by number leaves the columns (`lookup?_selectRows`). -/
namespace ModelProbe.Table

variable {t : Table} {name : String}

/-- The cell in the column with this name at row `i`. -/
def lookup? (t : Table) (name : String) (i : Nat) : Option Cell :=
  (t.column? name).bind (·[i]?)

theorem name_of_find {columns : List Column} {c : Column}
    (h : columns.find? (·.name = name) = some c) : c.name = name := by
  have hname := List.find?_some h
  exact of_decide_eq_true hname

theorem column?_eq_some_iff (ht : t.Regular) {cells : List Cell} :
    t.column? name = some cells ↔ ⟨name, cells⟩ ∈ t.columns := by
  constructor
  · intro h
    obtain ⟨c, hc, rfl⟩ := Option.map_eq_some_iff.1 h
    rw [← name_of_find hc]
    exact List.mem_of_find?_eq_some hc
  · intro h
    have hnames : t.columns.Pairwise fun c d => c.name ≠ d.name := List.pairwise_map.1 ht.distinct
    refine Option.map_eq_some_iff.2 ⟨⟨name, cells⟩, ?_, rfl⟩
    obtain ⟨front, back, hsplit⟩ := List.append_of_mem h
    refine List.find?_eq_some_iff_append.2 ⟨decide_eq_true rfl, front, back, hsplit, ?_⟩
    intro c hc
    rw [hsplit, List.pairwise_append] at hnames
    have hne : c.name ≠ name := hnames.2.2 c hc _ (List.mem_cons_self ..)
    simp [hne]

theorem length_of_column? (ht : t.Regular) {cells : List Cell} (h : t.column? name = some cells) :
    cells.length = t.rows :=
  ht.lengths _ ((column?_eq_some_iff ht).1 h)

theorem exists_column_iff (t : Table) (name : String) :
    (∃ cells, t.column? name = some cells) ↔ name ∈ t.names := by
  rw [names, List.mem_map]
  constructor
  · rintro ⟨cells, h⟩
    obtain ⟨c, hc, -⟩ := Option.map_eq_some_iff.1 h
    exact ⟨c, List.mem_of_find?_eq_some hc, name_of_find hc⟩
  · rintro ⟨c, hc, hname⟩
    have hfound : (t.columns.find? (·.name = name)).isSome :=
      List.find?_isSome.2 ⟨c, hc, decide_eq_true hname⟩
    obtain ⟨d, hd⟩ := Option.isSome_iff_exists.1 hfound
    exact ⟨d.cells, by rw [column?, hd]; rfl⟩

theorem lookup?_of_mem (ht : t.Regular) {c : Column} (hc : c ∈ t.columns) (i : Nat) :
    t.lookup? c.name i = c.cells[i]? := by
  rw [lookup?, (column?_eq_some_iff ht).2 hc, Option.bind_some]

/-- A cell by the number of its column is one by its name. -/
theorem cell?_eq_lookup? (ht : t.Regular) {j : Nat} (h : t.names[j]? = some name) (i : Nat) :
    t.cell? i j = t.lookup? name i := by
  rw [names, List.getElem?_map, Option.map_eq_some_iff] at h
  obtain ⟨c, hc, rfl⟩ := h
  rw [cell?, hc, Option.bind_some, lookup?_of_mem ht (List.mem_of_getElem? hc)]

theorem length_names (t : Table) : t.names.length = t.width :=
  List.length_map ..

theorem columns_ne_nil {t : Table} (h : name ∈ t.names) : t.columns ≠ [] := by
  obtain ⟨c, hc, -⟩ := List.mem_map.1 h
  exact List.ne_nil_of_mem hc

/-! ### Less a column -/

/-- Of columns with distinct names, at most one has the name that is dropped. -/
theorem eraseP_eq_filter {columns : List Column} (h : (columns.map Column.name).Nodup) :
    columns.eraseP (·.name = name) = columns.filter (·.name ≠ name) := by
  induction columns with
  | nil => rfl
  | cons c rest ih =>
    obtain ⟨hc, hrest⟩ := List.nodup_cons.1 h
    by_cases hname : c.name = name
    · rw [List.eraseP_cons_of_pos (by simp [hname]), List.filter_cons_of_neg (by simp [hname])]
      refine (List.filter_eq_self.2 fun d hd => ?_).symm
      have hne : d.name ≠ name := fun hd' => hc (List.mem_map.2 ⟨d, hd, hd'.trans hname.symm⟩)
      simp [hne]
    · rw [List.eraseP_cons_of_neg (by simp [hname]), List.filter_cons_of_pos (by simp [hname]),
        ih hrest]

theorem without_subset (t : Table) (name : String) :
    ∀ c ∈ (t.without name).columns, c ∈ t.columns :=
  fun _ hc => List.mem_of_mem_eraseP hc

theorem columns_without (ht : t.Regular) (name : String) :
    (t.without name).columns = t.columns.filter (·.name ≠ name) :=
  eraseP_eq_filter ht.distinct

/-- The other columns keep their order. -/
theorem names_without (ht : t.Regular) (name : String) :
    (t.without name).names = t.names.filter (· ≠ name) := by
  rw [names, columns_without ht, names, List.filter_map]
  rfl

/-- One name is dropped. -/
theorem length_others (ht : t.Regular) (h : name ∈ t.names) :
    (t.names.filter (· ≠ name)).length = t.width - 1 := by
  rw [← length_names, ← List.length_erase_of_mem h, List.Nodup.erase_eq_filter ht.distinct]
  refine congrArg List.length (List.filter_congr fun other _ => ?_)
  by_cases h : other = name <;> simp [h]

theorem rows_without (h : (t.without name).columns ≠ []) : (t.without name).rows = t.rows :=
  if_neg h

/-- The other columns keep their cells. -/
theorem lookup?_without (ht : t.Regular) {other : String} (hne : other ≠ name) (i : Nat) :
    (t.without name).lookup? other i = t.lookup? other i := by
  have hcolumn : (t.without name).column? other = t.column? other := by
    refine Option.ext fun cells => ?_
    rw [column?_eq_some_iff (regular_without ht name), column?_eq_some_iff ht, columns_without ht,
      List.mem_filter]
    simp [hne]
  rw [lookup?, hcolumn, lookup?]

/-! ### Rows by number -/

/-- The rows with these numbers, in this order. -/
def selectRows (t : Table) (order : List Nat) : Table :=
  ⟨t.columns.map fun c => { c with cells := order.filterMap (c.cells[·]?) },
    if t.columns = [] then 0 else order.length⟩

variable {order : List Nat}

theorem names_selectRows (t : Table) (order : List Nat) : (t.selectRows order).names = t.names := by
  simp only [names, selectRows, List.map_map, Function.comp_def]

theorem rows_selectRows (ht : t.Regular) (horder : ∀ i ∈ order, i < t.rows) :
    (t.selectRows order).rows = order.length := by
  by_cases hcolumns : t.columns = []
  · have hnone : order = [] := by
      refine List.eq_nil_iff_forall_not_mem.2 fun i hi => ?_
      have := ht.no_rows hcolumns ▸ horder i hi
      omega
    rw [selectRows, if_pos hcolumns, hnone]
    rfl
  · exact if_neg hcolumns

theorem regular_selectRows (ht : t.Regular) (horder : ∀ i ∈ order, i < t.rows) :
    (t.selectRows order).Regular := by
  refine ⟨(names_selectRows t order).symm ▸ ht.distinct, fun c hc => ?_, fun h => ?_⟩
  · obtain ⟨d, hd, rfl⟩ := List.mem_map.1 hc
    have hrows : (t.selectRows order).rows = order.length := if_neg (List.ne_nil_of_mem hd)
    rw [hrows]
    exact length_picked fun i hi => ht.lengths d hd ▸ horder i hi
  · exact if_pos (List.map_eq_nil_iff.1 h)

theorem column?_selectRows (t : Table) (order : List Nat) (name : String) :
    (t.selectRows order).column? name =
      (t.column? name).map fun cells => order.filterMap (cells[·]?) := by
  rw [column?, selectRows, List.find?_map, Option.map_map, column?, Option.map_map]
  rfl

/-- **A chosen row has the cells of the row with that number.** -/
theorem lookup?_selectRows (ht : t.Regular) (horder : ∀ i ∈ order, i < t.rows) (name : String)
    (k : Nat) : (t.selectRows order).lookup? name k = order[k]?.bind (t.lookup? name) := by
  rw [lookup?, column?_selectRows]
  cases hcells : t.column? name with
  | none =>
    have hnone : t.lookup? name = fun _ => none := by
      funext i
      rw [lookup?, hcells]
      rfl
    rw [hnone]
    cases order[k]? <;> rfl
  | some cells =>
    have hlength := length_of_column? ht hcells
    have hentry : t.lookup? name = fun i => cells[i]? := by
      funext i
      rw [lookup?, hcells]
      rfl
    rw [Option.map_some, Option.bind_some, hentry]
    exact getElem?_picked (fun i hi => hlength ▸ horder i hi) k

/-! ### Matrices -/

/-- The columns of a matrix under these names, as cells. -/
def namedColumns (names : List String) (m : Matrix Double) : List Column :=
  names.zipWith (fun name column => ⟨name, column.map .number⟩) m.columns

/-- With a name for each column, every column is under its name. -/
theorem mem_namedColumns_iff {names : List String} {m : Matrix Double} (h : names.length = m.cols)
    {c : Column} : c ∈ namedColumns names m ↔
      ∃ j name, names[j]? = some name ∧ c = ⟨name, (m.column j).map .number⟩ := by
  have hcolumn : ∀ {j name}, names[j]? = some name → m.columns[j]? = some (m.column j) :=
    fun hname => Matrix.getElem?_columns (h ▸ (List.getElem?_eq_some_iff.1 hname).1)
  rw [List.mem_iff_getElem?]
  refine exists_congr fun j => ?_
  rw [namedColumns, List.getElem?_zipWith]
  constructor
  · intro hc
    split at hc
    · rename_i name column hname hj
      cases hj.symm.trans (hcolumn hname)
      cases hc
      exact ⟨name, hname, rfl⟩
    · cases hc
  · rintro ⟨name, hname, rfl⟩
    rw [hname, hcolumn hname]

theorem names_namedColumns {names : List String} {m : Matrix Double} (h : names.length = m.cols) :
    (namedColumns names m).map Column.name = names := by
  rw [namedColumns, List.map_zipWith, ← List.map_uncurry_zip_eq_zipWith]
  exact List.map_fst_zip (Nat.le_of_eq (h.trans m.length_columns.symm))

/-- An array can count what was laid out as a matrix. -/
theorem fits_of_toMatrix {m : Matrix Double} (h : t.toMatrix = .ok m) :
    Matrix.fits t.rows t.width = true := by
  cases hrows : (List.range t.rows).mapM t.numericRow with
  | error e =>
    rw [toMatrix, hrows] at h
    cases h
  | ok rows =>
    rw [toMatrix_of_rows hrows, Matrix.ofEntries?] at h
    split at h
    · rename_i hentries
      split at hentries
      · rename_i hcounted
        exact hcounted.1
      · cases hentries
    · cases h

/-- Numbers that an array can count are laid out as a matrix. -/
theorem exists_toMatrix (ht : t.Regular) (hfits : Matrix.fits t.rows t.width = true)
    (hnumbers : ∀ i < t.rows, ∀ j < t.width, ∃ x, t.cell? i j = some (.number x)) :
    ∃ m, t.toMatrix = .ok m := by
  cases h : t.toMatrix with
  | ok m => exact ⟨m, rfl⟩
  | error e =>
    obtain ⟨i, hi, j, hj, s, htext⟩ := exists_text_of_toMatrix_eq_error ht hfits h
    obtain ⟨x, hx⟩ := hnumbers i hi j hj
    rw [htext] at hx
    cases hx

end ModelProbe.Table
