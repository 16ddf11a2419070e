import ModelProbe.Proofs.Explain.Order
import ModelProbe.Proofs.Explain.Timestamps
import ModelProbe.Proofs.Table.Columns

/-! Frames as tables sorted by time.

A frame in table order is what is read of a table before anything is sorted (`Reads`), and
`ofTable` gives that frame with its rows sorted (`ofTable_eq_ok_iff`). Sorting chooses the rows by
`sortedRows`, for timestamps and values alike, and where the rows are in order already this is the
same as leaving them alone (`sorted_eq_selectRows`). So every row of a frame is one row of the table
(`RowIs`), timestamps do not descend and rows with the same timestamp keep their order. -/
namespace ModelProbe.Explain.Frame

open Time (Timestamp)

/-- As many timestamps, columns and values as the dimensions say. -/
structure Sized (f : Frame) : Prop where
  values : f.values.Regular
  rows : f.values.rows = f.timestamps.length
  cols : f.values.cols = f.columns.length

/-- Row `k` of a frame is row `i` of a table: its timestamp is read from the timestamp column, and
its values are the numbers in the columns of their names. -/
structure RowIs (t : Table) (column : String) (format : Option String) (f : Frame) (k i : Nat) :
    Prop where
  timestamp : ∃ cell u, t.lookup? column i = some cell ∧ cellTimestamp format cell = .ok u ∧
    f.timestamps[k]? = some u
  value : ∀ j name, f.columns[j]? = some name →
    ∃ x, t.lookup? name i = some (.number x) ∧ f.values.get? k j = some x

/-- A matrix of the numbers in these columns, which an array can count. -/
structure Holds (t : Table) (names : List String) (values : Matrix Double) : Prop where
  regular : values.Regular
  rows : values.rows = t.rows
  cols : values.cols = names.length
  fits : names ≠ [] → Matrix.fits t.rows names.length = true
  number : ∀ i < t.rows, ∀ j name, names[j]? = some name →
    ∃ x, t.lookup? name i = some (.number x) ∧ values.get? i j = some x

/-- What is read of a table, in table order. -/
structure Reads (t : Table) (column : String) (format : Option String) (g : Frame) : Prop where
  timestampColumn : g.timestampColumn = column
  columns : g.columns = t.names.filter (· ≠ column)
  timestamps : ∃ cells, t.column? column = some cells ∧
    List.Forall₂ (fun cell u => cellTimestamp format cell = .ok u) cells g.timestamps
  values : Holds t g.columns g.values

variable {t : Table} {column : String} {format : Option String} {f g : Frame}

/-! ### What is read -/

namespace Reads

variable (hg : Reads t column format g)

include hg

theorem rows (ht : t.Regular) : g.timestamps.length = t.rows := by
  obtain ⟨cells, hcells, hread⟩ := hg.timestamps
  exact hread.length_eq.symm.trans (Table.length_of_column? ht hcells)

theorem sized (ht : t.Regular) : g.Sized :=
  ⟨hg.values.regular, hg.values.rows.trans (hg.rows ht).symm, hg.values.cols⟩

theorem mem_names : column ∈ t.names := by
  obtain ⟨cells, hcells, -⟩ := hg.timestamps
  exact (Table.exists_column_iff t column).1 ⟨cells, hcells⟩

theorem not_mem_columns : column ∉ g.columns := by
  rw [hg.columns, List.mem_filter]
  simp

theorem valid : ∀ u ∈ g.timestamps, u.Valid := by
  obtain ⟨cells, -, hread⟩ := hg.timestamps
  intro u hu
  obtain ⟨i, hi, rfl⟩ := List.getElem_of_mem hu
  exact valid_of_cellTimestamp (hread.get (hread.length_eq ▸ hi) hi)

/-- Before they are sorted, rows are where they are in the table. -/
theorem row (ht : t.Regular) {i : Nat} (hi : i < t.rows) : RowIs t column format g i i := by
  refine ⟨?_, fun j name hname => hg.values.number i hi j name hname⟩
  obtain ⟨cells, hcells, hread⟩ := hg.timestamps
  have hi : i < cells.length := Table.length_of_column? ht hcells ▸ hi
  have hi' : i < g.timestamps.length := hread.length_eq ▸ hi
  refine ⟨cells[i], g.timestamps[i], ?_, hread.get hi hi', List.getElem?_eq_getElem hi'⟩
  rw [Table.lookup?, hcells]
  exact List.getElem?_eq_getElem hi

end Reads

/-! ### Choosing rows -/

variable {order : List Nat}

theorem Sized.lt_values_rows (hg : g.Sized) (h : ∀ i ∈ order, i < g.timestamps.length) :
    ∀ i ∈ order, i < g.values.rows :=
  fun i hi => hg.rows ▸ h i hi

theorem Sized.selectRows (hg : g.Sized) (h : ∀ i ∈ order, i < g.timestamps.length) :
    (g.selectRows order).Sized :=
  ⟨Matrix.regular_selectRows hg.values (hg.lt_values_rows h), (length_picked h).symm, hg.cols⟩

/-- The timestamp of a chosen row. -/
theorem timestamps_selectRows (h : ∀ i ∈ order, i < g.timestamps.length) (k : Nat) :
    (g.selectRows order).timestamps[k]? = order[k]?.bind (g.timestamps[·]?) :=
  getElem?_picked h k

/-- A chosen row is the row with that number, timestamp and values alike. -/
theorem RowIs.selectRows (hg : g.Sized) (h : ∀ i ∈ order, i < g.timestamps.length) {k i l : Nat}
    (hk : order[k]? = some i) (hrow : RowIs t column format g i l) :
    RowIs t column format (g.selectRows order) k l := by
  refine ⟨?_, fun j name hname => ?_⟩
  · obtain ⟨cell, u, hcell, hu, hget⟩ := hrow.timestamp
    refine ⟨cell, u, hcell, hu, ?_⟩
    rw [timestamps_selectRows h, hk]
    exact hget
  · obtain ⟨x, hx, hget⟩ := hrow.value j name hname
    refine ⟨x, hx, ?_⟩
    show (g.values.selectRows order).get? k j = _
    rw [Matrix.get?_selectRows hg.values (hg.lt_values_rows h), hk]
    exact hget

theorem selectRows_range (hg : g.Sized) : g.selectRows (List.range g.timestamps.length) = g := by
  have hvalues : g.values.selectRows (List.range g.timestamps.length) = g.values := by
    rw [← hg.rows]
    exact Matrix.selectRows_range hg.values
  unfold selectRows
  rw [hvalues, picked_range]

theorem selectRows_selectRows {outer : List Nat} (hg : g.Sized)
    (h : ∀ i ∈ order, i < g.timestamps.length) (houter : ∀ k ∈ outer, k < order.length) :
    (g.selectRows order).selectRows outer = g.selectRows (outer.filterMap (order[·]?)) := by
  unfold selectRows
  rw [Matrix.selectRows_selectRows hg.values (hg.lt_values_rows h) houter, picked_picked _ h]

/-! ### Sorting -/

theorem sortedRows_lt (ts : List Timestamp) : ∀ i ∈ sortedRows ts, i < ts.length :=
  lt_of_perm_range (perm_sortedRows ts)

/-- **Leaving rows in order alone is the same as sorting them.** -/
theorem sorted_eq_selectRows (hg : g.Sized) :
    g.sorted = g.selectRows (sortedRows g.timestamps) := by
  unfold sorted
  dsimp only
  split
  · rename_i hascends
    rw [eq_range_of_ascends (perm_sortedRows _) hascends, selectRows_range hg]
  · rfl

/-- Sorted timestamps do not descend. -/
theorem pairwise_sorted (hg : g.Sized) : g.sorted.timestamps.Pairwise (·.rank ≤ ·.rank) := by
  rw [sorted_eq_selectRows hg]
  refine List.pairwise_filterMap.2 ((pairwise_sortedRows g.timestamps).imp ?_)
  rintro i j ⟨a, ha, b, hb, h⟩ a' ha' b' hb'
  cases ha.symm.trans ha'
  cases hb.symm.trans hb'
  omega

/-! ### Reading a table -/

/-- The values beside the timestamps, of which there may be none. -/
def otherValues (t : Table) (column : String) (rows : Nat) : Except Error (Matrix Double) :=
  if (t.without column).columns = [] then .ok ⟨rows, 0, []⟩
  else liftTable (t.without column).toMatrix

/-- What has to succeed for a table to be read, and what is made of it. -/
theorem ofTable_eq_ok_iff_steps : ofTable t column format = .ok f ↔
    ∃ cells timestamps values, t.column? column = some cells ∧
      (cells.zipIdx.mapM fun (cell, row) => rowTimestamp format row cell) = .ok timestamps ∧
      otherValues t column timestamps.length = .ok values ∧
      sorted ⟨column, timestamps, (t.without column).names, values⟩ = f := by
  unfold ofTable otherValues
  constructor
  · intro h
    split at h
    · cases h
    · rename_i cells hcells
      obtain ⟨timestamps, htimestamps, h⟩ := bind_eq_ok_iff.1 h
      dsimp only at h
      split at h
      · rename_i hnone
        cases h
        exact ⟨cells, timestamps, _, hcells, htimestamps, if_pos hnone, rfl⟩
      · rename_i hsome
        obtain ⟨values, hvalues, h⟩ := bind_eq_ok_iff.1 h
        cases h
        exact ⟨cells, timestamps, values, hcells, htimestamps, (if_neg hsome).trans hvalues, rfl⟩
  · rintro ⟨cells, timestamps, values, hcells, htimestamps, hvalues, rfl⟩
    rw [hcells]
    refine bind_eq_ok_iff.2 ⟨timestamps, htimestamps, ?_⟩
    dsimp only
    split at hvalues
    · cases hvalues
      exact if_pos ‹_›
    · rename_i hsome
      rw [if_neg hsome]
      exact bind_eq_ok_iff.2 ⟨values, hvalues, rfl⟩

theorem liftTable_eq_ok_iff {α : Type} {x : Except ModelProbe.Error α} {a : α} :
    liftTable x = .ok a ↔ x = .ok a := by
  cases x with
  | error e => exact ⟨nofun, nofun⟩
  | ok b => exact ⟨fun h => by cases h; rfl, fun h => by cases h; rfl⟩

theorem rowTimestamp_eq_ok_iff {row : Nat} {cell : Cell} {u : Timestamp} :
    rowTimestamp format row cell = .ok u ↔ cellTimestamp format cell = .ok u := by
  unfold rowTimestamp
  cases cellTimestamp format cell with
  | error e => exact ⟨nofun, nofun⟩
  | ok v => exact ⟨fun h => by cases h; rfl, fun h => by cases h; rfl⟩

/-- The timestamps are read cell by cell. -/
theorem mapM_rowTimestamp_eq_ok_iff {cells : List Cell} {timestamps : List Timestamp} :
    (cells.zipIdx.mapM fun (cell, row) => rowTimestamp format row cell) = .ok timestamps ↔
      List.Forall₂ (fun cell u => cellTimestamp format cell = .ok u) cells timestamps := by
  constructor
  · exact fun h => forall₂_of_mapM_zipIdx_eq_ok h fun _ _ _ => rowTimestamp_eq_ok_iff.1
  · intro h
    have hsame : cells.zipIdx.mapM (fun (cell, row) => rowTimestamp format row cell) =
        timestamps.mapM Except.ok :=
      mapM_zipIdx_eq_mapM (h.imp fun _ _ hu _ => rowTimestamp_eq_ok_iff.2 hu) 0
    rw [hsame]
    exact mapM_eq_ok_iff.2 (List.forall₂_same.2 fun _ _ => rfl)

/-- The matrix of a table with columns holds its numbers. -/
theorem holds_of_toMatrix (ht : t.Regular) {values : Matrix Double} (h : t.toMatrix = .ok values) :
    Holds t t.names values := by
  obtain ⟨hrows, hcols, hregular, hentries⟩ := Table.toMatrix_eq_ok ht h
  refine ⟨hregular, hrows, hcols.trans t.length_names.symm, fun _ => ?_,
    fun i hi j name hname => ?_⟩
  · rw [t.length_names]
    exact Table.fits_of_toMatrix h
  · have hj : j < t.width := t.length_names ▸ (List.getElem?_eq_some_iff.1 hname).1
    obtain ⟨x, hx, hget⟩ := hentries i hi j hj
    refine ⟨x, (Table.cell?_eq_lookup? ht hname i).symm.trans hx, ?_⟩
    rw [Matrix.get?, hcols, if_pos hj]
    exact hget

/-- Nothing else holds them. -/
theorem Holds.unique {names : List String} {m n : Matrix Double} (hm : Holds t names m)
    (hn : Holds t names n) : m = n := by
  refine Matrix.ext_get? hm.regular hn.regular (hm.rows.trans hn.rows.symm)
    (hm.cols.trans hn.cols.symm) fun i hi j hj => ?_
  have hi : i < t.rows := hm.rows ▸ hi
  have hj : j < names.length := hm.cols ▸ hj
  obtain ⟨x, hx, hgetm⟩ := hm.number i hi j _ (List.getElem?_eq_getElem hj)
  obtain ⟨y, hy, hgetn⟩ := hn.number i hi j _ (List.getElem?_eq_getElem hj)
  cases hx.symm.trans hy
  exact hgetm.trans hgetn.symm

theorem toMatrix_eq_ok_iff (ht : t.Regular) (hne : t.columns ≠ []) {values : Matrix Double} :
    t.toMatrix = .ok values ↔ Holds t t.names values := by
  refine ⟨holds_of_toMatrix ht, fun h => ?_⟩
  have hnames : t.names ≠ [] := fun h => hne (List.map_eq_nil_iff.1 h)
  have hnumbers : ∀ i < t.rows, ∀ j < t.width, ∃ x, t.cell? i j = some (.number x) := by
    intro i hi j hj
    have hname := List.getElem?_eq_getElem (t.length_names.symm ▸ hj)
    obtain ⟨x, hx, -⟩ := h.number i hi j _ hname
    exact ⟨x, (Table.cell?_eq_lookup? ht hname i).trans hx⟩
  obtain ⟨m, hm⟩ := Table.exists_toMatrix ht (t.length_names ▸ h.fits hnames) hnumbers
  rw [hm, (holds_of_toMatrix ht hm).unique h]

/-- The columns beside the timestamps hold the same in the table without those. -/
theorem holds_without_iff (ht : t.Regular) (hne : (t.without column).columns ≠ [])
    {values : Matrix Double} : Holds (t.without column) (t.without column).names values ↔
      Holds t (t.names.filter (· ≠ column)) values := by
  have hrows := Table.rows_without hne
  have hentry : ∀ (j : Nat) (name : String), (t.names.filter (· ≠ column))[j]? = some name → ∀ i,
      (t.without column).lookup? name i = t.lookup? name i := by
    intro j name hname
    have hmem := (List.mem_filter.1 (List.mem_of_getElem? hname)).2
    exact Table.lookup?_without ht (of_decide_eq_true hmem)
  rw [Table.names_without ht]
  constructor
  · intro h
    refine ⟨h.regular, h.rows.trans hrows, h.cols, fun hn => hrows ▸ h.fits hn, ?_⟩
    intro i hi j name hname
    rw [← hentry j name hname]
    exact h.number i (hrows.symm ▸ hi) j name hname
  · intro h
    refine ⟨h.regular, h.rows.trans hrows.symm, h.cols, fun hn => hrows.symm ▸ h.fits hn, ?_⟩
    intro i hi j name hname
    rw [hentry j name hname]
    exact h.number i (hrows ▸ hi) j name hname

theorem otherValues_eq_ok_iff (ht : t.Regular) {values : Matrix Double} :
    otherValues t column t.rows = .ok values ↔ Holds t (t.names.filter (· ≠ column)) values := by
  unfold otherValues
  split
  · rename_i hnone
    have hnames : t.names.filter (· ≠ column) = [] := by
      rw [← Table.names_without ht, Table.names, hnone]
      rfl
    rw [hnames]
    have hempty : Holds t [] ⟨t.rows, 0, []⟩ :=
      ⟨rfl, rfl, rfl, fun h => absurd rfl h, fun _ _ _ _ h => absurd h (by simp)⟩
    constructor
    · intro h
      cases h
      exact hempty
    · intro h
      rw [h.unique hempty]
  · rename_i hsome
    rw [liftTable_eq_ok_iff, toMatrix_eq_ok_iff (Table.regular_without ht column) hsome,
      holds_without_iff ht hsome]

/-- **A table is read in its order and then sorted.** -/
theorem ofTable_eq_ok_iff (ht : t.Regular) :
    ofTable t column format = .ok f ↔ ∃ g, Reads t column format g ∧ g.sorted = f := by
  rw [ofTable_eq_ok_iff_steps]
  constructor
  · rintro ⟨cells, timestamps, values, hcells, htimestamps, hvalues, rfl⟩
    rw [mapM_rowTimestamp_eq_ok_iff] at htimestamps
    have hlength : timestamps.length = t.rows :=
      htimestamps.length_eq.symm.trans (Table.length_of_column? ht hcells)
    rw [hlength, otherValues_eq_ok_iff ht, ← Table.names_without ht] at hvalues
    exact ⟨_, ⟨rfl, Table.names_without ht column, ⟨cells, hcells, htimestamps⟩, hvalues⟩, rfl⟩
  · rintro ⟨g, hg, rfl⟩
    obtain ⟨cells, hcells, htimestamps⟩ := hg.timestamps
    refine ⟨cells, g.timestamps, g.values, hcells,
      mapM_rowTimestamp_eq_ok_iff.2 htimestamps, ?_, ?_⟩
    · rw [hg.rows ht]
      exact (otherValues_eq_ok_iff ht).2 (hg.columns ▸ hg.values)
    · rw [Table.names_without ht, ← hg.columns, ← hg.timestampColumn]

/-! ### Cutting rows -/

theorem rows_sliceRows {start stop : Nat} (h : stop ≤ f.rows) :
    (f.sliceRows start stop).rows = stop - start := by
  show ((f.timestamps.drop start).take (stop - start)).length = _
  rw [List.length_take, List.length_drop]
  exact Nat.min_eq_left (Nat.sub_le_sub_right h start)

theorem rows_tail {n : Nat} (h : n ≤ f.rows) : (f.tail n).rows = n := by
  rw [tail, rows_sliceRows (Nat.le_refl _), Nat.sub_sub_self h]

theorem window_eq_ok_iff {start length : Nat} : f.window start length = .ok g ↔
    start + length ≤ f.rows ∧ f.sliceRows start (start + length) = g := by
  unfold window
  by_cases h : start + length ≤ f.rows
  · simp [h]
  · simp [h]

theorem cut_cut {α : Type} (xs : List α) (start : Nat) {n a m : Nat} (h : a + m ≤ n) :
    (((xs.drop start).take n).drop a).take m = (xs.drop (start + a)).take m := by
  rw [List.drop_take, List.drop_drop, List.take_take, Nat.min_eq_left (by omega)]

/-- Rows of rows that were cut are rows of the frame. -/
theorem sliceRows_sliceRows (f : Frame) {start stop a b : Nat} (hab : a ≤ b)
    (hb : start + b ≤ stop) :
    (f.sliceRows start stop).sliceRows a b = f.sliceRows (start + a) (start + b) := by
  have hlength : start + b - (start + a) = b - a := Nat.add_sub_add_left ..
  have hentries : a * f.values.cols + (b - a) * f.values.cols ≤
      (stop - start) * f.values.cols := by
    rw [← Nat.add_mul]
    exact Nat.mul_le_mul_right _ (by omega)
  have htimestamps : a + (b - a) ≤ stop - start := by omega
  simp only [sliceRows, Matrix.slice, hlength, cut_cut _ _ htimestamps, cut_cut _ _ hentries,
    Nat.add_mul]

/-- The last rows of a history are the last rows of the frame. -/
theorem window_tail {m n : Nat} (hmn : m ≤ n) (hn : n ≤ f.rows) :
    (f.tail n).window (n - m) m = .ok (f.tail m) := by
  have hstop : n - m + m = n := Nat.sub_add_cancel hmn
  rw [window_eq_ok_iff, hstop, rows_tail hn]
  refine ⟨Nat.le_refl n, ?_⟩
  rw [tail, sliceRows_sliceRows f (Nat.sub_le ..) (by omega), tail]
  congr 1 <;> omega

end ModelProbe.Explain.Frame
