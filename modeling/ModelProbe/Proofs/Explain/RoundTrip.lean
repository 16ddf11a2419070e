import ModelProbe.Proofs.Explain.StableSort

/-! Frames as tables, and back.

A frame that is made of a table, and cut and refilled from there, is `Regular`: its timestamps are
valid and in order, its columns have distinct names, and its values are as many as an array can
count. The table of such a frame has the frame's columns in their order, with the text of the
timestamps in front, and reading that text gives the timestamps again. So the table is read as the
frame, and sorting leaves it alone. -/
namespace ModelProbe.Explain.Frame

open Time (Timestamp)

structure Regular (f : Frame) : Prop where
  sized : f.Sized
  fits : f.columns ≠ [] → Matrix.fits f.timestamps.length f.columns.length = true
  distinct : (f.timestampColumn :: f.columns).Nodup
  valid : ∀ u ∈ f.timestamps, u.Valid
  ascending : f.timestamps.Pairwise (·.rank ≤ ·.rank)

/-- The frames there are: made of a table or of columns, and then cut and refilled. -/
inductive Reachable : Frame → Prop
  | ofTable {t : Table} {column : String} {format : Option String} {f : Frame} (ht : t.Regular)
      (h : Frame.ofTable t column format = .ok f) : Reachable f
  | ofColumns {names : List String} {columns : List (List Cell)} {column : String}
      {format : Option String} {f : Frame}
      (h : Frame.ofColumns names columns column format = .ok f) : Reachable f
  | tail {f : Frame} (hf : Reachable f) (n : Nat) : Reachable (f.tail n)
  | window {f g : Frame} {start length : Nat} (hf : Reachable f)
      (h : f.window start length = .ok g) : Reachable g
  | withValues {f g : Frame} {values : Matrix Double} (hf : Reachable f) (hvalues : values.Regular)
      (h : f.withValues values = .ok g) : Reachable g

variable {t : Table} {column : String} {format : Option String} {f g : Frame}

/-! ### Making frames -/

theorem regular_ofTable (ht : t.Regular) (h : ofTable t column format = .ok f) : f.Regular := by
  obtain ⟨g, hg, rfl⟩ := (ofTable_eq_ok_iff ht).1 h
  have hsized := hg.sized ht
  have hsort := hg.isStableSort ht
  refine ⟨hsort.sized, fun hne => ?_, ?_, valid_sorted hsized hg.valid, pairwise_sorted hsized⟩
  · have hcolumns : g.sorted.columns = g.columns := hsort.columns.trans hg.columns.symm
    rw [hsort.rows, hcolumns]
    exact hg.values.fits (hcolumns ▸ hne)
  · rw [hsort.timestampColumn, List.nodup_cons]
    refine ⟨hsort.not_mem_columns, ?_⟩
    rw [hsort.columns]
    exact ht.distinct.filter _

theorem regular_ofColumns {names : List String} {columns : List (List Cell)}
    (h : ofColumns names columns column format = .ok f) : f.Regular := by
  unfold ofColumns at h
  split at h
  · cases h
  · obtain ⟨t, ht, h⟩ := bind_eq_ok_iff.1 h
    exact regular_ofTable (Table.regular_ofColumns (liftTable_eq_ok_iff.1 ht)) h

/-! ### Cutting and refilling -/

/-- Rows in a row are as regular as all of them. -/
theorem Regular.sliceRows (hf : f.Regular) {start stop : Nat} (h : stop ≤ f.rows) :
    (f.sliceRows start stop).Regular := by
  have hlength : (f.sliceRows start stop).timestamps.length = stop - start := rows_sliceRows h
  have hsub : (f.sliceRows start stop).timestamps.Sublist f.timestamps :=
    (List.take_sublist ..).trans (List.drop_sublist ..)
  refine ⟨⟨?_, hlength.symm, hf.sized.cols⟩, fun hne => ?_, hf.distinct,
    fun u hu => hf.valid u (hsub.subset hu), hf.ascending.sublist hsub⟩
  · exact Matrix.regular_slice hf.sized.values (h.trans_eq hf.sized.rows.symm)
  · exact Matrix.fits_mono hsub.length_le (hf.fits hne)

theorem Regular.tail (hf : f.Regular) (n : Nat) : (f.tail n).Regular :=
  hf.sliceRows (Nat.le_refl _)

theorem Regular.window (hf : f.Regular) {start length : Nat} (h : f.window start length = .ok g) :
    g.Regular := by
  obtain ⟨hstop, rfl⟩ := window_eq_ok_iff.1 h
  exact hf.sliceRows hstop

theorem Regular.withValues (hf : f.Regular) {values : Matrix Double} (hvalues : values.Regular)
    (h : f.withValues values = .ok g) : g.Regular := by
  unfold Frame.withValues at h
  split at h
  · rename_i hsame
    cases h
    exact ⟨⟨hvalues, hsame.1.trans hf.sized.rows, hsame.2.trans hf.sized.cols⟩, hf.fits,
      hf.distinct, hf.valid, hf.ascending⟩
  · cases h

/-- **Every frame there is is regular.** -/
theorem Reachable.regular (h : f.Reachable) : f.Regular := by
  induction h with
  | ofTable ht h => exact regular_ofTable ht h
  | ofColumns h => exact regular_ofColumns h
  | tail _ n ih => exact ih.tail n
  | window _ h ih => exact ih.window h
  | withValues _ hvalues h ih => exact ih.withValues hvalues h

/-! ### The table of a frame -/

/-- The columns of values, as cells. -/
def valueColumns (f : Frame) : List Column :=
  f.columns.zipWith (fun name values => ⟨name, values.map .number⟩) f.values.columns

/-- What a frame is written as. -/
def asTable (f : Frame) : Table :=
  ⟨⟨f.timestampColumn, f.timestamps.map fun u => .text u.text⟩ :: f.valueColumns,
    f.timestamps.length⟩

theorem Sized.lt_cols (hf : f.Sized) {j : Nat} {name : String} (h : f.columns[j]? = some name) :
    j < f.values.cols :=
  hf.cols ▸ (List.getElem?_eq_some_iff.1 h).1

theorem mem_valueColumns (hf : f.Sized) {c : Column} : c ∈ f.valueColumns ↔
    ∃ j name, f.columns[j]? = some name ∧ c = ⟨name, (f.values.column j).map .number⟩ :=
  Table.mem_namedColumns_iff hf.cols.symm

theorem names_asTable (hf : f.Sized) : f.asTable.names = f.timestampColumn :: f.columns := by
  have hnames : f.valueColumns.map Column.name = f.columns := Table.names_namedColumns hf.cols.symm
  rw [Table.names, asTable, List.map_cons, hnames]

theorem regular_asTable (hf : f.Regular) : f.asTable.Regular := by
  refine ⟨names_asTable hf.sized ▸ hf.distinct, fun c hc => ?_, nofun⟩
  rcases List.mem_cons.1 hc with rfl | hc
  · exact List.length_map ..
  · obtain ⟨j, name, hname, rfl⟩ := (mem_valueColumns hf.sized).1 hc
    have hlength := hf.sized.values.length_column (hf.sized.lt_cols hname)
    exact (List.length_map ..).trans (hlength.trans hf.sized.rows)

/-- The cells of a table are the values of the frame. -/
theorem holds_asTable (hf : f.Regular) : Holds f.asTable f.columns f.values := by
  refine ⟨hf.sized.values, hf.sized.rows, hf.sized.cols, hf.fits, fun i hi j name hname => ?_⟩
  have hi : i < f.values.rows := hf.sized.rows ▸ hi
  have hj : j < f.values.cols := hf.sized.lt_cols hname
  obtain ⟨x, hx⟩ := hf.sized.values.exists_get? hi hj
  have hmem : ⟨name, (f.values.column j).map .number⟩ ∈ f.asTable.columns :=
    List.mem_cons_of_mem _ ((mem_valueColumns hf.sized).2 ⟨j, name, hname, rfl⟩)
  refine ⟨x, ?_, hx⟩
  rw [Table.lookup?_of_mem (regular_asTable hf) hmem, List.getElem?_map,
    hf.sized.values.getElem?_column hi hj, hx]
  rfl

/-- The table of a frame is read as that frame. -/
theorem reads_asTable (hf : f.Regular) : Reads f.asTable f.timestampColumn none f := by
  obtain ⟨hfront, -⟩ := List.nodup_cons.1 hf.distinct
  refine ⟨rfl, ?_, ⟨f.timestamps.map fun u => .text u.text, ?_, ?_⟩, holds_asTable hf⟩
  · rw [names_asTable hf.sized, List.filter_cons_of_neg (by simp)]
    refine (List.filter_eq_self.2 fun name hname => ?_).symm
    exact decide_eq_true fun h => hfront (h ▸ hname)
  · exact (Table.column?_eq_some_iff (regular_asTable hf)).2 (List.mem_cons_self ..)
  · have hread : ∀ u ∈ f.timestamps, cellTimestamp none (.text u.text) = .ok u := by
      intro u hu
      rw [cellTimestamp]
      exact parseTimestamp_text (hf.valid u hu)
    rw [List.forall₂_map_left_iff]
    exact List.forall₂_same.2 hread

theorem sorted_of_regular (hf : f.Regular) : f.sorted = f := by
  rw [sorted_eq_selectRows hf.sized, sortedRows_of_pairwise hf.ascending, selectRows_range hf.sized]

theorem ofTable_asTable (hf : f.Regular) : ofTable f.asTable f.timestampColumn none = .ok f :=
  (ofTable_eq_ok_iff (regular_asTable hf)).2 ⟨f, reads_asTable hf, sorted_of_regular hf⟩

/-- **The frames there are** are the regular ones. -/
theorem reachable_iff_regular : f.Reachable ↔ f.Regular :=
  ⟨Reachable.regular, fun hf => .ofTable (regular_asTable hf) (ofTable_asTable hf)⟩

/-- **A frame is the frame of its table.** -/
theorem ofTable_toTable (h : f.Reachable) :
    ∃ t, f.toTable = .ok t ∧ ofTable t f.timestampColumn none = .ok f := by
  refine ⟨f.asTable, ?_, ofTable_asTable h.regular⟩
  exact liftTable_eq_ok_iff.2 (Table.ofColumns_eq_ok_iff.2 ⟨rfl, regular_asTable h.regular⟩)

/-- A year below 0, a leap second that comes twice and a year above 9999, with values that are no
numbers. -/
def farReadings : Frame :=
  ⟨"at", [⟨⟨-44, 3, 15⟩, ⟨12, 0, 0, 500000000⟩⟩, ⟨⟨2016, 12, 31⟩, ⟨23, 59, 59, 1000000001⟩⟩,
    ⟨⟨2016, 12, 31⟩, ⟨23, 59, 59, 1000000001⟩⟩, ⟨⟨12345, 1, 1⟩, .midnight⟩], ["load"],
    ⟨4, 1, [.nan, .zero, .infinity true, .nan]⟩⟩

theorem reachable_farReadings : farReadings.Reachable :=
  reachable_iff_regular.2
    ⟨⟨rfl, rfl, rfl⟩, by decide, by decide, by decide +kernel, by decide +kernel⟩

/-- The last three of these readings. -/
theorem ofTable_toTable_far : (farReadings.tail 3).Reachable ∧ ∃ t,
    (farReadings.tail 3).toTable = .ok t ∧ ofTable t "at" none = .ok (farReadings.tail 3) :=
  ⟨reachable_farReadings.tail 3, ofTable_toTable (reachable_farReadings.tail 3)⟩

end ModelProbe.Explain.Frame
