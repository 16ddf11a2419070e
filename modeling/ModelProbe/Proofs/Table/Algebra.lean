import Mathlib.Data.List.Nodup
import ModelProbe.Proofs.Table.Columns

/-! The algebra of tables.

The tables there are (`Reachable`) are built from columns or from a matrix and then reduced by
`select`, `without` and `tail` in any order, and they are the regular ones. On them a selection is
known by its names: it is the regular table with these names whose columns are the table's
(`select_eq_ok_iff`). So dropping a column is selecting the others, selecting from a selection is
selecting, and cutting the rows goes before or after any of these with the same result, an error
included (`select_tail`). -/
namespace ModelProbe.Table

/-- The tables there are: built, and then reduced any number of times. -/
inductive Reachable : Table → Prop
  | ofColumns {columns : List Column} {t : Table} (h : Table.ofColumns columns = .ok t) :
      Reachable t
  | ofMatrix {m : Matrix Double} {names : List String} {t : Table}
      (h : Table.ofMatrix m names = .ok t) : Reachable t
  | select {t s : Table} (ht : Reachable t) {names : List String} (h : t.select names = .ok s) :
      Reachable s
  | without {t : Table} (ht : Reachable t) (name : String) : Reachable (t.without name)
  | tail {t : Table} (ht : Reachable t) (n : Nat) : Reachable (t.tail n)

variable {t s : Table} {name : String} {names : List String}

theorem Reachable.regular (h : t.Reachable) : t.Regular := by
  induction h with
  | ofColumns h => exact regular_ofColumns h
  | ofMatrix h => exact regular_ofMatrix h
  | select _ h => exact regular_select h
  | without _ name ih => exact regular_without ih name
  | tail _ n ih => exact regular_tail ih n

/-- **The tables there are** are the regular ones. -/
theorem reachable_iff_regular : t.Reachable ↔ t.Regular :=
  ⟨Reachable.regular, fun ht => .ofColumns (ofColumns_eq_ok_iff.2 ⟨rfl, ht⟩)⟩

/-! ### Columns by name -/

/-- A column with its name, as a selection takes it. -/
def named (t : Table) (name : String) : Except Error Column :=
  (t.column name).map (Column.mk name)

theorem select_eq (t : Table) (names : List String) :
    t.select names = names.mapM t.named >>= ofColumns := by
  have hnamed : (fun name => do return ⟨name, ← t.column name⟩) = t.named := by
    funext name
    rw [named]
    cases t.column name <;> rfl
  rw [select, hnamed]

theorem named_eq_ok_iff (ht : t.Regular) {c : Column} :
    t.named name = .ok c ↔ c ∈ t.columns ∧ c.name = name := by
  have hcolumn : t.named name = .ok c ↔
      ∃ cells, t.column? name = some cells ∧ c = ⟨name, cells⟩ := by
    rw [named, column]
    cases t.column? name <;> simp [Except.map, eq_comm]
  rw [hcolumn]
  constructor
  · rintro ⟨cells, h, rfl⟩
    exact ⟨(column?_eq_some_iff ht).1 h, rfl⟩
  · rintro ⟨hc, rfl⟩
    exact ⟨c.cells, (column?_eq_some_iff ht).2 hc, rfl⟩

theorem mapM_named_eq_ok_iff (ht : t.Regular) {columns : List Column} :
    names.mapM t.named = .ok columns ↔
      columns.map Column.name = names ∧ ∀ c ∈ columns, c ∈ t.columns := by
  rw [mapM_eq_ok_iff]
  constructor
  · intro h
    induction h with
    | nil => simp
    | cons hc _ ih =>
      obtain ⟨hmem, rfl⟩ := (named_eq_ok_iff ht).1 hc
      exact ⟨by simp [ih.1], List.forall_mem_cons.2 ⟨hmem, ih.2⟩⟩
  · rintro ⟨rfl, h⟩
    rw [List.forall₂_map_left_iff, List.forall₂_same]
    intro c hc
    exact (named_eq_ok_iff ht).2 ⟨h c hc, rfl⟩

/-- Looking a column up by its name is looking its place up. -/
theorem column?_eq_index? (t : Table) (name : String) :
    t.column? name = (t.index? name).bind fun j => t.columns[j]?.map Column.cells := by
  have hindex : t.index? name = t.columns.findIdx? (·.name = name) := by
    rw [index?, names, List.findIdx?_map]
    rfl
  rw [column?, List.find?_eq_bind_findIdx?_getElem?, hindex, Option.map_bind]
  rfl

theorem index?_lt {j : Nat} (h : t.index? name = some j) : j < t.columns.length := by
  obtain ⟨hj, -⟩ := List.findIdx?_eq_some_iff_getElem.1 h
  rwa [length_names] at hj

/-- Of a regular table each name has its one column. -/
theorem existsUnique_column (ht : t.Regular) (h : name ∈ t.names) :
    ∃! c, c ∈ t.columns ∧ c.name = name := by
  obtain ⟨c, hc, hname⟩ := List.mem_map.1 h
  exact ⟨c, ⟨hc, hname⟩, fun d hd =>
    List.inj_on_of_nodup_map ht.distinct hd.1 hc (hd.2.trans hname.symm)⟩

/-- **What a selection is**: the regular table with these names whose columns are the table's. -/
theorem select_eq_ok_iff (ht : t.Regular) :
    t.select names = .ok s ↔ s.Regular ∧ s.names = names ∧ ∀ c ∈ s.columns, c ∈ t.columns := by
  rw [select_eq, bind_eq_ok_iff]
  constructor
  · rintro ⟨columns, hcolumns, h⟩
    obtain ⟨rfl, hs⟩ := ofColumns_eq_ok_iff.1 h
    obtain ⟨hnames, hmem⟩ := (mapM_named_eq_ok_iff ht).1 hcolumns
    exact ⟨hs, hnames, hmem⟩
  · rintro ⟨hs, hnames, hmem⟩
    exact ⟨s.columns, (mapM_named_eq_ok_iff ht).2 ⟨hnames, hmem⟩, ofColumns_eq_ok_iff.2 ⟨rfl, hs⟩⟩

/-- Distinct names of a table can be selected. -/
theorem exists_select (ht : t.Regular) (hdistinct : names.Nodup)
    (hmem : ∀ name ∈ names, name ∈ t.names) : ∃ s, t.select names = .ok s := by
  have hnamed : ∀ name ∈ names, ∃ c, t.named name = .ok c ∧ c ∈ t.columns := by
    intro name hname
    obtain ⟨c, ⟨hc, rfl⟩, -⟩ := existsUnique_column ht (hmem name hname)
    exact ⟨c, (named_eq_ok_iff ht).2 ⟨hc, rfl⟩, hc⟩
  obtain ⟨columns, hcolumns, -⟩ := exists_mapM_eq_ok hnamed
  obtain ⟨hnames, hsub⟩ := (mapM_named_eq_ok_iff ht).1 hcolumns
  refine ⟨⟨columns, if columns = [] then 0 else t.rows⟩, (select_eq_ok_iff ht).2 ⟨⟨?_, ?_, ?_⟩,
    hnames, hsub⟩⟩
  · rw [Table.names, hnames]
    exact hdistinct
  · intro c hc
    exact (ht.lengths c (hsub c hc)).trans (if_neg (List.ne_nil_of_mem hc)).symm
  · exact fun h => if_pos h

/-- Dropping a column is selecting the others in their order. -/
theorem select_others (ht : t.Regular) (name : String) :
    t.select (t.names.filter (· ≠ name)) = .ok (t.without name) := by
  refine (select_eq_ok_iff ht).2 ⟨regular_without ht name, names_without ht name, fun c hc => ?_⟩
  rw [columns_without ht] at hc
  exact List.mem_of_mem_filter hc

theorem without_of_not_mem (ht : t.Regular) (h : name ∉ t.names) : t.without name = t := by
  have hcolumns : (t.without name).columns = t.columns := by
    rw [columns_without ht, List.filter_eq_self]
    intro c hc
    apply decide_eq_true
    rintro rfl
    exact h (List.mem_map_of_mem hc)
  have hrows : (t.without name).rows = t.rows := by
    by_cases hempty : t.columns = []
    · rw [ht.no_rows hempty, (regular_without ht name).no_rows (hcolumns.trans hempty)]
    · exact rows_without (hcolumns ▸ hempty)
  rw [Table.mk.injEq]
  exact ⟨hcolumns, hrows⟩

/-- Selecting from a selection is selecting from the table. -/
theorem select_select (ht : t.Regular) (h : t.select names = .ok s) {inner : List String}
    (hinner : ∀ name ∈ inner, name ∈ names) : s.select inner = t.select inner := by
  obtain ⟨hs, hnames, hmem⟩ := (select_eq_ok_iff ht).1 h
  have hnamed : ∀ name ∈ inner, s.named name = t.named name := by
    intro name hname
    obtain ⟨c, hc, rfl⟩ := List.mem_map.1 (hnames ▸ hinner name hname : name ∈ s.names)
    rw [(named_eq_ok_iff hs).2 ⟨hc, rfl⟩, (named_eq_ok_iff ht).2 ⟨hmem c hc, rfl⟩]
  rw [select_eq, select_eq, mapM_eq_mapM (List.forall₂_same.2 hnamed)]

/-! ### Cutting rows -/

/-- A column from a row on. -/
def cut (start : Nat) (c : Column) : Column :=
  { c with cells := c.cells.drop start }

theorem columns_tail (t : Table) (n : Nat) :
    (t.tail n).columns = t.columns.map (cut (t.rows - n)) :=
  rfl

theorem names_tail (t : Table) (n : Nat) : (t.tail n).names = t.names := by
  simp [names, columns_tail, cut]

/-- The last rows of the last rows are last rows. -/
theorem tail_tail (t : Table) (m n : Nat) : (t.tail n).tail m = t.tail (min m n) := by
  have hstart : t.rows - n + (t.rows - (t.rows - n) - m) = t.rows - min m n := by omega
  simp only [tail, List.map_map, Function.comp_def, List.drop_drop, hstart, Table.mk.injEq,
    true_and]
  omega

theorem without_tail (t : Table) (n : Nat) (name : String) :
    (t.tail n).without name = (t.without name).tail n := by
  have hcolumns : (t.tail n).columns.eraseP (·.name = name) =
      (t.columns.eraseP (·.name = name)).map (cut (t.rows - n)) := by
    rw [columns_tail, List.eraseP_map]
    rfl
  rw [without, hcolumns, without]
  by_cases hempty : t.columns.eraseP (·.name = name) = []
  · simp [hempty, tail]
  · simp [hempty, tail, cut]

theorem named_tail (t : Table) (n : Nat) (name : String) :
    (t.tail n).named name = (t.named name).map (cut (t.rows - n)) := by
  have hcolumn : (t.tail n).column? name = (t.column? name).map (·.drop (t.rows - n)) := by
    rw [column?, columns_tail, List.find?_map, Option.map_map, column?, Option.map_map]
    rfl
  rw [named, column, hcolumn, named, column]
  cases t.column? name <;> rfl

theorem rows_append {c : Column} {rows : Nat} (hrows : s.columns ≠ [] → s.rows = rows)
    (hc : c.cells.length = rows) (h : s.append c = .ok t) : t.columns ≠ [] → t.rows = rows := by
  intro _
  unfold append at h
  split at h
  · cases h
  · split at h
    · cases h
      exact hc
    · rename_i hempty
      split at h
      · cases h
        exact hrows hempty
      · cases h

/-- A column goes in as well when both it and the table are cut, if it is as long as the table has
rows. -/
theorem append_cut {c : Column} {rows : Nat} (hrows : s.columns ≠ [] → s.rows = rows)
    (hc : c.cells.length = rows) (n : Nat) :
    (s.tail n).append (cut (rows - n) c) = (s.append c).map (·.tail n) := by
  unfold append
  rw [names_tail]
  by_cases hname : c.name ∈ s.names
  · simp [cut, hname, Except.map]
  · by_cases hempty : s.columns = []
    · simp [cut, hname, hempty, tail, hc, Except.map]
    · have hs := hrows hempty
      simp [cut, hname, hempty, tail, hc, hs, Except.map]

theorem foldlM_append_cut {columns : List Column} {rows : Nat}
    (hrows : s.columns ≠ [] → s.rows = rows) (hcolumns : ∀ c ∈ columns, c.cells.length = rows)
    (n : Nat) : (columns.map (cut (rows - n))).foldlM append (s.tail n) =
      (columns.foldlM append s).map (·.tail n) := by
  induction columns generalizing s with
  | nil => rfl
  | cons c rest ih =>
    obtain ⟨hc, hrest⟩ := List.forall_mem_cons.1 hcolumns
    rw [List.map_cons, List.foldlM_cons, append_cut hrows hc, List.foldlM_cons]
    cases hs : s.append c with
    | error e => rfl
    | ok s' => exact ih (rows_append hrows hc hs) hrest

/-- **Cutting the rows goes before or after a selection**, with the same table or the same error. -/
theorem select_tail (ht : t.Regular) (n : Nat) (names : List String) :
    (t.tail n).select names = (t.select names).map (·.tail n) := by
  have hnamed : (t.tail n).named = fun name => (t.named name).map (cut (t.rows - n)) := by
    funext name
    exact named_tail t n name
  rw [select_eq, hnamed, mapM_map, select_eq]
  cases hcolumns : names.mapM t.named with
  | error e => rfl
  | ok columns =>
    have hlengths : ∀ c ∈ columns, c.cells.length = t.rows := fun c hc =>
      ht.lengths c (((mapM_named_eq_ok_iff ht).1 hcolumns).2 c hc)
    have hempty : empty.tail n = empty := by simp [tail, empty]
    have hcut := foldlM_append_cut (s := empty) (fun h => absurd rfl h) hlengths n
    rwa [hempty] at hcut

/-! ### The laws -/

/-- **The algebra of tables.** A table that was built and reduced any number of times has distinct
names with one column for each, every column is as long as the table has rows, and there are no
rows without columns, so no name and no row leads out of range. To drop a column is to select the
others, and to drop one that is not there changes nothing. Cutting the rows commutes with selecting
and dropping, whether that fails or not, two cuts are the shorter one, and selecting from a
selection is selecting from the table. -/
theorem reachable_algebra (h : t.Reachable) :
    (t.Regular ∧ (∀ name ∈ t.names, ∃! c, c ∈ t.columns ∧ c.name = name) ∧
      (∀ name j, t.index? name = some j →
        ∃ c, t.columns[j]? = some c ∧ t.column? name = some c.cells) ∧
      ∀ i < t.rows, ∀ c ∈ t.columns, ∃ cell, c.cells[i]? = some cell) ∧
    (∀ name, t.select (t.names.filter (· ≠ name)) = .ok (t.without name)) ∧
    (∀ name, name ∉ t.names → t.without name = t) ∧
    (∀ n names, (t.tail n).select names = (t.select names).map (·.tail n)) ∧
    (∀ n name, (t.tail n).without name = (t.without name).tail n) ∧
    (∀ m n, (t.tail n).tail m = t.tail (min m n)) ∧
    (∀ names s, t.select names = .ok s → ∀ inner : List String, (∀ name ∈ inner, name ∈ names) →
      s.select inner = t.select inner) := by
  have ht := h.regular
  refine ⟨⟨ht, fun _ => existsUnique_column ht, fun name j hj => ?_, fun i hi c hc => ?_⟩,
    select_others ht, fun _ => without_of_not_mem ht, select_tail ht, without_tail t, tail_tail t,
    fun names s hs inner => select_select ht hs⟩
  · have hlt := index?_lt hj
    refine ⟨t.columns[j], List.getElem?_eq_getElem hlt, ?_⟩
    rw [column?_eq_index?, hj, Option.bind_some, List.getElem?_eq_getElem hlt, Option.map_some]
  · exact ⟨_, List.getElem?_eq_getElem (ht.lengths c hc ▸ hi)⟩

/-- Two columns of three rows. -/
def measurements : Table :=
  ⟨[⟨"at", [.text "a", .text "b", .text "c"]⟩,
    ⟨"load", [.number .zero, .number .nan, .text "?"]⟩], 3⟩

/-- Less both its columns the last two rows of a table are none, and a name that stands twice is
refused of the last rows as of all. -/
theorem reachable_algebra_measurements :
    let rest := (measurements.tail 2).without "load"
    rest.Reachable ∧ (rest.without "at").Reachable ∧ rest.names = ["at"] ∧ rest.rows = 2 ∧
      rest.select [] = .ok (rest.without "at") ∧ rest.without "at" = empty ∧
      (rest.tail 1).select ["at", "at"] = (rest.select ["at", "at"]).map (·.tail 1) ∧
      (rest.select ["at", "at"]).isOk = false := by
  intro rest
  have hcolumns : ofColumns measurements.columns = .ok measurements := rfl
  have hbuilt : measurements.Reachable := .ofColumns hcolumns
  have hrest : rest.Reachable := (hbuilt.tail 2).without "load"
  obtain ⟨-, hothers, -, htail, -⟩ := reachable_algebra hrest
  exact ⟨hrest, hrest.without "at", rfl, rfl, hothers "at", rfl, htail 1 ["at", "at"], rfl⟩

end ModelProbe.Table
