import Mathlib.Data.List.Perm.Subperm
import ModelProbe.Fairness.Dataset
import ModelProbe.Proofs.Fairness.Config
import ModelProbe.Proofs.Matrix.Beside
import ModelProbe.Proofs.Table.Numbers

/-! Which tables are labelled data, and what is read of them.

A configuration reads a table exactly when it is `Readable`: the columns it names are there, every
row is of numbers and has one of the two labels (`ReadableRow`), and an array can count the
features. The labels and the protected attributes of the data are then the numbers in the columns of
their names, row by row (`Reads`). -/
namespace ModelProbe.Fairness.Dataset

/-- A row of numbers with one of the two labels. -/
structure ReadableRow (config : Config) (t : Table) (i : Nat) : Prop where
  numbers : ∀ name ∈ t.names, ∃ x, t.number? name i = some x
  label : ∃ x, t.number? config.labelName i = some x ∧ isLabel config x = true

structure Readable (config : Config) (t : Table) : Prop where
  valid : config.Valid
  label : config.labelName ∈ t.names
  attributes : ∀ name ∈ config.attributes, name ∈ t.names
  row : ∀ i < t.rows, ReadableRow config t i
  fits : Matrix.fits t.rows (t.width - 1) = true

/-- What a dataset has of the table it is read from. -/
structure Reads (config : Config) (t : Table) (d : Dataset) : Prop where
  favorable : d.favorable = config.favorable
  rows : d.labels.length = t.rows
  label : ∀ i, t.number? config.labelName i = d.labels[i]?
  values : ∀ name ∈ config.attributes, ∃ column, d.attribute? name = some column ∧
    ∀ i < t.rows, column[i]? = t.number? name i

variable {s t : Table} {config : Config} {d : Dataset}

theorem Readable.numeric (h : Readable config t) : t.Numeric :=
  fun name hname i hi => (h.row i hi).numbers name hname

/-- Rows with the same numbers are read alike. -/
theorem ReadableRow.congr {i j : Nat} (h : ReadableRow config t j) (hnames : s.names = t.names)
    (hsame : ∀ name, s.number? name i = t.number? name j) : ReadableRow config s i := by
  constructor
  · intro name hname
    rw [hsame]
    exact h.numbers name (hnames ▸ hname)
  · rw [hsame]
    exact h.label

/-! ### The checks -/

theorem liftTable_eq_ok_iff {α : Type} {x : Except ModelProbe.Error α} {a : α} :
    liftTable x = .ok a ↔ x = .ok a := by
  cases x <;> simp [liftTable]

theorem checkColumns_eq_ok_iff : checkColumns t config = .ok () ↔
    config.labelName ∈ t.names ∧ ∀ name ∈ config.attributes, name ∈ t.names := by
  have hfound : (config.labelName :: config.attributes).find? (· ∉ t.names) = none ↔
      config.labelName ∈ t.names ∧ ∀ name ∈ config.attributes, name ∈ t.names := by
    rw [List.find?_eq_none, List.forall_mem_cons]
    simp
  rw [checkColumns, ← hfound]
  cases (config.labelName :: config.attributes).find? (· ∉ t.names) <;> simp

theorem checkLabels_eq_ok_iff {labels : List Double} :
    checkLabels config labels = .ok () ↔ ∀ x ∈ labels, isLabel config x = true := by
  have hfound : labels.zipIdx.find? (fun p => !isLabel config p.1) = none ↔
      ∀ x ∈ labels, isLabel config x = true := by
    rw [List.find?_eq_none]
    nth_rewrite 2 [← List.zipIdx_map_fst 0 labels]
    rw [List.forall_mem_map]
    simp only [Bool.not_eq_true, Bool.not_eq_false']
  rw [checkLabels, ← hfound]
  cases labels.zipIdx.find? fun p => !isLabel config p.1 <;> simp

/-- What reading a table takes. -/
theorem ofTable_eq_ok_iff_steps : ofTable t config = .ok d ↔ config.Valid ∧
    (config.labelName ∈ t.names ∧ ∀ name ∈ config.attributes, name ∈ t.names) ∧
    ∃ labels, t.numericColumn config.labelName = .ok labels ∧
    (∀ x ∈ labels, isLabel config x = true) ∧
    ∃ features, (t.without config.labelName).toMatrix = .ok features ∧
    ∃ s, t.select config.attributes = .ok s ∧ ∃ values, s.toMatrix = .ok values ∧
      Dataset.mk (t.without config.labelName).names features config.labelName labels
        config.attributes values (privilegedOf config) (unprivilegedOf config values.columns)
        config.favorable config.unfavorable = d := by
  have hselect : ∀ values, (t.select config.attributes).bind Table.toMatrix = .ok values ↔
      ∃ s, t.select config.attributes = .ok s ∧ s.toMatrix = .ok values :=
    fun values => bind_eq_ok_iff
  unfold ofTable
  simp only [seq_eq_ok_iff, Config.validate_eq_ok_iff, checkColumns_eq_ok_iff]
  simp only [bind_eq_ok_iff, liftTable_eq_ok_iff, hselect]
  refine and_congr_right fun _ => and_congr_right fun _ => exists_congr fun labels =>
    and_congr_right fun _ => ?_
  constructor
  · rintro ⟨_, hlabels, features, hfeatures, values, ⟨s, hs, hvalues⟩, h⟩
    exact ⟨checkLabels_eq_ok_iff.1 hlabels, features, hfeatures, s, hs, values, hvalues,
      Except.ok.inj h⟩
  · rintro ⟨hlabels, features, hfeatures, s, hs, values, hvalues, h⟩
    exact ⟨(), checkLabels_eq_ok_iff.2 hlabels, features, hfeatures, values, ⟨s, hs, hvalues⟩,
      congrArg Except.ok h⟩

/-! ### What is read -/

/-- The features are as many rows, in a column less. -/
theorem size_without (ht : t.Regular) (hvalid : config.Valid) (hlabel : config.labelName ∈ t.names)
    (hattributes : ∀ name ∈ config.attributes, name ∈ t.names) :
    (t.without config.labelName).rows = t.rows ∧
      (t.without config.labelName).width = t.width - 1 := by
  have hnames := Table.names_without ht config.labelName
  constructor
  · obtain ⟨name, hname⟩ := List.exists_mem_of_ne_nil _ hvalid.attributes
    have hother : name ≠ config.labelName := fun h => hvalid.labelName (h ▸ hname)
    have hmem : name ∈ (t.without config.labelName).names := by
      rw [hnames, List.mem_filter]
      exact ⟨hattributes name hname, decide_eq_true hother⟩
    exact Table.rows_without (Table.columns_ne_nil hmem)
  · rw [← Table.length_names, hnames]
    exact Table.length_others ht hlabel

theorem exists_findIdx? {names : List String} {name : String} (h : name ∈ names) :
    ∃ j, names.findIdx? (· = name) = some j ∧ names[j]? = some name := by
  have hfound : (names.findIdx? (· = name)).isSome := by
    rw [List.findIdx?_isSome, List.any_eq_true]
    exact ⟨name, h, decide_eq_true rfl⟩
  obtain ⟨j, hj⟩ := Option.isSome_iff_exists.1 hfound
  obtain ⟨hlt, hname, -⟩ := List.findIdx?_eq_some_iff_getElem.1 hj
  exact ⟨j, hj, List.getElem?_eq_some_iff.2 ⟨hlt, of_decide_eq_true hname⟩⟩

/-- Conditions on attributes have columns to look at; the default stands for nothing. -/
theorem mapM_conditionColumn {conditions : List Condition}
    (h : ∀ c ∈ conditions, ∃ column, d.attribute? c.name = some column) :
    conditions.mapM d.conditionColumn =
      .ok (conditions.map fun c => (d.attribute? c.name).getD []) := by
  refine mapM_eq_ok_map fun c hc => ?_
  obtain ⟨column, hcolumn⟩ := h c hc
  simp [conditionColumn, hcolumn]

/-- The columns of the attributes' matrix are the attributes' columns. -/
theorem column_select (ht : t.Regular) {names : List String} (hs : t.select names = .ok s)
    {values : Matrix Double} (hvalues : s.toMatrix = .ok values)
    {j : Nat} {name : String} (hname : names[j]? = some name) {i : Nat} (hi : i < t.rows) :
    (values.column j)[i]? = t.number? name i := by
  obtain ⟨hregular, rfl, hsub⟩ := (Table.select_eq_ok_iff ht).1 hs
  have hmem := List.mem_of_getElem? hname
  obtain ⟨hrows, hcols, hmatrix, -⟩ := Table.toMatrix_eq_ok hregular hvalues
  have hsrows := Table.rows_of_subset hregular ht hsub (Table.columns_ne_nil hmem)
  have hj : j < values.cols := by
    rw [hcols, ← Table.length_names]
    exact (List.getElem?_eq_some_iff.1 hname).1
  rw [hmatrix.getElem?_column (by omega) hj,
    Table.get?_toMatrix hregular hvalues hname (by omega),
    Table.number?_of_subset hregular ht hsub hmem]

theorem reads_of_ofTable (ht : t.Regular) (h : ofTable t config = .ok d) :
    Readable config t ∧ Reads config t d := by
  obtain ⟨hvalid, ⟨hlabel, hattributes⟩, labels, hlabels, hchecked, features, hfeatures, s, hs,
    values, hvalues, rfl⟩ := ofTable_eq_ok_iff_steps.1 h
  obtain ⟨hrows, hnumbers⟩ := Table.number?_of_numericColumn ht hlabels
  obtain ⟨hwithoutRows, hwithoutWidth⟩ := size_without ht hvalid hlabel hattributes
  have hwithout := Table.regular_without ht config.labelName
  obtain ⟨hnumeric, hfits⟩ := (Table.exists_toMatrix_iff hwithout).1 ⟨_, hfeatures⟩
  have hlabelAt : ∀ i < t.rows, ∃ x, t.number? config.labelName i = some x ∧ x ∈ labels := by
    intro i hi
    have hi' : i < labels.length := hrows ▸ hi
    exact ⟨labels[i], (hnumbers i).trans (List.getElem?_eq_getElem hi'), List.getElem_mem hi'⟩
  refine ⟨⟨hvalid, hlabel, hattributes, fun i hi => ⟨fun name hname => ?_, ?_⟩, ?_⟩, rfl, hrows,
    hnumbers, ?_⟩
  · by_cases hother : name = config.labelName
    · obtain ⟨x, hx, -⟩ := hlabelAt i hi
      exact ⟨x, hother ▸ hx⟩
    · have hmem : name ∈ (t.without config.labelName).names := by
        rw [Table.names_without ht, List.mem_filter]
        exact ⟨hname, decide_eq_true hother⟩
      obtain ⟨x, hx⟩ := hnumeric name hmem i (hwithoutRows.symm ▸ hi)
      have hsame := Table.number?_of_subset hwithout ht (t.without_subset _) hmem i
      exact ⟨x, hsame.symm.trans hx⟩
  · obtain ⟨x, hx, hmem⟩ := hlabelAt i hi
    exact ⟨x, hx, hchecked x hmem⟩
  · rw [← hwithoutRows, ← hwithoutWidth]
    exact hfits
  · intro name hname
    obtain ⟨j, hj, hget⟩ := exists_findIdx? hname
    refine ⟨values.column j, ?_, fun i hi => column_select ht hs hvalues hget hi⟩
    exact congrArg (Option.map _) hj

/-- An array can count the attributes where it can count the features. -/
theorem length_attributes (ht : t.Regular) (h : Readable config t) :
    config.attributes.length ≤ t.width - 1 := by
  rw [← Table.length_others ht h.label]
  refine (List.subperm_of_subset h.valid.distinct fun name hname => ?_).length_le
  rw [List.mem_filter]
  exact ⟨h.attributes name hname, decide_eq_true fun he => h.valid.labelName (he ▸ hname)⟩

theorem exists_ofTable (ht : t.Regular) (h : Readable config t) :
    ∃ d, ofTable t config = .ok d := by
  have hwithout := Table.regular_without ht config.labelName
  obtain ⟨hrows, hwidth⟩ := size_without ht h.valid h.label h.attributes
  obtain ⟨labels, hlabels⟩ := Table.exists_numericColumn ht h.numeric h.label
  have hchecked : ∀ x ∈ labels, isLabel config x = true := by
    intro x hx
    obtain ⟨i, hi, rfl⟩ := List.getElem_of_mem hx
    obtain ⟨hlength, hnumbers⟩ := Table.number?_of_numericColumn ht hlabels
    obtain ⟨y, hy, hlabel⟩ := (h.row i (hlength ▸ hi)).label
    rw [hnumbers, List.getElem?_eq_getElem hi, Option.some.injEq] at hy
    exact hy ▸ hlabel
  obtain ⟨features, hfeatures⟩ := (Table.exists_toMatrix_iff hwithout).2
    ⟨h.numeric.of_subset hwithout ht (t.without_subset _), hrows ▸ hwidth ▸ h.fits⟩
  obtain ⟨s, hs⟩ := Table.exists_select ht h.valid.distinct h.attributes
  obtain ⟨hregular, hnames, hsubset⟩ := (Table.select_eq_ok_iff ht).1 hs
  have hfits : Matrix.fits s.rows s.width = true := by
    have hne : s.columns ≠ [] := fun hnone =>
      h.valid.attributes (hnames.symm.trans (congrArg (List.map Column.name) hnone))
    rw [Table.rows_of_subset hregular ht hsubset hne, ← Table.length_names, hnames]
    exact Matrix.fits_mono_cols (length_attributes ht h) h.fits
  obtain ⟨values, hvalues⟩ := (Table.exists_toMatrix_iff hregular).2
    ⟨h.numeric.of_subset hregular ht hsubset, hfits⟩
  exact ⟨_, ofTable_eq_ok_iff_steps.2 ⟨h.valid, ⟨h.label, h.attributes⟩, labels, hlabels, hchecked,
    features, hfeatures, s, hs, values, hvalues, rfl⟩⟩

/-- **Which tables are labelled data.** -/
theorem exists_ofTable_iff (ht : t.Regular) :
    (∃ d, ofTable t config = .ok d) ↔ Readable config t :=
  ⟨fun ⟨_, h⟩ => (reads_of_ofTable ht h).1, exists_ofTable ht⟩

end ModelProbe.Fairness.Dataset
