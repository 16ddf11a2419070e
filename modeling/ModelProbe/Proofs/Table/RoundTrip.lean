import ModelProbe.Proofs.Table.Texts

/-! Matrices as tables, and back.

A matrix is a table of numbers exactly when there is a name for each of its columns and no name
comes twice (`ofMatrix_eq_ok_iff`). The table has the columns of the matrix under their names, and
laying it out again gives the matrix (`toMatrix_framed`). The other way round a table is a matrix
when there is no text in it, and a text is reported where it comes first row by row
(`toMatrix_inverts_ofMatrix`). -/
namespace ModelProbe.Table

variable {m : Matrix Double} {names : List String} {t : Table} {name : String} {i j : Nat}

/-- The table of a matrix: without columns it has no rows. -/
def framed (m : Matrix Double) (names : List String) : Table :=
  ⟨namedColumns names m, if names = [] then 0 else m.rows⟩

/-- The matrix that the table of a matrix is laid out as: the matrix itself, unless it has rows of
nothing. -/
def relaid (m : Matrix Double) : Matrix Double :=
  if m.cols = 0 then ⟨0, 0, []⟩ else m

theorem names_framed (h : names.length = m.cols) : (framed m names).names = names :=
  names_namedColumns h

theorem width_framed (h : names.length = m.cols) : (framed m names).width = m.cols := by
  rw [← length_names, names_framed h, h]

theorem rows_framed (hname : name ∈ names) : (framed m names).rows = m.rows :=
  if_neg (List.ne_nil_of_mem hname)

/-- The table of a regular matrix is regular when the names are distinct. -/
theorem regular_framed_iff (hm : m.Regular) (h : names.length = m.cols) :
    (framed m names).Regular ↔ names.Nodup := by
  constructor
  · intro hregular
    rw [← names_framed h]
    exact hregular.distinct
  · intro hdistinct
    refine ⟨(names_framed h).symm ▸ hdistinct, fun c hc => ?_, fun hnone => ?_⟩
    · obtain ⟨j, name, hname, rfl⟩ := (mem_namedColumns_iff h).1 hc
      have hj : j < m.cols := h ▸ (List.getElem?_eq_some_iff.1 hname).1
      rw [rows_framed (List.mem_of_getElem? hname), List.length_map, hm.length_column hj]
    · have hnames := names_framed h
      rw [Table.names, hnone, List.map_nil] at hnames
      exact if_pos hnames.symm

/-- **A matrix is a table** under as many names as it has columns, if they are distinct. -/
theorem ofMatrix_eq_ok_iff (hm : m.Regular) :
    ofMatrix m names = .ok t ↔ (names.length = m.cols ∧ names.Nodup) ∧ t = framed m names := by
  unfold ofMatrix
  split
  · rename_i hcount
    rw [and_iff_right hcount, ← regular_framed_iff hm hcount]
    refine ofColumns_eq_ok_iff.trans ⟨?_, ?_⟩
    · rintro ⟨hcolumns, ht⟩
      have hrows : t.rows = if names = [] then 0 else m.rows := by
        split
        · rename_i hnone
          exact ht.no_rows (by rw [hcolumns, hnone]; rfl)
        · rename_i hsome
          obtain ⟨name, hname⟩ := List.exists_mem_of_ne_nil _ hsome
          obtain ⟨j, hj⟩ := List.getElem?_of_mem hname
          have hmem : ⟨name, (m.column j).map .number⟩ ∈ t.columns :=
            hcolumns ▸ (mem_namedColumns_iff hcount).2 ⟨j, name, hj, rfl⟩
          rw [← ht.lengths _ hmem, List.length_map,
            hm.length_column (hcount ▸ (List.getElem?_eq_some_iff.1 hj).1)]
      have heq : t = framed m names := by
        rw [framed, ← hrows]
        exact congrArg (Table.mk · t.rows) hcolumns
      exact ⟨heq ▸ ht, heq⟩
    · rintro ⟨hregular, rfl⟩
      exact ⟨rfl, hregular⟩
  · rename_i hcount
    exact iff_of_false nofun fun h => hcount h.1.1

theorem exists_ofMatrix_iff (hm : m.Regular) :
    (∃ t, ofMatrix m names = .ok t) ↔ names.length = m.cols ∧ names.Nodup := by
  constructor
  · rintro ⟨t, ht⟩
    exact ((ofMatrix_eq_ok_iff hm).1 ht).1
  · intro h
    exact ⟨_, (ofMatrix_eq_ok_iff hm).2 ⟨h, rfl⟩⟩

/-- The columns of the matrix are under their names. -/
theorem column?_framed (hm : m.Regular) (h : names.length = m.cols) (hdistinct : names.Nodup)
    (hname : names[j]? = some name) :
    (framed m names).column? name = some ((m.column j).map .number) :=
  (column?_eq_some_iff ((regular_framed_iff hm h).2 hdistinct)).2
    ((mem_namedColumns_iff h).2 ⟨j, name, hname, rfl⟩)

/-- The numbers of the table are the entries of the matrix. -/
theorem number?_framed (hm : m.Regular) (h : names.length = m.cols) (hdistinct : names.Nodup)
    (hname : names[j]? = some name) (hi : i < m.rows) :
    (framed m names).number? name i = m.get? i j := by
  have hj : j < m.cols := h ▸ (List.getElem?_eq_some_iff.1 hname).1
  rw [number?_of_column? (column?_framed hm h hdistinct hname), List.getElem?_map,
    hm.getElem?_column hi hj]
  cases m.get? i j <;> rfl

/-- **The table of a matrix is laid out as that matrix.** -/
theorem toMatrix_framed (hm : m.Regular) (hfits : Matrix.fits m.rows m.cols = true)
    (h : names.length = m.cols) (hdistinct : names.Nodup) :
    (framed m names).toMatrix = .ok (relaid m) := by
  unfold relaid
  split
  · rename_i hcols
    have hnone : names = [] := List.length_eq_zero_iff.1 (h.trans hcols)
    subst hnone
    rfl
  · rename_i hcols
    have hregular := (regular_framed_iff hm h).2 hdistinct
    have hrows : (framed m names).rows = m.rows :=
      if_neg fun hnone => hcols (by rw [← h, hnone]; rfl)
    have hnumeric : (framed m names).Numeric := by
      intro name hname i hi
      rw [names_framed h] at hname
      obtain ⟨j, hj⟩ := List.getElem?_of_mem hname
      rw [number?_framed hm h hdistinct hj (hrows ▸ hi)]
      exact hm.exists_get? (hrows ▸ hi) (h ▸ (List.getElem?_eq_some_iff.1 hj).1)
    obtain ⟨m', hm'⟩ := (exists_toMatrix_iff hregular).2
      ⟨hnumeric, by rwa [hrows, width_framed h]⟩
    obtain ⟨hrows', hcols', hregular', -⟩ := toMatrix_eq_ok hregular hm'
    rw [hm']
    refine congrArg Except.ok (Matrix.ext_get? hregular' hm (hrows'.trans hrows)
      (hcols'.trans (width_framed h)) fun i hi j hj => ?_)
    have hi : i < m.rows := hrows ▸ hrows' ▸ hi
    have hj : j < names.length := by
      rw [h, ← width_framed h, ← hcols']
      exact hj
    have hname : names[j]? = some names[j] := List.getElem?_eq_getElem hj
    have hname' : (framed m names).names[j]? = some names[j] := by rw [names_framed h, hname]
    rw [get?_toMatrix hregular hm' hname' (hrows ▸ hi), number?_framed hm h hdistinct hname hi]

/-- Each entry of a table's matrix is the cell in its row and column. -/
theorem cell?_of_toMatrix (ht : t.Regular) (h : t.toMatrix = .ok m) (i j : Nat) :
    t.cell? i j = (m.get? i j).map .number := by
  obtain ⟨hrows, hcols, hm, hnumbers⟩ := toMatrix_eq_ok ht h
  by_cases hin : i < t.rows ∧ j < t.width
  · obtain ⟨x, hcell, hx⟩ := hnumbers i hin.1 j hin.2
    rw [hcell, Matrix.get?, hcols, if_pos hin.2, hx, Option.map_some]
  · have hcell : t.cell? i j = none := by
      by_contra hsome
      obtain ⟨cell, hcell⟩ := Option.ne_none_iff_exists'.1 hsome
      exact hin (lt_of_cell ht hcell)
    have hget : m.get? i j = none := by
      by_contra hsome
      have hplace := hm.isSome_get?_iff.1 (Option.isSome_iff_ne_none.2 hsome)
      exact hin ⟨hrows ▸ hplace.1, hcols ▸ hplace.2⟩
    rw [hcell, hget, Option.map_none]

/-- **Matrices and tables.** A matrix is made a table exactly under distinct names, one for each of
its columns; the table has the columns of the matrix under their names and is laid out as the matrix
again, of which no rows are left when there are no columns. Every table there is is laid out exactly
when its cells are numbers, each in its row and column; otherwise the column and the row are named
where a text comes first, row by row, and in a single column the row of its first text. Numbers
alone fail only when they are more than an array can count, which no memory holds. -/
theorem toMatrix_inverts_ofMatrix :
    (∀ (m : Matrix Double) (names : List String), m.Regular →
      ((∃ t, ofMatrix m names = .ok t) ↔ names.length = m.cols ∧ names.Nodup) ∧
      ∀ t, ofMatrix m names = .ok t →
        (Matrix.fits m.rows m.cols = true → t.toMatrix = .ok (relaid m)) ∧
        ∀ j name, names[j]? = some name → t.column? name = some ((m.column j).map .number)) ∧
    ∀ t : Table, t.Reachable →
      ((∃ m, t.toMatrix = .ok m) ↔ t.Numeric ∧ Matrix.fits t.rows t.width = true) ∧
      (∀ m, t.toMatrix = .ok m → m.rows = t.rows ∧ m.cols = t.width ∧ m.Regular ∧
        ∀ i j, t.cell? i j = (m.get? i j).map .number) ∧
      (∀ e, t.toMatrix = .error e ↔
        (∃ name i, t.FirstText name i ∧ e = .unsupported (.nonNumericCell name i)) ∨
          t.Numeric ∧ Matrix.fits t.rows t.width = false ∧ e = .unsupported .tableTooLarge) ∧
      ∀ name ∈ t.names,
        ((∃ xs, t.numericColumn name = .ok xs) ↔ ∀ i < t.rows, ¬t.IsText name i) ∧
        ∀ e, t.numericColumn name = .error e ↔
          ∃ i, t.FirstTextOf name i ∧ e = .unsupported (.nonNumericCell name i) := by
  refine ⟨fun m names hm => ⟨exists_ofMatrix_iff hm, fun t ht => ?_⟩, fun t ht => ?_⟩
  · obtain ⟨⟨hcount, hdistinct⟩, rfl⟩ := (ofMatrix_eq_ok_iff hm).1 ht
    exact ⟨fun hfits => toMatrix_framed hm hfits hcount hdistinct,
      fun j name => column?_framed hm hcount hdistinct⟩
  · have hregular := ht.regular
    refine ⟨exists_toMatrix_iff hregular, fun m hm => ?_, fun e => toMatrix_eq_error_iff hregular,
      fun name hname => ⟨exists_numericColumn_iff hregular hname,
        fun e => numericColumn_eq_error_iff hname⟩⟩
    obtain ⟨hrows, hcols, hm', -⟩ := toMatrix_eq_ok hregular hm
    exact ⟨hrows, hcols, hm', cell?_of_toMatrix hregular hm⟩

/-- A text further down in the first column comes after one in the second column, row by row; a
matrix with a NaN and a negative zero comes back as it was, and one without columns without rows. -/
theorem toMatrix_inverts_ofMatrix_mixed :
    let mixed : Table := ⟨[⟨"x", [.number .zero, .number .nan, .text "?"]⟩,
      ⟨"y", [.number .zero, .text "!", .text ""]⟩], 3⟩
    let odd : Matrix Double := ⟨1, 2, [.nan, Double.zero.negate]⟩
    let bare : Matrix Double := ⟨7, 0, []⟩
    mixed.Reachable ∧ mixed.FirstText "y" 1 ∧ mixed.FirstTextOf "x" 2 ∧ odd.Regular ∧
      (∃ t, ofMatrix odd ["b", "a"] = .ok t ∧ t.toMatrix = .ok odd) ∧ bare.Regular ∧
      ∃ t, ofMatrix bare [] = .ok t ∧ t.toMatrix = .ok ⟨0, 0, []⟩ := by
  intro mixed odd bare
  have hcolumns : ofColumns mixed.columns = .ok mixed := rfl
  have hmixed : mixed.Reachable := .ofColumns hcolumns
  obtain ⟨hmatrices, htables⟩ := toMatrix_inverts_ofMatrix
  obtain ⟨-, -, herror, hcolumn⟩ := htables mixed hmixed
  have hfirst : mixed.FirstText "y" 1 := by
    obtain ⟨name, i, hfirst, he⟩ | ⟨-, -, he⟩ := (herror _).1 rfl
    · cases he
      exact hfirst
    · cases he
  have hfirstOf : mixed.FirstTextOf "x" 2 := by
    obtain ⟨i, hfirst, he⟩ := ((hcolumn "x" (by decide)).2 _).1 rfl
    cases he
    exact hfirst
  have hodd : odd.Regular := rfl
  have hbare : bare.Regular := rfl
  obtain ⟨t, ht⟩ := (hmatrices odd ["b", "a"] hodd).1.2 ⟨rfl, by decide⟩
  obtain ⟨u, hu⟩ := (hmatrices bare [] hbare).1.2 ⟨rfl, by decide⟩
  exact ⟨hmixed, hfirst, hfirstOf, hodd,
    ⟨t, ht, ((hmatrices odd _ hodd).2 t ht).1 (by decide)⟩, hbare,
    u, hu, ((hmatrices bare _ hbare).2 u hu).1 (by decide)⟩

end ModelProbe.Table
