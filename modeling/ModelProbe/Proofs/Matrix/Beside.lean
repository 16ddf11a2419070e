import ModelProbe.Proofs.Matrix.Rows

/-! Matrices side by side.

Blocks with as many rows each stand side by side in a matrix when each of them is found in it
behind the columns of the blocks before it (`IsBeside`). There is one such matrix, their join
(`isBeside_iff`): its row `i` is the rows `i` of the blocks one after another (`row_beside`). Joins
of joins are joins (`beside_flatten`), since rows are joined row by row. -/
namespace ModelProbe.Matrix

variable {α : Type} {rows i j k : Nat} {b : Matrix α} {blocks : List (Matrix α)}

/-- The columns of all blocks. -/
def totalCols (blocks : List (Matrix α)) : Nat :=
  blocks.foldr (fun b n => b.cols + n) 0

/-- Blocks with as many rows each, side by side. -/
def beside (rows : Nat) (blocks : List (Matrix α)) : Matrix α :=
  ⟨rows, totalCols blocks, entriesBeside rows blocks⟩

/-- Each block has as many entries as its dimensions say, and as many rows as asked for. -/
def Level (rows : Nat) (blocks : List (Matrix α)) : Prop :=
  ∀ b ∈ blocks, b.Regular ∧ b.rows = rows

/-- The blocks side by side in their order, and nothing else. -/
structure IsBeside (blocks : List (Matrix α)) (m : Matrix α) : Prop where
  rows : ∀ b ∈ blocks, m.rows = b.rows
  cols : m.cols = totalCols blocks
  regular : m.Regular
  entry : ∀ k b, blocks[k]? = some b → ∀ i < m.rows, ∀ j < b.cols,
    m.get? i (totalCols (blocks.take k) + j) = b.get? i j

theorem beside?_of_fits (h : fits rows (totalCols blocks) = true) :
    beside? rows blocks = some (beside rows blocks) :=
  if_pos h

theorem totalCols_append (front back : List (Matrix α)) :
    totalCols (front ++ back) = totalCols front + totalCols back := by
  induction front with
  | nil => simp [totalCols]
  | cons b front ih =>
    simp only [totalCols, List.cons_append, List.foldr_cons] at ih ⊢
    omega

theorem fits_mono_cols {cols cols' : Nat} (hle : cols ≤ cols') (h : fits rows cols' = true) :
    fits rows cols = true := by
  have h := of_decide_eq_true h
  apply decide_eq_true
  refine Nat.lt_of_le_of_lt (Nat.mul_le_mul_left _ ?_) h
  by_cases hc : cols = 0 <;> by_cases hc' : cols' = 0 <;> simp [hc, hc'] <;> omega

/-! ### Rows -/

/-- Blocks without columns have no entries in any row, so they need no case of their own. -/
theorem entriesBeside_eq (rows : Nat) (blocks : List (Matrix α)) :
    entriesBeside rows blocks = (List.range rows).flatMap fun i => blocks.flatMap (·.row i) := by
  unfold entriesBeside
  split
  · rename_i hall
    symm
    rw [List.flatMap_eq_nil_iff]
    intro i _
    rw [List.flatMap_eq_nil_iff]
    intro b hb
    have hcols : b.cols = 0 := by simpa using List.all_eq_true.1 hall b hb
    simp [row, hcols]
  · rfl

theorem length_flatMap_row (h : Level rows blocks) (hi : i < rows) :
    (blocks.flatMap (·.row i)).length = totalCols blocks := by
  induction blocks with
  | nil => rfl
  | cons b blocks ih =>
    obtain ⟨⟨hb, hrows⟩, hrest⟩ := List.forall_mem_cons.1 h
    rw [List.flatMap_cons, List.length_append, hb.length_row (hrows ▸ hi), ih hrest]
    rfl

theorem length_rows_beside (h : Level rows blocks) :
    ∀ row ∈ (List.range rows).map fun i => blocks.flatMap (·.row i),
      row.length = totalCols blocks := by
  intro row hrow
  obtain ⟨i, hi, rfl⟩ := List.mem_map.1 hrow
  exact length_flatMap_row h (List.mem_range.1 hi)

theorem regular_beside (h : Level rows blocks) : (beside rows blocks).Regular := by
  rw [Regular, beside, entriesBeside_eq, List.flatMap_def, length_flatten (length_rows_beside h),
    List.length_map, List.length_range]

/-- **A row of a join** is the rows of the blocks one after another. -/
theorem row_beside (h : Level rows blocks) (hi : i < rows) :
    (beside rows blocks).row i = blocks.flatMap (·.row i) := by
  apply List.ext_getElem?
  intro j
  by_cases hj : j < totalCols blocks
  · have hcol : j < (beside rows blocks).cols := hj
    rw [getElem?_row i hcol, get?, if_pos hcol]
    show (entriesBeside rows blocks)[i * totalCols blocks + j]? = _
    rw [entriesBeside_eq, List.flatMap_def, getElem?_flatten (length_rows_beside h) i hj,
      List.getElem?_map, List.getElem?_range hi]
    rfl
  · have hrow : ((beside rows blocks).row i).length = totalCols blocks :=
      (regular_beside h).length_row hi
    rw [List.getElem?_eq_none (by omega),
      List.getElem?_eq_none (by rw [length_flatMap_row h hi]; omega)]

/-! ### Entries -/

/-- A block's part of a row begins behind the columns of the blocks before it. -/
theorem getElem?_flatMap_row (h : Level rows blocks) (hi : i < rows) (hb : blocks[k]? = some b)
    (hj : j < b.cols) :
    (blocks.flatMap (·.row i))[totalCols (blocks.take k) + j]? = b.get? i j := by
  induction blocks generalizing k with
  | nil => cases hb
  | cons c blocks ih =>
    obtain ⟨⟨hc, hrows⟩, hrest⟩ := List.forall_mem_cons.1 h
    have hlength : (c.row i).length = c.cols := hc.length_row (hrows ▸ hi)
    rw [List.flatMap_cons]
    cases k with
    | zero =>
      cases hb
      rw [List.take_zero, List.getElem?_append_left (by simp [totalCols, hlength, hj])]
      simpa [totalCols] using getElem?_row i hj
    | succ k =>
      have hplace : totalCols ((c :: blocks).take (k + 1)) + j =
          (c.row i).length + (totalCols (blocks.take k) + j) := by
        rw [hlength, List.take_succ_cons]
        exact Nat.add_assoc ..
      rw [hplace, List.getElem?_append_right (Nat.le_add_right ..), Nat.add_sub_cancel_left]
      exact ih hrest hb

theorem add_lt_totalCols (hb : blocks[k]? = some b) (hj : j < b.cols) :
    totalCols (blocks.take k) + j < totalCols blocks := by
  obtain ⟨hk, rfl⟩ := List.getElem?_eq_some_iff.1 hb
  have hsplit : totalCols blocks = totalCols (blocks.take k) + totalCols (blocks.drop k) := by
    rw [← totalCols_append, List.take_append_drop]
  have hdrop : blocks[k].cols ≤ totalCols (blocks.drop k) := by
    rw [List.drop_eq_getElem_cons hk]
    exact Nat.le_add_right ..
  omega

/-- **Where a block's entries are in a join.** -/
theorem get?_beside (h : Level rows blocks) (hi : i < rows) (hb : blocks[k]? = some b)
    (hj : j < b.cols) :
    (beside rows blocks).get? i (totalCols (blocks.take k) + j) = b.get? i j := by
  have hcol : totalCols (blocks.take k) + j < (beside rows blocks).cols := add_lt_totalCols hb hj
  rw [← getElem?_row i hcol, row_beside h hi, getElem?_flatMap_row h hi hb hj]

/-- Every column of a join is a column of a block. -/
theorem exists_block {n : Nat} (hn : n < totalCols blocks) :
    ∃ k b j, blocks[k]? = some b ∧ j < b.cols ∧ totalCols (blocks.take k) + j = n := by
  induction blocks generalizing n with
  | nil => cases hn
  | cons c blocks ih =>
    by_cases hc : n < c.cols
    · exact ⟨0, c, n, rfl, hc, Nat.zero_add n⟩
    · have hrest : n - c.cols < totalCols blocks := by
        simp only [totalCols, List.foldr_cons] at hn ⊢
        omega
      obtain ⟨k, b, j, hb, hj, hplace⟩ := ih hrest
      refine ⟨k + 1, b, j, hb, hj, ?_⟩
      simp only [totalCols, List.take_succ_cons, List.foldr_cons] at hplace ⊢
      omega

theorem isBeside_beside (h : Level rows blocks) : IsBeside blocks (beside rows blocks) :=
  ⟨fun b hb => (h b hb).2.symm, rfl, regular_beside h,
    fun _ _ hb _ hi _ hj => get?_beside h hi hb hj⟩

/-- Blocks stand side by side in one matrix only. -/
theorem IsBeside.unique {m n : Matrix α} (hm : IsBeside blocks m) (hn : IsBeside blocks n)
    (hne : blocks ≠ []) : m = n := by
  obtain ⟨c, hc⟩ := List.exists_mem_of_ne_nil blocks hne
  have hrows : m.rows = n.rows := (hm.rows c hc).trans (hn.rows c hc).symm
  refine ext_get? hm.regular hn.regular hrows (hm.cols.trans hn.cols.symm) fun i hi l hl => ?_
  obtain ⟨k, b, j, hb, hj, rfl⟩ := exists_block (Nat.lt_of_lt_of_eq hl hm.cols)
  rw [hm.entry k b hb i hi j hj, hn.entry k b hb i (hrows ▸ hi) j hj]

/-- **The join is the one matrix in which the blocks stand side by side.** -/
theorem isBeside_iff (h : Level rows blocks) (hne : blocks ≠ []) {m : Matrix α} :
    IsBeside blocks m ↔ m = beside rows blocks :=
  ⟨fun hm => hm.unique (isBeside_beside h) hne, fun hm => hm ▸ isBeside_beside h⟩

/-- One block alone is its own join. -/
theorem beside_singleton (hb : b.Regular) : beside b.rows [b] = b := by
  have h : Level b.rows [b] := List.forall_mem_singleton.2 ⟨hb, rfl⟩
  symm
  apply (isBeside_iff h (List.cons_ne_nil b [])).1
  refine ⟨fun c hc => ?_, rfl, hb, fun k c hc i _ j _ => ?_⟩
  · rw [List.mem_singleton.1 hc]
  · obtain ⟨rfl, rfl⟩ : k = 0 ∧ c = b := by
      cases k with
      | zero => exact ⟨rfl, (Option.some.inj hc).symm⟩
      | succ k => cases hc
    rw [List.take_zero, totalCols, List.foldr_nil, Nat.zero_add]

/-! ### Joins of joins -/

theorem totalCols_beside (rows : Nat) (parts : List (List (Matrix α))) :
    totalCols (parts.map (beside rows)) = totalCols parts.flatten := by
  induction parts with
  | nil => rfl
  | cons part parts ih =>
    rw [List.flatten_cons, totalCols_append, ← ih]
    rfl

/-- **A join of joins is the join of all their blocks.** -/
theorem beside_flatten {parts : List (List (Matrix α))} (h : ∀ part ∈ parts, Level rows part) :
    beside rows (parts.map (beside rows)) = beside rows parts.flatten := by
  have hrows : ∀ i ∈ List.range rows,
      (parts.map (beside rows)).flatMap (·.row i) = parts.flatten.flatMap (·.row i) := by
    intro i hi
    rw [List.flatMap_map, ← List.flatMap_id, List.flatMap_assoc]
    apply List.flatMap_congr
    intro part hpart
    exact row_beside (h part hpart) (List.mem_range.1 hi)
  rw [beside, totalCols_beside, entriesBeside_eq, List.flatMap_congr hrows, ← entriesBeside_eq]
  rfl

end ModelProbe.Matrix
