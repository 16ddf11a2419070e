import ModelProbe.Proofs.Matrix.Strided

/-! Rows of a matrix, chosen by number.

A list of positions picks elements in its order (`getElem?_filterMap`), and a matrix of the rows
with these numbers has the entry of the row that was picked (`get?_selectRows`). A matrix with as
many entries as its dimensions say is known by what `get?` gives (`ext_get?`). -/
namespace ModelProbe

variable {α β : Type}

/-! ### Positions -/

/-- Where every element gives a result, the results stand at the places of the elements. -/
theorem getElem?_filterMap {f : α → Option β} {l : List α} (h : ∀ a ∈ l, (f a).isSome) (k : Nat) :
    (l.filterMap f)[k]? = l[k]?.bind f := by
  induction l generalizing k with
  | nil => rfl
  | cons a l ih =>
    obtain ⟨b, hb⟩ := Option.isSome_iff_exists.1 (h a (List.mem_cons_self ..))
    rw [List.filterMap_cons_some hb]
    cases k with
    | zero => exact hb.symm
    | succ k => exact ih (fun a' ha' => h a' (List.mem_cons_of_mem a ha')) k

variable {xs : List α} {order : List Nat}

theorem isSome_getElem? (h : ∀ i ∈ order, i < xs.length) : ∀ i ∈ order, (xs[i]?).isSome :=
  fun i hi => by rw [List.getElem?_eq_getElem (h i hi)]; rfl

theorem getElem?_picked (h : ∀ i ∈ order, i < xs.length) (k : Nat) :
    (order.filterMap (xs[·]?))[k]? = order[k]?.bind (xs[·]?) :=
  getElem?_filterMap (isSome_getElem? h) k

theorem length_picked (h : ∀ i ∈ order, i < xs.length) :
    (order.filterMap (xs[·]?)).length = order.length :=
  List.filterMap_length_eq_length.2 (isSome_getElem? h)

/-- All positions in some order are positions. -/
theorem lt_of_perm_range {n : Nat} (h : order.Perm (List.range n)) : ∀ i ∈ order, i < n :=
  fun _ hi => List.mem_range.1 (h.mem_iff.1 hi)

theorem mem_picked {x : α} : x ∈ order.filterMap (xs[·]?) ↔ ∃ i ∈ order, xs[i]? = some x :=
  List.mem_filterMap

/-- Every position in turn picks everything. -/
theorem picked_range (xs : List α) : (List.range xs.length).filterMap (xs[·]?) = xs := by
  refine List.ext_getElem? fun k => ?_
  rw [getElem?_picked fun i hi => List.mem_range.1 hi]
  by_cases hk : k < xs.length
  · rw [List.getElem?_range hk, Option.bind_some]
  · rw [List.getElem?_eq_none (by rw [List.length_range]; omega), List.getElem?_eq_none (by omega),
      Option.bind_none]

/-- Picking from what was picked is picking by the picked positions. -/
theorem picked_picked (outer : List Nat) (h : ∀ i ∈ order, i < xs.length) :
    outer.filterMap ((order.filterMap (xs[·]?))[·]?) =
      (outer.filterMap (order[·]?)).filterMap (xs[·]?) := by
  rw [List.filterMap_filterMap]
  exact List.filterMap_congr fun k _ => getElem?_picked h k

namespace Matrix

theorem fits_mono {rows rows' cols : Nat} (hle : rows ≤ rows') (h : fits rows' cols = true) :
    fits rows cols = true := by
  have h := of_decide_eq_true h
  refine decide_eq_true (Nat.lt_of_le_of_lt (Nat.mul_le_mul_right _ ?_) h)
  split
  · split <;> omega
  · rw [if_neg (by omega)]
    exact hle

theorem rows_lt_of_fits {rows cols : Nat} (h : fits rows cols = true) : rows < Nat.pow 2 63 := by
  refine Nat.lt_of_le_of_lt ?_ (of_decide_eq_true h)
  have hrows : rows ≤ if rows = 0 then 1 else rows := by split <;> omega
  have hcols : 1 ≤ if cols = 0 then 1 else cols := by split <;> omega
  exact Nat.le_trans hrows (Nat.le_mul_of_pos_right _ hcols)

variable {m n : Matrix α} {i j : Nat}

/-! ### Entries -/

theorem Regular.exists_get? (hm : m.Regular) (hi : i < m.rows) (hj : j < m.cols) :
    ∃ x, m.get? i j = some x := by
  rw [get?, if_pos hj, List.getElem?_eq_getElem (hm.place_lt hi hj)]
  exact ⟨_, rfl⟩

/-- There is an entry in each row and column, and none outside. -/
theorem Regular.isSome_get?_iff (hm : m.Regular) :
    (m.get? i j).isSome ↔ i < m.rows ∧ j < m.cols := by
  constructor
  · intro h
    rw [get?] at h
    split at h
    · rename_i hj
      refine ⟨Nat.lt_of_not_le fun hi => ?_, hj⟩
      have hlength : m.entries.length ≤ i * m.cols + j := by
        rw [hm]
        exact Nat.le_trans (Nat.mul_le_mul_right _ hi) (Nat.le_add_right ..)
      rw [List.getElem?_eq_none hlength] at h
      cases h
    · cases h
  · rintro ⟨hi, hj⟩
    obtain ⟨x, hx⟩ := hm.exists_get? hi hj
    rw [hx]
    rfl

/-- Matrices are equal that have the same entries in the same places. -/
theorem ext_get? (hm : m.Regular) (hn : n.Regular) (hrows : m.rows = n.rows)
    (hcols : m.cols = n.cols) (h : ∀ i < m.rows, ∀ j < m.cols, m.get? i j = n.get? i j) :
    m = n := by
  obtain ⟨rows, cols, entries⟩ := m
  obtain ⟨_, _, entries'⟩ := n
  dsimp only at hrows hcols h
  subst hrows hcols
  have hentries : entries = entries' := by
    refine List.ext_getElem? fun k => ?_
    by_cases hk : k < rows * cols
    · obtain ⟨i, hi, j, hj, rfl⟩ := exists_place hk
      have hij := h i hi j hj
      rwa [get?, if_pos hj, get?, if_pos hj] at hij
    · rw [List.getElem?_eq_none (Nat.le_trans (Nat.le_of_eq hm) (Nat.not_lt.1 hk)),
        List.getElem?_eq_none (Nat.le_trans (Nat.le_of_eq hn) (Nat.not_lt.1 hk))]
  rw [hentries]

/-! ### Rows -/

theorem getElem?_row (i : Nat) (hj : j < m.cols) : (m.row i)[j]? = m.get? i j := by
  rw [row, List.getElem?_take_of_lt hj, List.getElem?_drop, get?, if_pos hj]

theorem Regular.length_row (hm : m.Regular) (hi : i < m.rows) : (m.row i).length = m.cols := by
  have hend : i * m.cols + m.cols ≤ m.entries.length := by
    rw [hm, ← Nat.succ_mul]
    exact Nat.mul_le_mul_right _ hi
  rw [row, List.length_take, List.length_drop]
  omega

theorem Regular.length_rows (hm : m.Regular) (h : ∀ i ∈ order, i < m.rows) :
    ∀ row ∈ order.map m.row, row.length = m.cols := by
  intro row hrow
  obtain ⟨i, hi, rfl⟩ := List.mem_map.1 hrow
  exact hm.length_row (h i hi)

theorem regular_selectRows (hm : m.Regular) (h : ∀ i ∈ order, i < m.rows) :
    (m.selectRows order).Regular := by
  rw [Regular, selectRows, List.flatMap_def, length_flatten (hm.length_rows h), List.length_map]

/-- **A chosen row has the entries of the row with that number.** -/
theorem get?_selectRows (hm : m.Regular) (h : ∀ i ∈ order, i < m.rows) (k j : Nat) :
    (m.selectRows order).get? k j = order[k]?.bind (m.get? · j) := by
  by_cases hj : j < m.cols
  · rw [get?, selectRows, if_pos hj, List.flatMap_def, getElem?_flatten (hm.length_rows h) k hj,
      List.getElem?_map]
    cases order[k]? with
    | none => rfl
    | some i => exact getElem?_row i hj
  · have hnone : ∀ i, m.get? i j = none := fun i => if_neg hj
    rw [get?, selectRows, if_neg hj]
    cases order[k]? with
    | none => rfl
    | some i => exact (hnone i).symm

theorem selectRows_range (hm : m.Regular) : m.selectRows (List.range m.rows) = m := by
  have hrange : ∀ i ∈ List.range m.rows, i < m.rows := fun i hi => List.mem_range.1 hi
  refine ext_get? (regular_selectRows hm hrange) hm List.length_range rfl fun i hi j _ => ?_
  have hi : i < m.rows := Nat.lt_of_lt_of_eq hi List.length_range
  rw [get?_selectRows hm hrange, List.getElem?_range hi, Option.bind_some]

theorem selectRows_selectRows {outer : List Nat} (hm : m.Regular) (h : ∀ i ∈ order, i < m.rows)
    (houter : ∀ k ∈ outer, k < order.length) :
    (m.selectRows order).selectRows outer = m.selectRows (outer.filterMap (order[·]?)) := by
  have hinner := regular_selectRows hm h
  have hpicked : ∀ i ∈ outer.filterMap (order[·]?), i < m.rows := by
    intro i hi
    obtain ⟨k, -, hk⟩ := mem_picked.1 hi
    exact h i (List.mem_of_getElem? hk)
  refine ext_get? (regular_selectRows hinner houter) (regular_selectRows hm hpicked)
    (length_picked houter).symm rfl fun k _ j _ => ?_
  rw [get?_selectRows hinner houter, get?_selectRows hm hpicked, getElem?_picked houter]
  cases outer[k]? with
  | none => rfl
  | some i => exact get?_selectRows hm h i j

theorem regular_slice (hm : m.Regular) {start stop : Nat} (hstop : stop ≤ m.rows) :
    (m.slice start stop).Regular := by
  have hend : (stop - start) * m.cols ≤ m.entries.length - start * m.cols := by
    rw [hm, ← Nat.sub_mul]
    exact Nat.mul_le_mul_right _ (Nat.sub_le_sub_right hstop start)
  rw [Regular, slice, List.length_take, List.length_drop]
  exact Nat.min_eq_left hend

/-- Row `i` of the rows from `start` is row `start + i`. -/
theorem get?_slice {start stop : Nat} (hi : i < stop - start) :
    (m.slice start stop).get? i j = m.get? (start + i) j := by
  by_cases hj : j < m.cols
  · have hplace : i * m.cols + j < (stop - start) * m.cols :=
      calc i * m.cols + j < i * m.cols + m.cols := Nat.add_lt_add_left hj _
        _ = (i + 1) * m.cols := (Nat.succ_mul ..).symm
        _ ≤ (stop - start) * m.cols := Nat.mul_le_mul_right _ hi
    rw [get?, slice, if_pos hj, List.getElem?_take_of_lt hplace, List.getElem?_drop, get?,
      if_pos hj, Nat.add_mul, Nat.add_assoc]
  · rw [get?, slice, if_neg hj, get?, if_neg hj]

/-! ### Columns -/

theorem length_columns (m : Matrix α) : m.columns.length = m.cols := by
  rw [columns, List.length_map, List.length_range]

theorem getElem?_columns (hj : j < m.cols) : m.columns[j]? = some (m.column j) := by
  rw [columns, List.getElem?_map, List.getElem?_range hj]
  rfl

theorem Regular.isSome_column (hm : m.Regular) (hj : j < m.cols) :
    ∀ i ∈ List.range m.rows, (m.get? i j).isSome :=
  fun _ hi => hm.isSome_get?_iff.2 ⟨List.mem_range.1 hi, hj⟩

theorem Regular.length_column (hm : m.Regular) (hj : j < m.cols) :
    (m.column j).length = m.rows :=
  (List.filterMap_length_eq_length.2 (hm.isSome_column hj)).trans List.length_range

theorem Regular.getElem?_column (hm : m.Regular) (hi : i < m.rows) (hj : j < m.cols) :
    (m.column j)[i]? = m.get? i j := by
  rw [column, getElem?_filterMap (hm.isSome_column hj), List.getElem?_range hi, Option.bind_some]

end Matrix

end ModelProbe
