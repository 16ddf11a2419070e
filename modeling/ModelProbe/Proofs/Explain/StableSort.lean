import ModelProbe.Proofs.Explain.Frame

/-! Framing is a stable sort of the table.

The rows of a frame are the rows of its table, each once, by their timestamps and then by their
place (`IsStableSort`). Where no two timestamps are the same, the order of the table's rows has no
part in it: the arrangement that sorts the rows is the only one that does (`sorted_selectRows`). -/
namespace ModelProbe.Explain.Frame

open Time (Timestamp)

/-- A frame is a table with its rows in this order: by timestamp, and where that is the same as
they stand in the table. -/
structure IsStableSort (t : Table) (column : String) (format : Option String) (f : Frame)
    (order : List Nat) : Prop where
  perm : order.Perm (List.range t.rows)
  row : ∀ k i, order[k]? = some i → RowIs t column format f k i
  ascending : f.timestamps.Pairwise (· ≤ ·)
  stable : ∀ k l i j : Nat, order[k]? = some i → order[l]? = some j →
    f.timestamps[k]? = f.timestamps[l]? → k < l → i < j
  rows : f.timestamps.length = t.rows
  sized : f.Sized
  timestampColumn : f.timestampColumn = column
  columns : f.columns = t.names.filter (· ≠ column)
  not_mem_columns : column ∉ f.columns

variable {t : Table} {column : String} {format : Option String} {f g : Frame} {order : List Nat}

/-! ### The order of a frame's rows -/

/-- Sorted rows have the timestamps of the rows they come from. -/
theorem timestamps_sorted (hg : g.Sized) (k : Nat) :
    g.sorted.timestamps[k]? = (sortedRows g.timestamps)[k]?.bind (g.timestamps[·]?) := by
  rw [sorted_eq_selectRows hg]
  exact timestamps_selectRows (sortedRows_lt _) k

theorem perm_timestamps_sorted (hg : g.Sized) : g.sorted.timestamps.Perm g.timestamps := by
  rw [sorted_eq_selectRows hg]
  exact ((perm_sortedRows g.timestamps).filterMap _).trans (.of_eq (picked_range _))

theorem valid_sorted (hg : g.Sized) (hvalid : ∀ u ∈ g.timestamps, u.Valid) :
    ∀ u ∈ g.sorted.timestamps, u.Valid :=
  fun u hu => hvalid u ((perm_timestamps_sorted hg).mem_iff.1 hu)

/-- Rows with the same timestamp keep their order. -/
theorem sortedRows_stable {ts : List Timestamp} {k l i j : Nat}
    (hi : (sortedRows ts)[k]? = some i) (hj : (sortedRows ts)[l]? = some j)
    (hsame : ts[i]? = ts[j]?) (hkl : k < l) : i < j := by
  obtain ⟨hk, rfl⟩ := List.getElem?_eq_some_iff.1 hi
  obtain ⟨hl, rfl⟩ := List.getElem?_eq_some_iff.1 hj
  obtain ⟨a, ha, b, hb, h⟩ := List.pairwise_iff_getElem.1 (pairwise_sortedRows ts) k l hk hl hkl
  cases ((Option.mem_def.1 ha).symm.trans hsame).trans hb
  omega

theorem Reads.isStableSort (ht : t.Regular) (hg : Reads t column format g) :
    IsStableSort t column format g.sorted (sortedRows g.timestamps) := by
  have hsized := hg.sized ht
  have hrows := hg.rows ht
  have hlt := sortedRows_lt g.timestamps
  have hperm := perm_sortedRows g.timestamps
  have hsorted := sorted_eq_selectRows hsized
  have hlength : g.sorted.timestamps.length = t.rows :=
    (perm_timestamps_sorted hsized).length_eq.trans hrows
  refine ⟨hrows ▸ hperm, fun k i hk => ?_, ?_, fun k l i j hi hj hsame hkl => ?_, hlength, ?_, ?_,
    ?_, ?_⟩
  · rw [hsorted]
    have hi : i < t.rows := hrows ▸ hlt i (List.mem_of_getElem? hk)
    exact (hg.row ht hi).selectRows hsized hlt hk
  · refine (pairwise_sorted hsized).imp_of_mem fun ha hb h => ?_
    have hvalid := valid_sorted hsized hg.valid
    exact (Timestamp.rank_le_rank_iff (hvalid _ ha) (hvalid _ hb)).1 h
  · rw [timestamps_sorted hsized, timestamps_sorted hsized, hi, hj] at hsame
    exact sortedRows_stable hi hj hsame hkl
  all_goals rw [hsorted]
  · exact hsized.selectRows hlt
  · exact hg.timestampColumn
  · exact hg.columns
  · exact hg.not_mem_columns

/-! ### Tables with their rows rearranged -/

theorem forall₂_picked {α β : Type} {R : α → β → Prop} {xs : List α} {ys : List β}
    (h : List.Forall₂ R xs ys) (order : List Nat) :
    List.Forall₂ R (order.filterMap (xs[·]?)) (order.filterMap (ys[·]?)) := by
  induction order with
  | nil => exact .nil
  | cons i rest ih =>
    by_cases hi : i < xs.length
    · have hi' : i < ys.length := h.length_eq ▸ hi
      rw [List.filterMap_cons_some (List.getElem?_eq_getElem hi),
        List.filterMap_cons_some (List.getElem?_eq_getElem hi')]
      exact .cons (h.get hi hi') ih
    · have hi' : ¬i < ys.length := h.length_eq ▸ hi
      rw [List.filterMap_cons_none (List.getElem?_eq_none (Nat.not_lt.1 hi)),
        List.filterMap_cons_none (List.getElem?_eq_none (Nat.not_lt.1 hi'))]
      exact ih

theorem rows_selectRows (hcolumns : t.columns ≠ []) (order : List Nat) :
    (t.selectRows order).rows = order.length :=
  if_neg hcolumns

theorem Holds.selectRows {names : List String} {values : Matrix Double} (ht : t.Regular)
    (hcolumns : t.columns ≠ []) (hlt : ∀ i ∈ order, i < t.rows) (hlength : order.length = t.rows)
    (h : Holds t names values) : Holds (t.selectRows order) names (values.selectRows order) := by
  have hlt' : ∀ i ∈ order, i < values.rows := fun i hi => h.rows ▸ hlt i hi
  have hrows := rows_selectRows hcolumns order
  refine ⟨Matrix.regular_selectRows h.regular hlt', hrows.symm, h.cols, fun hne => ?_, ?_⟩
  · rw [hrows, hlength]
    exact h.fits hne
  · intro k hk j name hname
    have hk : k < order.length := hrows ▸ hk
    obtain ⟨x, hx, hget⟩ := h.number order[k] (hlt _ (List.getElem_mem hk)) j name hname
    refine ⟨x, ?_, ?_⟩
    · rw [Table.lookup?_selectRows ht hlt, List.getElem?_eq_getElem hk]
      exact hx
    · rw [Matrix.get?_selectRows h.regular hlt', List.getElem?_eq_getElem hk]
      exact hget

/-- A rearranged table is read as the rearranged frame. -/
theorem Reads.selectRows (ht : t.Regular) (hg : Reads t column format g)
    (hperm : order.Perm (List.range t.rows)) :
    Reads (t.selectRows order) column format (g.selectRows order) := by
  have hlt : ∀ i ∈ order, i < t.rows := lt_of_perm_range hperm
  have hlength : order.length = t.rows := hperm.length_eq.trans List.length_range
  have hcolumns : t.columns ≠ [] := by
    intro hnone
    have hmem := hg.mem_names
    rw [Table.names, hnone] at hmem
    cases hmem
  refine ⟨hg.timestampColumn, ?_, ?_, hg.values.selectRows ht hcolumns hlt hlength⟩
  · rw [Table.names_selectRows]
    exact hg.columns
  · obtain ⟨cells, hcells, hread⟩ := hg.timestamps
    refine ⟨order.filterMap (cells[·]?), ?_, forall₂_picked hread order⟩
    rw [Table.column?_selectRows, hcells]
    rfl

/-- The order that sorts rearranged rows, in terms of the rows as they were. -/
theorem sortedRows_picked {ts : List Timestamp} (hvalid : ∀ u ∈ ts, u.Valid) (hdistinct : ts.Nodup)
    (hperm : order.Perm (List.range ts.length)) :
    (sortedRows (order.filterMap (ts[·]?))).filterMap (order[·]?) = sortedRows ts := by
  have hlt : ∀ i ∈ order, i < ts.length := lt_of_perm_range hperm
  have hlength : (order.filterMap (ts[·]?)).length = order.length := length_picked hlt
  refine eq_sortedRows ?_ ?_
  · have hinner := (perm_sortedRows (order.filterMap (ts[·]?))).filterMap (order[·]?)
    rw [hlength, picked_range] at hinner
    exact hinner.trans hperm
  · refine List.pairwise_filterMap.2 ((pairwise_sortedRows _).imp ?_)
    rintro k l ⟨a, ha, b, hb, h⟩ i hi j hj
    rw [Option.mem_def, getElem?_picked hlt, hi] at ha
    rw [Option.mem_def, getElem?_picked hlt, hj] at hb
    refine ⟨a, ha, b, hb, ?_⟩
    rcases h with h | ⟨hrank, hkl⟩
    · exact .inl h
    · -- Two places cannot have the same timestamp.
      have hsame : a = b := Timestamp.eq_of_rank (hvalid a (List.mem_of_getElem? ha))
        (hvalid b (List.mem_of_getElem? hb)) hrank
      subst hsame
      have hij : i = j := (List.getElem?_inj (hlt i (List.mem_of_getElem? hi)) hdistinct).1
        (ha.trans hb.symm)
      subst hij
      have hkl' : k = l := (List.getElem?_inj (List.getElem?_eq_some_iff.1 hi).1
        (hperm.nodup_iff.2 List.nodup_range)).1 (hi.trans hj.symm)
      omega

theorem sorted_selectRows (hg : g.Sized) (hvalid : ∀ u ∈ g.timestamps, u.Valid)
    (hdistinct : g.timestamps.Nodup) (hperm : order.Perm (List.range g.timestamps.length)) :
    (g.selectRows order).sorted = g.sorted := by
  have hlt : ∀ i ∈ order, i < g.timestamps.length := lt_of_perm_range hperm
  have hlength : (g.selectRows order).timestamps.length = order.length := length_picked hlt
  rw [sorted_eq_selectRows (hg.selectRows hlt), sorted_eq_selectRows hg,
    selectRows_selectRows hg hlt fun k hk => hlength ▸ sortedRows_lt _ k hk]
  exact congrArg g.selectRows (sortedRows_picked hvalid hdistinct hperm)

/-- **Framing is the stable sort of the table.** -/
theorem ofTable_stable_sort (ht : t.Regular) (h : ofTable t column format = .ok f) :
    (∃ order, IsStableSort t column format f order) ∧
      (∃ g, Reads t column format g ∧ f = g.selectRows (sortedRows g.timestamps) ∧
        (ascends (sortedRows g.timestamps) = true → f = g)) ∧
      (f.timestamps.Nodup → ∀ order : List Nat, order.Perm (List.range t.rows) →
        ofTable (t.selectRows order) column format = .ok f) := by
  obtain ⟨g, hg, rfl⟩ := (ofTable_eq_ok_iff ht).1 h
  have hsized := hg.sized ht
  refine ⟨⟨_, hg.isStableSort ht⟩, ⟨g, hg, sorted_eq_selectRows hsized, fun h => if_pos h⟩, ?_⟩
  intro hdistinct order hperm
  have hlt : ∀ i ∈ order, i < t.rows := lt_of_perm_range hperm
  refine (ofTable_eq_ok_iff (Table.regular_selectRows ht hlt)).2
    ⟨g.selectRows order, hg.selectRows ht hperm, ?_⟩
  exact sorted_selectRows hsized hg.valid ((perm_timestamps_sorted hsized).nodup_iff.1 hdistinct)
    (hg.rows ht ▸ hperm)

/-- Loads taken at these seconds of the first day. -/
def readings (seconds loads : List Nat) : Table :=
  ⟨[⟨"load", loads.map fun n => .number (.ofNat n)⟩,
    ⟨"at", seconds.map fun n => .number (.ofNat n)⟩], seconds.length⟩

def series (seconds loads : List Nat) : Frame :=
  ⟨"at", seconds.map fun n => ⟨⟨1970, 1, 1⟩, .ofSeconds n 0⟩, ["load"],
    ⟨seconds.length, 1, loads.map .ofNat⟩⟩

/-- Two readings of the same second keep their order; three of different seconds may come in any. -/
theorem ofTable_stable_sort_readings :
    (∃ order, IsStableSort (readings [61, 60, 60] [3, 1, 2]) "at" none
      (series [60, 60, 61] [1, 2, 3]) order) ∧
      ofTable ((readings [61, 60, 59] [3, 1, 2]).selectRows [1, 2, 0]) "at" none =
        .ok (series [59, 60, 61] [2, 1, 3]) := by
  have htied : ofTable (readings [61, 60, 60] [3, 1, 2]) "at" none =
      .ok (series [60, 60, 61] [1, 2, 3]) := by
    refine ofTable_eq_ok_iff_steps.2 ⟨_, (series [61, 60, 60] []).timestamps, _, rfl,
      Time.toOption_eq_some (by decide +kernel), rfl, ?_⟩
    have horder : sortedRows (series [61, 60, 60] []).timestamps = [1, 2, 0] :=
      (eq_sortedRows (by decide) (by decide +kernel)).symm
    simp only [sorted, horder]
    rfl
  have hdistinct : ofTable (readings [61, 60, 59] [3, 1, 2]) "at" none =
      .ok (series [59, 60, 61] [2, 1, 3]) := by
    refine ofTable_eq_ok_iff_steps.2 ⟨_, (series [61, 60, 59] []).timestamps, _, rfl,
      Time.toOption_eq_some (by decide +kernel), rfl, ?_⟩
    have horder : sortedRows (series [61, 60, 59] []).timestamps = [2, 1, 0] :=
      (eq_sortedRows (by decide) (by decide +kernel)).symm
    simp only [sorted, horder]
    rfl
  exact ⟨(ofTable_stable_sort ⟨by decide, by decide, by decide⟩ htied).1,
    (ofTable_stable_sort ⟨by decide, by decide, by decide⟩ hdistinct).2.2 (by decide) [1, 2, 0]
      (by decide)⟩

end ModelProbe.Explain.Frame
