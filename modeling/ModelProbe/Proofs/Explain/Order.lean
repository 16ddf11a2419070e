import Mathlib.Data.List.Basic
import ModelProbe.Explain.Frame

/-! The order of rows.

Row numbers are sorted by timestamp, and rows with the same timestamp keep their order: one row
is `Before` another if its timestamp is, or if the two are the same and it stands earlier. No two
rows are each before the other, so `sortedRows` is the only arrangement of the row numbers in which
every row is before those that follow (`eq_sortedRows`). -/
namespace ModelProbe.Explain.Frame

open Time (Timestamp)

/-- Row `i` belongs in front of row `j`. -/
def Before (ts : List Timestamp) (i j : Nat) : Prop :=
  ∃ a ∈ ts[i]?, ∃ b ∈ ts[j]?, a.rank < b.rank ∨ a.rank = b.rank ∧ i < j

instance (ts : List Timestamp) (i j : Nat) : Decidable (Before ts i j) :=
  inferInstanceAs (Decidable (∃ a ∈ ts[i]?, ∃ b ∈ ts[j]?, _))

variable {ts : List Timestamp} {order : List Nat}

theorem Before.asymm {i j : Nat} (h : Before ts i j) (h' : Before ts j i) : i = j := by
  obtain ⟨a, ha, b, hb, h⟩ := h
  obtain ⟨b', hb', a', ha', h'⟩ := h'
  cases ha.symm.trans ha'
  cases hb.symm.trans hb'
  omega

/-- Ranks, compared as the sort does. -/
def rankLE (a b : Timestamp × Nat) : Bool :=
  a.1.rank ≤ b.1.rank

theorem rankLE_trans (a b c : Timestamp × Nat) (hab : rankLE a b = true) (hbc : rankLE b c = true) :
    rankLE a c = true :=
  decide_eq_true (Int.le_trans (of_decide_eq_true hab) (of_decide_eq_true hbc))

theorem rankLE_total (a b : Timestamp × Nat) : (rankLE a b || rankLE b a) = true := by
  simp only [rankLE, Bool.or_eq_true, decide_eq_true_eq]
  exact Int.le_total ..

theorem perm_sortedRows (ts : List Timestamp) : (sortedRows ts).Perm (List.range ts.length) := by
  have hperm := (List.mergeSort_perm ts.zipIdx rankLE).map Prod.snd
  rwa [List.zipIdx_map_snd, ← List.range_eq_range'] at hperm

theorem nodup_sortedRows (ts : List Timestamp) : (sortedRows ts).Nodup :=
  (perm_sortedRows ts).nodup_iff.2 List.nodup_range

/-- What it says that a place does not sort after another, timestamps apart. -/
theorem zipIdxLE_rankLE {x y : (Timestamp × Nat) × Nat} (h : List.zipIdxLE rankLE x y = true) :
    x.1.1.rank < y.1.1.rank ∨ x.1.1.rank = y.1.1.rank ∧ x.2 ≤ y.2 := by
  unfold List.zipIdxLE rankLE at h
  simp only [decide_eq_true_eq] at h
  split at h
  · split at h
    · exact .inr ⟨by omega, of_decide_eq_true h⟩
    · exact .inl (by omega)
  · cases h

/-- **The sort is stable.** Every row number stands in front of those that belong after it. -/
theorem pairwise_sortedRows (ts : List Timestamp) : (sortedRows ts).Pairwise (Before ts) := by
  -- The sort is the same as one that compares the places of equal timestamps as well.
  have hsorted : sortedRows ts =
      (ts.zipIdx.zipIdx.mergeSort (List.zipIdxLE rankLE)).map fun x => x.1.2 := by
    show (ts.zipIdx.mergeSort rankLE).map Prod.snd = _
    rw [← List.mergeSort_zipIdx, List.map_map]
    rfl
  have hplace : ∀ x ∈ ts.zipIdx.zipIdx.mergeSort (List.zipIdxLE rankLE),
      ts[x.1.2]? = some x.1.1 ∧ x.1.2 = x.2 := by
    intro x hx
    have hx := List.mem_zipIdx_iff_getElem?.1 (List.mem_mergeSort.1 hx)
    rw [List.getElem?_zipIdx, Option.map_eq_some_iff] at hx
    obtain ⟨a, ha, hpair⟩ := hx
    rw [← hpair, Nat.zero_add]
    exact ⟨ha, rfl⟩
  have hpair := List.pairwise_mergeSort (List.zipIdxLE_trans rankLE_trans)
    (List.zipIdxLE_total rankLE_total) ts.zipIdx.zipIdx
  have hdistinct := hsorted ▸ nodup_sortedRows ts
  rw [hsorted, List.pairwise_map]
  refine (hpair.and (List.pairwise_map.1 hdistinct)).imp_of_mem fun {x y} hx hy h => ?_
  obtain ⟨hxget, hxplace⟩ := hplace x hx
  obtain ⟨hyget, hyplace⟩ := hplace y hy
  refine ⟨x.1.1, hxget, y.1.1, hyget, ?_⟩
  rcases zipIdxLE_rankLE h.1 with hlt | ⟨heq, hle⟩
  · exact .inl hlt
  · have hne : x.1.2 ≠ y.1.2 := h.2
    exact .inr ⟨heq, by omega⟩

theorem eq_sortedRows (hperm : order.Perm (List.range ts.length))
    (hpair : order.Pairwise (Before ts)) : order = sortedRows ts :=
  (hperm.trans (perm_sortedRows ts).symm).eq_of_pairwise (fun _ _ _ _ h h' => h.asymm h') hpair
    (pairwise_sortedRows ts)

/-! ### Rows in order already -/

/-- Timestamps that do not descend are sorted as they stand. -/
theorem sortedRows_of_pairwise (h : ts.Pairwise (·.rank ≤ ·.rank)) :
    sortedRows ts = List.range ts.length := by
  refine (eq_sortedRows (List.Perm.refl _)
    (List.pairwise_iff_getElem.2 fun i j hi hj hij => ?_)).symm
  rw [List.length_range] at hi hj
  have hle := List.pairwise_iff_getElem.1 h i j hi hj hij
  rw [List.getElem_range, List.getElem_range]
  exact ⟨ts[i], List.getElem?_eq_getElem hi, ts[j], List.getElem?_eq_getElem hj, by omega⟩

theorem ascends_iff : ascends order = true ↔ order.Pairwise (· < ·) := by
  rw [← List.isChain_iff_pairwise]
  induction order with
  | nil => exact ⟨fun _ => .nil, fun _ => rfl⟩
  | cons i rest ih =>
    cases rest with
    | nil => exact ⟨fun _ => .singleton _, fun _ => rfl⟩
    | cons j rest =>
      rw [List.isChain_cons_cons, ← ih]
      show (decide (i < j) && _) = true ↔ _
      rw [Bool.and_eq_true, decide_eq_true_eq]
      rfl

/-- Row numbers that ascend are all of them in turn. -/
theorem eq_range_of_ascends {n : Nat} (hperm : order.Perm (List.range n))
    (h : ascends order = true) : order = List.range n :=
  hperm.eq_of_pairwise (fun _ _ _ _ h h' => absurd h (Nat.lt_asymm h')) (ascends_iff.1 h)
    List.pairwise_lt_range

end ModelProbe.Explain.Frame
