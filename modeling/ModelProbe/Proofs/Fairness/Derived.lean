import ModelProbe.Proofs.Binary.Comparison
import ModelProbe.Proofs.Fairness.Metric

/-! Values that are left over.

Where no unprivileged values are listed, they are what a column holds beside the privileged ones.
The column is read once, and what has been kept of it so far is `Kept`: every number that is not
excluded once, and every NaN as often as it has been seen. Sorted, that is `Derived`. Numbers are
told apart as numbers and sorted by their bits, so only the sign of a zero depends on the order of
the rows (`Derived.alike`); `derived_values` states this of a dataset. -/
namespace ModelProbe.Fairness

open Double (canonical)

variable {excluded column rest seen kept : List Double} {x : Double}

theorem contains_eq_true_iff {xs : List Double} :
    contains xs x = true ↔ ∃ y ∈ xs, y.agrees x = true :=
  List.any_eq_true

theorem contains_eq_false_iff {xs : List Double} :
    contains xs x = false ↔ ∀ y ∈ xs, y.agrees x = false := by
  simp [contains]

/-- A list contains what agrees with something it contains. -/
theorem contains_congr {xs : List Double} {y : Double} (h : x.agrees y = true) :
    contains xs x = contains xs y := by
  simp only [contains, Double.agrees_congr h]

theorem contains_of_isNaN {xs : List Double} (h : x.isNaN = true) : contains xs x = false := by
  simp [contains_eq_false_iff, Double.agrees, h]

/-! ### Keeping what is new -/

/-- What is kept of the values seen so far. -/
structure Kept (excluded seen kept : List Double) : Prop where
  mem : ∀ x ∈ kept, x ∈ seen ∧ contains excluded x = false
  /-- A number that is not excluded is kept once. -/
  once : ∀ x ∈ seen, x.isNaN = false → contains excluded x = false →
    kept.countP (·.agrees x) = 1
  /-- A NaN is kept whenever it is seen. -/
  nans : ∀ x, x.isNaN = true → kept.count x = seen.count x

theorem distinctOutside_append (excluded xs : List Double) (x : Double) :
    distinctOutside excluded (xs ++ [x]) =
      if contains excluded x || contains (distinctOutside excluded xs) x then
        distinctOutside excluded xs
      else distinctOutside excluded xs ++ [x] := by
  rw [distinctOutside, List.foldl_append]
  rfl

theorem kept_nil (excluded : List Double) : Kept excluded [] [] :=
  ⟨nofun, nofun, fun _ _ => rfl⟩

/-- What is kept is excluded or kept already. -/
theorem Kept.skip (h : Kept excluded seen kept)
    (hx : contains excluded x = true ∨ contains kept x = true) :
    Kept excluded (seen ++ [x]) kept := by
  have hnan : x.isNaN = false := by
    by_contra hnan
    rw [Bool.not_eq_false] at hnan
    simp [contains_of_isNaN hnan] at hx
  refine ⟨fun y hy => ⟨List.mem_append_left _ (h.mem y hy).1, (h.mem y hy).2⟩, ?_, ?_⟩
  · intro y hy hynan hyexcluded
    rcases List.mem_append.1 hy with hy | hy
    · exact h.once y hy hynan hyexcluded
    · rw [List.mem_singleton.1 hy] at hyexcluded ⊢
      rw [hyexcluded] at hx
      obtain ⟨z, hz, hzx⟩ := contains_eq_true_iff.1 (hx.resolve_left nofun)
      have hznan : z.isNaN = false := (Double.agrees_iff.1 hzx).1
      have honce := h.once z (h.mem z hz).1 hznan (h.mem z hz).2
      simpa only [Double.agrees_congr hzx] using honce
  · intro y hy
    have hne : x ≠ y := by
      rintro rfl
      rw [hnan] at hy
      cases hy
    rw [h.nans y hy, List.count_append, List.count_singleton]
    simp [hne]

/-- What is new is kept. -/
theorem Kept.keep (h : Kept excluded seen kept) (hexcluded : contains excluded x = false)
    (hkept : contains kept x = false) : Kept excluded (seen ++ [x]) (kept ++ [x]) := by
  rw [contains_eq_false_iff] at hkept
  refine ⟨?_, ?_, ?_⟩
  · intro y hy
    rcases List.mem_append.1 hy with hy | hy
    · exact ⟨List.mem_append_left _ (h.mem y hy).1, (h.mem y hy).2⟩
    · rw [List.mem_singleton.1 hy]
      exact ⟨List.mem_append_right _ (List.mem_singleton_self x), hexcluded⟩
  · intro y hy hynan hyexcluded
    rw [List.countP_append, List.countP_singleton]
    by_cases hxy : x.agrees y = true
    · have hnone : kept.countP (·.agrees y) = 0 := by
        rw [List.countP_eq_zero]
        intro z hz
        rw [← Double.agrees_congr hxy, hkept z hz]
        exact nofun
      rw [hnone, if_pos hxy]
    · rcases List.mem_append.1 hy with hy | hy
      · rw [h.once y hy hynan hyexcluded, if_neg hxy]
      · rw [List.mem_singleton.1 hy] at hxy hynan
        exact absurd (Double.agrees_self hynan) hxy
  · intro y hy
    rw [List.count_append, List.count_append, h.nans y hy]

theorem kept_distinctOutside (excluded xs : List Double) :
    Kept excluded xs (distinctOutside excluded xs) := by
  induction xs using List.reverseRecOn with
  | nil => exact kept_nil excluded
  | append_singleton xs x ih =>
    rw [distinctOutside_append]
    split
    · rename_i h
      exact ih.skip (Bool.or_eq_true_iff.1 h)
    · rename_i h
      rw [Bool.not_eq_true, Bool.or_eq_false_iff] at h
      exact ih.keep h.1 h.2

/-! ### Sorting it -/

/-- There is one way to put values in the total order. -/
theorem eq_of_ascending {xs ys : List Double} (hxs : xs.Pairwise fun a b => a.rank ≤ b.rank)
    (hys : ys.Pairwise fun a b => a.rank ≤ b.rank) (h : xs.Perm ys) : xs = ys :=
  List.Perm.eq_of_pairwise
    (fun _ _ _ _ hab hba => Double.rank_injective (Int.le_antisymm hab hba)) hxs hys h

theorem sorted_eq_iff {xs ys : List Double} :
    sorted xs = ys ↔ ys.Perm xs ∧ ys.Pairwise fun a b => a.rank ≤ b.rank := by
  have hperm : (sorted xs).Perm xs := List.mergeSort_perm ..
  have hascending : (sorted xs).Pairwise fun a b => a.rank ≤ b.rank := by
    have hsorted : (sorted xs).Pairwise fun a b => decide (a.rank ≤ b.rank) = true := by
      refine List.pairwise_mergeSort (fun a b c hab hbc => ?_) (fun a b => ?_) xs
      · rw [decide_eq_true_eq] at hab hbc ⊢
        exact hab.trans hbc
      · rw [Bool.or_eq_true, decide_eq_true_eq, decide_eq_true_eq]
        exact Int.le_total ..
    exact hsorted.imp of_decide_eq_true
  constructor
  · rintro rfl
    exact ⟨hperm, hascending⟩
  · rintro ⟨hys, hys'⟩
    exact eq_of_ascending hascending hys' (hperm.trans hys.symm)

/-- What is left of a column beside the excluded values, in the total order. -/
structure Derived (excluded column rest : List Double) : Prop
    extends Kept excluded column rest where
  ascending : rest.Pairwise fun a b => a.rank ≤ b.rank

theorem derived_sorted (excluded column : List Double) :
    Derived excluded column (sorted (distinctOutside excluded column)) := by
  have hkept := kept_distinctOutside excluded column
  obtain ⟨hperm, hascending⟩ := sorted_eq_iff.1 (Eq.refl (sorted (distinctOutside excluded column)))
  refine ⟨⟨fun x hx => hkept.mem x (hperm.subset hx), ?_, ?_⟩, hascending⟩
  · intro x hx hnan hexcluded
    rw [hperm.countP_eq, hkept.once x hx hnan hexcluded]
  · intro x hx
    rw [hperm.count_eq, hkept.nans x hx]

/-- A number of the column is in one of the two lists alone. -/
theorem Kept.contains_eq (h : Kept excluded seen kept) (hx : x ∈ seen) (hnan : x.isNaN = false) :
    contains kept x = !contains excluded x := by
  cases hexcluded : contains excluded x with
  | true =>
    rw [Bool.not_true, contains_eq_false_iff]
    intro y hy
    by_contra hyx
    rw [Bool.not_eq_false] at hyx
    rw [← contains_congr hyx, (h.mem y hy).2] at hexcluded
    cases hexcluded
  | false =>
    have hone := h.once x hx hnan hexcluded
    have hpos : 0 < kept.countP (·.agrees x) := by omega
    rw [List.countP_pos_iff] at hpos
    rw [Bool.not_false, contains_eq_true_iff]
    exact hpos

/-! ### The order of the rows -/

variable {seen' kept' column' rest' : List Double}

theorem contains_perm {xs ys : List Double} (h : xs.Perm ys) (x : Double) :
    contains xs x = contains ys x := by
  rw [Bool.eq_iff_iff, contains_eq_true_iff, contains_eq_true_iff]
  exact exists_congr fun y => and_congr_left fun _ => h.mem_iff

/-- How often a number is kept is known from what has been seen. -/
theorem Kept.countP_agrees (h : Kept excluded seen kept) (x : Double) :
    kept.countP (·.agrees x) = if contains seen x && !contains excluded x then 1 else 0 := by
  split
  · rename_i hnew
    rw [Bool.and_eq_true, Bool.not_eq_true'] at hnew
    obtain ⟨y, hy, hyx⟩ := contains_eq_true_iff.1 hnew.1
    have hynan : y.isNaN = false := (Double.agrees_iff.1 hyx).1
    have honce := h.once y hy hynan ((contains_congr hyx).trans hnew.2)
    simpa only [Double.agrees_congr hyx] using honce
  · rename_i hnew
    rw [List.countP_eq_zero]
    intro y hy hyx
    obtain ⟨hseen, hexcluded⟩ := h.mem y hy
    apply hnew
    rw [contains_eq_true_iff.2 ⟨y, hseen, hyx⟩, ← contains_congr hyx, hexcluded]
    rfl

/-- What is kept of the same values in another order is the same, with one zero for both. -/
theorem Kept.perm_canonical (h : Kept excluded seen kept) (h' : Kept excluded seen' kept')
    (hperm : seen.Perm seen') : (kept.map canonical).Perm (kept'.map canonical) := by
  rw [List.perm_iff_count]
  intro z
  by_cases hnan : z.isNaN = true
  · rw [Double.count_map_canonical_of_isNaN hnan, Double.count_map_canonical_of_isNaN hnan,
      h.nans z hnan, h'.nans z hnan, hperm.count_eq]
  · rw [Bool.not_eq_true] at hnan
    by_cases hz : z.canonical = z
    · have hcount := Double.count_map_canonical hnan kept
      have hcount' := Double.count_map_canonical hnan kept'
      rw [hz] at hcount hcount'
      rw [hcount, hcount', h.countP_agrees, h'.countP_agrees, contains_perm hperm]
    · -- The zero that is not chosen is not there.
      have hnone : ∀ xs : List Double, (xs.map canonical).count z = 0 := by
        intro xs
        rw [List.count_eq_zero, List.mem_map]
        rintro ⟨x, -, rfl⟩
        exact hz (Double.canonical_canonical x)
      rw [hnone, hnone]

/-- **The order of the column does not matter** but for the sign of a zero. -/
theorem Derived.alike (h : Derived excluded column rest) (h' : Derived excluded column' rest')
    (hperm : column.Perm column') : List.Forall₂ Double.Alike rest rest' := by
  have hsorted : ∀ {xs : List Double}, (xs.Pairwise fun a b => a.rank ≤ b.rank) →
      (xs.map canonical).Pairwise fun a b => a.rank ≤ b.rank :=
    fun hxs => hxs.map canonical fun a b => Double.rank_canonical_le
  have hsame : rest.map canonical = rest'.map canonical :=
    eq_of_ascending (hsorted h.ascending) (hsorted h'.ascending)
      (h.toKept.perm_canonical h'.toKept hperm)
  rw [← List.forall₂_eq_eq_eq, List.forall₂_map_left_iff, List.forall₂_map_right_iff] at hsame
  exact hsame.imp fun _ _ => Double.alike_iff.2

/-! ### The values of a dataset -/

namespace Dataset

variable {t s : Table} {config : Config} {d : Dataset} {i : Nat} {name : String}

/-- Where none are listed, the privileged value of an attribute is that of the group. -/
theorem getElem?_privilegedOf (config : Config) (i : Nat) :
    (privilegedOf config)[i]? =
      if config.privilegedValues = [] then (config.privileged[i]?).map fun x => [x]
      else config.privilegedValues[i]? := by
  unfold privilegedOf
  split
  · exact List.getElem?_map
  · rfl

theorem length_privilegedOf (h : config.Valid) :
    (privilegedOf config).length = config.attributes.length := by
  unfold privilegedOf
  split
  · rw [List.length_map, h.privileged]
  · exact h.privilegedValues.resolve_left ‹_›

/-- The columns of a selection's matrix are the columns of the names. -/
theorem columns_select (ht : t.Regular) {names : List String} (hs : t.select names = .ok s)
    {values : Matrix Double} (hvalues : s.toMatrix = .ok values) (hname : names[i]? = some name)
    (hcolumn : t.numericColumn name = .ok column) : values.columns[i]? = some column := by
  obtain ⟨hregular, rfl, hsub⟩ := (Table.select_eq_ok_iff ht).1 hs
  obtain ⟨hrows, hcols, hmatrix, -⟩ := Table.toMatrix_eq_ok hregular hvalues
  obtain ⟨hlength, hnumbers⟩ := Table.number?_of_numericColumn ht hcolumn
  have hsrows := Table.rows_of_subset hregular ht hsub
    (Table.columns_ne_nil (List.mem_of_getElem? hname))
  have hi : i < values.cols := by
    rw [hcols, ← Table.length_names]
    exact (List.getElem?_eq_some_iff.1 hname).1
  have hheight := hmatrix.length_column hi
  rw [Matrix.getElem?_columns hi]
  refine congrArg some (List.ext_getElem? fun k => ?_)
  by_cases hk : k < t.rows
  · rw [column_select ht hs hvalues hname hk, hnumbers]
  · rw [List.getElem?_eq_none (by omega), List.getElem?_eq_none (by omega)]

/-- What is left over in the columns of a table. -/
structure LeftOver (config : Config) (t : Table) (d : Dataset) : Prop where
  privileged : d.privilegedValues = privilegedOf config
  length : d.unprivilegedValues.length = config.attributes.length
  value : ∀ (i : Nat) (name : String), config.attributes[i]? = some name → ∃ column excluded,
    t.numericColumn name = .ok column ∧ (privilegedOf config)[i]? = some excluded ∧
    d.unprivilegedValues[i]? = some (sorted (distinctOutside excluded column))

theorem leftOver_of_ofTable (ht : t.Regular) (hnone : config.unprivilegedValues = [])
    (hd : ofTable t config = .ok d) : LeftOver config t d := by
  obtain ⟨hreadable, -⟩ := reads_of_ofTable ht hd
  obtain ⟨hvalid, ⟨-, hattributes⟩, _, -, -, _, -, s, hs, values, hvalues, rfl⟩ :=
    ofTable_eq_ok_iff_steps.1 hd
  obtain ⟨hregular, hnames, -⟩ := (Table.select_eq_ok_iff ht).1 hs
  have hprivileged := length_privilegedOf hvalid
  have hcols : values.columns.length = config.attributes.length := by
    rw [Matrix.length_columns, (Table.toMatrix_eq_ok hregular hvalues).2.1, ← Table.length_names,
      hnames]
  have hlists : unprivilegedOf config values.columns = values.columns.zipWith
      (fun column excluded => sorted (distinctOutside excluded column)) (privilegedOf config) :=
    if_pos hnone
  refine ⟨rfl, ?_, fun i name hname => ?_⟩
  · rw [hlists, List.length_zipWith, hcols, hprivileged, Nat.min_self]
  · obtain ⟨column, hcolumn⟩ := Table.exists_numericColumn ht hreadable.numeric
      (hattributes name (List.mem_of_getElem? hname))
    have hi : i < (privilegedOf config).length :=
      hprivileged ▸ (List.getElem?_eq_some_iff.1 hname).1
    have hexcluded := List.getElem?_eq_getElem hi
    refine ⟨column, _, hcolumn, hexcluded, ?_⟩
    rw [hlists, List.getElem?_zipWith, columns_select ht hs hvalues hname hcolumn, hexcluded]

/-- Chosen rows have the numbers of the rows that were chosen. -/
theorem numericColumn_selectRows (hcolumn : t.numericColumn name = .ok column)
    (order : List Nat) :
    (t.selectRows order).numericColumn name = .ok (order.filterMap (column[·]?)) := by
  rw [Table.numericColumn_eq_ok_iff] at hcolumn ⊢
  rw [Table.column?_selectRows, hcolumn, Option.map_some, List.map_filterMap]
  simp only [List.getElem?_map]

/-- Of the same rows in another order the same values are left over. -/
theorem LeftOver.selectRows {d' : Dataset} {order : List Nat} (ht : t.Regular)
    (hperm : order.Perm (List.range t.rows)) (h : LeftOver config t d)
    (h' : LeftOver config (t.selectRows order) d') :
    d'.privilegedValues = d.privilegedValues ∧
      List.Forall₂ (List.Forall₂ Double.Alike) d'.unprivilegedValues d.unprivilegedValues := by
  refine ⟨h'.privileged.trans h.privileged.symm, ?_⟩
  refine List.forall₂_iff_get.2 ⟨h'.length.trans h.length.symm, fun i hi' hi => ?_⟩
  have hname := List.getElem?_eq_getElem (h.length ▸ hi)
  obtain ⟨column, excluded, hcolumn, hexcluded, hrest⟩ := h.value i _ hname
  obtain ⟨column', excluded', hcolumn', hexcluded', hrest'⟩ := h'.value i _ hname
  obtain rfl : excluded' = excluded := Option.some.inj (hexcluded'.symm.trans hexcluded)
  obtain rfl : column' = order.filterMap (column[·]?) :=
    Except.ok.inj (hcolumn'.symm.trans (numericColumn_selectRows hcolumn order))
  have hrows := (Table.number?_of_numericColumn ht hcolumn).1
  have hsame : (order.filterMap (column[·]?)).Perm column := by
    have hpicked := hperm.filterMap (column[·]?)
    rwa [← hrows, picked_range] at hpicked
  rw [List.get_eq_getElem, List.get_eq_getElem, (List.getElem?_eq_some_iff.1 hrest').2,
    (List.getElem?_eq_some_iff.1 hrest).2]
  exact (derived_sorted _ _).alike (derived_sorted _ _) hsame

end Dataset

variable {t : Table} {config : Config} {d : Dataset}

/-- **Values that are left over.** Where no unprivileged values are listed, a dataset still has a
list of privileged values and a list of unprivileged ones for each attribute. The privileged ones
are those listed, or else the group's. The unprivileged ones are, in the total order, the other
numbers of the attribute's column, each once, and its NaNs, as often as they are there (`Derived`);
so a number of the column is in one of the two lists and not in the other. In another order of the
rows the same lists come out, but for the sign of a zero. -/
theorem derived_values (ht : t.Reachable) (hnone : config.unprivilegedValues = [])
    (hd : Dataset.ofTable t config = .ok d) :
    d.privilegedValues.length = config.attributes.length ∧
    d.unprivilegedValues.length = config.attributes.length ∧
    (∀ (i : Nat) (name : String), config.attributes[i]? = some name → ∃ column excluded rest,
      t.numericColumn name = .ok column ∧
      d.privilegedValues[i]? = some excluded ∧ d.unprivilegedValues[i]? = some rest ∧
      (if config.privilegedValues = [] then (config.privileged[i]?).map fun x => [x]
        else config.privilegedValues[i]?) = some excluded ∧
      Derived excluded column rest ∧
      ∀ x ∈ column, x.isNaN = false → contains rest x = !contains excluded x) ∧
    ∀ order : List Nat, order.Perm (List.range t.rows) → ∃ d',
      Dataset.ofTable (t.selectRows order) config = .ok d' ∧
      d'.privilegedValues = d.privilegedValues ∧
      List.Forall₂ (List.Forall₂ Double.Alike) d'.unprivilegedValues d.unprivilegedValues := by
  have ht := ht.regular
  obtain ⟨hreadable, -⟩ := Dataset.reads_of_ofTable ht hd
  have hleft := Dataset.leftOver_of_ofTable ht hnone hd
  refine ⟨?_, hleft.length, fun i name hname => ?_, fun order hperm => ?_⟩
  · rw [hleft.privileged, Dataset.length_privilegedOf hreadable.valid]
  · obtain ⟨column, excluded, hcolumn, hexcluded, hrest⟩ := hleft.value i name hname
    have hderived := derived_sorted excluded column
    exact ⟨column, excluded, _, hcolumn, hleft.privileged ▸ hexcluded, hrest,
      Dataset.getElem?_privilegedOf config i ▸ hexcluded, hderived,
      fun x hx hnan => hderived.contains_eq hx hnan⟩
  · have hregular := Table.regular_selectRows ht (lt_of_perm_range hperm)
    obtain ⟨d', hd'⟩ := Dataset.exists_ofTable hregular (hreadable.selectRows ht hperm)
    exact ⟨d', hd', hleft.selectRows ht hperm (Dataset.leftOver_of_ofTable hregular hnone hd')⟩

/-- Beside the privileged 1 a zero, a 2 and two NaNs are left over. It is the zero that stands
first, which is the other one from below. -/
theorem derived_values_zeros :
    let config : Config := ⟨["sex"], ["hired"], .ofNat 1, .ofNat 0, [], [], [.ofNat 1], [.ofNat 0]⟩
    let sexes : List Double :=
      [.ofNat 2, .zero, .nan, .ofNat 1, .ofMagnitude true 0, .nan]
    let t : Table := ⟨[⟨"sex", sexes.map .number⟩,
      ⟨"hired", [1, 0, 0, 1, 1, 0].map fun n => .number (.ofNat n)⟩], 6⟩
    ∃ d d', Dataset.ofTable t config = .ok d ∧
      Dataset.ofTable (t.selectRows [5, 4, 3, 2, 1, 0]) config = .ok d' ∧
      d.unprivilegedValues = [[.zero, .ofNat 2, .nan, .nan]] ∧
      d'.unprivilegedValues = [[.ofMagnitude true 0, .ofNat 2, .nan, .nan]] ∧
      List.Forall₂ (List.Forall₂ Double.Alike) d'.unprivilegedValues d.unprivilegedValues := by
  intro config sexes t
  have hcolumns : Table.ofColumns t.columns = .ok t := rfl
  have ht : t.Reachable := .ofColumns hcolumns
  have hread : (Dataset.ofTable t config).isOk = true := by decide +kernel
  -- The one list is found by sorting, so it is enough to have the values and their order.
  have hlist : ∀ (column : List Double) {s d rest}, s.Regular → Dataset.ofTable s config = .ok d →
      s.numericColumn "sex" = .ok column → rest.Perm (distinctOutside [.ofNat 1] column) →
      rest.Pairwise (fun a b : Double => a.rank ≤ b.rank) → d.unprivilegedValues = [rest] := by
    intro column s d rest hs hd hcolumn hperm hascending
    have hleft := Dataset.leftOver_of_ofTable hs rfl hd
    obtain ⟨_, _, hcolumn', hexcluded, hrest⟩ := hleft.value 0 "sex" rfl
    cases hcolumn.symm.trans hcolumn'
    cases hexcluded
    rw [sorted_eq_iff.2 ⟨hperm, hascending⟩] at hrest
    obtain ⟨only, honly⟩ := List.length_eq_one_iff.1 hleft.length
    rw [honly] at hrest ⊢
    cases hrest
    rfl
  cases hd : Dataset.ofTable t config with
  | error e =>
    rw [hd] at hread
    cases hread
  | ok d =>
    obtain ⟨-, -, -, horder⟩ := derived_values ht rfl hd
    obtain ⟨d', hd', -, halike⟩ := horder [5, 4, 3, 2, 1, 0] (by decide)
    have hregular : (t.selectRows [5, 4, 3, 2, 1, 0]).Regular :=
      Table.regular_selectRows ht.regular (by decide)
    refine ⟨d, d', rfl, hd', ?_, ?_, halike⟩
    · exact hlist sexes ht.regular hd rfl (by decide +kernel) (by decide +kernel)
    · exact hlist sexes.reverse hregular hd' rfl (by decide +kernel) (by decide +kernel)

end ModelProbe.Fairness
