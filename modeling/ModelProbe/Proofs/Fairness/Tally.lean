import ModelProbe.Proofs.Binary.Quotient
import ModelProbe.Proofs.Fairness.Dataset

/-! What is counted of a group.

A row belongs to a group when one of its attributes has the group's value for it, and is counted
once however many of them do. The counts of a dataset are those of its table (`counts_eq`). They do
not depend on where rows and columns stand, nor on columns that are not named or rows that are not
in the group (`tally_selectRows`, `tally_of_subset`). -/
namespace ModelProbe.Fairness

/-- Whether a row has the value for one of the attributes. -/
def belongs (t : Table) (attributes : List String) (values : List Double) (row : Nat) : Bool :=
  (attributes.zip values).any fun p => (t.number? p.1 row).any (·.agrees p.2)

/-- Whether a row has the favorable label. -/
def favors (config : Config) (t : Table) (row : Nat) : Bool :=
  (t.number? config.labelName row).any (·.agrees config.favorable)

/-- How many rows a group has, and how many of those have the favorable label. -/
@[ext]
structure Tally where
  members : Nat
  favorable : Nat
  favorable_le : favorable ≤ members
deriving DecidableEq

/-- The rows of the group with these values, one for each attribute. -/
def tally (config : Config) (values : List Double) (t : Table) : Tally where
  members := (List.range t.rows).countP (belongs t config.attributes values)
  favorable := (List.range t.rows).countP fun i =>
    belongs t config.attributes values i && favors config t i
  favorable_le := List.countP_mono_left fun _ _ h => (Bool.and_eq_true_iff.1 h).1

variable {s t : Table} {config : Config} {d : Dataset}

theorem members_le_rows (config : Config) (values : List Double) (t : Table) :
    (tally config values t).members ≤ t.rows :=
  List.countP_le_length.trans_eq List.length_range

/-! ### Rates -/

namespace Tally

variable {a : Tally}

/-- The favorable rows over all of them, as doubles. -/
def rate (a : Tally) : Double :=
  (Double.ofNat a.favorable).div (.ofNat a.members)

/-- What a rate is divided by is not zero. -/
theorem isZero_members (h : a.members ≠ 0) : (Double.ofNat a.members).isZero = false :=
  Bool.eq_false_iff.2 fun hzero => h ((Double.isZero_ofNat a.members).1 hzero)

theorem isZero_rate (h : a.members ≠ 0) (hlarge : a.members < 2 ^ 63) :
    a.rate.isZero = true ↔ a.favorable = 0 :=
  Double.isZero_div_ofNat (Nat.pos_of_ne_zero h) (a.favorable_le.trans_lt hlarge) hlarge

/-- A rate is rounded once. -/
theorem rate_eq_nearest (h : a.members ≠ 0) (hexact : a.members < 2 ^ 53) :
    a.rate = .nearest false a.favorable a.members :=
  Double.div_ofNat (Nat.pos_of_ne_zero h) (a.favorable_le.trans_lt hexact) hexact

end Tally

/-! ### Counting -/

/-- Rows that are chosen once each are counted as all rows are, when the others do not count. -/
theorem countP_chosen {p q : Nat → Bool} {order : List Nat} {n : Nat} (hnodup : order.Nodup)
    (hlt : ∀ i ∈ order, i < n) (hsame : ∀ k i, order[k]? = some i → q k = p i)
    (hout : ∀ i < n, i ∉ order → p i = false) :
    (List.range order.length).countP q = (List.range n).countP p := by
  have hchosen : (List.range order.length).map (order.getD · 0) = order :=
    List.ext_getElem (by simp) fun k _ hk => by simp [hk]
  have hperm : order.Perm ((List.range n).filter (· ∈ order)) := by
    rw [List.perm_ext_iff_of_nodup hnodup (List.nodup_range.filter _)]
    intro i
    simp only [List.mem_filter, List.mem_range, decide_eq_true_eq]
    exact ⟨fun h => ⟨hlt i h, h⟩, And.right⟩
  calc (List.range order.length).countP q
      = (List.range order.length).countP (p ∘ (order.getD · 0)) := by
        refine List.countP_congr fun k hk => ?_
        have hget := List.getElem?_eq_getElem (List.mem_range.1 hk)
        rw [Function.comp_apply, List.getD_eq_getElem?_getD, hget, Option.getD_some,
          hsame k _ hget]
    _ = order.countP p := by rw [← List.countP_map, hchosen]
    _ = ((List.range n).filter (· ∈ order)).countP p := hperm.countP_eq p
    _ = (List.range n).countP p := by
        rw [List.countP_filter]
        refine List.countP_congr fun i hi => ?_
        by_cases h : i ∈ order
        · simp [h]
        · simp [h, hout i (List.mem_range.1 hi) h]

/-- Rows with the same values belong to the same groups. -/
theorem belongs_congr {attributes : List String} {i j : Nat}
    (h : ∀ name ∈ attributes, s.number? name i = t.number? name j) (values : List Double) :
    belongs s attributes values i = belongs t attributes values j := by
  rw [Bool.eq_iff_iff, belongs, belongs, List.any_eq_true, List.any_eq_true]
  refine exists_congr fun p => and_congr_right fun hp => ?_
  rw [h p.1 (List.of_mem_zip hp).1]

/-- **Where rows stand**, and rows that are not in the group, do not count. -/
theorem tally_selectRows (ht : t.Regular) {order : List Nat} (hnodup : order.Nodup)
    (hlt : ∀ i ∈ order, i < t.rows) {values : List Double}
    (hout : ∀ i < t.rows, i ∉ order → belongs t config.attributes values i = false) :
    tally config values (t.selectRows order) = tally config values t := by
  have hbelongs : ∀ k i, order[k]? = some i →
      belongs (t.selectRows order) config.attributes values k =
        belongs t config.attributes values i :=
    fun k i hi => belongs_congr (fun name _ => Table.number?_selectRows ht hlt hi name) values
  have hmembers := countP_chosen hnodup hlt hbelongs hout
  have hfavorable := countP_chosen hnodup hlt
    (p := fun i => belongs t config.attributes values i && favors config t i)
    (q := fun k => belongs (t.selectRows order) config.attributes values k &&
      favors config (t.selectRows order) k)
    (fun k i hi => by rw [hbelongs k i hi, favors, favors, Table.number?_selectRows ht hlt hi])
    (fun i hi hmem => by rw [hout i hi hmem, Bool.false_and])
  rw [← Table.rows_selectRows ht hlt] at hmembers hfavorable
  exact Tally.ext hmembers hfavorable

/-- **Where columns stand**, and columns that are not named, do not count. -/
theorem tally_of_subset (hs : s.Regular) (ht : t.Regular) (hsub : ∀ c ∈ s.columns, c ∈ t.columns)
    (hrows : s.rows = t.rows) (hlabel : config.labelName ∈ s.names)
    (hattributes : ∀ name ∈ config.attributes, name ∈ s.names) (values : List Double) :
    tally config values s = tally config values t := by
  have hbelongs : belongs s config.attributes values = belongs t config.attributes values := by
    funext i
    exact belongs_congr (fun name hname =>
      Table.number?_of_subset hs ht hsub (hattributes name hname) i) values
  have hfavors : favors config s = favors config t := by
    funext i
    rw [favors, favors, Table.number?_of_subset hs ht hsub hlabel]
  simp only [tally, hbelongs, hfavors, hrows]

/-! ### The counts of a dataset -/

theorem zipWith_condition (attributes : List String) (values : List Double) :
    attributes.zipWith Condition.mk values =
      (attributes.zip values).map fun p => ⟨p.1, p.2⟩ :=
  List.map_uncurry_zip_eq_zipWith.symm

/-- The members of a group are marked row by row. -/
theorem members_eq (hd : Dataset.Reads config t d) (values : List Double) :
    d.members (config.attributes.zipWith Condition.mk values) =
      .ok ((List.range t.rows).map (belongs t config.attributes values)) := by
  -- Every condition names an attribute, so no look-up fails.
  have hnamed : ∀ c ∈ config.attributes.zipWith Condition.mk values,
      ∃ column, d.attribute? c.name = some column := by
    intro c hc
    rw [zipWith_condition, List.mem_map] at hc
    obtain ⟨p, hp, rfl⟩ := hc
    obtain ⟨column, hcolumn, -⟩ := hd.values p.1 (List.of_mem_zip hp).1
    exact ⟨column, hcolumn⟩
  rw [Dataset.members, bind_of_ok (Dataset.mapM_conditionColumn hnamed),
    ← List.map_prod_left_eq_zip, Dataset.rows, hd.rows]
  refine congrArg Except.ok (List.map_congr_left fun i hi => ?_)
  rw [zipWith_condition, List.map_map, List.any_map, Bool.eq_iff_iff, belongs, List.any_eq_true,
    List.any_eq_true]
  refine exists_congr fun p => and_congr_right fun hp => ?_
  obtain ⟨column, hcolumn, hvalues⟩ := hd.values p.1 (List.of_mem_zip hp).1
  simp only [Function.comp_apply, hcolumn, Option.getD_some, hvalues i (List.mem_range.1 hi)]

/-- **The counts of a group** are those of the table. -/
theorem counts_eq (hd : Dataset.Reads config t d) (values : List Double) :
    d.counts (config.attributes.zipWith Condition.mk values) =
      .ok ((tally config values t).members, (tally config values t).favorable) := by
  -- Marks and labels are lists over the same rows, so that a pair of them is one row.
  have hlabels : d.labels = (List.range t.rows).map (d.labels.getD · .zero) := by
    rw [← hd.rows]
    exact List.ext_getElem (by simp) fun k hk _ => by simp [List.getD_eq_getElem?_getD, hk]
  have hlabel : ∀ i ∈ List.range t.rows,
      (d.labels.getD i .zero).agrees config.favorable = favors config t i := by
    intro i hi
    have hi' : i < d.labels.length := hd.rows ▸ List.mem_range.1 hi
    rw [favors, hd.label, List.getD_eq_getElem?_getD, List.getElem?_eq_getElem hi']
    rfl
  rw [Dataset.counts, bind_of_ok (members_eq hd values)]
  nth_rewrite 1 [hlabels]
  dsimp only
  rw [List.zip_map', List.filterMap_map, List.length_filterMap_eq_countP, List.countP_filterMap]
  refine congrArg Except.ok (Prod.ext (List.countP_congr fun i _ => ?_)
    (List.countP_congr fun i hi => ?_))
  · by_cases h : belongs t config.attributes values i = true <;> simp [h]
  · rw [← hlabel i hi, ← hd.favorable]
    by_cases h : belongs t config.attributes values i = true <;> simp [h]

/-- The rate of a group without members is none. -/
theorem favorableRate_eq (hd : Dataset.Reads config t d) (values : List Double) :
    d.favorableRate (config.attributes.zipWith Condition.mk values) =
      .ok (if (tally config values t).members = 0 then none
        else some (tally config values t).rate) := by
  rw [Dataset.favorableRate, bind_of_ok (counts_eq hd values)]
  rfl

end ModelProbe.Fairness
