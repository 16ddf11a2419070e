import ModelProbe.Proofs.Binary.Comparison
import ModelProbe.Proofs.Fairness.Metric

/-! The two labels exchanged.

With its labels exchanged a configuration reads the same tables, and reads the same of them
(`ofTable_swapped`). So a group has the same members. Each of their labels is one of the two and not
the other, since the two are different numbers (`agrees_unfavorable`). The members that were favored
and those that now are therefore make up the group (`swapped_complements`). -/
namespace ModelProbe.Fairness

namespace Config

variable {c : Config}

def swapped (c : Config) : Config :=
  { c with favorable := c.unfavorable, unfavorable := c.favorable }

theorem Valid.swapped (h : c.Valid) : c.swapped.Valid :=
  { h with
    finite := h.finite.symm
    different := (Double.agrees_comm ..).trans h.different }

end Config

namespace Dataset

variable {t : Table} {config : Config} {d : Dataset} {conditions : List Condition} {x : Double}

def swapped (d : Dataset) : Dataset :=
  { d with favorable := d.unfavorable, unfavorable := d.favorable }

/-! ### Reading -/

theorem isLabel_swapped (config : Config) (x : Double) :
    isLabel config.swapped x = isLabel config x :=
  Bool.or_comm ..

theorem ofTable_swapped_of_eq_ok (h : ofTable t config = .ok d) :
    ofTable t config.swapped = .ok d.swapped := by
  obtain ⟨hvalid, hnamed, labels, hlabels, hchecked, features, hfeatures, s, hs, values, hvalues,
    rfl⟩ := ofTable_eq_ok_iff_steps.1 h
  exact ofTable_eq_ok_iff_steps.2 ⟨hvalid.swapped, hnamed, labels, hlabels,
    fun x hx => (isLabel_swapped config x).trans (hchecked x hx), features, hfeatures, s, hs,
    values, hvalues, rfl⟩

/-- **With the labels exchanged the same is read**, but for which is which. -/
theorem ofTable_swapped : ofTable t config.swapped = .ok d.swapped ↔ ofTable t config = .ok d :=
  ⟨ofTable_swapped_of_eq_ok, ofTable_swapped_of_eq_ok⟩

theorem exists_ofTable_swapped_iff :
    (∃ d, ofTable t config.swapped = .ok d) ↔ ∃ d, ofTable t config = .ok d := by
  constructor
  · rintro ⟨d, h⟩
    exact ⟨d.swapped, ofTable_swapped_of_eq_ok h⟩
  · rintro ⟨d, h⟩
    exact ⟨d.swapped, ofTable_swapped.2 h⟩

/-- Each row of a dataset has one label and not the other. -/
structure Labels (config : Config) (d : Dataset) : Prop where
  attributes : d.attributes = config.attributes
  complement : ∀ x ∈ d.labels, x.agrees d.unfavorable = !x.agrees d.favorable

/-- A label is one of the two and not the other. -/
theorem agrees_unfavorable (h : config.Valid) (hx : isLabel config x = true) :
    x.agrees config.unfavorable = !x.agrees config.favorable := by
  cases hfavorable : x.agrees config.favorable with
  | false =>
    rw [isLabel, hfavorable, Bool.false_or] at hx
    rw [hx, Bool.not_false]
  | true =>
    rw [Bool.not_true, Double.agrees_comm, Double.agrees_congr hfavorable, Double.agrees_comm]
    exact h.different

theorem labels_of_ofTable (h : ofTable t config = .ok d) : Labels config d := by
  obtain ⟨hvalid, -, labels, -, hchecked, features, -, s, -, values, -, rfl⟩ :=
    ofTable_eq_ok_iff_steps.1 h
  exact ⟨rfl, fun x hx => agrees_unfavorable hvalid (hchecked x hx)⟩

/-! ### Counting -/

/-- Conditions on attributes mark every row. -/
theorem exists_members (h : ∀ c ∈ conditions, c.name ∈ d.attributes) :
    ∃ marks, d.members conditions = .ok marks ∧ marks.length = d.labels.length := by
  have hnamed : ∀ c ∈ conditions, ∃ column, d.attribute? c.name = some column := by
    intro c hc
    obtain ⟨j, hj, -⟩ := exists_findIdx? (h c hc)
    exact ⟨d.attributeValues.column j, congrArg (Option.map _) hj⟩
  refine ⟨_, bind_of_ok (mapM_conditionColumn hnamed) _, ?_⟩
  rw [List.length_map, List.length_range, rows]

/-- The labels of the members are counted. -/
theorem counts_of_members {marks : List Bool} (h : d.members conditions = .ok marks)
    (hmarks : marks.length = d.labels.length) :
    ∃ labels : List Double, (∀ x ∈ labels, x ∈ d.labels) ∧ labels.length = marks.count true ∧
      d.counts conditions = .ok (labels.length, labels.countP (·.agrees d.favorable)) ∧
      d.swapped.counts conditions =
        .ok (labels.length, labels.countP (·.agrees d.unfavorable)) := by
  refine ⟨_, fun x hx => ?_, ?_, bind_of_ok h _, bind_of_ok (x := d.swapped.members _) h _⟩
  · obtain ⟨⟨mark, y⟩, hmem, hy⟩ := List.mem_filterMap.1 hx
    obtain ⟨-, rfl⟩ : mark = true ∧ y = x := by simpa using hy
    exact (List.of_mem_zip hmem).2
  · have hmembers : (marks.zip d.labels).countP Prod.fst = marks.count true := by
      nth_rewrite 2 [← List.map_fst_zip (Nat.le_of_eq hmarks)]
      rw [List.count_eq_countP, List.countP_map]
      exact List.countP_congr fun p _ => by simp
    rw [List.length_filterMap_eq_countP, ← hmembers]
    refine List.countP_congr fun p _ => ?_
    by_cases hp : p.1 = true <;> simp [hp]

theorem favorableRate_of_counts {n f : Nat} (h : d.counts conditions = .ok (n, f)) :
    d.favorableRate conditions =
      .ok (if n = 0 then none else some ((Double.ofNat f).div (.ofNat n))) :=
  bind_of_ok h _

/-- Members have one label or the other. -/
theorem countP_complement {labels : List Double} {p q : Double → Bool}
    (h : ∀ x ∈ labels, q x = !p x) : labels.countP p + labels.countP q = labels.length := by
  rw [List.length_eq_countP_add_countP p]
  refine congrArg (_ + ·) (List.countP_congr fun x hx => ?_)
  rw [h x hx]
  simp

end Dataset

variable {config : Config}

/-- **Exchanging the labels complements every group.** An accepted configuration is accepted with
its labels exchanged, and reads the same tables. Whatever conditions on the attributes make a group,
it has the same members; what is favored in one of the datasets is not in the other, so that the two
counts add up to the members; and there is a rate in both or in neither. -/
theorem swapped_complements (hvalid : config.validate = .ok ()) (t : Table) :
    config.swapped.validate = .ok () ∧
    ((∃ d, Dataset.ofTable t config.swapped = .ok d) ↔ ∃ d, Dataset.ofTable t config = .ok d) ∧
    ∀ d d', Dataset.ofTable t config = .ok d → Dataset.ofTable t config.swapped = .ok d' →
      ∀ conditions : List Condition, (∀ c ∈ conditions, c.name ∈ config.attributes) →
        ∃ marks f f', d.members conditions = .ok marks ∧ d'.members conditions = .ok marks ∧
          d.counts conditions = .ok (marks.count true, f) ∧
          d'.counts conditions = .ok (marks.count true, f') ∧ f + f' = marks.count true ∧
          d.favorableRate conditions = .ok (if marks.count true = 0 then none
            else some ((Double.ofNat f).div (.ofNat (marks.count true)))) ∧
          d'.favorableRate conditions = .ok (if marks.count true = 0 then none
            else some ((Double.ofNat f').div (.ofNat (marks.count true)))) := by
  have hvalid := Config.validate_eq_ok_iff.1 hvalid
  refine ⟨Config.validate_eq_ok_iff.2 hvalid.swapped, Dataset.exists_ofTable_swapped_iff, ?_⟩
  intro d d' hd hd' conditions hconditions
  have hlabels := Dataset.labels_of_ofTable hd
  obtain rfl : d.swapped = d' := Except.ok.inj ((Dataset.ofTable_swapped.2 hd).symm.trans hd')
  rw [← hlabels.attributes] at hconditions
  obtain ⟨marks, hmembers, hmarks⟩ := Dataset.exists_members hconditions
  obtain ⟨labels, hsub, hlength, hcounts, hcounts'⟩ := Dataset.counts_of_members hmembers hmarks
  have hsum := Dataset.countP_complement fun x hx => hlabels.complement x (hsub x hx)
  rw [hlength] at hcounts hcounts' hsum
  exact ⟨marks, _, _, hmembers, hmembers, hcounts, hcounts', hsum,
    Dataset.favorableRate_of_counts hcounts, Dataset.favorableRate_of_counts hcounts'⟩

/-- Three of four are hired, and one is not. -/
theorem swapped_complements_applicants :
    let t := applicants [1, 1, 0, 0] [1, 0, 0, 0] [1, 0, 1, 1]
    let conditions : List Condition := [⟨"sex", .ofNat 1⟩, ⟨"age", .zero⟩]
    ∃ d d', Dataset.ofTable t hiring = .ok d ∧ Dataset.ofTable t hiring.swapped = .ok d' ∧
      d.counts conditions = .ok (4, 3) ∧ d'.counts conditions = .ok (4, 1) := by
  intro t conditions
  have haccepted : hiring.validate = .ok () := rfl
  obtain ⟨-, hsame, hcomplement⟩ := swapped_complements haccepted t
  have hthree : (Dataset.ofTable t hiring).toOption.map (·.counts conditions |>.toOption) =
      some (some (4, 3)) := by decide +kernel
  cases hd : Dataset.ofTable t hiring with
  | error e =>
    rw [hd] at hthree
    cases hthree
  | ok d =>
    obtain ⟨d', hd'⟩ := hsame.2 ⟨d, hd⟩
    obtain ⟨marks, f, f', -, -, hcounts, hcounts', hsum, -⟩ :=
      hcomplement d d' hd hd' conditions (by decide)
    have hfour : marks.count true = 4 ∧ f = 3 := by
      rw [hd] at hthree
      simpa [Except.toOption, hcounts] using hthree
    obtain ⟨hmembers, rfl⟩ := hfour
    obtain rfl : f' = 1 := by omega
    rw [hmembers] at hcounts hcounts'
    exact ⟨d, d', rfl, hd', hcounts, hcounts'⟩

end ModelProbe.Fairness
