import ModelProbe.Proofs.Fairness.Metric
import ModelProbe.Proofs.Table.Texts

/-! Why a table is not judged.

What a configuration can get wrong is found when it is accepted, so a table is refused for what is
in the table: a column that is not there, a text where a number is wanted, a label that is neither
of the two (`Dataset.Refusal`), and beyond that for groups on which a metric is not defined. Checks
that an accepted configuration has passed never fail later: `calculate_refusals` says of every
accepted configuration and every table which error comes, and that it is none of the others. -/
namespace ModelProbe.Fairness

namespace Dataset

variable {t : Table} {config : Config} {e : Error}

/-- The columns that are named are there. -/
def Named (config : Config) (t : Table) : Prop :=
  config.labelName ∈ t.names ∧ ∀ name ∈ config.attributes, name ∈ t.names

/-- Every row has one of the two labels. -/
def Labelled (config : Config) (t : Table) : Prop :=
  ∀ i < t.rows, ∃ x, t.number? config.labelName i = some x ∧ isLabel config x = true

/-- Why a table is no labelled data: what is wrong first, in the order of the checks. -/
inductive Refusal (config : Config) (t : Table) : Error → Prop where
  /-- The first column that is named and not there, the label before the attributes. -/
  | missingColumn {i : Nat} {name : String}
      (first : FirstAt (· ∉ t.names) (config.labelName :: config.attributes) i name) :
      Refusal config t (.missingColumn name)
  /-- The first text among the labels. -/
  | textLabel {i : Nat} (named : Named config t) (first : t.FirstTextOf config.labelName i) :
      Refusal config t (.table (.unsupported (.nonNumericCell config.labelName i)))
  /-- The first label that is neither of the two. -/
  | invalidLabel {i : Nat} {x : Double} (named : Named config t)
      (numbers : ∀ k < t.rows, ¬t.IsText config.labelName k)
      (here : t.number? config.labelName i = some x) (other : isLabel config x = false)
      (above : ∀ k < i, ∃ y, t.number? config.labelName k = some y ∧ isLabel config y = true) :
      Refusal config t (.invalidLabel i x config.favorable config.unfavorable)
  /-- The first text by rows. -/
  | text {name : String} {i : Nat} (named : Named config t) (labelled : Labelled config t)
      (first : t.FirstText name i) :
      Refusal config t (.table (.unsupported (.nonNumericCell name i)))
  /-- More cells than an array can count. -/
  | tooLarge (named : Named config t) (labelled : Labelled config t) (numeric : t.Numeric)
      (uncounted : Matrix.fits t.rows (t.width - 1) = false) :
      Refusal config t (.table (.unsupported .tableTooLarge))

/-! ### The checks -/

theorem liftTable_eq_error_iff {α : Type} {x : Except ModelProbe.Error α} :
    liftTable x = .error e ↔ ∃ source, x = .error source ∧ e = .table source := by
  cases x <;> simp [liftTable, eq_comm]

theorem checkColumns_eq_error_iff : checkColumns t config = .error e ↔
    ∃ i name, FirstAt (· ∉ t.names) (config.labelName :: config.attributes) i name ∧
      e = .missingColumn name := by
  have hfound : ∀ name,
      (config.labelName :: config.attributes).find? (· ∉ t.names) = some name ↔
        ∃ i, FirstAt (· ∉ t.names) (config.labelName :: config.attributes) i name := by
    intro name
    rw [find?_eq_some_iff_firstAt]
    simp only [decide_eq_true_eq]
  rw [checkColumns]
  constructor
  · intro h
    cases hname : (config.labelName :: config.attributes).find? (· ∉ t.names) with
    | none =>
      rw [hname] at h
      cases h
    | some name =>
      rw [hname] at h
      cases h
      obtain ⟨i, hfirst⟩ := (hfound name).1 hname
      exact ⟨i, name, hfirst, rfl⟩
  · rintro ⟨i, name, hfirst, rfl⟩
    rw [(hfound name).2 ⟨i, hfirst⟩]

theorem checkLabels_eq_error_iff {labels : List Double} : checkLabels config labels = .error e ↔
    ∃ i x, FirstAt (fun y => isLabel config y = false) labels i x ∧
      e = .invalidLabel i x config.favorable config.unfavorable := by
  have hfound : ∀ x i, labels.zipIdx.find? (fun p => !isLabel config p.1) = some (x, i) ↔
      FirstAt (fun y => isLabel config y = false) labels i x := by
    intro x i
    rw [find?_eq_some_iff_firstAt]
    simp only [Bool.not_eq_true']
    constructor
    · rintro ⟨k, hfirst⟩
      obtain ⟨rfl, hfirst⟩ := (firstAt_zipIdx_iff (P := fun y => isLabel config y = false)).1 hfirst
      exact hfirst
    · intro hfirst
      exact ⟨i, (firstAt_zipIdx_iff (P := fun y => isLabel config y = false)).2 ⟨rfl, hfirst⟩⟩
  rw [checkLabels]
  constructor
  · intro h
    cases hlabel : labels.zipIdx.find? fun p => !isLabel config p.1 with
    | none =>
      rw [hlabel] at h
      cases h
    | some p =>
      rw [hlabel] at h
      cases h
      exact ⟨p.2, p.1, (hfound p.1 p.2).1 hlabel, rfl⟩
  · rintro ⟨i, x, hfirst, rfl⟩
    rw [(hfound x i).2 hfirst]

/-- The labels that were read are those of the table. -/
theorem labelled_iff (ht : t.Regular) {labels : List Double}
    (hlabels : t.numericColumn config.labelName = .ok labels) :
    Labelled config t ↔ ∀ x ∈ labels, isLabel config x = true := by
  obtain ⟨hrows, hnumbers⟩ := Table.number?_of_numericColumn ht hlabels
  rw [Labelled, ← hrows]
  constructor
  · intro h x hx
    obtain ⟨i, hi, rfl⟩ := List.getElem_of_mem hx
    obtain ⟨y, hy, hlabel⟩ := h i hi
    rw [hnumbers, List.getElem?_eq_getElem hi, Option.some.injEq] at hy
    exact hy ▸ hlabel
  · intro h i hi
    exact ⟨labels[i], (hnumbers i).trans (List.getElem?_eq_getElem hi), h _ (List.getElem_mem hi)⟩

/-! ### Refusals -/

/-- Of labels that are numbers, the table less their column has the same first text. -/
theorem firstText_without_iff (ht : t.Regular) {label : String}
    (hlabels : ∀ k < t.rows, ¬t.IsText label k) {name : String} {i : Nat} :
    (t.without label).FirstText name i ↔ t.FirstText name i := by
  have hwithout := Table.regular_without ht label
  have hnames := Table.names_without ht label
  have hother : ∀ k other, t.IsText other k → decide (other ≠ label) = true := by
    intro k other htext
    apply decide_eq_true
    rintro rfl
    exact hlabels k (htext.mem ht).2 htext
  have hsame : ∀ k, ∀ other ∈ (t.without label).names,
      ((t.without label).IsText other k ↔ t.IsText other k) := fun k other hmem =>
    Table.isText_of_subset hwithout ht (t.without_subset label) hmem
  have hrow : ∀ k, (∃ j, FirstAt ((t.without label).IsText · k) (t.without label).names j name) ↔
      ∃ j, FirstAt (t.IsText · k) t.names j name := by
    intro k
    rw [← exists_firstAt_filter_iff fun other _ => hother k other, ← hnames]
    exact exists_congr fun j => ⟨fun h => h.congr (hsame k), fun h =>
      h.congr fun other hmem => (hsame k other hmem).symm⟩
  constructor
  · rintro ⟨hhere, habove⟩
    refine ⟨(hrow i).1 hhere, fun k hk other _ htext => ?_⟩
    have hmem : other ∈ (t.without label).names := by
      rw [hnames, List.mem_filter]
      exact ⟨(htext.mem ht).1, hother k other htext⟩
    exact habove k hk other hmem ((hsame k other hmem).2 htext)
  · rintro ⟨hhere, habove⟩
    refine ⟨(hrow i).2 hhere, fun k hk other hmem htext => ?_⟩
    exact habove k hk other (List.mem_of_mem_filter (hnames ▸ hmem)) ((hsame k other hmem).1 htext)

theorem numeric_without_iff (ht : t.Regular) {label : String}
    (hlabels : ∀ k < t.rows, ¬t.IsText label k) : (t.without label).Numeric ↔ t.Numeric := by
  rw [← not_iff_not, ← Table.exists_firstText_iff (Table.regular_without ht label),
    ← Table.exists_firstText_iff ht]
  exact exists_congr fun name => exists_congr fun i => firstText_without_iff ht hlabels

theorem Labelled.no_text (ht : t.Regular) (h : Labelled config t)
    (hname : config.labelName ∈ t.names) : ∀ k < t.rows, ¬t.IsText config.labelName k := by
  intro k hk
  obtain ⟨x, hx, -⟩ := h k hk
  rw [← Table.exists_number?_iff ht hname hk]
  exact ⟨x, hx⟩

theorem readable_iff : Readable config t ↔ config.Valid ∧ Named config t ∧ Labelled config t ∧
    t.Numeric ∧ Matrix.fits t.rows (t.width - 1) = true := by
  constructor
  · intro h
    exact ⟨h.valid, ⟨h.label, h.attributes⟩, fun i hi => (h.row i hi).label, h.numeric, h.fits⟩
  · rintro ⟨hvalid, ⟨hlabel, hattributes⟩, hlabelled, hnumeric, hfits⟩
    exact ⟨hvalid, hlabel, hattributes, fun i hi =>
      ⟨fun name hname => hnumeric name hname i hi, hlabelled i hi⟩, hfits⟩

/-- Where reading a table can end. -/
theorem ofTable_eq_error_iff_steps (hvalid : config.Valid) : ofTable t config = .error e ↔
    checkColumns t config = .error e ∨ Named config t ∧
      (liftTable (t.numericColumn config.labelName) = .error e ∨
        ∃ labels, t.numericColumn config.labelName = .ok labels ∧
          (checkLabels config labels = .error e ∨ (∀ x ∈ labels, isLabel config x = true) ∧
            (liftTable (t.without config.labelName).toMatrix = .error e ∨
              ∃ features, (t.without config.labelName).toMatrix = .ok features ∧
                liftTable ((t.select config.attributes).bind Table.toMatrix) = .error e))) := by
  unfold ofTable
  rw [bind_of_ok (Config.validate_eq_ok_iff.2 hvalid), seq_eq_error_iff, checkColumns_eq_ok_iff]
  refine or_congr_right (and_congr_right fun _ => ?_)
  rw [bind_eq_error_iff]
  refine or_congr_right (exists_congr fun labels => ?_)
  rw [liftTable_eq_ok_iff, seq_eq_error_iff, checkLabels_eq_ok_iff]
  refine and_congr_right fun _ => or_congr_right (and_congr_right fun _ => ?_)
  rw [bind_eq_error_iff]
  refine or_congr_right (exists_congr fun features => ?_)
  rw [liftTable_eq_ok_iff, bind_eq_error_iff]
  refine and_congr_right fun _ => or_iff_left ?_
  rintro ⟨values, -, h⟩
  cases h

/-- Where the labels are in order, the features fail at the first text of the table, or past
counting. -/
theorem features_eq_error_iff (ht : t.Regular) (hvalid : config.Valid) (hnamed : Named config t)
    (hlabelled : Labelled config t) {source : ModelProbe.Error} :
    (t.without config.labelName).toMatrix = .error source ↔
      (∃ name i, t.FirstText name i ∧ source = .unsupported (.nonNumericCell name i)) ∨
        t.Numeric ∧ Matrix.fits t.rows (t.width - 1) = false ∧
          source = .unsupported .tableTooLarge := by
  have hnumbers := hlabelled.no_text ht hnamed.1
  obtain ⟨hrows, hwidth⟩ := size_without ht hvalid hnamed.1 hnamed.2
  rw [Table.toMatrix_eq_error_iff (Table.regular_without ht config.labelName), hrows, hwidth,
    numeric_without_iff ht hnumbers]
  simp only [firstText_without_iff ht hnumbers]

/-- Where there are features, the attributes among them do not fail. -/
theorem attributes_ne_error (ht : t.Regular) (hvalid : config.Valid) (hnamed : Named config t)
    (hlabelled : Labelled config t) {features : Matrix Double}
    (hfeatures : (t.without config.labelName).toMatrix = .ok features) {source : ModelProbe.Error} :
    (t.select config.attributes).bind Table.toMatrix ≠ .error source := by
  obtain ⟨hrows, hwidth⟩ := size_without ht hvalid hnamed.1 hnamed.2
  obtain ⟨hnumeric, hfits⟩ :=
    (Table.exists_toMatrix_iff (Table.regular_without ht config.labelName)).1 ⟨_, hfeatures⟩
  rw [numeric_without_iff ht (hlabelled.no_text ht hnamed.1)] at hnumeric
  rw [hrows, hwidth] at hfits
  obtain ⟨d, hd⟩ := exists_ofTable ht (readable_iff.2 ⟨hvalid, hnamed, hlabelled, hnumeric, hfits⟩)
  obtain ⟨-, -, _, -, -, _, -, s, hs, values, hvalues, -⟩ := ofTable_eq_ok_iff_steps.1 hd
  rw [hs]
  intro h
  exact absurd (hvalues.symm.trans h) nofun

/-- **Which tables are no labelled data, and why.** -/
theorem ofTable_eq_error_iff (ht : t.Regular) (hvalid : config.Valid) :
    ofTable t config = .error e ↔ Refusal config t e := by
  rw [ofTable_eq_error_iff_steps hvalid]
  constructor
  · rintro (h | ⟨hnamed, h | ⟨labels, hlabels, h | ⟨hchecked, h | ⟨features, hfeatures, h⟩⟩⟩⟩)
    · obtain ⟨i, name, hfirst, rfl⟩ := checkColumns_eq_error_iff.1 h
      exact .missingColumn hfirst
    · obtain ⟨source, hsource, rfl⟩ := liftTable_eq_error_iff.1 h
      obtain ⟨i, hfirst, rfl⟩ := (Table.numericColumn_eq_error_iff hnamed.1).1 hsource
      exact .textLabel hnamed hfirst
    · obtain ⟨i, x, hfirst, rfl⟩ := checkLabels_eq_error_iff.1 h
      obtain ⟨-, hnumbers⟩ := Table.number?_of_numericColumn ht hlabels
      refine .invalidLabel hnamed ((Table.exists_numericColumn_iff ht hnamed.1).1 ⟨labels, hlabels⟩)
        ((hnumbers i).trans hfirst.here) hfirst.holds fun k hk => ?_
      have hk' : k < labels.length := hk.trans (List.getElem?_eq_some_iff.1 hfirst.here).1
      have hy := List.getElem?_eq_getElem hk'
      exact ⟨labels[k], (hnumbers k).trans hy, by simpa using hfirst.before k _ hk hy⟩
    · obtain ⟨source, hsource, rfl⟩ := liftTable_eq_error_iff.1 h
      have hlabelled := (labelled_iff ht hlabels).2 hchecked
      rcases (features_eq_error_iff ht hvalid hnamed hlabelled).1 hsource with
        ⟨name, i, hfirst, rfl⟩ | ⟨hnumeric, hfits, rfl⟩
      · exact .text hnamed hlabelled hfirst
      · exact .tooLarge hnamed hlabelled hnumeric hfits
    · obtain ⟨source, hsource, -⟩ := liftTable_eq_error_iff.1 h
      have hlabelled := (labelled_iff ht hlabels).2 hchecked
      exact absurd hsource (attributes_ne_error ht hvalid hnamed hlabelled hfeatures)
  · -- Once the columns are there and the labels in order, only the features are left to fail.
    have hlate : ∀ {source}, Named config t → Labelled config t →
        (t.without config.labelName).toMatrix = .error source → e = .table source →
        ∃ labels, t.numericColumn config.labelName = .ok labels ∧
          (∀ x ∈ labels, isLabel config x = true) ∧
          liftTable (t.without config.labelName).toMatrix = .error e := by
      intro source hnamed hlabelled hsource he
      obtain ⟨labels, hlabels⟩ :=
        (Table.exists_numericColumn_iff ht hnamed.1).2 (hlabelled.no_text ht hnamed.1)
      exact ⟨labels, hlabels, (labelled_iff ht hlabels).1 hlabelled,
        liftTable_eq_error_iff.2 ⟨source, hsource, he⟩⟩
    intro h
    cases h with
    | missingColumn first => exact .inl (checkColumns_eq_error_iff.2 ⟨_, _, first, rfl⟩)
    | textLabel named first =>
      exact .inr ⟨named, .inl (liftTable_eq_error_iff.2
        ⟨_, (Table.numericColumn_eq_error_iff named.1).2 ⟨_, first, rfl⟩, rfl⟩)⟩
    | @invalidLabel i x named numbers here other above =>
      obtain ⟨labels, hlabels⟩ := (Table.exists_numericColumn_iff ht named.1).2 numbers
      obtain ⟨-, hnumbers⟩ := Table.number?_of_numericColumn ht hlabels
      have hfirst : FirstAt (fun y => isLabel config y = false) labels i x := by
        refine ⟨(hnumbers i).symm.trans here, other, fun k y hk hy => ?_⟩
        obtain ⟨z, hz, hlabel⟩ := above k hk
        rw [hnumbers, hy, Option.some.injEq] at hz
        simp [hz, hlabel]
      exact .inr ⟨named, .inr ⟨labels, hlabels,
        .inl (checkLabels_eq_error_iff.2 ⟨i, x, hfirst, rfl⟩)⟩⟩
    | text named labelled first =>
      obtain ⟨labels, hlabels, hchecked, hfails⟩ := hlate named labelled
        ((features_eq_error_iff ht hvalid named labelled).2 (.inl ⟨_, _, first, rfl⟩)) rfl
      exact .inr ⟨named, .inr ⟨labels, hlabels, .inr ⟨hchecked, .inl hfails⟩⟩⟩
    | tooLarge named labelled numeric uncounted =>
      obtain ⟨labels, hlabels, hchecked, hfails⟩ := hlate named labelled
        ((features_eq_error_iff ht hvalid named labelled).2 (.inr ⟨numeric, uncounted, rfl⟩)) rfl
      exact .inr ⟨named, .inr ⟨labels, hlabels, .inr ⟨hchecked, .inl hfails⟩⟩⟩

/-- What is wrong with a table is never the configuration, and of the errors about tables it is one
about values. -/
theorem Refusal.cause (h : Refusal config t e) :
    (∀ fault, e ≠ .configuration fault) ∧ (∀ fault, e ≠ .backend fault) ∧
      ∀ source, e = .table source → ∃ cause, source = .unsupported cause ∧
        (Matrix.fits t.rows (t.width - 1) = true →
          ∃ name i, cause = .nonNumericCell name i ∧ t.IsText name i) := by
  refine ⟨?_, ?_, ?_⟩
  · rintro fault rfl
    cases h
  · rintro fault rfl
    cases h
  · rintro source rfl
    cases h with
    | textLabel _ first => exact ⟨_, rfl, fun _ => ⟨_, _, rfl, first.text⟩⟩
    | text _ _ first =>
      obtain ⟨j, hfirst⟩ := first.here
      exact ⟨_, rfl, fun _ => ⟨_, _, rfl, hfirst.holds⟩⟩
    | tooLarge _ _ _ uncounted =>
      refine ⟨_, rfl, fun hfits => ?_⟩
      rw [uncounted] at hfits
      cases hfits

end Dataset

variable {t : Table} {config : Config} {kind : Kind} {m : Metric} {e : Error}

/-- On which groups a metric is not defined. -/
inductive Undefined (kind : Kind) (u p : Tally) : BackendFault → Prop where
  | noUnprivilegedRows (hu : u.members = 0) : Undefined kind u p .noUnprivilegedRows
  | noPrivilegedRows (hu : u.members ≠ 0) (hp : p.members = 0) :
      Undefined kind u p .noPrivilegedRows
  | noFavorableOutcomes (hkind : kind = .impactRatio) (hu : u.members ≠ 0) (hp : p.members ≠ 0)
      (hf : p.favorable = 0) : Undefined kind u p .noFavorableOutcomes

theorem outcome_eq_error_iff {u p : Tally} :
    outcome kind u p = .error e ↔ ∃ fault, e = .backend fault ∧ Undefined kind u p fault := by
  constructor
  · intro h
    unfold outcome at h
    by_cases hu : u.members = 0
    · rw [if_pos hu] at h
      cases h
      exact ⟨_, rfl, .noUnprivilegedRows hu⟩
    · rw [if_neg hu] at h
      by_cases hp : p.members = 0
      · rw [if_pos hp] at h
        cases h
        exact ⟨_, rfl, .noPrivilegedRows hu hp⟩
      · rw [if_neg hp] at h
        cases kind with
        | parityDifference => cases h
        | impactRatio =>
          by_cases hf : p.favorable = 0
          · simp only [if_pos hf] at h
            cases h
            exact ⟨_, rfl, .noFavorableOutcomes rfl hu hp hf⟩
          · simp only [if_neg hf] at h
            cases h
  · rintro ⟨fault, rfl, h⟩
    cases h with
    | noUnprivilegedRows hu => simp [outcome, hu]
    | noPrivilegedRows hu hp => simp [outcome, hu, hp]
    | noFavorableOutcomes hkind hu hp hf => simp [outcome, hkind, hu, hp, hf]

/-- A group has one condition for each attribute. -/
theorem map_zipWith_condition {attributes : List String} {values : List Double}
    (h : values.length = attributes.length) :
    (attributes.zipWith Condition.mk values).map Condition.name = attributes ∧
      (attributes.zipWith Condition.mk values).map Condition.value = values := by
  rw [zipWith_condition, List.map_map, List.map_map]
  exact ⟨List.map_fst_zip (Nat.le_of_eq h.symm), List.map_snd_zip (Nat.le_of_eq h)⟩

/-- A table that can be read is not refused. -/
theorem Dataset.Readable.not_refusal (h : Dataset.Readable config t) (ht : t.Regular) :
    ¬Dataset.Refusal config t e := by
  intro hrefused
  obtain ⟨d, hd⟩ := Dataset.exists_ofTable ht h
  rw [(Dataset.ofTable_eq_error_iff ht h.valid).2 hrefused] at hd
  cases hd

/-- A table that cannot be read is refused. -/
theorem calculate_of_not_readable (kind : Kind) (ht : t.Regular) (hvalid : config.Valid)
    (h : ¬Dataset.Readable config t) : ∃ e, Dataset.Refusal config t e ∧
      Metric.calculate ⟨kind, config, baseRates⟩ t = .error e := by
  cases hd : Dataset.ofTable t config with
  | ok d => exact absurd (Dataset.reads_of_ofTable ht hd).1 h
  | error e =>
    exact ⟨e, (Dataset.ofTable_eq_error_iff ht hvalid).1 hd, bind_of_error hd _⟩

theorem calculate_eq_error_iff (ht : t.Regular) (hvalid : config.Valid) :
    Metric.calculate ⟨kind, config, baseRates⟩ t = .error e ↔
      Dataset.Refusal config t e ∨ Dataset.Readable config t ∧ ∃ fault, e = .backend fault ∧
        Undefined kind (tally config config.unprivileged t) (tally config config.privileged t)
          fault := by
  by_cases h : Dataset.Readable config t
  · rw [calculate_eq ht h, outcome_eq_error_iff, or_iff_right (h.not_refusal ht),
      and_iff_right h]
  · obtain ⟨e', hrefused, he⟩ := calculate_of_not_readable kind ht hvalid h
    rw [he, Except.error.injEq, or_iff_left fun hreadable => h hreadable.1,
      ← Dataset.ofTable_eq_error_iff ht hvalid, (Dataset.ofTable_eq_error_iff ht hvalid).2 hrefused,
      Except.error.injEq]

theorem exists_calculate_iff (ht : t.Regular) (hvalid : config.Valid) :
    (∃ x, Metric.calculate ⟨kind, config, baseRates⟩ t = .ok x) ↔
      Dataset.Readable config t ∧ ∀ fault, ¬Undefined kind (tally config config.unprivileged t)
        (tally config config.privileged t) fault := by
  by_cases h : Dataset.Readable config t
  · rw [calculate_eq ht h, and_iff_right h]
    generalize tally config config.unprivileged t = u
    generalize tally config config.privileged t = p
    constructor
    · rintro ⟨x, hx⟩ fault hfault
      rw [outcome_eq_error_iff.2 ⟨fault, rfl, hfault⟩] at hx
      cases hx
    · intro hdefined
      cases houtcome : outcome kind u p with
      | ok x => exact ⟨x, rfl⟩
      | error e =>
        obtain ⟨fault, -, hfault⟩ := outcome_eq_error_iff.1 houtcome
        exact absurd hfault (hdefined fault)
  · obtain ⟨e, -, he⟩ := calculate_of_not_readable kind ht hvalid h
    rw [he]
    exact iff_of_false nofun fun hreadable => h hreadable.1

/-- **Accepting a configuration checks all of it.** A metric made of a configuration judges every
table, or refuses it for what is in the table: it names the first missing column, the label before
the attributes; the first text among the labels; the first label that is neither of the two; the
first text by rows; or the groups, where the metric is not defined on them. It never finds fault
with the configuration, and of the errors about tables it gives those about texts alone, as long as
an array can count the table. Each group has one condition for each attribute, with the group's
value. -/
theorem calculate_refusals (hmade : Metric.make kind config baseRates = .ok m) (ht : t.Reachable) :
    let u := tally config config.unprivileged t
    let p := tally config config.privileged t
    (∀ e, m.calculate t = .error e ↔ Dataset.Refusal config t e ∨
      Dataset.Readable config t ∧ ∃ fault, e = .backend fault ∧ Undefined kind u p fault) ∧
    ((∃ x, m.calculate t = .ok x) ↔
      Dataset.Readable config t ∧ ∀ fault, ¬Undefined kind u p fault) ∧
    (∀ fault, m.calculate t ≠ .error (.configuration fault)) ∧
    (∀ source, m.calculate t = .error (.table source) → ∃ cause, source = .unsupported cause ∧
      (Matrix.fits t.rows (t.width - 1) = true →
        ∃ name i, cause = .nonNumericCell name i ∧ t.IsText name i)) ∧
    m.config.unprivilegedGroup.map Condition.name = config.attributes ∧
    m.config.unprivilegedGroup.map Condition.value = config.unprivileged ∧
    m.config.privilegedGroup.map Condition.name = config.attributes ∧
    m.config.privilegedGroup.map Condition.value = config.privileged := by
  intro u p
  obtain ⟨hvalid, rfl⟩ := make_eq_ok_iff.1 hmade
  have herror : ∀ e, Metric.calculate ⟨kind, config, baseRates⟩ t = .error e ↔
      Dataset.Refusal config t e ∨
        Dataset.Readable config t ∧ ∃ fault, e = .backend fault ∧ Undefined kind u p fault :=
    fun e => calculate_eq_error_iff ht.regular hvalid
  obtain ⟨hunames, huvalues⟩ := map_zipWith_condition hvalid.unprivileged
  obtain ⟨hpnames, hpvalues⟩ := map_zipWith_condition hvalid.privileged
  refine ⟨herror, exists_calculate_iff ht.regular hvalid, fun fault h => ?_, fun source h => ?_,
    hunames, huvalues, hpnames, hpvalues⟩
  · rcases (herror _).1 h with hrefused | ⟨-, _, hbackend, -⟩
    · exact hrefused.cause.1 fault rfl
    · cases hbackend
  · rcases (herror _).1 h with hrefused | ⟨-, _, hbackend, -⟩
    · exact hrefused.cause.2.2 source rfl
    · cases hbackend

/-- Two applicants have labels of their own, the first of them in row 1, and without the column of
the sexes it is this column that is missed. -/
theorem calculate_refusals_applicants :
    let m : Metric := ⟨.parityDifference, hiring, baseRates⟩
    let labels := applicants [1, 1, 0] [1, 0, 0] [1, 2, 3]
    let ages := labels.without "sex"
    labels.Reachable ∧ ages.Reachable ∧
      m.calculate labels = .error (.invalidLabel 1 (.ofNat 2) (.ofNat 1) (.ofNat 0)) ∧
      m.calculate ages = .error (.missingColumn "sex") := by
  intro m labels ages
  have hmade : Metric.make .parityDifference hiring baseRates = .ok m := rfl
  have hcolumns : Table.ofColumns labels.columns = .ok labels := rfl
  have hlabels : labels.Reachable := .ofColumns hcolumns
  have hages : ages.Reachable := hlabels.without "sex"
  have hnamed : Dataset.Named hiring labels := ⟨by decide, by decide⟩
  have hnumbers : ∀ k < labels.rows, ¬labels.IsText hiring.labelName k :=
    (Table.exists_numericColumn_iff hlabels.regular hnamed.1).1 ⟨_, rfl⟩
  refine ⟨hlabels, hages, ?_, ?_⟩
  · refine ((calculate_refusals hmade hlabels).1 _).2
      (.inl (.invalidLabel hnamed hnumbers rfl (by decide +kernel) fun k hk => ?_))
    obtain rfl : k = 0 := by omega
    exact ⟨.ofNat 1, rfl, by decide +kernel⟩
  · refine ((calculate_refusals hmade hages).1 _).2
      (.inl (.missingColumn (i := 1) ⟨rfl, by decide, fun j name hj hname => ?_⟩))
    obtain rfl : j = 0 := by omega
    cases hname
    decide

end ModelProbe.Fairness
