import ModelProbe.Fairness.Metric
import ModelProbe.Proofs.Fairness.Tally

/-! Metrics follow from four counts.

What a metric gives for labelled data is a function of the tallies of its two groups (`outcome`,
`calculate_eq`): a difference or a ratio of rates, or a fault of the backend where it would divide
by zero. So two tables with the same tallies are judged the same, wherever their rows and columns
stand and whatever they hold beside (`calculate_law`). -/
namespace ModelProbe.Fairness

/-- What a metric makes of the tallies of the unprivileged and the privileged group. -/
def outcome (kind : Kind) (u p : Tally) : Except Error Double :=
  if u.members = 0 then .error (.backend .noUnprivilegedRows)
  else if p.members = 0 then .error (.backend .noPrivilegedRows)
  else
    match kind with
    | .parityDifference => .ok (u.rate.sub p.rate)
    | .impactRatio =>
      if p.favorable = 0 then .error (.backend .noFavorableOutcomes) else .ok (u.rate.div p.rate)

/-- More columns of numbers than a table has, anywhere among its own. -/
structure Widened (t s : Table) : Prop where
  regular : s.Regular
  rows : s.rows = t.rows
  columns : ∀ c ∈ t.columns, c ∈ s.columns
  numeric : s.Numeric
  fits : Matrix.fits s.rows (s.width - 1) = true

/-- More rows than a table has, anywhere among its own, that can be read and are in neither
group. -/
structure Lengthened (config : Config) (t s : Table) : Prop where
  regular : s.Regular
  chosen : ∃ order : List Nat, order.Nodup ∧ (∀ i ∈ order, i < s.rows) ∧ s.selectRows order = t ∧
    ∀ i < s.rows, i ∉ order →
      Dataset.ReadableRow config s i ∧ belongs s config.attributes config.unprivileged i = false ∧
      belongs s config.attributes config.privileged i = false
  fits : Matrix.fits s.rows (s.width - 1) = true

variable {s t : Table} {config : Config} {d : Dataset} {kind : Kind} {m : Metric}

/-! ### The outcome -/

theorem make_eq_ok_iff {backend : Backend} :
    Metric.make kind config backend = .ok m ↔ config.Valid ∧ ⟨kind, config, backend⟩ = m := by
  unfold Metric.make
  rw [seq_eq_ok_iff, Config.validate_eq_ok_iff]
  simp [pure, Except.pure]

/-- The rates of two groups, or a fault for the first that has none. -/
theorem rates_eq (hd : Dataset.Reads config t d) {u p : Tally}
    (hu : tally config config.unprivileged t = u) (hp : tally config config.privileged t = p) :
    rates d config.unprivilegedGroup config.privilegedGroup =
      if u.members = 0 then .error (.backend .noUnprivilegedRows)
      else if p.members = 0 then .error (.backend .noPrivilegedRows)
      else .ok (u.rate, p.rate) := by
  have hrateU := favorableRate_eq hd config.unprivileged
  have hrateP := favorableRate_eq hd config.privileged
  rw [hu] at hrateU
  rw [hp] at hrateP
  rw [rates, Config.unprivilegedGroup, Config.privilegedGroup, bind_of_ok hrateU]
  by_cases hu0 : u.members = 0
  · simp only [if_pos hu0]
    rfl
  · simp only [if_neg hu0]
    rw [bind_of_ok hrateP]
    by_cases hp0 : p.members = 0
    · simp only [if_pos hp0]
      rfl
    · simp only [if_neg hp0]
      rfl

/-- **A metric is a function of four counts.** -/
theorem calculate_eq (ht : t.Regular) (h : Dataset.Readable config t) :
    Metric.calculate ⟨kind, config, baseRates⟩ t =
      outcome kind (tally config config.unprivileged t) (tally config config.privileged t) := by
  obtain ⟨d, hd⟩ := (Dataset.exists_ofTable_iff ht).2 h
  have hlarge : (tally config config.privileged t).members < 2 ^ 63 :=
    (members_le_rows ..).trans_lt (Matrix.rows_lt_of_fits h.fits)
  rw [Metric.calculate, bind_of_ok hd]
  generalize hu : tally config config.unprivileged t = u
  generalize hp : tally config config.privileged t = p at hlarge ⊢
  have hrates := rates_eq (Dataset.reads_of_ofTable ht hd).2 hu hp
  unfold outcome
  by_cases hu0 : u.members = 0
  · rw [if_pos hu0] at hrates ⊢
    cases kind <;> exact bind_of_error hrates _
  · rw [if_neg hu0] at hrates ⊢
    by_cases hp0 : p.members = 0
    · rw [if_pos hp0] at hrates ⊢
      cases kind <;> exact bind_of_error hrates _
    · rw [if_neg hp0] at hrates ⊢
      cases kind with
      | parityDifference => exact bind_of_ok hrates _
      | impactRatio =>
        refine (bind_of_ok hrates _).trans ?_
        have hdivisor := Tally.isZero_rate hp0 hlarge
        by_cases hzero : p.favorable = 0
        · simp only [if_pos hzero, if_pos (hdivisor.2 hzero)]
          rfl
        · simp only [if_neg hzero, if_neg (mt hdivisor.1 hzero)]
          rfl

/-! ### Tables that are judged the same -/

theorem Dataset.Readable.selectRows (h : Dataset.Readable config t) (ht : t.Regular)
    {order : List Nat} (hperm : order.Perm (List.range t.rows)) :
    Dataset.Readable config (t.selectRows order) := by
  have hlt : ∀ i ∈ order, i < t.rows := lt_of_perm_range hperm
  have hrows : (t.selectRows order).rows = order.length := Table.rows_selectRows ht hlt
  have hnames := Table.names_selectRows t order
  refine ⟨h.valid, hnames ▸ h.label, hnames ▸ h.attributes, fun k hk => ?_, ?_⟩
  · have hk : k < order.length := hrows ▸ hk
    have hrow := h.row order[k] (hlt _ (List.getElem_mem hk))
    exact hrow.congr hnames (Table.number?_selectRows ht hlt (List.getElem?_eq_getElem hk))
  · have hlength : order.length = t.rows := hperm.length_eq.trans List.length_range
    rw [hrows, hlength, ← Table.length_names, hnames, Table.length_names]
    exact h.fits

theorem Widened.readable (hs : Widened t s) (ht : t.Regular) (h : Dataset.Readable config t) :
    Dataset.Readable config s := by
  have hnames : ∀ name ∈ t.names, name ∈ s.names := by
    intro name hname
    obtain ⟨c, hc, rfl⟩ := List.mem_map.1 hname
    exact List.mem_map_of_mem (hs.columns c hc)
  refine ⟨h.valid, hnames _ h.label, fun name hname => hnames name (h.attributes name hname),
    fun i hi => ⟨fun name hname => hs.numeric name hname i hi, ?_⟩, hs.fits⟩
  rw [← Table.number?_of_subset ht hs.regular hs.columns h.label]
  exact (h.row i (hs.rows ▸ hi)).label

theorem Lengthened.readable (hs : Lengthened config t s) (h : Dataset.Readable config t) :
    Dataset.Readable config s := by
  obtain ⟨order, -, hlt, rfl, hout⟩ := hs.chosen
  have hrows := Table.rows_selectRows hs.regular hlt
  have hnames := Table.names_selectRows s order
  refine ⟨h.valid, hnames ▸ h.label, hnames ▸ h.attributes, fun i hi => ?_, hs.fits⟩
  by_cases hmem : i ∈ order
  · obtain ⟨k, hk, rfl⟩ := List.getElem_of_mem hmem
    have hsame := Table.number?_selectRows hs.regular hlt (List.getElem?_eq_getElem hk)
    exact (h.row k (hrows.symm ▸ hk)).congr hnames.symm fun name => (hsame name).symm
  · exact (hout i hi hmem).1

/-- Columns in another order. -/
theorem widened_of_perm (ht : t.Regular) (hnumeric : t.Numeric)
    (hfits : Matrix.fits t.rows (t.width - 1) = true) (hcolumns : s.columns.Perm t.columns)
    (hrows : s.rows = t.rows) : Widened t s := by
  have hregular : s.Regular := by
    refine ⟨(hcolumns.map Column.name).nodup_iff.2 ht.distinct, fun c hc => ?_, fun hnone => ?_⟩
    · exact (ht.lengths c (hcolumns.subset hc)).trans hrows.symm
    · rw [hrows]
      exact ht.no_rows (hnone ▸ hcolumns).symm.eq_nil
  refine ⟨hregular, hrows, fun c hc => hcolumns.symm.subset hc,
    hnumeric.of_subset hregular ht fun c hc => hcolumns.subset hc, ?_⟩
  rw [hrows, Table.width, hcolumns.length_eq]
  exact hfits

/-- Tables with the same tallies are judged the same. -/
theorem calculate_congr (hs : s.Regular) (hs' : Dataset.Readable config s) (ht : t.Regular)
    (ht' : Dataset.Readable config t)
    (h : ∀ values, values = config.unprivileged ∨ values = config.privileged →
      tally config values s = tally config values t) :
    Metric.calculate ⟨kind, config, baseRates⟩ s =
      Metric.calculate ⟨kind, config, baseRates⟩ t := by
  rw [calculate_eq hs hs', calculate_eq ht ht', h _ (.inl rfl), h _ (.inr rfl)]

theorem calculate_selectRows (ht : t.Regular) (h : Dataset.Readable config t) {order : List Nat}
    (hperm : order.Perm (List.range t.rows)) :
    Metric.calculate ⟨kind, config, baseRates⟩ (t.selectRows order) =
      Metric.calculate ⟨kind, config, baseRates⟩ t := by
  have hlt : ∀ i ∈ order, i < t.rows := lt_of_perm_range hperm
  refine calculate_congr (Table.regular_selectRows ht hlt) (h.selectRows ht hperm) ht h ?_
  intro values _
  refine tally_selectRows ht (hperm.nodup_iff.2 List.nodup_range) hlt fun i hi hmem => ?_
  exact absurd (hperm.mem_iff.2 (List.mem_range.2 hi)) hmem

theorem Widened.calculate_eq (hs : Widened t s) (ht : t.Regular) (h : Dataset.Readable config t) :
    Metric.calculate ⟨kind, config, baseRates⟩ s =
      Metric.calculate ⟨kind, config, baseRates⟩ t := by
  refine calculate_congr hs.regular (hs.readable ht h) ht h fun values _ => ?_
  exact (tally_of_subset ht hs.regular hs.columns hs.rows.symm h.label h.attributes values).symm

theorem Lengthened.calculate_eq (hs : Lengthened config t s) (ht : t.Regular)
    (h : Dataset.Readable config t) :
    Metric.calculate ⟨kind, config, baseRates⟩ s =
      Metric.calculate ⟨kind, config, baseRates⟩ t := by
  refine calculate_congr hs.regular (hs.readable h) ht h fun values hvalues => ?_
  obtain ⟨order, hnodup, hlt, rfl, hout⟩ := hs.chosen
  refine (tally_selectRows hs.regular hnodup hlt fun i hi hmem => ?_).symm
  obtain ⟨-, hu, hp⟩ := hout i hi hmem
  rcases hvalues with rfl | rfl
  · exact hu
  · exact hp

/-! ### The law -/

/-- Which tallies a metric is not defined on. -/
theorem exists_outcome_eq_error_iff {u p : Tally} :
    (∃ fault, outcome kind u p = .error (.backend fault)) ↔
      u.members = 0 ∨ p.members = 0 ∨ kind = .impactRatio ∧ p.favorable = 0 := by
  unfold outcome
  by_cases hu : u.members = 0
  · simp [hu]
  · by_cases hp : p.members = 0
    · simp [hu, hp]
    · cases kind with
      | parityDifference => simp [hu, hp]
      | impactRatio => by_cases hf : p.favorable = 0 <;> simp [hu, hp, hf]

/-- **The law of metrics.** Of labelled data a metric is a function of four counts, those of the
members and of the favorable members of each group: the difference of the two rates or their ratio,
and a fault of the backend exactly where that is not defined. Nothing is ever divided by zero. The
order of rows and of columns, columns that are not named and rows that are in neither group make no
difference. -/
theorem calculate_law (hmade : Metric.make kind config baseRates = .ok m) (ht : t.Regular)
    (hd : Dataset.ofTable t config = .ok d) :
    let u := tally config config.unprivileged t
    let p := tally config config.privileged t
    (kind = .parityDifference → u.members ≠ 0 → p.members ≠ 0 →
      m.calculate t = .ok (u.rate.sub p.rate)) ∧
    (kind = .impactRatio → u.members ≠ 0 → p.members ≠ 0 → p.favorable ≠ 0 →
      m.calculate t = .ok (u.rate.div p.rate)) ∧
    ((∃ fault, m.calculate t = .error (.backend fault)) ↔
      u.members = 0 ∨ p.members = 0 ∨ kind = .impactRatio ∧ p.favorable = 0) ∧
    (∀ a ∈ [u, p], a.members ≠ 0 → (Double.ofNat a.members).isZero = false ∧
      (a.members < 2 ^ 53 → a.rate = .nearest false a.favorable a.members)) ∧
    (p.members ≠ 0 → p.favorable ≠ 0 → p.rate.isZero = false) ∧
    (∀ s d', s.Regular → Dataset.ofTable s config = .ok d' →
      tally config config.unprivileged s = u → tally config config.privileged s = p →
      m.calculate s = m.calculate t) ∧
    (∀ order : List Nat, order.Perm (List.range t.rows) →
      m.calculate (t.selectRows order) = m.calculate t) ∧
    (∀ s : Table, s.columns.Perm t.columns → s.rows = t.rows → m.calculate s = m.calculate t) ∧
    (∀ s, Widened t s → m.calculate s = m.calculate t) ∧
    ∀ s, Lengthened config t s → m.calculate s = m.calculate t := by
  intro u p
  obtain ⟨-, rfl⟩ := make_eq_ok_iff.1 hmade
  obtain ⟨hreadable, -⟩ := Dataset.reads_of_ofTable ht hd
  have hvalue : Metric.calculate ⟨kind, config, baseRates⟩ t = outcome kind u p :=
    calculate_eq ht hreadable
  have hlarge : p.members < 2 ^ 63 :=
    (members_le_rows ..).trans_lt (Matrix.rows_lt_of_fits hreadable.fits)
  refine ⟨?_, ?_, ?_, ?_, ?_, ?_, ?_, ?_, ?_, ?_⟩
  · rintro rfl hu hp
    rw [hvalue, outcome, if_neg hu, if_neg hp]
  · rintro rfl hu hp hf
    rw [hvalue, outcome, if_neg hu, if_neg hp]
    exact if_neg hf
  · rw [hvalue]
    exact exists_outcome_eq_error_iff
  · exact fun a _ ha => ⟨a.isZero_members ha, a.rate_eq_nearest ha⟩
  · exact fun hp hf => Bool.eq_false_iff.2 (mt (p.isZero_rate hp hlarge).1 hf)
  · intro s d' hs hd' hu hp
    rw [hvalue, calculate_eq hs (Dataset.reads_of_ofTable hs hd').1, hu, hp]
  · exact fun order hperm => calculate_selectRows ht hreadable hperm
  · intro s hcolumns hrows
    exact (widened_of_perm ht hreadable.numeric hreadable.fits hcolumns hrows).calculate_eq ht
      hreadable
  · exact fun s hs => hs.calculate_eq ht hreadable
  · exact fun s hs => hs.calculate_eq ht hreadable

/-- Who applied, and who was hired. -/
def applicants (sex age hired : List Nat) : Table :=
  ⟨[⟨"sex", sex.map fun n => .number (.ofNat n)⟩, ⟨"age", age.map fun n => .number (.ofNat n)⟩,
    ⟨"hired", hired.map fun n => .number (.ofNat n)⟩], sex.length⟩

def hiring : Config :=
  ⟨["sex", "age"], ["hired"], .ofNat 1, .ofNat 0, [[.ofNat 1], [.ofNat 1]],
    [[.ofNat 0], [.ofNat 0]], [.ofNat 1, .ofNat 1], [.ofNat 0, .ofNat 0]⟩

/-- One applicant more, of another sex and age. -/
theorem lengthened_applicants : Lengthened hiring
    (applicants [1, 1, 0, 0] [1, 0, 0, 0] [1, 0, 1, 0])
    (applicants [1, 1, 2, 0, 0] [1, 0, 2, 0, 0] [1, 0, 1, 1, 0]) := by
  refine ⟨⟨by decide, by decide, by decide⟩, ⟨[0, 1, 3, 4], by decide, by decide, rfl, ?_⟩, rfl⟩
  intro i hi hmem
  have hnew : i = 2 := by
    simp only [List.mem_cons, List.not_mem_nil, not_or] at hmem
    have hi : i < 5 := hi
    omega
  rw [hnew]
  refine ⟨⟨fun name hname => ?_, _, rfl, by decide +kernel⟩, by decide +kernel, by decide +kernel⟩
  have hname : name = "sex" ∨ name = "age" ∨ name = "hired" := by
    simpa [Table.names, applicants] using hname
  rcases hname with rfl | rfl | rfl <;> exact ⟨_, rfl⟩

/-- The first applicant is privileged twice, the second is in both groups and the last two are
unprivileged twice: one hired of three against one of two, however the rows stand and whoever else
applies. -/
theorem calculate_law_applicants :
    let four := applicants [1, 1, 0, 0] [1, 0, 0, 0] [1, 0, 1, 0]
    let five := applicants [1, 1, 2, 0, 0] [1, 0, 2, 0, 0] [1, 0, 1, 1, 0]
    let m : Metric := ⟨.impactRatio, hiring, baseRates⟩
    m.calculate four = .ok ((Double.nearest false 1 3).div (.nearest false 1 2)) ∧
      m.calculate (four.selectRows [3, 1, 0, 2]) = m.calculate four ∧
      m.calculate five = m.calculate four := by
  intro four five m
  have hmade : Metric.make .impactRatio hiring baseRates = .ok m := rfl
  have hu : tally hiring hiring.unprivileged four = ⟨3, 1, by decide⟩ := by decide +kernel
  have hp : tally hiring hiring.privileged four = ⟨2, 1, by decide⟩ := by decide +kernel
  have hread : (Dataset.ofTable four hiring).isOk = true := by decide +kernel
  cases hd : Dataset.ofTable four hiring with
  | error e =>
    rw [hd] at hread
    cases hread
  | ok d =>
    obtain ⟨-, hratio, -, hcounts, -, -, hrows, -, -, hmore⟩ :=
      calculate_law hmade ⟨by decide, by decide, by decide⟩ hd
    rw [hu, hp] at hratio hcounts
    refine ⟨?_, hrows [3, 1, 0, 2] (by decide), hmore five lengthened_applicants⟩
    rw [hratio rfl (by decide) (by decide) (by decide),
      (hcounts _ (List.mem_cons_self ..) (by decide)).2 (by decide),
      (hcounts _ (List.mem_cons_of_mem _ (List.mem_cons_self ..)) (by decide)).2 (by decide)]

end ModelProbe.Fairness
