import ModelProbe.Explain.Explainer
import ModelProbe.Proofs.Explain.Params
import ModelProbe.Proofs.Explain.StableSort

/-! Parameters fit the frames they are used on.

A point that `prepare` lets through has the columns and at least the rows its parameters ask for
(`Explainer.prepare_eq_ok_iff`), and its frame has the same rows and a column less. So cutting the
history from the frame always gives as many rows as the parameters say, and the window that ICE
perturbs is a window of that history. -/
namespace ModelProbe.Explain

/-! ### The frame of a table -/

/-- A frame has the rows of its table, and its columns but the timestamps. -/
theorem Frame.size_of_ofTable {t : Table} {column : String} {format : Option String} {f : Frame}
    (ht : t.Regular) (h : ofTable t column format = .ok f) :
    f.Sized ∧ f.rows = t.rows ∧ f.columns.length = t.width - 1 := by
  obtain ⟨g, hg, rfl⟩ := (ofTable_eq_ok_iff ht).1 h
  have hsort := hg.isStableSort ht
  refine ⟨hsort.sized, hsort.rows, ?_⟩
  rw [hsort.columns]
  exact Table.length_others ht hg.mem_names

/-- What an algorithm cuts its history from: there are enough rows, and the newest of them are as
many as it asks for, of timestamps and of values. -/
structure Frame.HasHistory (f : Frame) (n : Nat) : Prop where
  sized : f.Sized
  enough : n ≤ f.rows
  rows : (f.tail n).rows = n
  valueRows : (f.tail n).values.rows = n

theorem Frame.Sized.hasHistory {f : Frame} (hf : f.Sized) {n : Nat} (h : n ≤ f.rows) :
    f.HasHistory n :=
  ⟨hf, h, rows_tail h, Nat.sub_sub_self h⟩

namespace Explainer

variable {P α σ : Type} {x : Explainer P α σ} {point : Table} {frame : Frame}

/-- What a point must be like to be explained. -/
theorem prepare_eq_ok_iff : x.prepare point = .ok frame ↔
    x.framing.timestampColumn ∈ point.names ∧
    (x.engine.requirements x.params).valueColumns.accepts (point.width - 1) = true ∧
    (x.engine.requirements x.params).inputLength ≤ point.rows ∧
    Frame.ofTable point x.framing.timestampColumn x.framing.timestampFormat = .ok frame := by
  unfold prepare
  simp only [unless_eq_ok_iff, not_not, Nat.not_lt, Bool.not_eq_true, Bool.not_eq_false']

/-- The frame of a point that fits is what the parameters ask for. -/
theorem suits_of_prepare (hpoint : point.Regular) (h : x.prepare point = .ok frame) :
    (x.engine.requirements x.params).valueColumns.accepts frame.columns.length = true ∧
      frame.HasHistory (x.engine.requirements x.params).inputLength := by
  obtain ⟨-, hcolumns, hrows, hframe⟩ := prepare_eq_ok_iff.1 h
  obtain ⟨hsized, hframeRows, hframeColumns⟩ := Frame.size_of_ofTable hpoint hframe
  rw [hframeColumns]
  exact ⟨hcolumns, hsized.hasHistory (hframeRows.symm ▸ hrows)⟩

end Explainer

/-! ### The algorithms' own parameters -/

/-- What ICE finds: the columns it was told of, a history of its length, and in that history the
window it perturbs, which is not empty. -/
structure IceParams.Fits (p : IceParams) (f : Frame) : Prop where
  columns : f.columns.length = p.endogenous + p.exogenous
  history : f.HasHistory p.inputLength
  nonempty : 0 < p.windowLength
  within : p.window.2 ≤ p.inputLength
  window : ∃ w, (f.tail p.inputLength).window p.window.1 (p.window.2 - p.window.1) = .ok w ∧
    w.rows = p.windowLength ∧ w.values.rows = p.windowLength
  newest : p.windowStart = none →
    (f.tail p.inputLength).window p.window.1 (p.window.2 - p.window.1) =
      .ok (f.tail p.windowLength)

/-- What LIME finds: a column of values, a history of its length, and in that history the rows it
weighs. -/
structure LimeParams.Fits (p : LimeParams) (f : Frame) : Prop where
  columns : 1 ≤ f.columns.length
  history : f.HasHistory p.inputLength
  weighed : 1 ≤ p.history ∧ p.history ≤ (f.tail p.inputLength).rows

theorem IceParams.Valid.fits {p : IceParams} (hp : p.Valid) {f : Frame}
    (hcolumns : p.requirements.valueColumns.accepts f.columns.length = true)
    (hf : f.HasHistory p.inputLength) : p.Fits f := by
  have hstop : p.window.1 + p.windowLength ≤ (f.tail p.inputLength).rows := by
    rw [hf.rows, ← p.window_stop]
    exact hp.window_le
  refine ⟨of_decide_eq_true hcolumns, hf, hp.windowLength, hp.window_le, ?_, fun hstart => ?_⟩
  · rw [p.window_length]
    refine ⟨_, Frame.window_eq_ok_iff.2 ⟨hstop, rfl⟩, ?_, Nat.add_sub_cancel_left ..⟩
    rw [Frame.rows_sliceRows hstop, Nat.add_sub_cancel_left]
  · rw [p.window_length, hp.window_newest hstart]
    exact Frame.window_tail hp.windowLength_le hf.enough

theorem LimeParams.Valid.fits {p : LimeParams} (hp : p.Valid) {f : Frame}
    (hcolumns : p.requirements.valueColumns.accepts f.columns.length = true)
    (hf : f.HasHistory p.inputLength) : p.Fits f := by
  refine ⟨of_decide_eq_true hcolumns, hf, ?_⟩
  rw [hf.rows]
  exact hp.history_mem

/-- **Parameters that are accepted fit every frame they are used on**, whatever the algorithm does
with it. -/
theorem fits_of_prepare {α σ : Type} (framing : Framing) (model : Predictor σ) (state : State)
    {point : Table} (hpoint : point.Regular) {frame : Frame} :
    (∀ (algorithm : IceParams → Frame → Program α) (p : IceParams), p.validate = .ok () →
      Explainer.prepare ⟨⟨IceParams.validate, IceParams.requirements, algorithm⟩, p, framing, model,
        state⟩ point = .ok frame → p.Fits frame) ∧
    ∀ (algorithm : LimeParams → Frame → Program α) (p : LimeParams), p.validate = .ok () →
      Explainer.prepare ⟨⟨LimeParams.validate, LimeParams.requirements, algorithm⟩, p, framing,
        model, state⟩ point = .ok frame → p.Fits frame := by
  constructor
  · intro algorithm p hp hprepare
    obtain ⟨hcolumns, hhistory⟩ := Explainer.suits_of_prepare hpoint hprepare
    exact (IceParams.validate_eq_ok_iff.1 hp).fits hcolumns hhistory
  · intro algorithm p hp hprepare
    obtain ⟨hcolumns, hhistory⟩ := Explainer.suits_of_prepare hpoint hprepare
    exact (LimeParams.validate_eq_ok_iff.1 hp).fits hcolumns hhistory

/-- Four readings. ICE looks at three of them, and perturbs two of those: the newest, or the two
before the newest when told to start there. LIME weighs one of the three. -/
theorem fits_of_prepare_readings :
    let frame := Frame.series [60, 61, 62, 63] [3, 1, 2, 5]
    let ice (windowStart : Option Nat) : IceParams :=
      ⟨3, 1, 1, 0, 25, [.mean], none, windowStart, 2⟩
    (ice none).Fits frame ∧ (ice (some 0)).Fits frame ∧
      LimeParams.Fits ⟨3, 2000, some 1, none, none⟩ frame := by
  intro frame ice
  have hpoint : (Frame.readings [60, 61, 62, 63] [3, 1, 2, 5]).Regular :=
    ⟨by decide, by decide, by decide⟩
  have hframe : Frame.ofTable (Frame.readings [60, 61, 62, 63] [3, 1, 2, 5]) "at" none =
      .ok frame := by
    refine Frame.ofTable_eq_ok_iff_steps.2 ⟨_, frame.timestamps, _, rfl,
      Time.toOption_eq_some (by decide +kernel), rfl, ?_⟩
    have horder : Frame.sortedRows frame.timestamps = [0, 1, 2, 3] :=
      (Frame.eq_sortedRows (by decide) (by decide +kernel)).symm
    simp only [Frame.sorted, horder]
    rfl
  obtain ⟨hice, hlime⟩ := @fits_of_prepare Unit Unit ⟨"at", none⟩
    (fun _ world => (.ok ⟨0, 0, []⟩, world)) .configured _ hpoint frame
  have hprepare {P : Type} {x : Explainer P Unit Unit} (hframing : x.framing = ⟨"at", none⟩)
      (hcolumns : (x.engine.requirements x.params).valueColumns.accepts 1 = true)
      (hlength : (x.engine.requirements x.params).inputLength ≤ 4) :
      x.prepare (Frame.readings [60, 61, 62, 63] [3, 1, 2, 5]) = .ok frame := by
    refine Explainer.prepare_eq_ok_iff.2 ⟨?_, hcolumns, hlength, ?_⟩
    · rw [hframing]
      decide
    · rw [hframing]
      exact hframe
  refine ⟨?_, ?_, ?_⟩
  · exact hice (fun _ _ => .finish (.ok ())) _ rfl (hprepare rfl rfl (by decide))
  · exact hice (fun _ _ => .finish (.ok ())) _ rfl (hprepare rfl rfl (by decide))
  · exact hlime (fun _ _ => .finish (.ok ())) _ rfl (hprepare rfl rfl (by decide))

end ModelProbe.Explain
