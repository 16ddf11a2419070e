import ModelProbe.Explain.Params
import ModelProbe.Proofs.Traversal

/-! What the validation of parameters says.

`validate` accepts parameters exactly when they are `Valid`. The window that ICE perturbs is then a
part of the history that is not empty, and the newest part when it has no start of its own. -/
namespace ModelProbe.Explain

theorem checkPositive_eq_ok_iff {parameter : String} {n : Nat} :
    checkPositive parameter n = .ok () ↔ 0 < n := by
  rw [checkPositive, check_eq_ok_iff, Nat.pos_iff_ne_zero]

theorem checkPerturbers_eq_ok_iff {perturbers : Option (List String)} :
    checkPerturbers perturbers = .ok () ↔ perturbers ≠ some [] :=
  check_eq_ok_iff

namespace IceParams

structure Valid (p : IceParams) : Prop where
  inputLength : 0 < p.inputLength
  forecastLookahead : 0 < p.forecastLookahead
  endogenous : 0 < p.endogenous
  perturbations : 0 < p.perturbations
  windowLength : 0 < p.windowLength
  windowLength_le : p.windowLength ≤ p.inputLength
  windowStart : ∀ start, p.windowStart = some start → start + p.windowLength ≤ p.inputLength
  features : p.features ≠ []
  perturbers : p.perturbers ≠ some []

variable {p : IceParams}

theorem checkWindow_eq_ok_iff : p.checkWindow = .ok () ↔ p.windowLength ≤ p.inputLength ∧
    ∀ start, p.windowStart = some start → start + p.windowLength ≤ p.inputLength := by
  unfold checkWindow
  rw [unless_eq_ok_iff, Nat.not_lt]
  refine and_congr_right fun _ => ?_
  cases p.windowStart with
  | none => simp [pure, Except.pure]
  | some start =>
    simp only [check_eq_ok_iff, Nat.not_lt, Option.some.injEq, forall_eq']

theorem validate_eq_ok_iff : p.validate = .ok () ↔ p.Valid := by
  unfold validate
  simp only [seq_eq_ok_iff, checkPositive_eq_ok_iff, checkWindow_eq_ok_iff, unless_eq_ok_iff,
    checkPerturbers_eq_ok_iff]
  constructor
  · rintro ⟨h1, h2, h3, h4, h5, ⟨h6, h7⟩, h8, h9⟩
    exact ⟨h1, h2, h3, h4, h5, h6, h7, h8, h9⟩
  · rintro ⟨h1, h2, h3, h4, h5, h6, h7, h8, h9⟩
    exact ⟨h1, h2, h3, h4, h5, ⟨h6, h7⟩, h8, h9⟩

theorem window_length (p : IceParams) : p.window.2 - p.window.1 = p.windowLength :=
  Nat.add_sub_cancel_left ..

theorem window_stop (p : IceParams) : p.window.2 = p.window.1 + p.windowLength :=
  rfl

/-- The window lies within the history. -/
theorem Valid.window_le (h : p.Valid) : p.window.2 ≤ p.inputLength := by
  unfold window
  cases hstart : p.windowStart with
  | none => exact Nat.le_of_eq (Nat.sub_add_cancel h.windowLength_le)
  | some start => exact h.windowStart start hstart

/-- Without a start of its own the window ends where the history does. -/
theorem Valid.window_newest (h : p.Valid) (hstart : p.windowStart = none) :
    p.window = (p.inputLength - p.windowLength, p.inputLength) := by
  rw [window, hstart]
  exact Prod.ext rfl (Nat.sub_add_cancel h.windowLength_le)

end IceParams

namespace LimeParams

structure Valid (p : LimeParams) : Prop where
  inputLength : 0 < p.inputLength
  perturbations : 0 < p.perturbations
  relevantHistory : ∀ h, p.relevantHistory = some h → 0 < h ∧ h ≤ p.inputLength
  perturbers : p.perturbers ≠ some []

variable {p : LimeParams}

theorem validate_eq_ok_iff : p.validate = .ok () ↔ p.Valid := by
  unfold validate
  simp only [seq_eq_ok_iff, checkPositive_eq_ok_iff]
  cases hhistory : p.relevantHistory with
  | none =>
    simp only [checkPerturbers_eq_ok_iff]
    constructor
    · rintro ⟨h1, h2, h3⟩
      exact ⟨h1, h2, by simp [hhistory], h3⟩
    · rintro ⟨h1, h2, -, h3⟩
      exact ⟨h1, h2, h3⟩
  | some h =>
    simp only [unless_eq_ok_iff, checkPerturbers_eq_ok_iff]
    constructor
    · rintro ⟨h1, h2, h3, h4⟩
      refine ⟨h1, h2, fun h' hh => ?_, h4⟩
      cases hhistory.symm.trans hh
      omega
    · rintro ⟨h1, h2, h3, h4⟩
      have hbounds := h3 h hhistory
      exact ⟨h1, h2, by omega, h4⟩

/-- The rows that are weighed are some of the history. -/
theorem Valid.history_mem (h : p.Valid) : 1 ≤ p.history ∧ p.history ≤ p.inputLength := by
  unfold history
  cases hhistory : p.relevantHistory with
  | none => exact ⟨h.inputLength, Nat.le_refl _⟩
  | some n => exact h.relevantHistory n hhistory

end LimeParams

end ModelProbe.Explain
