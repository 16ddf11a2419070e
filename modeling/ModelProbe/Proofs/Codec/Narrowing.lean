import ModelProbe.Codec
import ModelProbe.Proofs.Binary.Widening

/-! What narrowing keeps.

A codec narrows a double when it is a NaN or agrees with the single nearest to it. Those are
the NaNs and the doubles that singles widen to (`survives_iff`), the zeros with their signs
among them, and what was narrowed widens back to the same bits, a NaN to a NaN
(`same_of_survives`). -/
namespace ModelProbe

/-- The same bits, or two NaNs. -/
def Double.Same (x y : Double) : Prop :=
  x = y ∨ x.isNaN = true ∧ y.isNaN = true

namespace Codec

open Binary

variable {x : Double}

/-- A zero keeps its sign on the way down and up. -/
theorem widen_ofDouble_of_isZero (h : x.isZero = true) : (Single.ofDouble x).widen = x := by
  unfold Double.isZero at h
  split at h
  · rename_i negative m q hread
    cases beq_iff_eq.1 h
    rw [Double.eq_zero_of_read hread]
    cases negative <;> decide
  · cases h

/-- A double that survives is back after the way down and up. -/
theorem same_of_survives (h : survives x = true) : (Single.ofDouble x).widen.Same x := by
  rcases Bool.or_eq_true_iff.1 h with hnan | hagrees
  · refine .inr ⟨?_, hnan⟩
    rw [Double.isNaN_iff] at hnan ⊢
    exact Single.widen_nan (Single.ofDouble_nan hnan)
  · rcases Bool.or_eq_true_iff.1 (Bool.and_eq_true_iff.1 hagrees).2 with hsame | hzero
    · exact .inl (beq_iff_eq.1 hsame)
    · exact .inl (widen_ofDouble_of_isZero (Bool.and_eq_true_iff.1 hzero).2)

/-- **What survives narrowing**: the NaNs, and the doubles that singles widen to. -/
theorem survives_iff : survives x = true ↔ x.isNaN = true ∨ ∃ y : Single, y.widen = x := by
  constructor
  · intro h
    rcases same_of_survives h with hsame | ⟨-, hnan⟩
    · exact .inr ⟨_, hsame⟩
    · exact .inl hnan
  · rintro (hnan | ⟨y, rfl⟩)
    · rw [survives, hnan, Bool.true_or]
    · by_cases hnan : y.read = .nan
      · rw [survives, Double.isNaN_iff.2 (Single.widen_nan hnan), Bool.true_or]
      · rw [survives, Single.ofDouble_widen hnan, Double.agrees, beq_self_eq_true]
        cases y.widen.isNaN <;> rfl

end Codec

end ModelProbe
