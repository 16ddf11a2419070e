import ModelProbe.Proofs.Binary.Widening

/-! Two ways to compare doubles.

As numbers the zeros agree and a NaN agrees with nothing (`Double.agrees`); in the total order of
all bit patterns no two doubles have the same place (`Double.rank`). The two differ in NaNs and in
the sign of a zero alone: with one zero for both (`Double.canonical`), agreeing is being equal and
not a NaN (`agrees_iff`), and the total order stays as it is (`rank_canonical_le`). -/
namespace ModelProbe.Double

variable {x y z : Double}

/-- The double with `+0` for both zeros. -/
def canonical (x : Double) : Double :=
  if x.isZero then zero else x

/-- The same double, or another zero. -/
def Alike (x y : Double) : Prop :=
  x = y ∨ x.isZero = true ∧ y.isZero = true

/-! ### Zeros -/

theorem isZero_iff : x.isZero = true ↔ x = ofMagnitude false 0 ∨ x = ofMagnitude true 0 := by
  constructor
  · intro h
    unfold isZero at h
    split at h
    · rename_i negative m q hread
      obtain rfl : m = 0 := by simpa using h
      cases negative with
      | false => exact .inl (eq_zero_of_read hread)
      | true => exact .inr (eq_zero_of_read hread)
    · cases h
  · rintro (rfl | rfl) <;> decide

theorem isNaN_of_isZero (h : x.isZero = true) : x.isNaN = false := by
  rcases isZero_iff.1 h with rfl | rfl <;> decide

theorem canonical_of_isZero (h : x.isZero = true) : x.canonical = zero :=
  if_pos h

theorem canonical_of_not_isZero (h : x.isZero = false) : x.canonical = x :=
  if_neg (by simp [h])

theorem isNaN_canonical (x : Double) : x.canonical.isNaN = x.isNaN := by
  cases h : x.isZero with
  | true =>
    rw [canonical_of_isZero h, isNaN_of_isZero h]
    decide
  | false => rw [canonical_of_not_isZero h]

theorem canonical_of_isNaN (h : x.isNaN = true) : x.canonical = x := by
  cases hzero : x.isZero with
  | true =>
    rw [isNaN_of_isZero hzero] at h
    cases h
  | false => exact canonical_of_not_isZero hzero

theorem isZero_canonical (x : Double) : x.canonical.isZero = x.isZero := by
  cases h : x.isZero with
  | true =>
    rw [canonical_of_isZero h]
    decide
  | false => rw [canonical_of_not_isZero h, h]

theorem canonical_canonical (x : Double) : x.canonical.canonical = x.canonical := by
  cases h : x.isZero with
  | true =>
    rw [canonical_of_isZero h]
    decide
  | false => rw [canonical_of_not_isZero h, canonical_of_not_isZero h]

theorem alike_iff : x.Alike y ↔ x.canonical = y.canonical := by
  constructor
  · rintro (rfl | ⟨hx, hy⟩)
    · rfl
    · rw [canonical_of_isZero hx, canonical_of_isZero hy]
  · intro h
    have hsame : y.isZero = x.isZero := by rw [← isZero_canonical y, ← h, isZero_canonical]
    cases hx : x.isZero with
    | true => exact .inr ⟨hx, hsame.trans hx⟩
    | false =>
      rw [canonical_of_not_isZero hx, canonical_of_not_isZero (hsame.trans hx)] at h
      exact .inl h

/-! ### Agreement -/

/-- **Doubles agree when they are the same number**, the zeros being one. -/
theorem agrees_iff : x.agrees y = true ↔ x.isNaN = false ∧ x.canonical = y.canonical := by
  rw [← alike_iff]
  constructor
  · intro h
    simp only [agrees, Bool.and_eq_true, Bool.or_eq_true, Bool.not_eq_true', beq_iff_eq] at h
    exact ⟨h.1.1, h.2⟩
  · rintro ⟨hx, h⟩
    have hy : y.isNaN = false := by
      rw [← isNaN_canonical y, ← alike_iff.1 h, isNaN_canonical, hx]
    simpa [agrees, hx, hy, Alike] using h

theorem agrees_comm (x y : Double) : x.agrees y = y.agrees x := by
  rw [agrees, agrees, Bool.and_comm (!x.isNaN), Bool.beq_comm, Bool.and_comm x.isZero]

theorem agrees_self (h : x.isNaN = false) : x.agrees x = true :=
  agrees_iff.2 ⟨h, rfl⟩

theorem agrees_trans (hxy : x.agrees y = true) (hyz : y.agrees z = true) : x.agrees z = true :=
  agrees_iff.2 ⟨(agrees_iff.1 hxy).1, (agrees_iff.1 hxy).2.trans (agrees_iff.1 hyz).2⟩

/-- What agrees is agreed with by the same doubles. -/
theorem agrees_congr (h : x.agrees y = true) (z : Double) : z.agrees x = z.agrees y := by
  rw [Bool.eq_iff_iff]
  constructor
  · intro hz
    exact agrees_trans hz h
  · intro hz
    rw [agrees_comm] at h
    exact agrees_trans hz h

/-! ### Counting -/

/-- With one zero for both, a number is there as often as something agrees with it. -/
theorem count_map_canonical (h : x.isNaN = false) (xs : List Double) :
    (xs.map canonical).count x.canonical = xs.countP (·.agrees x) := by
  rw [List.count_eq_countP, List.countP_map]
  refine List.countP_congr fun y _ => ?_
  rw [Function.comp_apply, beq_iff_eq, agrees_iff]
  constructor
  · intro hy
    rw [← isNaN_canonical y, hy, isNaN_canonical, h]
    exact ⟨rfl, rfl⟩
  · exact And.right

theorem count_map_canonical_of_isNaN (h : x.isNaN = true) (xs : List Double) :
    (xs.map canonical).count x = xs.count x := by
  rw [List.count_eq_countP, List.countP_map, List.count_eq_countP]
  refine List.countP_congr fun y _ => ?_
  rw [Function.comp_apply, beq_iff_eq, beq_iff_eq]
  constructor
  · intro hy
    have hnan : y.isNaN = true := by rw [← isNaN_canonical y, hy, h]
    rw [← hy, canonical_of_isNaN hnan]
  · rintro rfl
    exact canonical_of_isNaN h

/-! ### The total order -/

theorem rank_injective (h : x.rank = y.rank) : x = y := by
  have hbits : x.bits.toNat = y.bits.toNat := by
    unfold rank at h
    dsimp only at h
    split at h <;> split at h <;> omega
  obtain ⟨x⟩ := x
  obtain ⟨y⟩ := y
  exact congrArg Double.mk (UInt64.toNat_inj.1 hbits)

theorem rank_of_isZero (h : x.isZero = true) : x.rank = 0 ∨ x.rank = -1 := by
  rcases isZero_iff.1 h with rfl | rfl
  · exact .inl (by decide)
  · exact .inr (by decide)

/-- One zero for both keeps the order: nothing stands between the two. -/
theorem rank_canonical_le (h : x.rank ≤ y.rank) : x.canonical.rank ≤ y.canonical.rank := by
  have hzero : zero.rank = 0 := by decide
  cases hx : x.isZero with
  | true =>
    rw [canonical_of_isZero hx, hzero]
    cases hy : y.isZero with
    | true => rw [canonical_of_isZero hy, hzero]
    | false =>
      have hne : y.rank ≠ -1 := by
        intro hrank
        have hnegative : y = ofMagnitude true 0 := rank_injective (hrank.trans (by decide))
        rw [isZero_iff.2 (.inr hnegative)] at hy
        cases hy
      rw [canonical_of_not_isZero hy]
      rcases rank_of_isZero hx with hx | hx <;> omega
  | false =>
    rw [canonical_of_not_isZero hx]
    cases hy : y.isZero with
    | true =>
      rw [canonical_of_isZero hy, hzero]
      rcases rank_of_isZero hy with hy | hy <;> omega
    | false => rwa [canonical_of_not_isZero hy]

end ModelProbe.Double
