import ModelProbe.Proofs.Codec.Join

/-! What a mismatch of shapes says.

Decoding refuses an output for one of two reasons (`Refused`). Its rows are not those of the first
output, and the error names both numbers; or no array can count its matrix, and the error names the
number of its values twice. Dimensions may multiply to just below `2 ^ 64` where an array wants
`2 ^ 63`, so among tensors that fit in memory the second reason is left to those without rows
(`Tensor.Built.countable_iff`). `mismatch_cause` says which output is refused, and why. -/
namespace ModelProbe

namespace Tensor

variable {t : Tensor}

/-- An array can count the matrix of the tensor. -/
def Countable (t : Tensor) : Prop :=
  Matrix.fits t.shape.matrixDims.1 t.shape.matrixDims.2 = true

instance (t : Tensor) : Decidable t.Countable :=
  inferInstanceAs (Decidable (_ = true))

theorem Built.length_eq (ht : t.Built) :
    t.values.length = t.shape.matrixDims.1 * t.shape.matrixDims.2 := by
  rw [← Values.length_toDoubles]
  exact ht.regular_matrix

/-- Rows are a dimension from the wire, a signed word. -/
theorem Built.rows_lt (ht : t.Built) : t.shape.matrixDims.1 < 2 ^ 63 := by
  obtain ⟨dims, shape, hshape, hmake⟩ := ht
  obtain ⟨-, hdims, -⟩ := Shape.ofWire_eq_ok hshape
  have hsame : t.shape = shape := by rw [(make_eq_ok_iff.1 hmake).2]
  have hword : ∀ d : Int64, d.toNatClampNeg < 2 ^ 63 := by
    intro d
    have := d.toInt_lt
    rw [Int64.toNatClampNeg]
    omega
  rw [hsame, Shape.matrixDims, hdims]
  rcases dims with _ | ⟨d, _ | ⟨_, _⟩⟩
  · decide
  · exact hword d
  · exact hword d

/-- An array counts fewer than `2 ^ 63` values, and as many columns where there are no rows. -/
theorem Built.countable_iff (ht : t.Built) : t.Countable ↔
    t.values.length < 2 ^ 63 ∧ (t.shape.matrixDims.1 = 0 → t.shape.matrixDims.2 < 2 ^ 63) := by
  have hrows := ht.rows_lt
  rw [ht.length_eq, Countable, Matrix.fits, decide_eq_true_iff]
  by_cases hr : t.shape.matrixDims.1 = 0
  · by_cases hc : t.shape.matrixDims.2 = 0 <;> simp [hr, hc]
  · by_cases hc : t.shape.matrixDims.2 = 0
    · simpa [hr, hc] using hrows
    · simp [hr, hc]

end Tensor

namespace Codec

variable {r : InferResponse} {t : Tensor} {rows : Nat} {e : Error}

/-- Why an output is refused where the first one has so many rows, and the two numbers that are
named. -/
inductive Refused (rows : Nat) (t : Tensor) : (expected actual : Nat) → Prop where
  | otherRows (h : t.shape.matrixDims.1 ≠ rows) : Refused rows t rows t.shape.matrixDims.1
  | uncounted (same : t.shape.matrixDims.1 = rows) (h : ¬t.Countable) :
      Refused rows t t.values.length t.values.length

/-- The two numbers differ exactly when the rows do. -/
theorem Refused.ne_iff {expected actual : Nat} (h : Refused rows t expected actual) :
    expected ≠ actual ↔ t.shape.matrixDims.1 ≠ rows := by
  cases h with
  | otherRows h => exact iff_of_true h.symm h
  | uncounted same h => exact iff_of_false (fun hne => hne rfl) fun hne => hne same

/-! ### One output -/

theorem block_of_countable (ht : t.Built) (h : t.Countable) :
    block t.shape.matrixDims.1 t = .ok t.matrix := by
  rw [block_eq ht h, if_pos rfl]

theorem block_of_not_countable (ht : t.Built) (h : ¬t.Countable) :
    block t.shape.matrixDims.1 t =
      .error (.shapeMismatch t.name t.shape.dims t.values.length t.values.length) := by
  have hnone : Matrix.ofEntries? t.shape.matrixDims.1 t.shape.matrixDims.2 t.values.toDoubles =
      none := if_neg fun hfits => h hfits.1
  unfold block
  simp only [hnone, ← ht.length_eq, if_true]

theorem block_of_other_rows (h : t.shape.matrixDims.1 ≠ rows) :
    block rows t = .error (.shapeMismatch t.name t.shape.dims rows t.shape.matrixDims.1) :=
  if_neg h

/-- An output is refused for one of the two reasons alone. -/
theorem block_eq_error_iff (ht : t.Built) : block rows t = .error e ↔
    ∃ expected actual, Refused rows t expected actual ∧
      e = .shapeMismatch t.name t.shape.dims expected actual := by
  constructor
  · intro h
    by_cases hrows : t.shape.matrixDims.1 = rows
    · subst hrows
      by_cases hcount : t.Countable
      · rw [block_of_countable ht hcount] at h
        cases h
      · rw [block_of_not_countable ht hcount] at h
        cases h
        exact ⟨_, _, .uncounted rfl hcount, rfl⟩
    · rw [block_of_other_rows hrows] at h
      cases h
      exact ⟨_, _, .otherRows hrows, rfl⟩
  · rintro ⟨expected, actual, h, rfl⟩
    cases h with
    | otherRows h => exact block_of_other_rows h
    | uncounted same h =>
      subst same
      exact block_of_not_countable ht h

theorem exists_block_iff (ht : t.Built) :
    (∃ m, block rows t = .ok m) ↔ t.shape.matrixDims.1 = rows ∧ t.Countable := by
  constructor
  · rintro ⟨m, hm⟩
    by_contra h
    have hrefused : ∃ expected actual, Refused rows t expected actual := by
      by_cases hrows : t.shape.matrixDims.1 = rows
      · exact ⟨_, _, .uncounted hrows fun hcount => h ⟨hrows, hcount⟩⟩
      · exact ⟨_, _, .otherRows hrows⟩
    obtain ⟨expected, actual, hrefused⟩ := hrefused
    rw [(block_eq_error_iff ht).2 ⟨expected, actual, hrefused, rfl⟩] at hm
    cases hm
  · rintro ⟨rfl, h⟩
    exact ⟨_, block_of_countable ht h⟩

/-! ### A response -/

/-- Joining reports no mismatch: what is joined has the same rows. -/
theorem join_ne_mismatch {blocks : List (Matrix Double)} {name : String} {dims : List Nat}
    {expected actual : Nat} :
    join rows blocks ≠ .error (.shapeMismatch name dims expected actual) := by
  unfold join
  split
  · simp
  · cases Matrix.beside? rows blocks <;> simp

/-- **A mismatch names the first output that is refused**, in the order of the response. -/
theorem decode_eq_mismatch_iff (hbuilt : ∀ t ∈ r.outputs, t.Built) {name : String}
    {dims : List Nat} {expected actual : Nat} :
    decode r = .error (.shapeMismatch name dims expected actual) ↔
      ∃ first, r.outputs.head? = some first ∧ ∃ i t, FirstAt
        (fun s => ¬(s.shape.matrixDims.1 = first.shape.matrixDims.1 ∧ s.Countable)) r.outputs i t ∧
        t.name = name ∧ t.shape.dims = dims ∧
        Refused first.shape.matrixDims.1 t expected actual := by
  cases houtputs : r.outputs with
  | nil => simp [decode_nil houtputs, Malformed.error]
  | cons first rest =>
    have hfirst : ∀ s ∈ r.outputs, (∀ m, block first.shape.matrixDims.1 s ≠ .ok m) ↔
        ¬(s.shape.matrixDims.1 = first.shape.matrixDims.1 ∧ s.Countable) := by
      intro s hs
      rw [← exists_block_iff (hbuilt s hs), not_exists]
    have herror : decode r = .error (.shapeMismatch name dims expected actual) ↔
        r.outputs.mapM (block first.shape.matrixDims.1) =
          .error (.shapeMismatch name dims expected actual) := by
      rw [decode_cons houtputs, bind_eq_error_iff, or_iff_left]
      rintro ⟨blocks, -, h⟩
      exact join_ne_mismatch h
    rw [herror, mapM_eq_error_iff, ← houtputs]
    constructor
    · rintro ⟨i, t, ht, he⟩
      obtain ⟨_, _, hrefused, h⟩ := (block_eq_error_iff (hbuilt t ht.mem)).1 he
      cases h
      exact ⟨first, by rw [houtputs]; rfl, i, t, ht.congr hfirst, rfl, rfl, hrefused⟩
    · rintro ⟨_, hhead, i, t, ht, rfl, rfl, hrefused⟩
      rw [houtputs] at hhead
      cases hhead
      exact ⟨i, t, ht.congr fun s hs => (hfirst s hs).symm,
        (block_eq_error_iff (hbuilt t ht.mem)).2 ⟨_, _, hrefused, rfl⟩⟩

theorem decode_single (h : r.outputs = [t]) : decode r = block t.shape.matrixDims.1 t := by
  rw [decode_cons h, h, List.mapM_cons]
  cases block t.shape.matrixDims.1 t <;> rfl

/-- **What a mismatch says.** Of a response whose tensors have shapes from the wire, a mismatch
names the first output whose rows are not those of the first one or whose matrix no array can count.
In the first case it names two different numbers, and in the second the number of values twice; so
where an array can count every output, every mismatch is one. A tensor alone is decoded to its
matrix when an array can count it, and otherwise refused with two equal numbers. Only tensors
without rows, or with `2 ^ 63` values, are past counting. -/
theorem mismatch_cause (hbuilt : ∀ t ∈ r.outputs, t.Built) :
    (∀ name dims expected actual,
      decode r = .error (.shapeMismatch name dims expected actual) ↔
        ∃ first, r.outputs.head? = some first ∧ ∃ i t, FirstAt
          (fun s => ¬(s.shape.matrixDims.1 = first.shape.matrixDims.1 ∧ s.Countable))
          r.outputs i t ∧ t.name = name ∧ t.shape.dims = dims ∧
          Refused first.shape.matrixDims.1 t expected actual) ∧
    ((∀ t ∈ r.outputs, t.Countable) → ∀ name dims expected actual,
      decode r = .error (.shapeMismatch name dims expected actual) → expected ≠ actual) ∧
    (∀ t, r.outputs = [t] →
      (t.Countable → decode r = .ok t.matrix) ∧
      (¬t.Countable → decode r =
        .error (.shapeMismatch t.name t.shape.dims t.values.length t.values.length))) ∧
    ∀ t ∈ r.outputs, t.Countable ↔
      t.values.length < 2 ^ 63 ∧ (t.shape.matrixDims.1 = 0 → t.shape.matrixDims.2 < 2 ^ 63) := by
  refine ⟨fun _ _ _ _ => decode_eq_mismatch_iff hbuilt, ?_, ?_,
    fun t ht => (hbuilt t ht).countable_iff⟩
  · intro hcount name dims expected actual h
    obtain ⟨first, -, i, t, ht, -, -, hrefused⟩ := (decode_eq_mismatch_iff hbuilt).1 h
    rw [hrefused.ne_iff]
    exact fun hrows => ht.holds ⟨hrows, hcount t ht.mem⟩
  · intro t h
    have ht : t.Built := hbuilt t (by simp [h])
    rw [decode_single h]
    exact ⟨block_of_countable ht, block_of_not_countable ht⟩

/-- An output without rows and with `2 ^ 64 - 2 ^ 32` columns is refused between two others, before
the rows of the last one are looked at, and is refused alone. -/
theorem mismatch_cause_without_rows :
    let narrow : Tensor := ⟨"narrow", ⟨[0, 5]⟩, .fp64 []⟩
    let wide : Tensor := ⟨"wide", ⟨[0, 4294967296, 4294967295]⟩, .int32 []⟩
    let tall : Tensor := ⟨"tall", ⟨[2]⟩, .int64 [3, -1]⟩
    let all : InferResponse := ⟨"m", none, none, [narrow, wide, tall]⟩
    let alone : InferResponse := ⟨"m", none, none, [wide]⟩
    (∀ t ∈ all.outputs, t.Built) ∧ (∀ t ∈ alone.outputs, t.Built) ∧ ¬wide.Countable ∧
      decode all = .error (.shapeMismatch "wide" [0, 4294967296, 4294967295] 0 0) ∧
      decode alone = .error (.shapeMismatch "wide" [0, 4294967296, 4294967295] 0 0) := by
  intro narrow wide tall all alone
  have hnarrow : narrow.Built := ⟨[0, 5], _, rfl, rfl⟩
  have hwide : wide.Built := ⟨[0, 4294967296, 4294967295], _, rfl, rfl⟩
  have htall : tall.Built := ⟨[2], _, rfl, rfl⟩
  have hall : ∀ t ∈ all.outputs, t.Built := by simp [all, hnarrow, hwide, htall]
  have halone : ∀ t ∈ alone.outputs, t.Built := by simp [alone, hwide]
  have huncounted : ¬wide.Countable := by decide
  have hfirst : FirstAt (fun s => ¬(s.shape.matrixDims.1 = narrow.shape.matrixDims.1 ∧ s.Countable))
      all.outputs 1 wide := by
    refine ⟨rfl, fun h => huncounted h.2, fun j s hj hs => ?_⟩
    obtain rfl : j = 0 := by omega
    cases hs
    decide
  refine ⟨hall, halone, huncounted, ?_, ?_⟩
  · exact ((mismatch_cause hall).1 _ _ _ _).2
      ⟨narrow, rfl, 1, wide, hfirst, rfl, rfl, .uncounted rfl huncounted⟩
  · exact ((mismatch_cause halone).2.2.1 wide rfl).2 huncounted

/-- Not every mismatch is one, and not every tensor alone is decoded: the error says that 0 values
were expected and 0 were there. -/
theorem not_all_mismatches_differ :
    ¬∀ r : InferResponse, (∀ t ∈ r.outputs, t.Built) →
      (∀ name dims expected actual,
        decode r = .error (.shapeMismatch name dims expected actual) → expected ≠ actual) ∧
      ∀ t, r.outputs = [t] → ∃ m, decode r = .ok m ∧ (m.rows, m.cols) = t.shape.matrixDims := by
  intro h
  let wide : Tensor := ⟨"p", ⟨[0, 4294967296, 4294967295]⟩, .fp64 []⟩
  have hbuilt : wide.Built := ⟨[0, 4294967296, 4294967295], _, rfl, rfl⟩
  have hrefused : decode ⟨"m", none, none, [wide]⟩ =
      .error (.shapeMismatch "p" [0, 4294967296, 4294967295] 0 0) := rfl
  obtain ⟨hdiffer, -⟩ := h ⟨"m", none, none, [wide]⟩ (by simpa using hbuilt)
  exact hdiffer _ _ _ _ hrefused rfl

end Codec

end ModelProbe
