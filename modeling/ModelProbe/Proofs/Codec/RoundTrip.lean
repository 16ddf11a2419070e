import ModelProbe.Proofs.Codec.Narrowing
import ModelProbe.Proofs.Table

/-! What goes out through a codec comes back.

A `Source` is what a caller holds: an array of singles or of doubles in any memory layout, or a
table, and every input is read from one (`Source.exists_source`). Encoding it gives a tensor that
carries its entries row by row (`Carries`), and decoding an answer with that tensor alone gives
its entries back at their rows and columns (`Returns`). Encoding fails for two reasons only, a
text in a table and a double that no single equals (`encode_decode`). -/
namespace ModelProbe

/-! ### Entries at their precision -/

/-- A number at one of the two precisions of inputs. -/
inductive Entry where
  | fp32 (x : Single)
  | fp64 (x : Double)

namespace Entry

def datatype : Entry → Datatype
  | fp32 _ => .fp32
  | fp64 _ => .fp64

def toDouble : Entry → Double
  | fp32 x => x.widen
  | fp64 x => x

/-- At one precision the bits are the same, between two the number is. -/
def StandsFor (y x : Entry) : Prop :=
  y = x ∨ (y.datatype ≠ x.datatype ∧ y.toDouble.Same x.toDouble)

theorem StandsFor.same {x y : Entry} (h : y.StandsFor x) : y.toDouble.Same x.toDouble := by
  rcases h with rfl | ⟨-, h⟩
  · exact .inl rfl
  · exact h

end Entry

namespace Values

/-- The value at a position, if it is a floating point number. -/
def get? : Values → Nat → Option Entry
  | fp32 vs, k => vs[k]?.map .fp32
  | fp64 vs, k => vs[k]?.map .fp64
  | int32 _, _ | int64 _, _ => none

theorem toDoubles_of_entry {vs : Values} {k : Nat} {x : Entry} (h : vs.get? k = some x) :
    vs.toDoubles[k]? = some x.toDouble := by
  cases vs with
  | fp32 vs =>
    obtain ⟨y, hy, rfl⟩ := Option.map_eq_some_iff.1 h
    simp [toDoubles, hy, Entry.toDouble]
  | fp64 vs =>
    obtain ⟨y, hy, rfl⟩ := Option.map_eq_some_iff.1 h
    exact hy
  | int32 vs => cases h
  | int64 vs => cases h

theorem lt_of_entry {vs : Values} {k : Nat} {x : Entry} (h : vs.get? k = some x) :
    k < vs.length := by
  cases vs with
  | fp32 vs =>
    obtain ⟨y, hy, -⟩ := Option.map_eq_some_iff.1 h
    exact (List.getElem?_eq_some_iff.1 hy).1
  | fp64 vs =>
    obtain ⟨y, hy, -⟩ := Option.map_eq_some_iff.1 h
    exact (List.getElem?_eq_some_iff.1 hy).1
  | int32 vs => cases h
  | int64 vs => cases h

theorem datatype_of_entry {vs : Values} {k : Nat} {x : Entry} (h : vs.get? k = some x) :
    vs.datatype = x.datatype := by
  cases vs with
  | fp32 vs =>
    obtain ⟨y, -, rfl⟩ := Option.map_eq_some_iff.1 h
    rfl
  | fp64 vs =>
    obtain ⟨y, -, rfl⟩ := Option.map_eq_some_iff.1 h
    rfl
  | int32 vs => cases h
  | int64 vs => cases h

theorem length_toDoubles (vs : Values) : vs.toDoubles.length = vs.length := by
  cases vs <;> simp [toDoubles, length]

end Values

/-! ### Casting -/

namespace Codec

/-- Codecs that send floating point numbers: those that can be made. -/
def SendsFloats (c : Codec) : Prop :=
  ∀ d, c.datatype = some d → d.isFloat = true

theorem sendsFloats_of_made {c : Codec}
    (h : c = default ∨ ∃ name datatype, make name datatype = .ok c) : c.SendsFloats := by
  rcases h with rfl | ⟨name, datatype, h⟩
  · intro d hd
    cases hd
  · unfold make at h
    split at h
    · cases h
    · split at h
      · split at h
        · rename_i hfloat
          cases h
          intro d hd
          cases hd
          exact hfloat
        · cases h
      · cases h
        intro d hd
        cases hd

/-- The search for a double that does not survive finds one exactly when there is one. -/
theorem find?_lost_eq_none_iff {xs : List Double} :
    (xs.zipIdx.find? fun (x, _) => !survives x) = none ↔
      ∀ (k : Nat) x, xs[k]? = some x → survives x = true := by
  rw [List.find?_eq_none]
  constructor
  · intro h k x hx
    have hkeep := h (x, k) (List.mk_mem_zipIdx_iff_getElem?.2 hx)
    simpa using hkeep
  · rintro h ⟨x, k⟩ hx
    simp [h k x (List.mk_mem_zipIdx_iff_getElem?.1 hx)]

/-- What a cast makes of floating point values. -/
theorem cast_eq_ok {c : Codec} {vs ws : Values} (h : c.cast vs = .ok ws) :
    ws.datatype = c.datatype.getD vs.datatype ∧ ws.length = vs.length ∧
      ∀ k x, vs.get? k = some x → ∃ y, ws.get? k = some y ∧ y.StandsFor x := by
  unfold cast at h
  split at h
  case h_1 hd =>
    cases h
    exact ⟨by rw [hd]; rfl, rfl, fun k x hx => ⟨x, hx, .inl rfl⟩⟩
  case h_2 xs hd =>
    cases h
    refine ⟨by rw [hd]; rfl, by simp [Values.length], fun k x hx => ?_⟩
    obtain ⟨y, hy, rfl⟩ := Option.map_eq_some_iff.1 hx
    exact ⟨.fp64 y.widen, by simp [Values.get?, hy], .inr ⟨nofun, .inl rfl⟩⟩
  case h_3 xs hd =>
    split at h
    · cases h
    · rename_i hfind
      cases h
      refine ⟨by rw [hd]; rfl, by simp [Values.length], fun k x hx => ?_⟩
      obtain ⟨y, hy, rfl⟩ := Option.map_eq_some_iff.1 hx
      have hkeep := find?_lost_eq_none_iff.1 hfind k y hy
      exact ⟨.fp32 (.ofDouble y), by simp [Values.get?, hy],
        .inr ⟨nofun, same_of_survives hkeep⟩⟩
  case h_4 d hd _ _ =>
    split at h
    · rename_i hsame
      cases h
      exact ⟨by rw [hd, hsame]; rfl, rfl, fun k x hx => ⟨x, hx, .inl rfl⟩⟩
    · cases h

/-- A cast of floating point values fails exactly when narrowing meets a double that does not
survive it. -/
theorem cast_eq_error_iff {c : Codec} (hc : c.SendsFloats) {vs : Values}
    (hvs : vs.datatype.isFloat = true) :
    (∃ e, c.cast vs = .error e) ↔
      c.datatype = some .fp32 ∧ ∃ k x, vs.get? k = some (.fp64 x) ∧ survives x = false := by
  unfold cast
  split
  case h_1 hd => simp [hd]
  case h_2 xs hd => simp [hd]
  case h_3 xs hd =>
    have hlost : (∃ k x, (Values.fp64 xs).get? k = some (.fp64 x) ∧ survives x = false) ↔
        (xs.zipIdx.find? fun (x, _) => !survives x) ≠ none := by
      rw [Ne, find?_lost_eq_none_iff]
      simp [Values.get?]
    rw [and_iff_right hd, hlost]
    split
    · rename_i hfind
      simp [hfind]
    · rename_i hfind
      simp [hfind]
  case h_4 vs _ _ d hd hwiden hnarrow =>
    -- The cases that change the precision are behind, so the codec's is that of the values.
    have hsame : vs.datatype = d := by
      have hfloat := hc d hd
      cases vs with
      | fp32 vs =>
        cases d with
        | fp32 => rfl
        | fp64 => exact (hwiden vs rfl rfl).elim
        | int32 => cases hfloat
        | int64 => cases hfloat
      | fp64 vs =>
        cases d with
        | fp32 => exact (hnarrow vs rfl rfl).elim
        | fp64 => rfl
        | int32 => cases hfloat
        | int64 => cases hfloat
      | int32 vs => cases hvs
      | int64 vs => cases hvs
    rw [if_pos hsame]
    constructor
    · rintro ⟨e, h⟩
      cases h
    · rintro ⟨hd', k, x, hx, -⟩
      obtain rfl : d = .fp32 := Option.some.inj (hd.symm.trans hd')
      cases hsame.symm.trans (Values.datatype_of_entry hx)

end Codec

/-! ### Sources -/

/-- The values of an input, row by row, at the input's precision. -/
def ModelInput.values : ModelInput → Except Error Values
  | fp32 m => .ok (.fp32 m.entries)
  | fp64 m => .ok (.fp64 m.entries)
  | table t => t.toMatrix.map fun m => .fp64 m.entries

/-- What a caller holds. -/
inductive Source where
  | fp32 (a : Strided Single)
  | fp64 (a : Strided Double)
  | table (t : Table)

namespace Source

/-- The input a source is read as. -/
def input : Source → ModelInput
  | fp32 a => .fp32 a.toMatrix
  | fp64 a => .fp64 a.toMatrix
  | table t => .table t

def rows : Source → Nat
  | fp32 a => a.rows
  | fp64 a => a.rows
  | table t => t.rows

def cols : Source → Nat
  | fp32 a => a.cols
  | fp64 a => a.cols
  | table t => t.width

def precision : Source → Datatype
  | fp32 _ => .fp32
  | fp64 _ | table _ => .fp64

/-- The number at row `i` and column `j`, in an array by its place in memory. -/
def get? : Source → Nat → Nat → Option Entry
  | fp32 a, i, j => (a.get? i j).map .fp32
  | fp64 a, i, j => (a.get? i j).map .fp64
  | table t, i, j => (t.cell? i j).bind fun cell => cell.number?.map .fp64

/-- Arrays no larger than can be counted, and tables that were built from as many cells. -/
def Sound (s : Source) : Prop :=
  Matrix.fits s.rows s.cols = true ∧ ∀ t, s = table t → t.Regular

/-- A cell of the table is a text. -/
def HoldsText (s : Source) : Prop :=
  ∃ t i j text, s = table t ∧ t.cell? i j = some (.text text)

/-- Some double is neither a NaN nor equal to any single. -/
def HoldsUnrepresentable (s : Source) : Prop :=
  ∃ i < s.rows, ∃ j < s.cols, ∃ x, s.get? i j = some (.fp64 x) ∧
    x.isNaN = false ∧ ∀ y : Single, y.widen ≠ x

theorem dims_input (s : Source) : s.input.dims = (s.rows, s.cols) := by
  cases s <;> rfl

/-- Every input that an array can count is that of a source. -/
theorem exists_source {input : ModelInput}
    (hfits : Matrix.fits input.dims.1 input.dims.2 = true)
    (hregular : match input with
      | .fp32 m => m.Regular
      | .fp64 m => m.Regular
      | .table t => t.Regular) : ∃ s : Source, s.Sound ∧ s.input = input := by
  cases input with
  | fp32 m =>
    exact ⟨.fp32 (.ofMatrix m hregular), ⟨hfits, nofun⟩,
      congrArg ModelInput.fp32 (Strided.toMatrix_ofMatrix hregular)⟩
  | fp64 m =>
    exact ⟨.fp64 (.ofMatrix m hregular), ⟨hfits, nofun⟩,
      congrArg ModelInput.fp64 (Strided.toMatrix_ofMatrix hregular)⟩
  | table t =>
    refine ⟨.table t, ⟨hfits, fun t' ht => ?_⟩, rfl⟩
    cases ht
    exact hregular

/-- The values of a source are its entries row by row. -/
theorem values_eq_ok {s : Source} (hs : s.Sound) {vs : Values} (h : s.input.values = .ok vs) :
    vs.datatype = s.precision ∧ vs.length = s.rows * s.cols ∧
      ∀ i < s.rows, ∀ j < s.cols, ∃ x, s.get? i j = some x ∧
        vs.get? (i * s.cols + j) = some x := by
  cases s with
  | fp32 a =>
    cases h
    refine ⟨rfl, a.regular_toMatrix, fun i hi j hj => ?_⟩
    obtain ⟨x, hx⟩ := a.exists_entry hi hj
    exact ⟨.fp32 x, by simp [get?, hx], by
      simp [Values.get?, cols, a.getElem?_toMatrix hi hj, hx]⟩
  | fp64 a =>
    cases h
    refine ⟨rfl, a.regular_toMatrix, fun i hi j hj => ?_⟩
    obtain ⟨x, hx⟩ := a.exists_entry hi hj
    exact ⟨.fp64 x, by simp [get?, hx], by
      simp [Values.get?, cols, a.getElem?_toMatrix hi hj, hx]⟩
  | table t =>
    cases hm : t.toMatrix with
    | error e =>
      simp only [input, ModelInput.values, hm] at h
      cases h
    | ok m =>
      simp only [input, ModelInput.values, hm] at h
      cases h
      obtain ⟨hrows, hcols, hregular, hentry⟩ := Table.toMatrix_eq_ok (hs.2 t rfl) hm
      rw [Matrix.Regular, hrows, hcols] at hregular
      refine ⟨rfl, hregular, fun i hi j hj => ?_⟩
      obtain ⟨x, hcell, hx⟩ := hentry i hi j hj
      exact ⟨.fp64 x, by simp [get?, hcell, Cell.number?], by
        simp [Values.get?, cols, hx]⟩

/-- Narrowing fails on the values of a source exactly when no single equals one of them. -/
theorem holdsUnrepresentable_iff {s : Source} (hs : s.Sound) {vs : Values}
    (h : s.input.values = .ok vs) :
    s.HoldsUnrepresentable ↔
      ∃ k x, vs.get? k = some (.fp64 x) ∧ Codec.survives x = false := by
  obtain ⟨-, hlength, hentry⟩ := values_eq_ok hs h
  have hlost : ∀ x, Codec.survives x = false ↔ x.isNaN = false ∧ ∀ y : Single, y.widen ≠ x := by
    intro x
    rw [← Bool.not_eq_true, Codec.survives_iff, not_or, Bool.not_eq_true, not_exists]
  constructor
  · rintro ⟨i, hi, j, hj, x, hx, hnan⟩
    obtain ⟨y, hy, hv⟩ := hentry i hi j hj
    rw [hx] at hy
    cases hy
    exact ⟨_, x, hv, (hlost x).2 hnan⟩
  · rintro ⟨k, x, hx, hsurvive⟩
    have hk : k < s.rows * s.cols := hlength ▸ Values.lt_of_entry hx
    obtain ⟨i, hi, j, hj, rfl⟩ := Matrix.exists_place hk
    obtain ⟨y, hy, hv⟩ := hentry i hi j hj
    rw [hx] at hv
    cases hv
    exact ⟨i, hi, j, hj, x, hy, (hlost x).1 hsurvive⟩

/-- A source without values is a table with a text. -/
theorem exists_values_error_iff {s : Source} (hs : s.Sound) :
    (∃ e, s.input.values = .error e) ↔ s.HoldsText := by
  constructor
  · rintro ⟨e, h⟩
    cases s with
    | fp32 a => cases h
    | fp64 a => cases h
    | table t =>
      cases hm : t.toMatrix with
      | error e =>
        obtain ⟨i, -, j, -, text, hcell⟩ :=
          Table.exists_text_of_toMatrix_eq_error (hs.2 t rfl) hs.1 hm
        exact ⟨t, i, j, text, rfl, hcell⟩
      | ok m =>
        simp only [input, ModelInput.values, hm] at h
        cases h
  · rintro ⟨t, i, j, text, rfl, hcell⟩
    cases h : (table t).input.values with
    | error e => exact ⟨e, rfl⟩
    | ok vs =>
      obtain ⟨hi, hj⟩ := Table.lt_of_cell (hs.2 t rfl) hcell
      obtain ⟨x, hx, -⟩ := (values_eq_ok hs h).2.2 i hi j hj
      simp [get?, hcell, Cell.number?] at hx

end Source

/-! ### Encoding and decoding -/

namespace Codec

/-- The tensor made of a source: every entry row by row, at the codec's precision. -/
structure Carries (c : Codec) (s : Source) (t : Tensor) : Prop where
  name : t.name = c.inputName
  dims : t.shape.dims = [s.rows, s.cols]
  datatype : t.datatype = c.datatype.getD s.precision
  length : t.values.length = s.rows * s.cols
  entries : ∀ i < s.rows, ∀ j < s.cols, ∃ x y, s.get? i j = some x ∧
    t.values.get? (i * s.cols + j) = some y ∧ y.StandsFor x

/-- The matrix with the source's entries as doubles. -/
structure Returns (s : Source) (m : Matrix Double) : Prop where
  rows : m.rows = s.rows
  cols : m.cols = s.cols
  regular : m.Regular
  entries : ∀ i < s.rows, ∀ j < s.cols, ∃ x z, s.get? i j = some x ∧
    m.get? i j = some z ∧ z.Same x.toDouble

theorem encode_eq (c : Codec) (input : ModelInput) :
    c.encode input = input.values.bind fun vs => (c.cast vs).bind fun ws =>
      Tensor.make c.inputName ⟨[input.dims.1, input.dims.2]⟩ ws := by
  cases input with
  | fp32 m => rfl
  | fp64 m => rfl
  | table t =>
    unfold encode ModelInput.values
    cases t.toMatrix <;> rfl

theorem count_pair (rows cols : Nat) : (⟨[rows, cols]⟩ : Shape).count = rows * cols := by
  simp [Shape.count, Shape.product]

/-- What is encoded of a source. -/
theorem carries_of_encode {c : Codec} {s : Source} (hs : s.Sound) {t : Tensor}
    (h : c.encode s.input = .ok t) : c.Carries s t := by
  rw [encode_eq, s.dims_input] at h
  cases hvs : s.input.values with
  | error e => rw [hvs] at h; cases h
  | ok vs =>
    cases hws : c.cast vs with
    | error e => rw [hvs, Except.bind, hws] at h; cases h
    | ok ws =>
      obtain ⟨hprecision, hlength, hentry⟩ := Source.values_eq_ok hs hvs
      obtain ⟨hdatatype, hsame, hcast⟩ := cast_eq_ok hws
      rw [hvs, Except.bind, hws, Except.bind, Tensor.make] at h
      split at h
      · cases h
        refine ⟨rfl, rfl, hdatatype.trans (by rw [hprecision]), hsame.trans hlength,
          fun i hi j hj => ?_⟩
        obtain ⟨x, hx, hv⟩ := hentry i hi j hj
        obtain ⟨y, hy, hstands⟩ := hcast _ x hv
        exact ⟨x, y, hx, hy, hstands⟩
      · cases h

/-- One tensor whose rows an array can count is decoded as it is laid out. -/
theorem decode_singleton {t : Tensor} {rows cols : Nat} (hdims : t.shape.dims = [rows, cols])
    (hfits : Matrix.fits rows cols = true) (hlength : t.values.length = rows * cols)
    (modelName : String) (modelVersion id : Option String) :
    decode ⟨modelName, modelVersion, id, [t]⟩ = .ok ⟨rows, cols, t.values.toDoubles⟩ := by
  have hmatrix : t.shape.matrixDims = (rows, cols) := by
    simp [Shape.matrixDims, hdims, Shape.product]
  have hblock : block rows t = .ok ⟨rows, cols, t.values.toDoubles⟩ := by
    have hentries : t.values.toDoubles.length = rows * cols := by
      rw [Values.length_toDoubles, hlength]
    rw [block, hmatrix]
    dsimp only
    rw [if_pos rfl, Matrix.ofEntries?, if_pos ⟨hfits, hentries⟩]
  simp only [decode, hmatrix, List.mapM_cons, List.mapM_nil, hblock]
  rfl

/-- An answer with the tensor of a source alone is decoded to the source's matrix. -/
theorem returns_of_carries {c : Codec} {s : Source} (hs : s.Sound) {t : Tensor}
    (h : c.Carries s t) (modelName : String) (modelVersion id : Option String) :
    ∃ m, decode ⟨modelName, modelVersion, id, [t]⟩ = .ok m ∧ Returns s m := by
  refine ⟨_, decode_singleton h.dims hs.1 h.length modelName modelVersion id, rfl, rfl,
    (Values.length_toDoubles _).trans h.length, fun i hi j hj => ?_⟩
  obtain ⟨x, y, hx, hy, hstands⟩ := h.entries i hi j hj
  refine ⟨x, y.toDouble, hx, ?_, hstands.same⟩
  rw [Matrix.get?, if_pos hj, Values.toDoubles_of_entry hy]

/-- Encoding fails where there are no values or where a cast of them fails. -/
theorem exists_encode_error_iff {c : Codec} (hc : c.SendsFloats) {s : Source} (hs : s.Sound) :
    (∃ e, c.encode s.input = .error e) ↔
      s.HoldsText ∨ (c.datatype = some .fp32 ∧ s.HoldsUnrepresentable) := by
  rw [encode_eq, s.dims_input, ← Source.exists_values_error_iff hs]
  cases hvs : s.input.values with
  | error e => exact ⟨fun _ => .inl ⟨e, rfl⟩, fun _ => ⟨e, rfl⟩⟩
  | ok vs =>
    obtain ⟨hprecision, hlength, -⟩ := Source.values_eq_ok hs hvs
    have hfloat : vs.datatype.isFloat = true := by
      rw [hprecision]
      cases s <;> rfl
    have hmake : (∃ e, ((c.cast vs).bind fun ws =>
        Tensor.make c.inputName ⟨[s.rows, s.cols]⟩ ws) = .error e) ↔ ∃ e, c.cast vs = .error e := by
      cases hws : c.cast vs with
      | error e => simp [Except.bind]
      | ok ws =>
        have hcount : (⟨[s.rows, s.cols]⟩ : Shape).count = ws.length := by
          rw [count_pair, (cast_eq_ok hws).2.1, hlength]
        rw [Except.bind, Tensor.make, if_pos hcount]
        simp
    rw [Except.bind, hmake, cast_eq_error_iff hc hfloat, Source.holdsUnrepresentable_iff hs hvs]
    simp

/-- **What goes out comes back.** Of a codec that was made and a source, encoding gives a tensor
that carries every entry at its place, and an answer with that tensor alone is decoded to a
matrix of the same entries, bit for bit, whatever else the answer says. Encoding fails only for
a text or, on the way to singles, for a double that no single equals. -/
theorem encode_decode {c : Codec} (hc : c = default ∨ ∃ name datatype, make name datatype = .ok c)
    {s : Source} (hs : s.Sound) :
    (∀ t, c.encode s.input = .ok t → c.Carries s t ∧
      ∀ modelName modelVersion id, ∃ m,
        decode ⟨modelName, modelVersion, id, [t]⟩ = .ok m ∧ Returns s m) ∧
    ((∃ e, c.encode s.input = .error e) ↔
      s.HoldsText ∨ (c.datatype = some .fp32 ∧ s.HoldsUnrepresentable)) :=
  ⟨fun _ h => ⟨carries_of_encode hs h, returns_of_carries hs (carries_of_encode hs h)⟩,
    exists_encode_error_iff (sendsFloats_of_made hc) hs⟩

/-- A transposed array of doubles that singles equal, the smallest of them, a negative zero and
a NaN among them, sent at the lower precision. -/
theorem encode_decode_transposed :
    let buffer : List Double := [⟨0x3ff8000000000000⟩, ⟨0x36a0000000000000⟩, ⟨0xc000000000000000⟩,
      ⟨0x8000000000000000⟩, ⟨0x7ff8000000000001⟩, ⟨0x7ff0000000000000⟩]
    ∃ inside, let s := Source.fp64 ⟨buffer, 3, 2, 0, 1, 3, inside⟩
    ∃ c, make "x" (some .fp32) = .ok c ∧ s.Sound ∧
      ∃ t, c.encode s.input = .ok t ∧ c.Carries s t ∧
        ∃ m, decode ⟨"m", none, none, [t]⟩ = .ok m ∧ Returns s m := by
  intro buffer
  have inside : ∀ i < 3, ∀ j < 2, 0 ≤ (0 : Int) + (i : Nat) * 1 + (j : Nat) * 3 ∧
      (0 : Int) + i * 1 + j * 3 < buffer.length := by decide
  refine ⟨inside, ⟨"x", some .fp32⟩, rfl, ?_⟩
  have hs : (Source.fp64 ⟨buffer, 3, 2, 0, 1, 3, inside⟩).Sound :=
    ⟨show Matrix.fits 3 2 = true by decide, nofun⟩
  have ht : ∃ t, (⟨"x", some .fp32⟩ : Codec).encode
      (Source.fp64 ⟨buffer, 3, 2, 0, 1, 3, inside⟩).input = .ok t := ⟨_, rfl⟩
  obtain ⟨t, ht⟩ := ht
  obtain ⟨hcarries, hreturns⟩ := (encode_decode (.inr ⟨"x", some .fp32, rfl⟩) hs).1 t ht
  exact ⟨hs, t, ht, hcarries, hreturns "m" none none⟩

end Codec

end ModelProbe
