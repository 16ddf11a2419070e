import ModelProbe.Proofs.Matrix.Beside
import ModelProbe.Proofs.Tensor.Counted

/-! Decoding is joining.

An output is laid out as the matrix of its shape (`Tensor.matrix`). A response is decoded exactly
when it has outputs, all of them have the same rows and an array can count their columns together,
and what comes out is the join of their matrices, also where there is only one (`decode_eq_ok_iff`).
So the element `i * c + j` of an output with `c` columns is found in row `i`, behind the columns of
the outputs before it (`Joins`), and decoding a list of outputs part by part gives the blocks of the
same join. -/
namespace ModelProbe

/-- An output as it is laid out, as doubles. -/
def Tensor.matrix (t : Tensor) : Matrix Double :=
  ⟨t.shape.matrixDims.1, t.shape.matrixDims.2, t.values.toDoubles⟩

theorem Tensor.Built.regular_matrix {t : Tensor} (h : t.Built) : t.matrix.Regular := by
  obtain ⟨dims, shape, -, hmake⟩ := h
  obtain ⟨hcount, ht⟩ := make_eq_ok_iff.1 hmake
  have hshape : t.shape = shape := by rw [ht]
  rw [Matrix.Regular, matrix, Values.length_toDoubles, Shape.matrixDims_mul, hshape, hcount]

namespace Codec

open ModelProbe.Matrix (beside totalCols IsBeside Level)

variable {r : InferResponse} {outputs : List Tensor} {rows : Nat}

/-- The columns of all outputs. -/
def columnsOf (outputs : List Tensor) : Nat :=
  outputs.foldr (fun t n => t.shape.matrixDims.2 + n) 0

/-- The rows of each output, the columns of all of them, and every element where the columns of the
outputs before it end. -/
structure Joins (outputs : List Tensor) (m : Matrix Double) : Prop where
  rows : ∀ t ∈ outputs, m.rows = t.shape.matrixDims.1
  cols : m.cols = columnsOf outputs
  regular : m.Regular
  entry : ∀ k t, outputs[k]? = some t → ∀ i < m.rows, ∀ j < t.shape.matrixDims.2,
    m.get? i (columnsOf (outputs.take k) + j) =
      t.values.toDoubles[i * t.shape.matrixDims.2 + j]?

theorem totalCols_matrix (outputs : List Tensor) :
    totalCols (outputs.map Tensor.matrix) = columnsOf outputs := by
  simp [totalCols, columnsOf, List.foldr_map, Tensor.matrix]

theorem columnsOf_le {parts : List (List Tensor)} {part : List Tensor} (h : part ∈ parts) :
    columnsOf part ≤ columnsOf parts.flatten := by
  obtain ⟨front, back, rfl⟩ := List.append_of_mem h
  simp only [← totalCols_matrix, List.flatten_append, List.flatten_cons, List.map_append,
    Matrix.totalCols_append]
  omega

theorem joins_iff {m : Matrix Double} :
    Joins outputs m ↔ IsBeside (outputs.map Tensor.matrix) m := by
  have hcols : ∀ k,
      totalCols ((outputs.map Tensor.matrix).take k) = columnsOf (outputs.take k) := by
    intro k
    rw [← List.map_take, totalCols_matrix]
  constructor
  · rintro ⟨hrows, hall, hregular, hentry⟩
    refine ⟨fun b hb => ?_, hall.trans (totalCols_matrix outputs).symm, hregular,
      fun k b hb i hi j hj => ?_⟩
    · obtain ⟨t, ht, rfl⟩ := List.mem_map.1 hb
      exact hrows t ht
    · rw [List.getElem?_map, Option.map_eq_some_iff] at hb
      obtain ⟨t, ht, rfl⟩ := hb
      rw [hcols, hentry k t ht i hi j hj, Matrix.get?, if_pos hj]
      rfl
  · rintro ⟨hrows, hall, hregular, hentry⟩
    refine ⟨fun t ht => hrows _ (List.mem_map_of_mem ht), hall.trans (totalCols_matrix outputs),
      hregular, fun k t ht i hi j hj => ?_⟩
    have hb : (outputs.map Tensor.matrix)[k]? = some t.matrix := by rw [List.getElem?_map, ht]; rfl
    have hj : j < t.matrix.cols := hj
    rw [← hcols, hentry k _ hb i hi j hj, Matrix.get?, if_pos hj]
    rfl

/-! ### One response -/

theorem block_eq {t : Tensor} (ht : t.Built)
    (hfits : Matrix.fits t.shape.matrixDims.1 t.shape.matrixDims.2 = true) (rows : Nat) :
    block rows t = if t.shape.matrixDims.1 = rows then .ok t.matrix
      else .error (.shapeMismatch t.name t.shape.dims rows t.shape.matrixDims.1) := by
  have hentries : t.values.toDoubles.length = t.shape.matrixDims.1 * t.shape.matrixDims.2 :=
    ht.regular_matrix
  have hlaid : Matrix.ofEntries? t.shape.matrixDims.1 t.shape.matrixDims.2 t.values.toDoubles =
      some t.matrix := if_pos ⟨hfits, hentries⟩
  unfold block
  dsimp only
  rw [hlaid]

/-- What becomes of the blocks: one alone is the result, and several are joined. -/
def join (rows : Nat) : List (Matrix Double) → Except Error (Matrix Double)
  | [only] => .ok only
  | blocks =>
    match Matrix.beside? rows blocks with
    | some m => .ok m
    | none => .error (.unsupported .joinTooLarge)

theorem decode_cons {first : Tensor} {rest : List Tensor} (h : r.outputs = first :: rest) :
    decode r = r.outputs.mapM (block first.shape.matrixDims.1) >>=
      join first.shape.matrixDims.1 := by
  rw [decode, h]
  rfl

/-- One block needs no case of its own: it is its own join. -/
theorem join_eq_ok_iff {blocks : List (Matrix Double)} (h : Level rows blocks)
    (hfits : ∀ b ∈ blocks, Matrix.fits rows b.cols = true) {m : Matrix Double} :
    join rows blocks = .ok m ↔
      Matrix.fits rows (totalCols blocks) = true ∧ m = beside rows blocks := by
  unfold join
  split
  · rename_i b
    obtain ⟨hb, rfl⟩ := h b (List.mem_singleton_self b)
    have hcols : totalCols [b] = b.cols := Nat.add_zero _
    rw [hcols, Matrix.beside_singleton hb, hfits b (List.mem_singleton_self b)]
    simp [eq_comm]
  · by_cases hall : Matrix.fits rows (totalCols blocks) = true
    · rw [Matrix.beside?_of_fits hall]
      simp [hall, eq_comm]
    · have hnone : Matrix.beside? rows blocks = none := if_neg hall
      simp [hnone, hall]

/-- Responses made of tensors with shapes from the wire, none of which is past counting as a
matrix. -/
structure Wired (outputs : List Tensor) : Prop where
  built : ∀ t ∈ outputs, t.Built
  fits : ∀ t ∈ outputs, Matrix.fits t.shape.matrixDims.1 t.shape.matrixDims.2 = true

theorem Wired.level (h : Wired outputs) (hrows : ∀ t ∈ outputs, t.shape.matrixDims.1 = rows) :
    Level rows (outputs.map Tensor.matrix) := by
  intro b hb
  obtain ⟨t, ht, rfl⟩ := List.mem_map.1 hb
  exact ⟨(h.built t ht).regular_matrix, hrows t ht⟩

theorem Wired.mapM_block (h : Wired outputs)
    (hrows : ∀ t ∈ outputs, t.shape.matrixDims.1 = rows) :
    outputs.mapM (block rows) = .ok (outputs.map Tensor.matrix) := by
  apply mapM_eq_ok_map
  intro t ht
  rw [block_eq (h.built t ht) (h.fits t ht), if_pos (hrows t ht)]

/-- Blocks that were made have the rows asked for. -/
theorem Wired.rows_of_mapM_block (h : Wired outputs) {blocks : List (Matrix Double)}
    (hblocks : outputs.mapM (block rows) = .ok blocks) :
    ∀ t ∈ outputs, t.shape.matrixDims.1 = rows := by
  intro t ht
  obtain ⟨i, hi, rfl⟩ := List.getElem_of_mem ht
  have hstep := mapM_eq_ok_iff.1 hblocks
  have hb := hstep.get hi (hstep.length_eq ▸ hi)
  rw [List.get_eq_getElem, block_eq (h.built _ ht) (h.fits _ ht)] at hb
  by_contra hne
  rw [if_neg hne] at hb
  cases hb

/-- **What is decoded**: the join of the outputs, when their rows are the same and an array can
count their columns. -/
theorem decode_eq_ok_iff (h : Wired r.outputs) {m : Matrix Double} :
    decode r = .ok m ↔ ∃ rows, r.outputs ≠ [] ∧ (∀ t ∈ r.outputs, t.shape.matrixDims.1 = rows) ∧
      Matrix.fits rows (columnsOf r.outputs) = true ∧
      m = beside rows (r.outputs.map Tensor.matrix) := by
  cases houtputs : r.outputs with
  | nil =>
    rw [decode, houtputs]
    constructor
    · intro h
      cases h
    · rintro ⟨_, hne, -⟩
      exact absurd rfl hne
  | cons first rest =>
    rw [decode_cons houtputs, ← houtputs, bind_eq_ok_iff]
    have hfits : ∀ rows, (∀ t ∈ r.outputs, t.shape.matrixDims.1 = rows) →
        ∀ b ∈ r.outputs.map Tensor.matrix, Matrix.fits rows b.cols = true := by
      intro rows hrows b hb
      obtain ⟨t, ht, rfl⟩ := List.mem_map.1 hb
      exact hrows t ht ▸ h.fits t ht
    constructor
    · rintro ⟨blocks, hblocks, hm⟩
      have hrows := h.rows_of_mapM_block hblocks
      rw [h.mapM_block hrows] at hblocks
      cases hblocks
      obtain ⟨hall, rfl⟩ := (join_eq_ok_iff (h.level hrows) (hfits _ hrows)).1 hm
      rw [totalCols_matrix] at hall
      exact ⟨_, by simp [houtputs], hrows, hall, rfl⟩
    · rintro ⟨rows, -, hrows, hall, rfl⟩
      have hfirst : first.shape.matrixDims.1 = rows := hrows first (by simp [houtputs])
      rw [← totalCols_matrix] at hall
      exact ⟨_, h.mapM_block (hfirst ▸ hrows), hfirst ▸
        (join_eq_ok_iff (h.level hrows) (hfits rows hrows)).2 ⟨hall, rfl⟩⟩

theorem decode_nil (h : r.outputs = []) : decode r = .error Malformed.noOutputs.error := by
  rw [decode, h]
  rfl

/-- The first output that differs from the first one in its rows is the one reported. -/
theorem decode_of_other_rows (h : Wired r.outputs) {first t : Tensor}
    {rest front back : List Tensor}
    (hfirst : r.outputs = first :: rest) (hsplit : r.outputs = front ++ t :: back)
    (hfront : ∀ s ∈ front, s.shape.matrixDims.1 = first.shape.matrixDims.1)
    (ht : t.shape.matrixDims.1 ≠ first.shape.matrixDims.1) :
    decode r = .error (.shapeMismatch t.name t.shape.dims first.shape.matrixDims.1
      t.shape.matrixDims.1) := by
  have hmem : ∀ s ∈ front ++ t :: back, s ∈ r.outputs := fun s hs => hsplit ▸ hs
  have hblock : ∀ s ∈ front ++ t :: back, ∀ rows, block rows s =
      if s.shape.matrixDims.1 = rows then .ok s.matrix
      else .error (.shapeMismatch s.name s.shape.dims rows s.shape.matrixDims.1) :=
    fun s hs => block_eq (h.built s (hmem s hs)) (h.fits s (hmem s hs))
  have hfails : (front ++ t :: back).mapM (block first.shape.matrixDims.1) =
      .error (.shapeMismatch t.name t.shape.dims first.shape.matrixDims.1
        t.shape.matrixDims.1) := by
    apply mapM_eq_error_of_first
    · intro s hs
      rw [hblock s (List.mem_append_left _ hs), if_pos (hfront s hs)]
      exact ⟨_, rfl⟩
    · rw [hblock t (by simp), if_neg ht]
  rw [decode_cons hfirst, hsplit, hfails]
  rfl

/-! ### Parts of a response -/

/-- Parts that are decoded to matrices of the same rows are decoded to parts of the join. -/
theorem eq_map_of_forall₂_decode {parts : List (List Tensor)} {ms : List (Matrix Double)}
    (hms : List.Forall₂ (fun part m => decode { r with outputs := part } = .ok m) parts ms)
    (h : ∀ part ∈ parts, Wired part) (hrows : ∀ m ∈ ms, m.rows = rows) :
    (∀ part ∈ parts, ∀ t ∈ part, t.shape.matrixDims.1 = rows) ∧
      ms = parts.map fun part => beside rows (part.map Tensor.matrix) := by
  induction hms with
  | nil => exact ⟨fun _ hpart => absurd hpart List.not_mem_nil, rfl⟩
  | @cons part m parts ms hm _ ih =>
    obtain ⟨hpart, hparts⟩ := List.forall_mem_cons.1 h
    obtain ⟨hmrows, hmsrows⟩ := List.forall_mem_cons.1 hrows
    obtain ⟨rows', -, hsame, -, rfl⟩ := (decode_eq_ok_iff hpart).1 hm
    obtain rfl : rows' = rows := hmrows
    obtain ⟨hrest, rfl⟩ := ih hparts hmsrows
    exact ⟨List.forall_mem_cons.2 ⟨hsame, hrest⟩, rfl⟩

/-- The matrices of the parts stand side by side in the matrix of the whole. -/
theorem isBeside_parts {parts : List (List Tensor)} (h : ∀ part ∈ parts, Wired part)
    (hne : parts ≠ []) (hrows : ∀ part ∈ parts, ∀ t ∈ part, t.shape.matrixDims.1 = rows) :
    IsBeside (parts.map fun part => beside rows (part.map Tensor.matrix))
      (beside rows (parts.flatten.map Tensor.matrix)) := by
  have hlevels : ∀ blocks ∈ parts.map (List.map Tensor.matrix), Level rows blocks := by
    intro blocks hblocks
    obtain ⟨part, hpart, rfl⟩ := List.mem_map.1 hblocks
    exact (h part hpart).level (hrows part hpart)
  have hjoins : (parts.map fun part => beside rows (part.map Tensor.matrix)) =
      (parts.map (List.map Tensor.matrix)).map (beside rows) := by
    rw [List.map_map]
    rfl
  have hlevel : Level rows ((parts.map (List.map Tensor.matrix)).map (beside rows)) := by
    intro b hb
    obtain ⟨blocks, hblocks, rfl⟩ := List.mem_map.1 hb
    exact ⟨Matrix.regular_beside (hlevels blocks hblocks), rfl⟩
  rw [hjoins, Matrix.isBeside_iff hlevel (by simpa using hne), Matrix.beside_flatten hlevels,
    List.map_flatten]

/-- **Decoding a list of outputs is joining what its parts are decoded to.** -/
theorem decode_flatten {parts : List (List Tensor)} (h : Wired parts.flatten)
    (houtputs : r.outputs = parts.flatten) (hne : parts ≠ []) (hparts : ∀ part ∈ parts, part ≠ [])
    (hjoined : ∀ rows, (∀ t ∈ parts.flatten, t.shape.matrixDims.1 = rows) →
      Matrix.fits rows (columnsOf parts.flatten) = true) {m : Matrix Double} :
    decode r = .ok m ↔ ∃ ms,
      List.Forall₂ (fun part m => decode { r with outputs := part } = .ok m) parts ms ∧
        IsBeside ms m := by
  have hmem : ∀ part ∈ parts, ∀ t ∈ part, t ∈ parts.flatten :=
    fun part hpart t ht => List.mem_flatten.2 ⟨part, hpart, ht⟩
  have hwired : ∀ part ∈ parts, Wired part := fun part hpart =>
    ⟨fun t ht => h.built t (hmem part hpart t ht), fun t ht => h.fits t (hmem part hpart t ht)⟩
  rw [decode_eq_ok_iff (houtputs ▸ h), houtputs]
  constructor
  · rintro ⟨rows, -, hrows, hall, rfl⟩
    have hpartRows : ∀ part ∈ parts, ∀ t ∈ part, t.shape.matrixDims.1 = rows :=
      fun part hpart t ht => hrows t (hmem part hpart t ht)
    refine ⟨_, ?_, isBeside_parts hwired hne hpartRows⟩
    rw [List.forall₂_map_right_iff, List.forall₂_same]
    intro part hpart
    have hfits : Matrix.fits rows (columnsOf part) = true :=
      Matrix.fits_mono_cols (columnsOf_le hpart) hall
    exact (decode_eq_ok_iff (hwired part hpart)).2
      ⟨rows, hparts part hpart, hpartRows part hpart, hfits, rfl⟩
  · rintro ⟨ms, hms, hbeside⟩
    obtain ⟨hpartRows, rfl⟩ :=
      eq_map_of_forall₂_decode hms hwired fun b hb => (hbeside.rows b hb).symm
    have hrows : ∀ t ∈ parts.flatten, t.shape.matrixDims.1 = m.rows := by
      intro t ht
      obtain ⟨part, hpart, ht⟩ := List.mem_flatten.1 ht
      exact hpartRows part hpart t ht
    have hflatten : parts.flatten ≠ [] := by
      obtain ⟨part, hpart⟩ := List.exists_mem_of_ne_nil parts hne
      obtain ⟨t, ht⟩ := List.exists_mem_of_ne_nil part (hparts part hpart)
      exact List.ne_nil_of_mem (hmem part hpart t ht)
    have hms : (parts.map fun part => beside m.rows (part.map Tensor.matrix)) ≠ [] := by
      simpa using hne
    exact ⟨m.rows, hflatten, hrows, hjoined _ hrows,
      hbeside.unique (isBeside_parts hwired hne hpartRows) hms⟩

/-! ### The reference -/

/-- **Decoding equals its reference.** Of a response whose tensors have shapes from the wire, where
an array can count each output's matrix and, when their rows are the same, all of them together:
decoding succeeds exactly when there is an output and all have the same rows, and the result joins
them. Without outputs the answer is malformed, and otherwise the first output whose rows are not
those of the first one is reported. And to decode outputs part by part is to decode the blocks that
stand side by side in the result. -/
theorem decode_joins (hbuilt : ∀ t ∈ r.outputs, t.Built)
    (hfits : ∀ t ∈ r.outputs, Matrix.fits t.shape.matrixDims.1 t.shape.matrixDims.2 = true)
    (hjoined : ∀ rows, r.outputs ≠ [] → (∀ t ∈ r.outputs, t.shape.matrixDims.1 = rows) →
      Matrix.fits rows (columnsOf r.outputs) = true) :
    ((∃ m, decode r = .ok m) ↔
      r.outputs ≠ [] ∧ ∃ rows, ∀ t ∈ r.outputs, t.shape.matrixDims.1 = rows) ∧
    (∀ m, decode r = .ok m → Joins r.outputs m) ∧
    (r.outputs = [] → decode r = .error Malformed.noOutputs.error) ∧
    (∀ first rest front t back, r.outputs = first :: rest → r.outputs = front ++ t :: back →
      (∀ s ∈ front, s.shape.matrixDims.1 = first.shape.matrixDims.1) →
      t.shape.matrixDims.1 ≠ first.shape.matrixDims.1 →
      decode r = .error (.shapeMismatch t.name t.shape.dims first.shape.matrixDims.1
        t.shape.matrixDims.1)) ∧
    (∀ parts : List (List Tensor), r.outputs = parts.flatten → parts ≠ [] →
      (∀ part ∈ parts, part ≠ []) → ∀ m, decode r = .ok m ↔ ∃ ms,
        List.Forall₂ (fun part m => decode { r with outputs := part } = .ok m) parts ms ∧
          IsBeside ms m) := by
  have h : Wired r.outputs := ⟨hbuilt, hfits⟩
  refine ⟨⟨?_, ?_⟩, fun m hm => ?_, decode_nil, fun _ _ _ _ _ => decode_of_other_rows h,
    fun parts houtputs hne hparts m => ?_⟩
  · rintro ⟨m, hm⟩
    obtain ⟨rows, hne, hrows, -⟩ := (decode_eq_ok_iff h).1 hm
    exact ⟨hne, rows, hrows⟩
  · rintro ⟨hne, rows, hrows⟩
    exact ⟨_, (decode_eq_ok_iff h).2 ⟨rows, hne, hrows, hjoined rows hne hrows, rfl⟩⟩
  · obtain ⟨rows, hne, hrows, -, rfl⟩ := (decode_eq_ok_iff h).1 hm
    exact joins_iff.2 (Matrix.isBeside_beside (h.level hrows))
  · apply decode_flatten (houtputs ▸ h) houtputs hne hparts
    intro rows hrows
    obtain ⟨part, hpart⟩ := List.exists_mem_of_ne_nil parts hne
    obtain ⟨t, ht⟩ := List.exists_mem_of_ne_nil part (hparts part hpart)
    have hflatten : parts.flatten ≠ [] := List.ne_nil_of_mem (List.mem_flatten.2 ⟨part, hpart, ht⟩)
    rw [← houtputs] at hrows hflatten ⊢
    exact hjoined rows hflatten hrows

/-- A column of integers, a block without columns and one of rank three, whose second part is
decoded alone as it is with the others. -/
theorem decode_joins_ranks :
    let counts : Tensor := ⟨"counts", ⟨[2]⟩, .int64 [3, -1]⟩
    let nothing : Tensor := ⟨"nothing", ⟨[2, 0]⟩, .int32 []⟩
    let cube : Tensor := ⟨"cube", ⟨[2, 2, 1]⟩,
      .fp32 [⟨0x3f800000⟩, ⟨0x80000000⟩, ⟨0x7f800000⟩, ⟨0x3f000000⟩]⟩
    let r : InferResponse := ⟨"m", none, none, [counts, nothing, cube]⟩
    let m : Matrix Double := ⟨2, 3, [⟨0x4008000000000000⟩, ⟨0x3ff0000000000000⟩,
      ⟨0x8000000000000000⟩, ⟨0xbff0000000000000⟩, ⟨0x7ff0000000000000⟩, ⟨0x3fe0000000000000⟩]⟩
    (∀ t ∈ r.outputs, t.Built) ∧ decode r = .ok m ∧ Joins r.outputs m ∧
      ∃ ms, List.Forall₂ (fun part m => decode { r with outputs := part } = .ok m)
        [[counts, nothing], [cube]] ms ∧ IsBeside ms m := by
  intro counts nothing cube r m
  have hbuilt : ∀ t ∈ r.outputs, t.Built := by
    rintro t (_ | ⟨_, _ | ⟨_, _ | ⟨_, ht⟩⟩⟩)
    · exact ⟨[2], _, rfl, rfl⟩
    · exact ⟨[2, 0], _, rfl, rfl⟩
    · exact ⟨[2, 2, 1], _, rfl, rfl⟩
    · cases ht
  have hjoined : ∀ rows, r.outputs ≠ [] → (∀ t ∈ r.outputs, t.shape.matrixDims.1 = rows) →
      Matrix.fits rows (columnsOf r.outputs) = true := by
    rintro rows - hrows
    rw [← hrows counts (List.mem_cons_self ..)]
    decide
  have hm : decode r = .ok m := rfl
  obtain ⟨-, hjoins, -, -, hparts⟩ := decode_joins hbuilt (by decide) hjoined
  exact ⟨hbuilt, hm, hjoins m hm,
    (hparts [[counts, nothing], [cube]] rfl (by decide) (by decide) m).1 hm⟩

end Codec

end ModelProbe
