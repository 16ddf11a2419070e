import ModelProbe.Proofs.Grpc.Buffers

/-! Raw buffers and typed lists carry the same answers.

An answer whose outputs declare the datatypes of some values gives the same result with these values
packed into buffers as with them in typed lists. A buffer is accepted for an output exactly when it
has as many bytes as the output's elements take (`TensorMessage.Fits`), and every byte of it comes
back when the values are written again; a buffer of any other length is refused, as a datatype
mismatch when it is no whole number of values and as a shape mismatch when it is
(`packed_as_typed`). -/
namespace ModelProbe.Grpc

open Wire (Bytes)

variable {raw : List Bytes} {i : Nat} {o : TensorMessage} {buffer : Bytes} {d : Datatype}
  {shape : Shape}

/-! ### The length of a buffer -/

/-- The buffer has as many bytes as the elements that the output declares. -/
def TensorMessage.Fits (o : TensorMessage) (buffer : Bytes) : Prop :=
  ∃ d shape, Datatype.parse o.datatype = .ok d ∧ Shape.ofWire o.shape = .ok shape ∧
    buffer.length = shape.count * d.width

theorem fits_iff_length (htag : Datatype.parse o.datatype = .ok d)
    (hshape : Shape.ofWire o.shape = .ok shape) :
    o.Fits buffer ↔ buffer.length = shape.count * d.width := by
  simp only [TensorMessage.Fits, htag, hshape, Except.ok.injEq, ↓existsAndEq, true_and]

theorem TensorMessage.FilledBy.length_eq {t : Tensor} (h : o.FilledBy buffer t) :
    buffer.length = t.shape.count * t.datatype.width := by
  rw [← h.packed, Values.length_packed, h.count]
  rfl

/-- Whatever the bytes are, they are those of a tensor. -/
theorem exists_filledBy_iff : (∃ t, o.FilledBy buffer t) ↔ o.Fits buffer := by
  constructor
  · rintro ⟨t, h⟩
    exact ⟨t.datatype, t.shape, h.datatype, h.shape, h.length_eq⟩
  · rintro ⟨d, shape, htag, hshape, hlength⟩
    have hwhole : buffer.length % d.width = 0 := by
      rw [hlength, Nat.mul_mod_left]
    obtain ⟨vs, hvs⟩ := exists_rawValues o.name hwhole
    obtain ⟨rfl, hpacked⟩ := rawValues_eq_ok_iff.1 hvs
    refine ⟨⟨o.name, shape, vs⟩, rfl, htag, hshape, ?_, hpacked⟩
    rw [← hpacked, Values.length_packed] at hlength
    exact (Nat.eq_of_mul_eq_mul_right vs.datatype.width_pos hlength).symm

/-- An output with a buffer is accepted when the buffer has the right length. -/
theorem exists_outputTensor_raw_iff (hbuffer : raw[i]? = some buffer) :
    (∃ t, outputTensor raw i o = .ok t) ↔ o.Fits buffer := by
  simp only [outputTensor_eq_ok_iff_filledBy hbuffer, exists_filledBy_iff]

/-- A buffer of the wrong length makes the answer fail, once the reader gets to its output. -/
theorem ResponseMessage.Reached.toResponse_of_not_fits {m : ResponseMessage} (h : m.Reached i o)
    (hbuffer : m.rawContents[i]? = some buffer) (htag : Datatype.parse o.datatype = .ok d)
    (hshape : Shape.ofWire o.shape = .ok shape) :
    (buffer.length % d.width ≠ 0 → m.toResponse =
      .error (.datatypeMismatch o.name (.partialValue buffer.length d))) ∧
    (buffer.length % d.width = 0 → buffer.length ≠ shape.count * d.width → m.toResponse =
      .error (.shapeMismatch o.name shape.dims shape.count (buffer.length / d.width))) := by
  have hread : outputTensor m.rawContents i o = (do
      Tensor.make o.name shape (← rawValues o.name d buffer)) := by
    rw [outputTensor_raw htag hbuffer, hshape]
    rfl
  constructor
  · intro hragged
    refine h.toResponse_eq_error ?_
    rw [hread, rawValues_of_ragged hragged]
    rfl
  · intro hwhole hlength
    obtain ⟨vs, hvs⟩ := exists_rawValues o.name hwhole
    obtain ⟨rfl, rfl⟩ := rawValues_eq_ok_iff.1 hvs
    rw [Values.length_packed] at hlength ⊢
    rw [Nat.mul_div_cancel _ vs.datatype.width_pos]
    have hcount : shape.count ≠ vs.length := fun hsame => hlength (by rw [hsame])
    refine h.toResponse_eq_error ?_
    rw [hread, hvs]
    exact if_neg hcount

/-! ### The two ways to carry values -/

/-- The tensor that an output makes of values. -/
def TensorMessage.holding (o : TensorMessage) (vs : Values) : Except Error Tensor := do
  Tensor.make o.name (← Shape.ofWire o.shape) vs

namespace ResponseMessage

variable {m : ResponseMessage} {values : List Values}

/-- The answer with these values, one list of them for each output, as raw buffers. -/
def withBuffers (m : ResponseMessage) (values : List Values) : ResponseMessage :=
  { m with outputs := m.outputs.map TensorMessage.bare, rawContents := values.map Values.packed }

/-- The answer with these values in typed lists. -/
def withContents (m : ResponseMessage) (values : List Values) : ResponseMessage :=
  { m with
    outputs :=
      List.zipWith (fun o vs => { o with contents := some (.ofValues vs) }) m.outputs values
    rawContents := [] }

/-- Each output declares the datatype of its values. -/
def Declares (m : ResponseMessage) (values : List Values) : Prop :=
  List.Forall₂ (fun o vs => Datatype.parse o.datatype = .ok vs.datatype) m.outputs values

theorem Declares.parse_eq (h : m.Declares values) {vs : Values} (ho : m.outputs[i]? = some o)
    (hvs : values[i]? = some vs) : Datatype.parse o.datatype = .ok vs.datatype := by
  obtain ⟨hi, rfl⟩ := List.getElem?_eq_some_iff.1 ho
  obtain ⟨hi', rfl⟩ := List.getElem?_eq_some_iff.1 hvs
  exact h.get hi hi'

/-- Values that an output declares are read from their bytes. -/
theorem outputTensor_packed {vs : Values} (htag : Datatype.parse o.datatype = .ok vs.datatype)
    (hbuffer : raw[i]? = some vs.packed) : outputTensor raw i o = o.holding vs := by
  have hread : rawValues o.name vs.datatype vs.packed = .ok vs := rawValues_eq_ok_iff.2 ⟨rfl, rfl⟩
  rw [outputTensor_raw htag hbuffer, hread]
  rfl

/-- They are read from the list of their datatype. -/
theorem outputTensor_ofValues {vs : Values} (htag : Datatype.parse o.datatype = .ok vs.datatype)
    (hcontents : o.contents = some (.ofValues vs)) : outputTensor [] i o = o.holding vs := by
  rw [outputTensor_typed htag, hcontents, Option.getD_some, typedValues_ofValues]
  rfl

/-- **Values in buffers are values in lists.** -/
theorem toResponse_withBuffers (h : m.Declares values) :
    (m.withBuffers values).toResponse = (m.withContents values).toResponse := by
  have hread : (m.withBuffers values).outputs.zipIdx.mapM
        (fun p => outputTensor (values.map Values.packed) p.2 p.1) =
      (m.withContents values).outputs.zipIdx.mapM (fun p => outputTensor [] p.2 p.1) := by
    refine mapM_zipIdx_congr ?_ fun i x y hx hy => ?_
    · have hlength : m.outputs.length = values.length := h.length_eq
      simp only [withBuffers, withContents, List.length_map, List.length_zipWith, ← hlength,
        Nat.min_self]
    · obtain ⟨o, vs, ho, hvs, rfl⟩ := List.getElem?_zipWith_eq_some.1 hy
      have hbare : x = o.bare := by
        have hmapped := List.getElem?_map.symm.trans hx
        rw [ho] at hmapped
        exact (Option.some.inj hmapped).symm
      have htag := h.parse_eq ho hvs
      have hbuffer : (values.map Values.packed)[i]? = some vs.packed := by
        rw [List.getElem?_map, hvs]
        rfl
      rw [hbare]
      have htyped : outputTensor [] i { o with contents := some (.ofValues vs) } = o.holding vs :=
        outputTensor_ofValues htag rfl
      exact (outputTensor_packed (o := o.bare) htag hbuffer).trans htyped.symm
  let packed : TensorMessage × Nat → Except Error Tensor :=
    fun p => outputTensor (values.map Values.packed) p.2 p.1
  show (do let outputs ← (m.withBuffers values).outputs.zipIdx.mapM packed; _) = _
  rw [hread]
  rfl

/-- With raw buffers an answer is accepted when every output has one of the right length. -/
theorem exists_toResponse_raw_iff (hraw : m.rawContents ≠ []) : (∃ r, m.toResponse = .ok r) ↔
    ∀ (i : Nat) (o : TensorMessage), m.outputs[i]? = some o →
      ∃ buffer, m.rawContents[i]? = some buffer ∧ o.Fits buffer := by
  rw [exists_toResponse_iff]
  constructor
  · intro h i o ho
    obtain ⟨t, ht⟩ := h i o ho
    obtain ⟨buffer, hbuffer, hfills⟩ := (outputTensor_raw_eq_ok_iff hraw).1 ht
    exact ⟨buffer, hbuffer, exists_filledBy_iff.1 ⟨t, hfills⟩⟩
  · intro h i o ho
    obtain ⟨buffer, hbuffer, hfits⟩ := h i o ho
    exact (exists_outputTensor_raw_iff hbuffer).2 hfits

end ResponseMessage

/-- **Packed answers are typed answers, and no byte is lost.** Values of the datatypes that the
outputs declare give the same result in buffers as in typed lists, be it an answer or an error. An
answer with raw buffers is accepted exactly when every output has one of the right length. Of an
output the reader gets to, the buffer is accepted exactly when it has as many bytes as the elements
take, and the values read are written as these bytes again; a length that is no multiple of the
width is a datatype mismatch and any other wrong length a shape mismatch. -/
theorem packed_as_typed :
    (∀ (m : ResponseMessage) (values : List Values), m.Declares values →
      (m.withBuffers values).toResponse = (m.withContents values).toResponse) ∧
    (∀ m : ResponseMessage, m.rawContents ≠ [] → ((∃ r, m.toResponse = .ok r) ↔
      ∀ (i : Nat) (o : TensorMessage), m.outputs[i]? = some o →
        ∃ buffer, m.rawContents[i]? = some buffer ∧ o.Fits buffer)) ∧
    (∀ (m : ResponseMessage) (i : Nat) (o : TensorMessage) (buffer : Bytes) (d : Datatype)
      (shape : Shape), m.Reached i o → m.rawContents[i]? = some buffer →
      Datatype.parse o.datatype = .ok d → Shape.ofWire o.shape = .ok shape →
      ((∃ t, outputTensor m.rawContents i o = .ok t) ↔ buffer.length = shape.count * d.width) ∧
      (∀ t, outputTensor m.rawContents i o = .ok t →
        t.name = o.name ∧ t.datatype = d ∧ t.shape = shape ∧ t.values.packed = buffer) ∧
      (buffer.length % d.width ≠ 0 → m.toResponse =
        .error (.datatypeMismatch o.name (.partialValue buffer.length d))) ∧
      (buffer.length % d.width = 0 → buffer.length ≠ shape.count * d.width → m.toResponse =
        .error (.shapeMismatch o.name shape.dims shape.count (buffer.length / d.width)))) := by
  refine ⟨fun m values h => ResponseMessage.toResponse_withBuffers h,
    fun m hraw => ResponseMessage.exists_toResponse_raw_iff hraw,
    fun m i o buffer d shape hreached hbuffer htag hshape => ?_⟩
  obtain ⟨hragged, hmiscounted⟩ := hreached.toResponse_of_not_fits hbuffer htag hshape
  refine ⟨?_, fun t ht => ?_, hragged, hmiscounted⟩
  · rw [exists_outputTensor_raw_iff hbuffer]
    exact fits_iff_length htag hshape
  · have hfills := (outputTensor_eq_ok_iff_filledBy hbuffer).1 ht
    exact ⟨hfills.name, Except.ok.inj (hfills.datatype.symm.trans htag),
      Except.ok.inj (hfills.shape.symm.trans hshape), hfills.packed⟩

/-- Integers at both ends, a NaN with a payload, a negative zero and an infinity; a buffer that
breaks off in a value, and one with a value too many. -/
theorem packed_as_typed_patterns :
    let m : ResponseMessage :=
      { outputs := [⟨"a", "INT64", [2], none⟩, ⟨"b", "FP32", [3, 1], none⟩] }
    let values : List Values := [.int64 [-1, -9223372036854775808],
      .fp32 [⟨0x7fa00001⟩, ⟨0x80000000⟩, ⟨0xff800000⟩]]
    let c : TensorMessage := ⟨"c", "FP64", [0, 3], none⟩
    let broken : ResponseMessage := { outputs := [c], rawContents := [[1, 2, 3, 4, 5, 6, 7]] }
    let long : ResponseMessage := { outputs := [c], rawContents := [[1, 2, 3, 4, 5, 6, 7, 8]] }
    m.Declares values ∧
      (m.withBuffers values).toResponse = (m.withContents values).toResponse ∧
      (∃ r, (m.withBuffers values).toResponse = .ok r) ∧
      broken.Reached 0 c ∧
      broken.toResponse = .error (.datatypeMismatch "c" (.partialValue 7 .fp64)) ∧
      long.Reached 0 c ∧ long.toResponse = .error (.shapeMismatch "c" [0, 3] 0 1) := by
  intro m values c broken long
  obtain ⟨hsame, haccepted, hbuffer⟩ := packed_as_typed
  have hdeclares : m.Declares values := .cons rfl (.cons rfl .nil)
  have hfits : ∃ r, (m.withBuffers values).toResponse = .ok r := by
    refine (haccepted (m.withBuffers values) (List.cons_ne_nil _ _)).2 fun i o ho => ?_
    match i with
    | 0 =>
      cases ho
      exact ⟨_, rfl, _, _, rfl, rfl, rfl⟩
    | 1 =>
      cases ho
      exact ⟨_, rfl, _, _, rfl, rfl, rfl⟩
    | i + 2 => cases ho
  have hbroken : broken.Reached 0 c := ResponseMessage.reached_first rfl
  have hlong : long.Reached 0 c := ResponseMessage.reached_first rfl
  obtain ⟨-, -, hragged, -⟩ := hbuffer broken 0 c _ .fp64 ⟨[0, 3]⟩ hbroken rfl rfl rfl
  obtain ⟨-, -, -, hmiscounted⟩ := hbuffer long 0 c _ .fp64 ⟨[0, 3]⟩ hlong rfl rfl rfl
  exact ⟨hdeclares, hsame m values hdeclares, hfits, hbroken, hragged (by decide), hlong,
    hmiscounted (by decide) (by decide)⟩

end ModelProbe.Grpc
