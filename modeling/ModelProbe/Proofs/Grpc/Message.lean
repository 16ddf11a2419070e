import ModelProbe.Grpc.Message
import ModelProbe.Proofs.Tensor

/-! Binary messages and the tensors they hold.

`TensorMessage.Carries` says what a message for a tensor is: its name, its datatype's tag, its
dimensions, and its values in the list of its datatype with every other list empty. Where there
are no raw buffers such a message is read as the tensor (`outputTensor_of_carries`), whatever its
position, and the message made for a tensor is one (`ofTensor_carries`).

Outputs are read one after another, so an answer fails as its first output that fails does
(`Reached.toResponse_eq_error`). -/
namespace ModelProbe.Grpc

structure TensorMessage.Carries (m : TensorMessage) (t : Tensor) : Prop where
  name : m.name = t.name
  datatype : m.datatype = t.datatype.tag
  shape : m.shape = t.shape.toWire
  /-- A message without contents has empty lists. -/
  contents : m.contents.getD {} = .ofValues t.values

/-! ### Requests -/

theorem ofTensor_carries (t : Tensor) : (TensorMessage.ofTensor t).Carries t :=
  ⟨rfl, rfl, rfl, rfl⟩

theorem ofRequest_carries (request : InferRequest) :
    List.Forall₂ TensorMessage.Carries (RequestMessage.ofRequest request).inputs
      request.inputs := by
  show List.Forall₂ _ (List.map _ _) _
  rw [List.forall₂_map_left_iff]
  exact List.forall₂_same.2 fun t _ => ofTensor_carries t

/-! ### Responses -/

/-- Values stand in the list of their datatype. -/
theorem values_ofValues (vs : Values) : (Contents.ofValues vs).values vs.datatype = vs := by
  cases vs <;> rfl

/-- No other list holds any. -/
theorem length_values_ofValues {vs : Values} {d : Datatype} (h : d ≠ vs.datatype) :
    ((Contents.ofValues vs).values d).length = 0 := by
  cases vs <;> cases d <;> first | rfl | exact absurd rfl h

theorem foreign?_ofValues (vs : Values) : (Contents.ofValues vs).foreign? vs.datatype = none := by
  rw [Contents.foreign?, List.find?_eq_none]
  intro d _ hd
  rw [Bool.and_eq_true, decide_eq_true_eq, decide_eq_true_eq] at hd
  exact hd.2 (length_values_ofValues hd.1)

theorem typedValues_ofValues (name : String) (vs : Values) :
    typedValues name vs.datatype (.ofValues vs) = .ok vs := by
  rw [typedValues, foreign?_ofValues, values_ofValues]

/-- Without raw buffers the typed values are read once the tag is known. -/
theorem outputTensor_typed {o : TensorMessage} {d : Datatype}
    (htag : Datatype.parse o.datatype = .ok d) (position : Nat) :
    outputTensor [] position o = (do
      let shape ← Shape.ofWire o.shape
      Tensor.make o.name shape (← typedValues o.name d (o.contents.getD {}))) := by
  rw [outputTensor, htag]
  rfl

/-- A message is read as the tensor it carries. -/
theorem outputTensor_of_carries {m : TensorMessage} {t : Tensor} (h : m.Carries t)
    (position : Nat) : outputTensor [] position m = t.received := by
  have htag : Datatype.parse m.datatype = .ok t.datatype := by
    rw [h.datatype, Datatype.parse_tag]
  rw [outputTensor_typed htag, h.shape, h.contents, h.name, Tensor.datatype, typedValues_ofValues]
  rfl

/-- A response message without raw buffers is read as the response with the tensors it
carries. -/
theorem toResponse_of_carries {m : ResponseMessage} {outputs : List Tensor}
    (hraw : m.rawContents = [])
    (h : List.Forall₂ TensorMessage.Carries m.outputs outputs) :
    m.toResponse = (do
      return ⟨m.modelName, nonEmpty m.modelVersion, nonEmpty m.id,
        ← outputs.mapM Tensor.received⟩) := by
  let read : TensorMessage × Nat → Except Error Tensor := fun p => outputTensor [] p.2 p.1
  have hread : m.outputs.zipIdx.mapM read = outputs.mapM Tensor.received :=
    mapM_zipIdx_eq_mapM (h.imp fun _ _ => outputTensor_of_carries) 0
  rw [ResponseMessage.toResponse, hraw]
  show (do let outputs ← m.outputs.zipIdx.mapM read; _) = _
  rw [hread]

/-! ### One output after another -/

namespace ResponseMessage

variable {m : ResponseMessage}

/-- The reader gets to an output: those before it are accepted. -/
structure Reached (m : ResponseMessage) (position : Nat) (output : TensorMessage) : Prop where
  output : m.outputs[position]? = some output
  before : ∀ j o, j < position → m.outputs[j]? = some o →
    ∃ t, outputTensor m.rawContents j o = .ok t

theorem reached_first {output : TensorMessage} (h : m.outputs[0]? = some output) :
    m.Reached 0 output :=
  ⟨h, fun j _ hj _ => absurd hj (Nat.not_lt_zero j)⟩

/-- The reader never sees beyond an output that fails. -/
theorem Reached.toResponse_eq_error {position : Nat} {output : TensorMessage} {e : Error}
    (h : m.Reached position output) (he : outputTensor m.rawContents position output = .error e) :
    m.toResponse = .error e := by
  have hplace : m.outputs.zipIdx[position]? = some (output, position) := by
    rw [List.getElem?_zipIdx, h.output]
    simp
  refine bind_of_error (mapM_eq_error_of_getElem? hplace (fun j p hj hp => ?_) he) _
  rw [List.getElem?_zipIdx] at hp
  obtain ⟨o, ho, rfl⟩ := Option.map_eq_some_iff.1 hp
  rw [Nat.zero_add]
  exact h.before j o hj ho

/-- An answer is accepted when every output is, and its tensors stand beside the outputs. -/
theorem toResponse_eq_ok_iff {r : InferResponse} : m.toResponse = .ok r ↔
    r.modelName = m.modelName ∧ r.modelVersion = nonEmpty m.modelVersion ∧ r.id = nonEmpty m.id ∧
      r.outputs.length = m.outputs.length ∧ ∀ i o t, m.outputs[i]? = some o →
        r.outputs[i]? = some t → outputTensor m.rawContents i o = .ok t := by
  have hread : ∀ outputs, (m.outputs.zipIdx.mapM fun p => outputTensor m.rawContents p.2 p.1) =
      .ok outputs ↔ outputs.length = m.outputs.length ∧ ∀ i o t, m.outputs[i]? = some o →
        outputs[i]? = some t → outputTensor m.rawContents i o = .ok t :=
    fun outputs => mapM_eq_ok_iff.trans forall₂_zipIdx_iff
  rw [toResponse, bind_eq_ok_iff]
  constructor
  · rintro ⟨outputs, houtputs, h⟩
    cases h
    exact ⟨rfl, rfl, rfl, (hread outputs).1 houtputs⟩
  · rintro ⟨hname, hversion, hid, houtputs⟩
    refine ⟨r.outputs, (hread r.outputs).2 houtputs, ?_⟩
    rw [← hname, ← hversion, ← hid]
    rfl

/-- An answer is accepted as soon as every output is. -/
theorem exists_toResponse_iff : (∃ r, m.toResponse = .ok r) ↔
    ∀ i o, m.outputs[i]? = some o → ∃ t, outputTensor m.rawContents i o = .ok t := by
  constructor
  · rintro ⟨r, h⟩ i o ho
    obtain ⟨-, -, -, hlength, hread⟩ := toResponse_eq_ok_iff.1 h
    have hi : i < r.outputs.length := by
      rw [hlength]
      exact (List.getElem?_eq_some_iff.1 ho).1
    exact ⟨_, hread i o _ ho (List.getElem?_eq_getElem hi)⟩
  · intro h
    have hall : ∀ p ∈ m.outputs.zipIdx, ∃ t, outputTensor m.rawContents p.2 p.1 = .ok t ∧ True := by
      intro p hp
      obtain ⟨t, ht⟩ := h p.2 p.1 (List.mk_mem_zipIdx_iff_getElem?.1 hp)
      exact ⟨t, ht, trivial⟩
    obtain ⟨outputs, houtputs, -⟩ := exists_mapM_eq_ok hall
    exact ⟨_, bind_of_ok houtputs _⟩

end ResponseMessage

end ModelProbe.Grpc
