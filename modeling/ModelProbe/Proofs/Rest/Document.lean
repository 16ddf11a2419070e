import ModelProbe.Rest.Document
import ModelProbe.Proofs.Tensor

/-! Documents and the tensors they hold.

`TensorDocument.Carries` says what a document for a tensor is: its name, its dimensions, its
datatype's tag, and its values as JSON numbers in row-major order, under any nesting of arrays.
Such a document is read as the tensor (`toTensor_of_carries`), and the document written for a
tensor of finite values is one (`ofTensor_carries`). -/
namespace ModelProbe

namespace Json

/-- The numbers of a value in row-major order, when it is a number or an array, to any depth, of
nothing else. -/
inductive RowMajor : Value → List Number → Prop where
  | number (n : Number) : RowMajor (.number n) [n]
  | nil : RowMajor (.array []) []
  | cons {v : Value} {items : List Value} {ns rest : List Number} :
      RowMajor v ns → RowMajor (.array items) rest → RowMajor (.array (v :: items)) (ns ++ rest)

namespace RowMajor

/-- Numbers one after another, without nesting. -/
theorem flat (ns : List Number) : RowMajor (.array (ns.map .number)) ns := by
  induction ns with
  | nil => exact .nil
  | cons n ns ih => exact .cons (.number n) ih

theorem leaves_eq {v : Value} {ns : List Number} (h : RowMajor v ns) :
    v.leaves = ns.map .number := by
  induction h with
  | number n => rfl
  | nil => rfl
  | @cons v items ns rest _ _ ihv ihitems =>
    rw [Value.leaves] at ihitems ⊢
    rw [itemLeaves, ihv, ihitems, List.map_append]

end RowMajor

theorem Number.int64?_integer (k : Int64) : (Number.integer k.toInt).int64? = some k := by
  rw [Number.int64?, if_pos k.toInt_le, Int64.ofInt_toInt]

end Json

namespace Rest

open Json (Value Number RowMajor)

/-- The JSON numbers that stand for values: a floating point number is written as a number that
reads as the double it equals, an integer as an integer literal. -/
def Writes : Values → List Number → Prop
  | .fp32 vs, ns => ns.map Number.toDouble = vs.map Single.widen
  | .fp64 vs, ns => ns.map Number.toDouble = vs
  | .int32 vs, ns => ns = vs.map fun k => .integer k.toInt
  | .int64 vs, ns => ns = vs.map fun k => .integer k.toInt

instance : (vs : Values) → (ns : List Number) → Decidable (Writes vs ns)
  | .fp32 vs, ns => inferInstanceAs (Decidable (ns.map Number.toDouble = vs.map Single.widen))
  | .fp64 vs, ns => inferInstanceAs (Decidable (ns.map Number.toDouble = vs))
  | .int32 vs, ns => inferInstanceAs (Decidable (ns = vs.map fun k => .integer k.toInt))
  | .int64 vs, ns => inferInstanceAs (Decidable (ns = vs.map fun k => .integer k.toInt))

structure TensorDocument.Carries (doc : TensorDocument) (t : Tensor) : Prop where
  name : doc.name = t.name
  shape : doc.shape = t.shape.toWire
  datatype : doc.datatype = some t.datatype.tag
  data : ∃ ns, RowMajor doc.data ns ∧ Writes t.values ns

/-! ### Reading -/

theorem numbers_of_rowMajor (name : String) {data : Value} {ns : List Number}
    (h : RowMajor data ns) : numbers name data = .ok ns := by
  rw [numbers, h.leaves_eq, mapM_eq_ok_iff, List.forall₂_map_left_iff]
  exact List.forall₂_same.2 fun n _ => rfl

theorem integer64_of_int64 (name : String) (d : Datatype) (k : Int64) :
    integer64 name d (.integer k.toInt) = .ok k := by
  rw [integer64, Number.int64?_integer]

theorem integer32_of_int32 (name : String) (k : Int32) :
    integer32 name (.integer k.toInt) = .ok k := by
  have hwide := integer64_of_int64 name .int32 k.toInt64
  rw [Int32.toInt_toInt64] at hwide
  have hbounds := And.intro k.minValue_le_toInt k.toInt_le
  rw [integer32, hwide]
  show (if _ then _ else _) = _
  rw [Int32.toInt_toInt64, if_pos hbounds, Int32.ofInt_toInt]
  rfl

/-- Numbers that stand for finite values are read as those values. -/
theorem valuesOfJson_of_writes (name : String) {vs : Values} {ns : List Number}
    (hfinite : vs.Finite) (h : Writes vs ns) : valuesOfJson name ns vs.datatype = .ok vs := by
  cases vs with
  | fp32 vs =>
    have hback : (vs.map Single.widen).map Single.ofDouble = vs := by
      rw [List.map_map]
      refine (List.map_congr_left fun x hx => ?_).trans (List.map_id vs)
      exact Single.ofDouble_widen (Single.read_ne_nan (hfinite x hx))
    have hread : ns.map (fun n => Single.ofDouble n.toDouble) = vs := by
      rw [← hback, ← show ns.map Number.toDouble = _ from h, List.map_map]
      rfl
    rw [Values.datatype, valuesOfJson, hread]
  | fp64 vs => rw [Values.datatype, valuesOfJson, show ns.map Number.toDouble = vs from h]
  | int32 vs =>
    have hread : ns.mapM (integer32 name) = .ok vs := by
      rw [show ns = _ from h, mapM_eq_ok_iff, List.forall₂_map_left_iff]
      exact List.forall₂_same.2 fun k _ => integer32_of_int32 name k
    rw [Values.datatype, valuesOfJson, hread]
    rfl
  | int64 vs =>
    have hread : ns.mapM (integer64 name .int64) = .ok vs := by
      rw [show ns = _ from h, mapM_eq_ok_iff, List.forall₂_map_left_iff]
      exact List.forall₂_same.2 fun k _ => integer64_of_int64 name .int64 k
    rw [Values.datatype, valuesOfJson, hread]
    rfl

/-- A document is read as the tensor it carries. -/
theorem toTensor_of_carries {doc : TensorDocument} {t : Tensor} (hfinite : t.values.Finite)
    (h : doc.Carries t) : doc.toTensor = t.received := by
  obtain ⟨ns, hdata, hwrites⟩ := h.data
  have hvalues := valuesOfJson_of_writes doc.name hfinite hwrites
  rw [TensorDocument.toTensor, Tensor.received, h.datatype, h.shape,
    numbers_of_rowMajor doc.name hdata, ← h.name]
  show (do let d ← Datatype.parse _; _) = _
  rw [Datatype.parse_tag]
  cases Shape.ofWire t.shape.toWire with
  | error e => rfl
  | ok shape =>
    show (do Tensor.make doc.name shape (← valuesOfJson doc.name ns t.values.datatype)) = _
    rw [hvalues]
    rfl

/-- A response document is read as the response with the tensors it carries. -/
theorem toResponse_of_carries {doc : ResponseDocument} {outputs : List Tensor}
    (hfinite : ∀ t ∈ outputs, t.values.Finite)
    (h : List.Forall₂ TensorDocument.Carries doc.outputs outputs) :
    doc.toResponse = (do
      return ⟨doc.modelName, doc.modelVersion, doc.id, ← outputs.mapM Tensor.received⟩) := by
  have hread : doc.outputs.mapM TensorDocument.toTensor = outputs.mapM Tensor.received := by
    have hboth : List.Forall₂ (fun (t : Tensor) (d : TensorDocument) =>
        t.values.Finite ∧ d.Carries t) outputs doc.outputs :=
      (List.forall₂_and_left _ _).2 ⟨hfinite, h.flip⟩
    have hsteps : List.Forall₂ (fun t d => t.received = d.toTensor) outputs doc.outputs :=
      hboth.imp fun t d ⟨ht, hd⟩ => (toTensor_of_carries ht hd).symm
    exact (mapM_eq_mapM hsteps).symm
  rw [ResponseDocument.toResponse, hread]

/-! ### Writing -/

theorem floatsToJson_of_finite (name : String) {xs : List Double}
    (hfinite : ∀ x ∈ xs, x.isFinite = true) :
    floatsToJson name xs = .ok (xs.map Value.double) := by
  rw [floatsToJson, mapM_eq_ok_map (g := Value.double ∘ Prod.fst)]
  · rw [← List.map_map, List.zipIdx_map_fst]
  · intro p hp
    show floatToJson name p.2 p.1 = _
    rw [floatToJson, if_pos (hfinite p.1 (List.fst_mem_of_mem_zipIdx hp))]
    rfl

/-- The numbers written for finite values stand for them. -/
theorem valuesToJson_of_finite (name : String) {vs : Values} (hfinite : vs.Finite) :
    ∃ ns, valuesToJson name vs = .ok (ns.map .number) ∧ Writes vs ns := by
  cases vs with
  | fp32 vs =>
    have hwiden : ∀ x ∈ vs.map Single.widen, x.isFinite = true := by
      intro x hx
      obtain ⟨y, hy, rfl⟩ := List.mem_map.1 hx
      rw [Single.isFinite_widen]
      exact hfinite y hy
    refine ⟨(vs.map Single.widen).map .double, ?_, ?_⟩
    · rw [valuesToJson, floatsToJson_of_finite name hwiden, List.map_map (f := Number.double)]
      rfl
    · show List.map _ (List.map _ _) = _
      rw [List.map_map]
      exact List.map_id _
  | fp64 vs =>
    refine ⟨vs.map .double, ?_, ?_⟩
    · rw [valuesToJson, floatsToJson_of_finite name hfinite, List.map_map]
      rfl
    · show List.map _ (List.map _ _) = _
      rw [List.map_map]
      exact List.map_id _
  | int32 vs =>
    refine ⟨vs.map fun k : Int32 => .integer k.toInt, ?_, rfl⟩
    rw [valuesToJson, List.map_map]
    rfl
  | int64 vs =>
    refine ⟨vs.map fun k : Int64 => .integer k.toInt, ?_, rfl⟩
    rw [valuesToJson, List.map_map]
    rfl

/-- The document of a tensor of finite values carries it. -/
theorem ofTensor_carries {t : Tensor} (hfinite : t.values.Finite) :
    ∃ doc, TensorDocument.ofTensor t = .ok doc ∧ doc.Carries t := by
  obtain ⟨ns, hvalues, hwrites⟩ := valuesToJson_of_finite t.name hfinite
  refine ⟨⟨t.name, t.shape.toWire, some t.datatype.tag, .array (ns.map .number)⟩, ?_,
    rfl, rfl, rfl, ns, .flat ns, hwrites⟩
  rw [TensorDocument.ofTensor, hvalues]
  rfl

/-- The document of a request with finite values carries its id and its tensors. -/
theorem ofRequest_carries {request : InferRequest}
    (hfinite : ∀ t ∈ request.inputs, t.values.Finite) :
    ∃ doc, RequestDocument.ofRequest request = .ok doc ∧ doc.id = some request.id ∧
      List.Forall₂ TensorDocument.Carries doc.inputs request.inputs := by
  obtain ⟨inputs, hinputs, hcarries⟩ :=
    exists_mapM_eq_ok fun t ht => ofTensor_carries (hfinite t ht)
  refine ⟨⟨some request.id, inputs⟩, ?_, rfl, hcarries⟩
  rw [RequestDocument.ofRequest, hinputs]
  rfl

end Rest

end ModelProbe
