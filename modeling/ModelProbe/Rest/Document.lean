import ModelProbe.Codec
import ModelProbe.Json.Record

/-! The JSON documents of the inference protocol.

A tensor document holds its data as any JSON value: what counts is the left-to-right
sequence of the leaves, so values may be nested to any depth and in any way. JSON has no
spelling for NaN and the infinities, and a tensor that holds one has no document. -/
namespace ModelProbe

namespace Json

mutual

/-- The values that are no arrays, left to right. -/
def Value.leaves : Value → List Value
  | .array items => itemLeaves items
  | v => [v]

def itemLeaves : List Value → List Value
  | [] => []
  | v :: rest => v.leaves ++ itemLeaves rest

end

end Json

namespace Rest

open Json (Tree Value Number)

structure TensorDocument where
  name : String
  shape : List Int64
  datatype : Option String
  data : Value

structure RequestDocument where
  id : Option String
  inputs : List TensorDocument

structure ResponseDocument where
  modelName : String
  modelVersion : Option String
  id : Option String
  outputs : List TensorDocument

/-! ### Tensors into documents -/

/-- A finite double as JSON; `position` is its place in the tensor called `name`. -/
def floatToJson (name : String) (position : Nat) (x : Double) : Except Error Value :=
  if x.isFinite then .ok (.double x) else .error (.unsupported (.nonFinite name x position))

def floatsToJson (name : String) (xs : List Double) : Except Error (List Value) :=
  xs.zipIdx.mapM fun (x, i) => floatToJson name i x

/-- Singles are written as the doubles they equal. -/
def valuesToJson (name : String) : Values → Except Error (List Value)
  | .fp32 vs => floatsToJson name (vs.map Single.widen)
  | .fp64 vs => floatsToJson name vs
  | .int32 vs => .ok (vs.map fun n => .int n.toInt)
  | .int64 vs => .ok (vs.map fun n => .int n.toInt)

def TensorDocument.ofTensor (t : Tensor) : Except Error TensorDocument := do
  let data ← valuesToJson t.name t.values
  return ⟨t.name, t.shape.toWire, some t.datatype.tag, .array data⟩

def RequestDocument.ofRequest (request : InferRequest) : Except Error RequestDocument := do
  return ⟨some request.id, ← request.inputs.mapM TensorDocument.ofTensor⟩

/-! ### Documents into tensors -/

/-- The numbers among the leaves, if all are. -/
def numbers (name : String) (data : Value) : Except Error (List Number) :=
  data.leaves.mapM fun
    | .number n => .ok n
    | leaf => .error (Malformed.nonNumericLeaf name leaf).error

/-- An integer literal within 64 bits. -/
def integer64 (name : String) (d : Datatype) (n : Number) : Except Error Int64 :=
  match n.int64? with
  | some k => .ok k
  | none => .error (.datatypeMismatch name (.outOfType n d))

/-- An integer literal within 32 bits. -/
def integer32 (name : String) (n : Number) : Except Error Int32 := do
  let k ← integer64 name .int32 n
  if Int32.minValue.toInt ≤ k.toInt ∧ k.toInt ≤ Int32.maxValue.toInt then
    return Int32.ofInt k.toInt
  else throw (.datatypeMismatch name (.outOfType n .int32))

def valuesOfJson (name : String) (numbers : List Number) : Datatype → Except Error Values
  | .fp64 => .ok (.fp64 (numbers.map Number.toDouble))
  | .fp32 => .ok (.fp32 (numbers.map fun n => .ofDouble n.toDouble))
  | .int64 => .int64 <$> numbers.mapM (integer64 name .int64)
  | .int32 => .int32 <$> numbers.mapM (integer32 name)

/-- A document without a datatype holds doubles. -/
def TensorDocument.toTensor (doc : TensorDocument) : Except Error Tensor := do
  let d ← doc.datatype.elim (pure .fp64) Datatype.parse
  let shape ← Shape.ofWire doc.shape
  let numbers ← numbers doc.name doc.data
  Tensor.make doc.name shape (← valuesOfJson doc.name numbers d)

def ResponseDocument.toResponse (doc : ResponseDocument) : Except Error InferResponse := do
  return ⟨doc.modelName, doc.modelVersion, doc.id, ← doc.outputs.mapM TensorDocument.toTensor⟩

/-! ### Reading and writing -/

/-- How deep arrays and objects may stand inside one another in a document. -/
def maxDepth : Nat := 127

/-- A value written no deeper than `room`; a member that a later one replaces counts too. -/
def valueWithin? (room : Nat) (t : Tree) : Option Value :=
  if t.depth ≤ room then t.value? else none

def TensorDocument.ofTree? (room : Nat) (t : Tree) : Option TensorDocument :=
  match t.slots? ["name", "shape", "datatype", "data"] with
  | some [name, shape, datatype, data] => do
    return {
      name := ← name.required Tree.string?
      shape := ← shape.required (Tree.list? Tree.int64?)
      datatype := ← datatype.optional Tree.string?
      data := ← data.required (valueWithin? (room - 1)) }
  | _ => none

def ResponseDocument.ofTree? (t : Tree) : Option ResponseDocument :=
  match t.slots? ["model_name", "model_version", "id", "outputs"] with
  | some [modelName, modelVersion, id, outputs] => do
    return {
      modelName := ← modelName.default "" Tree.string?
      modelVersion := ← modelVersion.optional Tree.string?
      id := ← id.optional Tree.string?
      outputs := ← outputs.required (Tree.list? (TensorDocument.ofTree? (maxDepth - 2))) }
  | _ => none

def ResponseDocument.parse? (text : String) : Option ResponseDocument :=
  (Tree.parse? text).bind ofTree?

/-- A member that is left out when there is no value. -/
def member (key : String) (v : Option String) : List (String × Value) :=
  v.toList.map fun s => (key, .string s)

def TensorDocument.toJson (doc : TensorDocument) : Value :=
  .object ([("name", .string doc.name), ("shape", .array (doc.shape.map fun d => .int d.toInt))] ++
    member "datatype" doc.datatype ++ [("data", doc.data)])

def RequestDocument.toJson (doc : RequestDocument) : Value :=
  .object (member "id" doc.id ++ [("inputs", .array (doc.inputs.map TensorDocument.toJson))])

def ResponseDocument.toJson (doc : ResponseDocument) : Value :=
  .object (("model_name", .string doc.modelName) :: (member "model_version" doc.modelVersion ++
    member "id" doc.id ++ [("outputs", .array (doc.outputs.map TensorDocument.toJson))]))

end Rest

end ModelProbe
