import ModelProbe.Table
import ModelProbe.Tensor.Basic
import ModelProbe.Text.Blank

/-! The codec between inputs, tensors and matrices.

`Codec.encode` turns an input into one tensor of shape `[rows, cols]`, row-major, at the
input's own precision or the codec's. Narrowing is refused when a value would change.
`Codec.decode` lays every output of a response out as a matrix and joins them side by
side in the order of the response. -/
namespace ModelProbe

/-- What a caller asks predictions for. -/
inductive ModelInput where
  | fp32 (m : Matrix Single)
  | fp64 (m : Matrix Double)
  | table (t : Table)
deriving DecidableEq

def ModelInput.dims : ModelInput → Nat × Nat
  | fp32 m => (m.rows, m.cols)
  | fp64 m => (m.rows, m.cols)
  | table t => (t.rows, t.width)

/-- One inference call. Without a version the server picks its own. -/
structure InferRequest where
  modelName : String
  modelVersion : Option String
  id : String
  inputs : List Tensor
deriving DecidableEq

structure InferResponse where
  modelName : String
  modelVersion : Option String
  id : Option String
  outputs : List Tensor
deriving DecidableEq

structure Codec where
  inputName : String
  datatype : Option Datatype
deriving DecidableEq

namespace Codec

/-- Sends inputs as they are, under the name `input`. -/
def default : Codec := ⟨"input", none⟩

def make (inputName : String) (datatype : Option Datatype) : Except Error Codec :=
  if Text.blank inputName then .error (.configuration .emptyTensorName)
  else
    match datatype with
    | some d =>
      if d.isFloat then .ok ⟨inputName, datatype⟩ else .error (.configuration (.integerInput d))
    | none => .ok ⟨inputName, datatype⟩

/-- Whether a double is a NaN or equals a single. -/
def survives (x : Double) : Bool :=
  x.isNaN || (Single.ofDouble x).widen.agrees x

/-- The values at the codec's precision. -/
def cast (c : Codec) (values : Values) : Except Error Values :=
  match c.datatype, values with
  | none, vs => .ok vs
  | some .fp64, .fp32 vs => .ok (.fp64 (vs.map Single.widen))
  | some .fp32, .fp64 vs =>
    match vs.zipIdx.find? fun (x, _) => !survives x with
    | some (x, i) => .error (.datatypeMismatch c.inputName (.lossyNarrowing x i))
    | none => .ok (.fp32 (vs.map Single.ofDouble))
  | some d, vs =>
    if vs.datatype = d then .ok vs
    else .error (.datatypeMismatch c.inputName (.otherPrecision vs.datatype d))

def encode (c : Codec) (input : ModelInput) : Except Error Tensor := do
  let (rows, cols) := input.dims
  let values : Values ←
    match input with
    | .fp32 m => pure (.fp32 m.entries)
    | .fp64 m => pure (.fp64 m.entries)
    | .table t => (fun m => .fp64 m.entries) <$> t.toMatrix
  Tensor.make c.inputName ⟨[rows, cols]⟩ (← c.cast values)

/-- An output as a matrix with the rows expected of it. -/
def block (rows : Nat) (output : Tensor) : Except Error (Matrix Double) :=
  let (r, cols) := output.shape.matrixDims
  if r = rows then
    match Matrix.ofEntries? r cols output.values.toDoubles with
    | some m => .ok m
    | none =>
      .error (.shapeMismatch output.name output.shape.dims (r * cols) output.values.length)
  else .error (.shapeMismatch output.name output.shape.dims rows r)

/-- The outputs side by side. All must have the rows of the first. -/
def decode (response : InferResponse) : Except Error (Matrix Double) := do
  match response.outputs with
  | [] => throw Malformed.noOutputs.error
  | first :: _ =>
    let rows := first.shape.matrixDims.1
    match ← response.outputs.mapM (block rows) with
    | [only] => return only
    | blocks =>
      match Matrix.beside? rows blocks with
      | some m => return m
      | none => throw (.unsupported .joinTooLarge)

end Codec

end ModelProbe
