import ModelProbe.Codec
import ModelProbe.Wire.Fixed

/-! The messages of the binary protocol.

A tensor's values travel in the list that belongs to its datatype, or, in an answer, as
one buffer per output of tightly packed little-endian values. An empty version or id
stands for none. -/
namespace ModelProbe.Grpc

open Wire (Bytes)

structure Contents where
  bools : List Bool := []
  ints : List Int32 := []
  ints64 : List Int64 := []
  uints : List UInt32 := []
  uints64 : List UInt64 := []
  fp32 : List Single := []
  fp64 : List Double := []
  bytes : List Bytes := []
deriving DecidableEq

structure TensorMessage where
  name : String := ""
  datatype : String := ""
  shape : List Int64 := []
  contents : Option Contents := none
deriving DecidableEq

structure RequestMessage where
  modelName : String
  modelVersion : String
  id : String
  inputs : List TensorMessage
deriving DecidableEq

structure ResponseMessage where
  modelName : String := ""
  modelVersion : String := ""
  id : String := ""
  outputs : List TensorMessage := []
  rawContents : List Bytes := []
deriving DecidableEq

/-! ### Requests -/

def Contents.ofValues : Values → Contents
  | .fp32 vs => { fp32 := vs }
  | .fp64 vs => { fp64 := vs }
  | .int32 vs => { ints := vs }
  | .int64 vs => { ints64 := vs }

def TensorMessage.ofTensor (t : Tensor) : TensorMessage :=
  ⟨t.name, t.datatype.tag, t.shape.toWire, some (.ofValues t.values)⟩

def RequestMessage.ofRequest (request : InferRequest) : RequestMessage :=
  ⟨request.modelName, request.modelVersion.getD "", request.id,
    request.inputs.map TensorMessage.ofTensor⟩

/-! ### Responses -/

/-- The list that belongs to a datatype. -/
def Contents.values (c : Contents) : Datatype → Values
  | .fp32 => .fp32 c.fp32
  | .fp64 => .fp64 c.fp64
  | .int32 => .int32 c.ints
  | .int64 => .int64 c.ints64

/-- A datatype other than the declared one whose list holds values. -/
def Contents.foreign? (c : Contents) (declared : Datatype) : Option Datatype :=
  [Datatype.fp32, .fp64, .int32, .int64].find? fun d =>
    d ≠ declared && (c.values d).length ≠ 0

/-- The values of the declared datatype, unless others stand beside them. -/
def typedValues (name : String) (d : Datatype) (c : Contents) : Except Error Values :=
  match c.foreign? d with
  | some other => .error (.datatypeMismatch name (.otherContents d other))
  | none => .ok (c.values d)

/-- Values from their bit patterns. -/
def valuesOfBits (bits : List Nat) : Datatype → Values
  | .fp32 => .fp32 (bits.map fun n => ⟨UInt32.ofNat n⟩)
  | .fp64 => .fp64 (bits.map fun n => ⟨UInt64.ofNat n⟩)
  | .int32 => .int32 (bits.map Int32.ofNat)
  | .int64 => .int64 (bits.map Int64.ofNat)

def rawValues (name : String) (d : Datatype) (raw : Bytes) : Except Error Values :=
  match Wire.pieces? d.width raw with
  | some pieces => .ok (valuesOfBits (pieces.map Wire.ofLittleEndian) d)
  | none => .error (.datatypeMismatch name (.partialValue raw.length d))

/-- The tensor of the output at a position. Raw buffers, when there are any, are all that
counts. -/
def outputTensor (raw : List Bytes) (position : Nat) (output : TensorMessage) :
    Except Error Tensor := do
  let d ← Datatype.parse output.datatype
  let shape ← Shape.ofWire output.shape
  let values ←
    if raw = [] then typedValues output.name d (output.contents.getD {})
    else
      match raw[position]? with
      | some buffer => rawValues output.name d buffer
      | none => throw (Malformed.missingBuffer output.name raw.length (position + 1)).error
  Tensor.make output.name shape values

def nonEmpty (s : String) : Option String :=
  if s = "" then none else some s

def ResponseMessage.toResponse (m : ResponseMessage) : Except Error InferResponse := do
  let outputs ← m.outputs.zipIdx.mapM fun (output, i) => outputTensor m.rawContents i output
  return ⟨m.modelName, nonEmpty m.modelVersion, nonEmpty m.id, outputs⟩

end ModelProbe.Grpc
