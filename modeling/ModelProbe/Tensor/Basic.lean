import ModelProbe.Binary.Single
import ModelProbe.Tensor.Shape

/-! Named tensors.

The values of a tensor are flat and row-major, and which list they stand in is their
datatype. `Tensor.make` refuses values whose number is not the shape's. -/
namespace ModelProbe

inductive Values where
  | fp32 (values : List Single)
  | fp64 (values : List Double)
  | int32 (values : List Int32)
  | int64 (values : List Int64)
deriving DecidableEq

namespace Values

def datatype : Values → Datatype
  | fp32 _ => .fp32
  | fp64 _ => .fp64
  | int32 _ => .int32
  | int64 _ => .int64

def length : Values → Nat
  | fp32 vs => vs.length
  | fp64 vs => vs.length
  | int32 vs => vs.length
  | int64 vs => vs.length

/-- The values as doubles; only 64-bit integers can be rounded. -/
def toDoubles : Values → List Double
  | fp32 vs => vs.map Single.widen
  | fp64 vs => vs
  | int32 vs => vs.map fun n => .ofInt n.toInt
  | int64 vs => vs.map fun n => .ofInt n.toInt

end Values

structure Tensor where
  name : String
  shape : Shape
  values : Values
deriving DecidableEq

namespace Tensor

def make (name : String) (shape : Shape) (values : Values) : Except Error Tensor :=
  if shape.count = values.length then .ok ⟨name, shape, values⟩
  else .error (.shapeMismatch name shape.dims shape.count values.length)

def datatype (t : Tensor) : Datatype :=
  t.values.datatype

end Tensor

/-- The datatype a tag names. -/
def Datatype.parse (tag : String) : Except Error Datatype :=
  match ofTag? tag with
  | some d => .ok d
  | none => .error (.unsupported (.datatype tag))

end ModelProbe
