/-! The four element types both protocols name, and their tags. -/
namespace ModelProbe

inductive Datatype where
  | fp32
  | fp64
  | int32
  | int64
deriving DecidableEq

namespace Datatype

def tag : Datatype → String
  | fp32 => "FP32"
  | fp64 => "FP64"
  | int32 => "INT32"
  | int64 => "INT64"

/-- Tags are read exactly as written. -/
def ofTag? : String → Option Datatype
  | "FP32" => some fp32
  | "FP64" => some fp64
  | "INT32" => some int32
  | "INT64" => some int64
  | _ => none

/-- Bytes of one value. -/
def width : Datatype → Nat
  | fp32 | int32 => 4
  | fp64 | int64 => 8

def isFloat : Datatype → Bool
  | fp32 | fp64 => true
  | int32 | int64 => false

end Datatype

end ModelProbe
