import ModelProbe.Codec
import ModelProbe.Endpoint
import ModelProbe.Grpc.Target
import ModelProbe.Json.Record

/-! Client configurations.

Everything needed to reach one served model. Every field has a default; only the model's
name has none that is accepted. -/
namespace ModelProbe

inductive Protocol where
  | grpc
  | rest
deriving DecidableEq

def Protocol.name : Protocol → String
  | grpc => "grpc"
  | rest => "rest"

def Protocol.ofName? : String → Option Protocol
  | "grpc" => some grpc
  | "rest" => some rest
  | _ => none

structure ClientConfig where
  protocol : Protocol := .grpc
  target : String := "0.0.0.0:8081"
  modelName : String := ""
  modelVersion : Option String := none
  inputName : String := "input"
  /-- The precision inputs are sent at; their own when absent. -/
  datatype : Option Datatype := none
  timeoutMs : Option Nat := none
deriving DecidableEq

/-- What a configuration comes to once it is accepted. -/
structure Connection where
  protocol : Protocol
  endpoint : Endpoint
  timeoutMs : Option Nat
  codec : Codec
deriving DecidableEq

namespace ClientConfig

def endpoint (c : ClientConfig) : Except Error Endpoint :=
  Endpoint.make c.target c.modelName c.modelVersion

def validate (c : ClientConfig) : Except Error Unit := do
  let _ ← c.endpoint
  if Text.blank c.inputName then throw (.configuration .emptyInputName)
  if c.datatype.any (!·.isFloat) then throw (.configuration .integerDatatype)
  if c.timeoutMs = some 0 then throw (.configuration .zeroTimeout)

/-- Accepts a configuration without touching the network. The binary protocol needs a base
URL that is a URI. -/
def connect (c : ClientConfig) : Except Error Connection := do
  c.validate
  let endpoint ← c.endpoint
  if c.protocol = .grpc then Grpc.checkTarget endpoint
  return ⟨c.protocol, endpoint, c.timeoutMs, ← Codec.make c.inputName c.datatype⟩

open Json (Tree Value)

def ofTree? (t : Tree) : Option ClientConfig :=
  match t.slots? ["protocol", "target", "model_name", "model_version", "input_name", "datatype",
    "timeout_ms"] with
  | some [protocol, target, modelName, modelVersion, inputName, datatype, timeoutMs] => do
    let fresh : ClientConfig := {}
    return {
      protocol := ← protocol.default fresh.protocol (Tree.oneOf? Protocol.ofName?)
      target := ← target.default fresh.target Tree.string?
      modelName := ← modelName.default fresh.modelName Tree.string?
      modelVersion := ← modelVersion.optional Tree.string?
      inputName := ← inputName.default fresh.inputName Tree.string?
      datatype := ← datatype.optional (Tree.oneOf? Datatype.ofTag?)
      timeoutMs := ← timeoutMs.optional Tree.nat? }
  | _ => none

def toJson (c : ClientConfig) : Value :=
  .object [("protocol", .string c.protocol.name), ("target", .string c.target),
    ("model_name", .string c.modelName), ("model_version", .option .string c.modelVersion),
    ("input_name", .string c.inputName), ("datatype", .option (.string ·.tag) c.datatype),
    ("timeout_ms", .option .nat c.timeoutMs)]

end ClientConfig

end ModelProbe
