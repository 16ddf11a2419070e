import ModelProbe.Json.Value
import ModelProbe.Tensor.Datatype
import ModelProbe.Text.Listing

/-! What can go wrong between a caller and a served model.

An error names its cause; `Error.message` and the functions below it are the only places
where the wording stands. -/
namespace ModelProbe

/-- Parameters refused when something is built from them. -/
inductive ConfigurationFault where
  | emptyTarget
  | unsupportedScheme (scheme target : String)
  | emptyModelName
  | emptyModelVersion
  | emptyTensorName
  | integerInput (datatype : Datatype)
  | emptyInputName
  | integerDatatype
  | zeroTimeout
  | invalidTarget (target : String)
  | columnNames (names columns : Nat)
  | duplicateColumn (name : String)
  | missingColumn (name : String)
deriving DecidableEq

def ConfigurationFault.message : ConfigurationFault → String
  | emptyTarget => "endpoint target cannot be empty"
  | unsupportedScheme scheme target =>
    s!"unsupported scheme `{scheme}` in `{target}`: only plain http is available"
  | emptyModelName => "model name cannot be empty"
  | emptyModelVersion => "model version must be omitted rather than empty"
  | emptyTensorName => "input tensor name cannot be empty"
  | integerInput datatype => s!"input datatype must be FP32 or FP64, got {datatype.tag}"
  | emptyInputName => "input_name cannot be empty"
  | integerDatatype => "datatype must be FP32 or FP64 when set"
  | zeroTimeout => "timeout_ms must be greater than zero when set"
  | invalidTarget target => s!"invalid gRPC target `{target}`: invalid URI"
  | columnNames names columns =>
    s!"{names} column names given for a matrix with {columns} columns"
  | duplicateColumn name => s!"duplicate column `{name}`"
  | missingColumn name => s!"missing column `{name}`"

/-- Values that sit in the wrong place or would not survive their datatype. -/
inductive DatatypeFault where
  | lossyNarrowing (value : Double) (position : Nat)
  | otherPrecision (held target : Datatype)
  | otherContents (declared carried : Datatype)
  | partialValue (bytes : Nat) (datatype : Datatype)
  | outOfType (value : Json.Number) (datatype : Datatype)
deriving DecidableEq

def DatatypeFault.message : DatatypeFault → String
  | lossyNarrowing value position =>
    s!"value {value.text} at position {position} cannot be sent as FP32 without losing precision"
  | otherPrecision held target => s!"cannot send {held.tag} values as {target.tag}"
  | otherContents declared carried =>
    s!"declared {declared.tag} but carries {carried.tag} contents"
  | partialValue bytes datatype =>
    s!"{bytes} raw bytes is not a whole number of {datatype.tag} values"
  | outOfType value datatype => s!"value {value.text} is not a valid {datatype.tag}"

/-- Input that is no numeric matrix. -/
inductive Unsupported where
  | datatype (tag : String)
  | nonNumericCell (column : String) (row : Nat)
  | nonFinite (tensor : String) (value : Double) (position : Nat)
  | tableTooLarge
  | joinTooLarge
deriving DecidableEq

/-- Why a matrix was refused whose dimensions multiply past the largest array. -/
def overflowText : String :=
  "ShapeError/Overflow: arithmetic overflow"

def Unsupported.message : Unsupported → String
  | datatype tag => s!"datatype `{tag}`"
  | nonNumericCell column row => s!"non-numeric value in column `{column}` at row {row}"
  | nonFinite tensor value position =>
    s!"tensor `{tensor}` holds non-finite value {value.text} at position {position}, " ++
      "which JSON cannot encode"
  | tableTooLarge => s!"table cannot be laid out as a matrix: {overflowText}"
  | joinTooLarge => s!"outputs cannot be combined: {overflowText}"

/-- Answers that make no sense. -/
inductive Malformed where
  | negativeDimension (dim : Int64) (dims : List Int64)
  | tooManyElements (dims : List Int64)
  | noOutputs
  | nonNumericLeaf (tensor : String) (leaf : Json.Value)
  | missingBuffer (output : String) (buffers outputs : Nat)
  | document
  | body
  | other (text : String)

def Malformed.message : Malformed → String
  | negativeDimension dim dims =>
    s!"negative dimension {dim.toInt} in shape {Text.integers dims}"
  | tooManyElements dims => s!"shape {Text.integers dims} has more elements than fit in memory"
  | noOutputs => "response carries no outputs"
  | nonNumericLeaf tensor leaf =>
    s!"tensor `{tensor}` data holds a non-numeric value: {leaf.text}"
  | missingBuffer output buffers outputs =>
    s!"output `{output}` has no raw contents ({buffers} buffers for {outputs} outputs)"
  | document => "invalid infer response"
  | body => "error decoding response body"
  | other text => text

/-- Failures of the network and of the protocol. -/
inductive TransportError where
  | connection (target message : String)
  | status (code message : String)
  | http (status : Nat) (body : String)
  | timeout (target : String)
  | malformed (cause : Malformed)
  | runtime (message : String)

def TransportError.message : TransportError → String
  | connection target message => s!"cannot reach `{target}`: {message}"
  | status code message => s!"server rejected request with status {code}: {message}"
  | http code body => s!"server answered HTTP {code}: {body}"
  | timeout target => s!"request to `{target}` timed out"
  | malformed cause => s!"malformed response: {cause.message}"
  | runtime message => s!"failed to start transport runtime: {message}"

/-- Whether the same request may succeed when it is sent again. -/
def TransportError.isRetryable : TransportError → Bool
  | connection .. | timeout .. => true
  | http code _ => code == 503 || code == 429
  | status code _ => code == "Unavailable"
  | malformed _ | runtime _ => false

inductive Error where
  | configuration (fault : ConfigurationFault)
  /-- A declared shape disagrees with the values carried. -/
  | shapeMismatch (tensor : String) (shape : List Nat) (expected actual : Nat)
  | datatypeMismatch (tensor : String) (fault : DatatypeFault)
  | unsupported (cause : Unsupported)
  | transport (error : TransportError)

def Error.message : Error → String
  | configuration fault => s!"configuration error: {fault.message}"
  | shapeMismatch tensor shape expected actual =>
    s!"shape mismatch for tensor `{tensor}` with shape {Text.naturals shape}: " ++
      s!"expected {expected}, got {actual}"
  | datatypeMismatch tensor fault => s!"datatype mismatch for tensor `{tensor}`: {fault.message}"
  | unsupported cause => s!"unsupported input: {cause.message}"
  | transport error => error.message

/-- An answer that makes no sense, as an error of the library. -/
def Malformed.error (cause : Malformed) : Error :=
  .transport (.malformed cause)

end ModelProbe
