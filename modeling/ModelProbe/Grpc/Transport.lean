import ModelProbe.Client.Transport
import ModelProbe.Grpc.Message
import ModelProbe.Grpc.Target

/-! The transport that speaks the binary protocol.

What a server makes of calls is a `Service`, a pair of functions on the state of the world.
A call that fails does so with a status; the statuses that say the server could not be
reached or did not answer in time become errors of their own. -/
namespace ModelProbe.Grpc

/-- The statuses of failed calls, in the order of their numbers, which start at 1. -/
inductive Status where
  | cancelled
  | unknown
  | invalidArgument
  | deadlineExceeded
  | notFound
  | alreadyExists
  | permissionDenied
  | resourceExhausted
  | failedPrecondition
  | aborted
  | outOfRange
  | unimplemented
  | internal
  | unavailable
  | dataLoss
  | unauthenticated
deriving DecidableEq

namespace Status

def all : List Status :=
  [cancelled, unknown, invalidArgument, deadlineExceeded, notFound, alreadyExists,
    permissionDenied, resourceExhausted, failedPrecondition, aborted, outOfRange, unimplemented,
    internal, unavailable, dataLoss, unauthenticated]

def ofNumber? (n : Nat) : Option Status :=
  if n = 0 then none else all[n - 1]?

def name : Status → String
  | cancelled => "Cancelled"
  | unknown => "Unknown"
  | invalidArgument => "InvalidArgument"
  | deadlineExceeded => "DeadlineExceeded"
  | notFound => "NotFound"
  | alreadyExists => "AlreadyExists"
  | permissionDenied => "PermissionDenied"
  | resourceExhausted => "ResourceExhausted"
  | failedPrecondition => "FailedPrecondition"
  | aborted => "Aborted"
  | outOfRange => "OutOfRange"
  | unimplemented => "Unimplemented"
  | internal => "Internal"
  | unavailable => "Unavailable"
  | dataLoss => "DataLoss"
  | unauthenticated => "Unauthenticated"

end Status

/-- What comes of a call. -/
inductive Outcome (α : Type) where
  /-- The name of the host has no address. -/
  | unresolved
  /-- Nothing listens. -/
  | refused
  /-- No answer in time. -/
  | silent
  | failed (status : Status) (message : String)
  | answered (answer : α)

/-- The model a readiness call asks about. -/
structure ReadyMessage where
  name : String
  version : String
deriving DecidableEq

/-- A server: what comes of calls, and the world afterwards. -/
structure Service (σ : Type) where
  infer : RequestMessage → σ → Outcome ResponseMessage × σ
  ready : ReadyMessage → σ → Outcome Bool × σ

/-- A failed call. With a time limit set, a cancelled call is one that took too long. -/
def failure (e : Endpoint) (limited : Bool) (status : Status) (message : String) : Error :=
  .transport <|
    match status with
    | .unavailable => .connection e.target message
    | .deadlineExceeded => .timeout e.target
    | .cancelled => if limited then .timeout e.target else .status status.name message
    | _ => .status status.name message

/-- What comes of a call when there is no server and nobody knows any name. -/
def Outcome.unreachable {α : Type} (e : Endpoint) : Outcome α :=
  if hasKnownHost e then .refused else .unresolved

def Outcome.result {α : Type} (e : Endpoint) (limited : Bool) : Outcome α → Except Error α
  | .unresolved => .error (failure e limited .unavailable "dns error")
  | .refused => .error (failure e limited .unavailable "tcp connect error")
  | .silent => .error (.transport (.timeout e.target))
  | .failed status message => .error (failure e limited status message)
  | .answered answer => .ok answer

def readyMessage (e : Endpoint) : ReadyMessage :=
  ⟨e.modelName, e.modelVersion.getD ""⟩

variable {σ : Type}

/-- Calls the service, or nothing when the endpoint has no scheme. -/
def call {α : Type} (e : Endpoint) (service : σ → Outcome α × σ) (world : σ) : Outcome α × σ :=
  if hasScheme e then service world else (.failed .unknown "transport error", world)

def send (service : Service σ) (e : Endpoint) (limited : Bool) (request : InferRequest)
    (world : σ) : Except Error InferResponse × σ :=
  let (outcome, world) := call e (service.infer (.ofRequest request)) world
  ((outcome.result e limited).bind ResponseMessage.toResponse, world)

def ready (service : Service σ) (e : Endpoint) (limited : Bool) (world : σ) :
    Except Error Bool × σ :=
  let (outcome, world) := call e (service.ready (readyMessage e)) world
  (outcome.result e limited, world)

def transport (service : Service σ) (e : Endpoint) (limited : Bool) : Transport σ :=
  ⟨"grpc", e, send service e limited, ready service e limited⟩

end ModelProbe.Grpc
