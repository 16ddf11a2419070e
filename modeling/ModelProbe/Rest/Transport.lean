import ModelProbe.Client.Transport
import ModelProbe.Rest.Document
import ModelProbe.Uri
import ModelProbe.Url.Basic

/-! The transport that speaks JSON over HTTP.

One call is one exchange: a message goes out and something comes of it. What the network
makes of messages is an `Exchange`, a function on the state of the world; everything else
is here. A request whose values have no JSON is refused before anything goes out, and so is
one to a place that no URL or no URI names. -/
namespace ModelProbe.Rest

inductive Method where
  | get
  | post
deriving DecidableEq

def Method.name : Method → String
  | get => "GET"
  | post => "POST"

structure Message where
  method : Method
  url : Url
  body : String

/-- What comes of a message. -/
inductive Outcome where
  /-- Nothing listens. -/
  | refused
  /-- No answer in time. -/
  | silent
  | answered (status : Nat) (body : String)
  /-- An answer whose body ends before its declared length. -/
  | cutShort (status : Nat)
deriving DecidableEq

/-- A network: what comes of a message, and the world afterwards. -/
abbrev Exchange (σ : Type) := Message → σ → Outcome × σ

/-! ### Answers -/

def succeeded (status : Nat) : Bool :=
  200 ≤ status && status < 300

/-- Answers with these statuses never carry a body. -/
def bodiless (status : Nat) : Bool :=
  status == 204 || status == 304

/-- A message that got no answer. -/
def unreachable (e : Endpoint) (url : Url) : Error :=
  .transport (.connection e.target s!"error sending request for url ({url.text})")

/-- A message that cannot be addressed. -/
def unaddressable (e : Endpoint) (place : String) : Error :=
  .transport (.connection e.target ("builder error" ++ place))

def timedOut (e : Endpoint) : Error :=
  .transport (.timeout e.target)

/-- The response in the text of a successful answer. -/
def responseOf (text : String) : Except Error InferResponse :=
  match ResponseDocument.parse? text with
  | some document => document.toResponse
  | none => .error Malformed.document.error

/-- What the answer to an inference comes to. -/
def inferAnswer (status : Nat) (body : String) : Except Error InferResponse :=
  let body := if bodiless status then "" else body
  if succeeded status then responseOf body else .error (.transport (.http status body))

def inferResult (e : Endpoint) (url : Url) : Outcome → Except Error InferResponse
  | .refused => .error (unreachable e url)
  | .silent => .error (timedOut e)
  | .answered status body => inferAnswer status body
  | .cutShort status =>
    if bodiless status then inferAnswer status "" else .error Malformed.body.error

/-- Readiness is in the status alone: a model that is missing or busy is not ready. -/
def readyAnswer (status : Nat) : Except Error Bool :=
  if succeeded status then .ok true
  else if status = 404 ∨ status = 503 then .ok false
  else .error (.transport (.http status ""))

def readyResult (e : Endpoint) (url : Url) : Outcome → Except Error Bool
  | .refused => .error (unreachable e url)
  | .silent => .error (timedOut e)
  | .answered status _ | .cutShort status => readyAnswer status

/-! ### The transport -/

/-- Where messages for an action of the model go. -/
def address (e : Endpoint) (action : String) : Except Error Url :=
  match Url.ofText? (e.modelUrl action) with
  | none => .error (unaddressable e "")
  | some url =>
    if Uri.isUri url.sent.text then .ok url.sent
    else .error (unaddressable e s!" for url ({url.sent.text})")

def inferMessage (e : Endpoint) (request : InferRequest) : Except Error Message := do
  let document ← RequestDocument.ofRequest request
  return ⟨.post, ← address e "infer", document.toJson.text⟩

def readyMessage (e : Endpoint) : Except Error Message := do
  return ⟨.get, ← address e "ready", ""⟩

variable {σ : Type}

def send (exchange : Exchange σ) (e : Endpoint) (request : InferRequest) (world : σ) :
    Except Error InferResponse × σ :=
  match inferMessage e request with
  | .error error => (.error error, world)
  | .ok message =>
    let (outcome, world) := exchange message world
    (inferResult e message.url outcome, world)

def ready (exchange : Exchange σ) (e : Endpoint) (world : σ) : Except Error Bool × σ :=
  match readyMessage e with
  | .error error => (.error error, world)
  | .ok message =>
    let (outcome, world) := exchange message world
    (readyResult e message.url outcome, world)

def transport (exchange : Exchange σ) (e : Endpoint) : Transport σ :=
  ⟨"rest", e, send exchange e, ready exchange e⟩

end ModelProbe.Rest
