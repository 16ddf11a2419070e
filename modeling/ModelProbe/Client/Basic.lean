import ModelProbe.Client.Transport

/-! A remote model behind a local function.

A client is a transport and a codec for its whole life. A prediction encodes the input,
sends one request and decodes the answer; an input that does not encode sends nothing. -/
namespace ModelProbe

structure Client (σ : Type) where
  transport : Transport σ
  codec : Codec
  /-- The id the next request carries. -/
  requestId : σ → String

variable {σ : Type}

def Codec.request (c : Codec) (e : Endpoint) (id : String) (input : ModelInput) :
    Except Error InferRequest := do
  return ⟨e.modelName, e.modelVersion, id, [← c.encode input]⟩

namespace Client

def predict (c : Client σ) : Predictor σ := fun input world =>
  match c.codec.request c.transport.endpoint (c.requestId world) input with
  | .error e => (.error e, world)
  | .ok request =>
    let (answer, world) := c.transport.send request world
    (answer.bind Codec.decode, world)

def ready (c : Client σ) : σ → Except Error Bool × σ :=
  c.transport.ready

end Client

end ModelProbe
