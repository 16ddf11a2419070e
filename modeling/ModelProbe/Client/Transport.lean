import ModelProbe.Codec
import ModelProbe.Endpoint

/-! The two seams of the library: transports and predictors.

Both are functions on a state `σ`, the world they act in, so whatever a server, a network
or a stub does from call to call is a choice of `σ` and of the functions. Neither retries:
one call of `send` is one request. -/
namespace ModelProbe

/-- One serving protocol bound to one endpoint. -/
structure Transport (σ : Type) where
  name : String
  endpoint : Endpoint
  send : InferRequest → σ → Except Error InferResponse × σ
  ready : σ → Except Error Bool × σ

/-- The black box an explainer asks: rows in, rows of predictions out. -/
abbrev Predictor (σ : Type) := ModelInput → σ → Except Error (Matrix Double) × σ

end ModelProbe
