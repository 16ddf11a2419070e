import ModelProbe.Client.Config
import ModelProbe.Explain.Engine

/-! Explainers.

An explainer holds an engine, its parameters and the framing, all validated when it is
made, and explains one point at a time. A point that does not fit is turned away before
any prediction and leaves the explainer as it was. With any other it is `explaining` until
the result is there, which leaves it `done` or `failed`. -/
namespace ModelProbe.Explain

inductive State where
  | configured
  | explaining
  | done
  | failed
deriving DecidableEq

def State.name : State → String
  | configured => "Configured"
  | explaining => "Explaining"
  | done => "Done"
  | failed => "Failed"

structure Explainer (P α σ : Type) where
  engine : Engine P α
  params : P
  framing : Framing
  /-- The model asked unless a run names another. -/
  model : Predictor σ
  state : State

namespace Explainer

variable {P α σ : Type}

def make (engine : Engine P α) (params : P) (framing : Framing) (model : Predictor σ) :
    Except Error (Explainer P α σ) := do
  engine.validate params
  framing.validate
  return ⟨engine, params, framing, model, .configured⟩

/-- What a configured model comes to, once parameters and framing are accepted. -/
def connection (engine : Engine P α) (params : P) (framing : Framing) (config : ClientConfig) :
    Except Error Connection := do
  engine.validate params
  framing.validate
  match config.connect with
  | .ok c => return c
  | .error (.configuration fault) => throw (.configuration (.model fault))
  | .error e => throw (.frame e)

/-- The frame of a point that fits. -/
def prepare (x : Explainer P α σ) (point : Table) : Except Error Frame := do
  let column := x.framing.timestampColumn
  let needs := x.engine.requirements x.params
  let values := point.width - 1
  if column ∉ point.names then throw (.invalidInput (.noTimestampColumn column point.names))
  if !needs.valueColumns.accepts values then
    throw (.invalidInput (.valueColumns values needs.valueColumns))
  if point.rows < needs.inputLength then
    throw (.invalidInput (.tooFewRows point.rows needs.inputLength))
  Frame.ofTable point column x.framing.timestampFormat

/-- The explainer once its point is known to fit. -/
def start (x : Explainer P α σ) : Explainer P α σ :=
  { x with state := .explaining }

/-- The state a result leaves. -/
def after (result : Except Error α) : State :=
  match result with
  | .ok _ => .done
  | .error _ => .failed

/-- The explainer once a result is there. -/
def finish (x : Explainer P α σ) (result : Except Error α) : Explainer P α σ :=
  { x with state := after result }

/-- Explains a point against a model, and gives the explainer and the world afterwards. -/
def explainWith (x : Explainer P α σ) (point : Table) (model : Predictor σ) (world : σ) :
    Except Error α × Explainer P α σ × σ :=
  match x.prepare point with
  | .error e => (.error e, x, world)
  | .ok frame =>
    let x := x.start
    let (result, world) := (x.engine.explain x.params frame).run model world
    (result, x.finish result, world)

def explain (x : Explainer P α σ) (point : Table) (world : σ) :
    Except Error α × Explainer P α σ × σ :=
  x.explainWith point x.model world

end Explainer

end ModelProbe.Explain
