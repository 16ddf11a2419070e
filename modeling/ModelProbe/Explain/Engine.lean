import ModelProbe.Client.Transport
import ModelProbe.Explain.Frame
import ModelProbe.Explain.Params

/-! Explanation algorithms as programs.

A `Program` either ends with a result or asks for the forecast of a window and goes on with
the answer, which it is free to react to, ignore or hide. `Program.run` answers with a
predictor. It counts the predictions and remembers the first that failed: that failure is
the result of the run whatever the program makes of it. -/
namespace ModelProbe.Explain

inductive Program (α : Type) where
  | finish (result : Except Error α)
  | forecast (window : Frame) (next : Except Error (Matrix Double) → Program α)

/-- An algorithm with parameters of type `P`: what it needs of a point and what it does with
the frame of one. -/
structure Engine (P α : Type) where
  validate : P → Except Error Unit
  requirements : P → Requirements
  explain : P → Frame → Program α

namespace Program

variable {α σ : Type}

/-- Calls made so far, and the first that failed with its error. -/
structure Calls where
  made : Nat := 0
  firstFailure : Option (Nat × ModelProbe.Error) := none

/-- The answer to one more call, which failed if `answer` is an error. -/
def Calls.answer (calls : Calls) (answer : Except ModelProbe.Error (Matrix Double)) :
    Except Error (Matrix Double) × Calls :=
  let call := calls.made + 1
  match answer with
  | .ok m => (.ok m, { calls with made := call })
  | .error e => (.error (.prediction call e), ⟨call, calls.firstFailure.or (some (call, e))⟩)

/-- The program's own result, what it called, and the world it leaves. -/
def drive (predict : Predictor σ) : Program α → Calls → σ → Except Error α × Calls × σ
  | .finish result, calls, world => (result, calls, world)
  | .forecast window next, calls, world =>
    let (answer, world) := predict window.toInput world
    let (answer, calls) := calls.answer answer
    drive predict (next answer) calls world

/-- The result of a run: the first failed prediction, or else the program's own. -/
def run (predict : Predictor σ) (program : Program α) (world : σ) : Except Error α × σ :=
  let (result, calls, world) := drive predict program {} world
  match calls.firstFailure with
  | some (call, e) => (.error (.prediction call e), world)
  | none => (result, world)

end Program

end ModelProbe.Explain
