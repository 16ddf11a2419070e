import ModelProbe.Explain.Error
import ModelProbe.Json.Record
import ModelProbe.Text.Blank

/-! Parameters of explanation algorithms.

An algorithm's parameters say how many rows of history it consumes and how many value
columns a point must have, and are validated before any point is looked at. ICE perturbs
summary features over a window of the history; LIME fits a surrogate on perturbed
histories. -/
namespace ModelProbe.Explain

open Json (Tree Value)

/-- What an explainer needs to know of its algorithm's parameters. -/
structure Requirements where
  inputLength : Nat
  valueColumns : ColumnCount
deriving DecidableEq

/-- A list of perturbers, when given, is not empty. -/
def checkPerturbers (perturbers : Option (List String)) : Except Error Unit :=
  if perturbers = some [] then throw (.configuration .noPerturbers) else return ()

def checkPositive (parameter : String) (n : Nat) : Except Error Unit :=
  if n = 0 then throw (.configuration (.zero parameter)) else return ()

/-! ### ICE -/

/-- Statistics of a window that can be perturbed and analysed. -/
inductive Feature where
  | median
  | mean
  | min
  | max
  | std
  | range
  | intercept
  | trend
  | rsquared
  | maxVariation
deriving DecidableEq

namespace Feature

def name : Feature → String
  | median => "median"
  | mean => "mean"
  | min => "min"
  | max => "max"
  | std => "std"
  | range => "range"
  | intercept => "intercept"
  | trend => "trend"
  | rsquared => "rsquared"
  | maxVariation => "max_variation"

def all : List Feature :=
  [median, mean, min, max, std, range, intercept, trend, rsquared, maxVariation]

def ofName? (s : String) : Option Feature :=
  all.find? fun f => f.name = s

end Feature

structure IceParams where
  inputLength : Nat
  forecastLookahead : Nat
  endogenous : Nat := 1
  exogenous : Nat := 0
  perturbations : Nat := 25
  features : List Feature := [.mean]
  /-- Names the algorithm understands; its own choice when absent. -/
  perturbers : Option (List String) := none
  windowStart : Option Nat := none
  windowLength : Nat := 10
deriving DecidableEq

namespace IceParams

/-- First row and end of the window the perturbations touch. Without a start of its own the
window ends at the newest row. -/
def window (p : IceParams) : Nat × Nat :=
  let start := p.windowStart.getD (p.inputLength - p.windowLength)
  (start, start + p.windowLength)

def requirements (p : IceParams) : Requirements :=
  ⟨p.inputLength, .exactly (p.endogenous + p.exogenous)⟩

/-- Whether a window of the history that is asked for lies within it. -/
def checkWindow (p : IceParams) : Except Error Unit := do
  if p.inputLength < p.windowLength then
    throw (.configuration (.windowTooLong p.windowLength p.inputLength))
  if let some start := p.windowStart then
    if p.inputLength < start + p.windowLength then
      throw (.configuration (.windowOutside start p.windowLength p.inputLength))

def validate (p : IceParams) : Except Error Unit := do
  checkPositive "input_length" p.inputLength
  checkPositive "forecast_lookahead" p.forecastLookahead
  checkPositive "n_variables" p.endogenous
  checkPositive "n_perturbations" p.perturbations
  checkPositive "explanation_window_length" p.windowLength
  p.checkWindow
  if p.features = [] then throw (.configuration .noFeatures)
  checkPerturbers p.perturbers

def ofTree? (t : Tree) : Option IceParams :=
  match t.slots? ["input_length", "forecast_lookahead", "n_variables", "n_exogs",
    "n_perturbations", "features_to_analyze", "perturbers", "explanation_window_start",
    "explanation_window_length"] with
  | some [inputLength, forecastLookahead, endogenous, exogenous, perturbations, features,
      perturbers, windowStart, windowLength] => do
    let fresh : IceParams :=
      ⟨← inputLength.required Tree.nat?, ← forecastLookahead.required Tree.nat?, 1, 0, 25, [.mean],
        none, none, 10⟩
    return { fresh with
      endogenous := ← endogenous.default fresh.endogenous Tree.nat?
      exogenous := ← exogenous.default fresh.exogenous Tree.nat?
      perturbations := ← perturbations.default fresh.perturbations Tree.nat?
      features := ← features.default fresh.features (Tree.list? (Tree.oneOf? Feature.ofName?))
      perturbers := ← perturbers.optional (Tree.list? Tree.string?)
      windowStart := ← windowStart.optional Tree.nat?
      windowLength := ← windowLength.default fresh.windowLength Tree.nat? }
  | _ => none

def toJson (p : IceParams) : Value :=
  .object [("input_length", .nat p.inputLength), ("forecast_lookahead", .nat p.forecastLookahead),
    ("n_variables", .nat p.endogenous), ("n_exogs", .nat p.exogenous),
    ("n_perturbations", .nat p.perturbations),
    ("features_to_analyze", .strings (p.features.map Feature.name)),
    ("perturbers", .option .strings p.perturbers),
    ("explanation_window_start", .option .nat p.windowStart),
    ("explanation_window_length", .nat p.windowLength)]

end IceParams

/-! ### LIME -/

structure LimeParams where
  inputLength : Nat
  perturbations : Nat := 2000
  /-- The newest rows the surrogate weighs; all of the history when absent. -/
  relevantHistory : Option Nat := none
  perturbers : Option (List String) := none
  randomSeed : Option Nat := none
deriving DecidableEq

namespace LimeParams

def history (p : LimeParams) : Nat :=
  p.relevantHistory.getD p.inputLength

def requirements (p : LimeParams) : Requirements :=
  ⟨p.inputLength, .atLeast 1⟩

def validate (p : LimeParams) : Except Error Unit := do
  checkPositive "input_length" p.inputLength
  checkPositive "n_perturbations" p.perturbations
  if let some h := p.relevantHistory then
    if h = 0 ∨ p.inputLength < h then
      throw (.configuration (.relevantHistory p.inputLength h))
  checkPerturbers p.perturbers

def ofTree? (t : Tree) : Option LimeParams :=
  match t.slots? ["input_length", "n_perturbations", "relevant_history", "perturbers",
    "random_seed"] with
  | some [inputLength, perturbations, relevantHistory, perturbers, randomSeed] => do
    let fresh : LimeParams := ⟨← inputLength.required Tree.nat?, 2000, none, none, none⟩
    return { fresh with
      perturbations := ← perturbations.default fresh.perturbations Tree.nat?
      relevantHistory := ← relevantHistory.optional Tree.nat?
      perturbers := ← perturbers.optional (Tree.list? Tree.string?)
      randomSeed := ← randomSeed.optional Tree.nat? }
  | _ => none

def toJson (p : LimeParams) : Value :=
  .object [("input_length", .nat p.inputLength), ("n_perturbations", .nat p.perturbations),
    ("relevant_history", .option .nat p.relevantHistory),
    ("perturbers", .option .strings p.perturbers), ("random_seed", .option .nat p.randomSeed)]

end LimeParams

/-! ### Framing -/

/-- Which column holds timestamps, and how to read them. -/
structure Framing where
  timestampColumn : String
  timestampFormat : Option String := none
deriving DecidableEq

namespace Framing

def validate (f : Framing) : Except Error Unit := do
  if Text.blank f.timestampColumn then throw (.configuration .emptyTimestampColumn)
  if f.timestampFormat.any Text.blank then throw (.configuration .emptyTimestampFormat)

def ofTree? (t : Tree) : Option Framing :=
  match t.slots? ["timestamp_column", "timestamp_format"] with
  | some [timestampColumn, timestampFormat] => do
    return {
      timestampColumn := ← timestampColumn.required Tree.string?
      timestampFormat := ← timestampFormat.optional Tree.string? }
  | _ => none

def toJson (f : Framing) : Value :=
  .object [("timestamp_column", .string f.timestampColumn),
    ("timestamp_format", .option .string f.timestampFormat)]

end Framing

end ModelProbe.Explain
