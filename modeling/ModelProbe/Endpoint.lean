import ModelProbe.Error
import ModelProbe.Text.Blank
import ModelProbe.Text.Pieces

/-! Where a model is served.

An endpoint is a host, with or without a scheme in front, and the identity of one model.
Only plain `http` is spoken. Names and versions go into URLs as they are. -/
namespace ModelProbe

structure Endpoint where
  target : String
  modelName : String
  modelVersion : Option String
deriving DecidableEq

namespace Endpoint

def scheme : List Char := "http".toList

/-- The scheme with the mark that follows it. -/
def schemeMark : List Char := "http://".toList

/-- A scheme in front of the target that is not plain `http`. -/
def foreignScheme? (target : String) : Option String :=
  match Text.splitOnce? "://".toList target.toList with
  | some (before, _) => if before = scheme then none else some (String.ofList before)
  | none => none

def make (target modelName : String) (modelVersion : Option String) : Except Error Endpoint := do
  if Text.blank target then throw (.configuration .emptyTarget)
  if let some found := foreignScheme? target then
    throw (.configuration (.unsupportedScheme found target))
  if Text.blank modelName then throw (.configuration .emptyModelName)
  if modelVersion.any Text.blank then throw (.configuration .emptyModelVersion)
  return ⟨target, modelName, modelVersion⟩

/-- The target with a scheme and without slashes at its end. -/
def baseUrl (e : Endpoint) : String :=
  let target := e.target.toList
  let trimmed := Text.trimEnd (· == '/') target
  String.ofList (if schemeMark.isPrefixOf target then trimmed else schemeMark ++ trimmed)

/-- The URL of an action on the model. -/
def modelUrl (e : Endpoint) (action : String) : String :=
  match e.modelVersion with
  | some version => s!"{e.baseUrl}/v2/models/{e.modelName}/versions/{version}/{action}"
  | none => s!"{e.baseUrl}/v2/models/{e.modelName}/{action}"

end Endpoint

end ModelProbe
