import ModelProbe.Fairness.Error
import ModelProbe.Json.Record

/-! How a table reads as labelled data, and which groups of it are compared.

The protected attributes are columns, and each group has one value for each of them: a row
belongs to a group when one of its attributes has that group's value. -/
namespace ModelProbe.Fairness

/-- The name of an attribute and a value it may have. -/
structure Condition where
  name : String
  value : Double
deriving DecidableEq

structure Config where
  attributes : List String
  /-- The label columns, of which there must be one. -/
  labels : List String
  favorable : Double
  unfavorable : Double
  /-- For each attribute the values that count as privileged; the group's own when empty. -/
  privilegedValues : List (List Double) := []
  /-- For each attribute the values that count as unprivileged; all others when empty. -/
  unprivilegedValues : List (List Double) := []
  privileged : List Double
  unprivileged : List Double
deriving DecidableEq

/-- The first item that has stood before. -/
def repeated? {α : Type} [DecidableEq α] (seen : List α) : List α → Option α
  | [] => none
  | a :: rest => if a ∈ seen then some a else repeated? (a :: seen) rest

/-- Whether two lists agree item by item. -/
def agreeBy {α : Type} (agree : α → α → Bool) (xs ys : List α) : Bool :=
  xs.length == ys.length && (xs.zip ys).all fun (x, y) => agree x y

namespace Config

variable (c : Config)

/-- The column of the labels. -/
def labelName : String :=
  c.labels.headD ""

/-- One value for each attribute. -/
def checkGroup (field : String) (values : List Double) : Except Error Unit :=
  if values.length = c.attributes.length then .ok ()
  else .error (.configuration (.groupLength field values.length c.attributes.length))

/-- One list for each attribute, or none at all. -/
def checkLists (field : String) (lists : List (List Double)) : Except Error Unit :=
  if lists = [] ∨ lists.length = c.attributes.length then .ok ()
  else .error (.configuration (.listLength field lists.length c.attributes.length))

/-- Attributes are distinct, the label is one column that is none of them, and the two label
values are different numbers. -/
def checkLabels : Except Error Unit := do
  if c.attributes = [] then throw (.configuration .noAttributes)
  if let some name := repeated? [] c.attributes then
    throw (.configuration (.repeatedAttribute name))
  if c.labels.length ≠ 1 then throw (.configuration (.labelCount c.labels.length))
  if c.labelName ∈ c.attributes then throw (.configuration (.labelIsAttribute c.labelName))
  if !c.favorable.isFinite || !c.unfavorable.isFinite then
    throw (.configuration .labelsNotFinite)
  if c.favorable.agrees c.unfavorable then throw (.configuration (.sameLabels c.favorable))

def validate : Except Error Unit := do
  c.checkLabels
  c.checkGroup "privileged_groups" c.privileged
  c.checkGroup "unprivileged_groups" c.unprivileged
  c.checkLists "privileged_protected_attributes" c.privilegedValues
  c.checkLists "unprivileged_protected_attributes" c.unprivilegedValues

/-! ### Groups -/

def privilegedGroup : List Condition :=
  c.attributes.zipWith Condition.mk c.privileged

def unprivilegedGroup : List Condition :=
  c.attributes.zipWith Condition.mk c.unprivileged

/-- Whether two configurations agree, their values as numbers. -/
def agrees (d : Config) : Bool :=
  c.attributes == d.attributes && c.labels == d.labels &&
    c.favorable.agrees d.favorable && c.unfavorable.agrees d.unfavorable &&
    agreeBy (agreeBy Double.agrees) c.privilegedValues d.privilegedValues &&
    agreeBy (agreeBy Double.agrees) c.unprivilegedValues d.unprivilegedValues &&
    agreeBy Double.agrees c.privileged d.privileged &&
    agreeBy Double.agrees c.unprivileged d.unprivileged

/-! ### In JSON -/

open Json (Tree Value)

def ofTree? (t : Tree) : Option Config :=
  match t.slots? ["protected_attribute_names", "label_names", "favorable_label",
    "unfavorable_label", "privileged_protected_attributes", "unprivileged_protected_attributes",
    "privileged_groups", "unprivileged_groups"] with
  | some [attributes, labels, favorable, unfavorable, privilegedValues, unprivilegedValues,
      privileged, unprivileged] => do
    let doubles := Tree.list? Tree.double?
    return {
      attributes := ← attributes.required (Tree.list? Tree.string?)
      labels := ← labels.required (Tree.list? Tree.string?)
      favorable := ← favorable.required Tree.double?
      unfavorable := ← unfavorable.required Tree.double?
      privilegedValues := ← privilegedValues.default [] (Tree.list? doubles)
      unprivilegedValues := ← unprivilegedValues.default [] (Tree.list? doubles)
      privileged := ← privileged.required doubles
      unprivileged := ← unprivileged.required doubles }
  | _ => none

def doublesToJson (xs : List Double) : Value :=
  .array (xs.map .double)

def toJson : Value :=
  .object [("protected_attribute_names", .strings c.attributes),
    ("label_names", .strings c.labels),
    ("favorable_label", .double c.favorable),
    ("unfavorable_label", .double c.unfavorable),
    ("privileged_protected_attributes", .array (c.privilegedValues.map doublesToJson)),
    ("unprivileged_protected_attributes", .array (c.unprivilegedValues.map doublesToJson)),
    ("privileged_groups", doublesToJson c.privileged),
    ("unprivileged_groups", doublesToJson c.unprivileged)]

end Config

end ModelProbe.Fairness
