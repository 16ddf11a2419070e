import ModelProbe.Fairness.Config
import ModelProbe.Table

/-! Labelled data: a table read as features, one of two labels per row, and protected
attributes.

`Dataset.ofTable` needs numbers in every column. The features are all columns but the
label, the protected attributes among them. Values are compared as numbers throughout. -/
namespace ModelProbe.Fairness

structure Dataset where
  featureNames : List String
  features : Matrix Double
  labelName : String
  labels : List Double
  attributes : List String
  /-- The protected attributes, column by column. -/
  attributeValues : Matrix Double
  privilegedValues : List (List Double)
  unprivilegedValues : List (List Double)
  favorable : Double
  unfavorable : Double
deriving DecidableEq

def contains (xs : List Double) (x : Double) : Bool :=
  xs.any (·.agrees x)

/-- The items of `xs` that are not in `excluded`, each once, in the order of their first
places. A NaN is in no list, so every one of them stays. -/
def distinctOutside (excluded xs : List Double) : List Double :=
  xs.foldl
    (fun kept x => if contains excluded x || contains kept x then kept else kept ++ [x]) []

/-- Ascending in the total order of doubles. -/
def sorted (xs : List Double) : List Double :=
  xs.mergeSort fun a b => a.rank ≤ b.rank

namespace Dataset

/-- A result about tables as one about fairness. -/
def liftTable {α : Type} : Except ModelProbe.Error α → Except Error α
  | .ok a => .ok a
  | .error e => .error (.table e)

/-- The columns the configuration names, the label first. -/
def checkColumns (table : Table) (config : Config) : Except Error Unit :=
  match (config.labelName :: config.attributes).find? (· ∉ table.names) with
  | some name => .error (.missingColumn name)
  | none => .ok ()

def isLabel (config : Config) (x : Double) : Bool :=
  x.agrees config.favorable || x.agrees config.unfavorable

def checkLabels (config : Config) (labels : List Double) : Except Error Unit :=
  match labels.zipIdx.find? fun (x, _) => !isLabel config x with
  | some (x, row) => .error (.invalidLabel row x config.favorable config.unfavorable)
  | none => .ok ()

/-- The privileged values of each attribute: those listed, or else the group's. -/
def privilegedOf (config : Config) : List (List Double) :=
  if config.privilegedValues = [] then config.privileged.map fun x => [x]
  else config.privilegedValues

/-- The unprivileged values of each attribute: those listed, or else all others in its
column. -/
def unprivilegedOf (config : Config) (columns : List (List Double)) : List (List Double) :=
  if config.unprivilegedValues = [] then
    columns.zipWith (fun column excluded => sorted (distinctOutside excluded column))
      (privilegedOf config)
  else config.unprivilegedValues

def ofTable (table : Table) (config : Config) : Except Error Dataset := do
  config.validate
  checkColumns table config
  let labels ← liftTable (table.numericColumn config.labelName)
  checkLabels config labels
  let rest := table.without config.labelName
  let features ← liftTable rest.toMatrix
  let attributeValues ← liftTable ((table.select config.attributes).bind Table.toMatrix)
  return {
    featureNames := rest.names
    features
    labelName := config.labelName
    labels
    attributes := config.attributes
    attributeValues
    privilegedValues := privilegedOf config
    unprivilegedValues := unprivilegedOf config attributeValues.columns
    favorable := config.favorable
    unfavorable := config.unfavorable }

variable (d : Dataset)

def rows : Nat :=
  d.labels.length

/-- The column of a protected attribute. -/
def attribute? (name : String) : Option (List Double) :=
  (d.attributes.findIdx? (· = name)).map d.attributeValues.column

/-! ### Groups -/

/-- The column a condition looks at. -/
def conditionColumn (condition : Condition) : Except Error (List Double) :=
  match d.attribute? condition.name with
  | some column => .ok column
  | none => .error (.configuration (.notAnAttribute condition.name))

/-- Which rows meet one of the conditions. -/
def members (conditions : List Condition) : Except Error (List Bool) := do
  let columns ← conditions.mapM d.conditionColumn
  return (List.range d.rows).map fun row =>
    (conditions.zip columns).any fun (condition, column) =>
      column[row]?.any (·.agrees condition.value)

/-- How many rows meet one of the conditions, and how many of those have the favorable
label. -/
def counts (conditions : List Condition) : Except Error (Nat × Nat) := do
  let members ← d.members conditions
  let labels := (members.zip d.labels).filterMap fun (member, label) =>
    if member then some label else none
  return (labels.length, labels.countP (·.agrees d.favorable))

/-- The share of favorable labels in a group; an empty group has none. -/
def favorableRate (conditions : List Condition) : Except Error (Option Double) := do
  let (members, favorable) ← d.counts conditions
  return if members = 0 then none else some ((Double.ofNat favorable).div (.ofNat members))

end Dataset

end ModelProbe.Fairness
