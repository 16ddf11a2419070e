import ModelProbe.Error

/-! What can go wrong when a table is judged for fairness. -/
namespace ModelProbe.Fairness

/-- A configuration that does not say which groups are compared. -/
inductive ConfigurationFault where
  | noAttributes
  | repeatedAttribute (name : String)
  | labelCount (labels : Nat)
  | labelIsAttribute (label : String)
  | labelsNotFinite
  | sameLabels (value : Double)
  | groupLength (field : String) (values attributes : Nat)
  | listLength (field : String) (lists attributes : Nat)
  | notAnAttribute (name : String)
deriving DecidableEq

def ConfigurationFault.message : ConfigurationFault → String
  | noAttributes => "at least one protected attribute is required"
  | repeatedAttribute name => s!"protected attribute `{name}` is listed twice"
  | labelCount labels => s!"exactly one label column is required, got {labels}"
  | labelIsAttribute label => s!"label `{label}` cannot also be a protected attribute"
  | labelsNotFinite => "labels must be finite"
  | sameLabels value => s!"favorable and unfavorable labels are both {value.text}"
  | groupLength field values attributes =>
    s!"{field} has {values} values for {attributes} protected attributes"
  | listLength field lists attributes =>
    s!"{field} has {lists} entries for {attributes} protected attributes"
  | notAnAttribute name => s!"`{name}` is not a protected attribute"

/-- Groups a statistic is not defined on. -/
inductive BackendFault where
  | noUnprivilegedRows
  | noPrivilegedRows
  | noFavorableOutcomes
  | other (text : String)
deriving DecidableEq

def BackendFault.message : BackendFault → String
  | noUnprivilegedRows => "unprivileged group has no rows"
  | noPrivilegedRows => "privileged group has no rows"
  | noFavorableOutcomes => "privileged group has no favorable outcomes"
  | other text => text

inductive Error where
  | configuration (fault : ConfigurationFault)
  | missingColumn (name : String)
  /-- A label that is neither of the two. -/
  | invalidLabel (row : Nat) (value favorable unfavorable : Double)
  | backend (fault : BackendFault)
  | table (source : ModelProbe.Error)

def Error.message : Error → String
  | configuration fault => s!"configuration error: {fault.message}"
  | missingColumn name => s!"column `{name}` is missing from the table"
  | invalidLabel row value favorable unfavorable =>
    s!"row {row} has label {value.text}, expected {favorable.text} or {unfavorable.text}"
  | backend fault => s!"fairness backend failed: {fault.message}"
  | table source => source.message

end ModelProbe.Fairness
