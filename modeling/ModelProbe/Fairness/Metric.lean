import ModelProbe.Fairness.Dataset

/-! Group fairness metrics.

A metric compares how often the favorable label falls to the unprivileged group and to the
privileged one. What is computed from the two groups is a backend's business; `baseRates`
divides counts, and refuses groups on which it would divide by zero. -/
namespace ModelProbe.Fairness

/-- A statistic of an unprivileged and a privileged group. -/
abbrev GroupStatistic :=
  Dataset → (unprivileged privileged : List Condition) → Except Error Double

structure Backend where
  /-- The rate of the unprivileged group less that of the privileged one; 0 is parity. -/
  parityDifference : GroupStatistic
  /-- The rate of the unprivileged group over that of the privileged one; 1 is parity. -/
  impactRatio : GroupStatistic

/-- The favorable rates of the two groups. -/
def rates (d : Dataset) (unprivileged privileged : List Condition) :
    Except Error (Double × Double) := do
  let some u ← d.favorableRate unprivileged | throw (.backend .noUnprivilegedRows)
  let some p ← d.favorableRate privileged | throw (.backend .noPrivilegedRows)
  return (u, p)

def baseRates : Backend where
  parityDifference := fun d unprivileged privileged => do
    let (u, p) ← rates d unprivileged privileged
    return u.sub p
  impactRatio := fun d unprivileged privileged => do
    let (u, p) ← rates d unprivileged privileged
    if p.isZero then throw (.backend .noFavorableOutcomes)
    return u.div p

inductive Kind where
  | parityDifference
  | impactRatio
deriving DecidableEq

def Kind.name : Kind → String
  | parityDifference => "statistical_parity_difference"
  | impactRatio => "disparate_impact_ratio"

def Backend.statistic (b : Backend) : Kind → GroupStatistic
  | .parityDifference => b.parityDifference
  | .impactRatio => b.impactRatio

/-- A metric over the groups of an accepted configuration. -/
structure Metric where
  kind : Kind
  config : Config
  backend : Backend

namespace Metric

def make (kind : Kind) (config : Config) (backend : Backend) : Except Error Metric := do
  config.validate
  return ⟨kind, config, backend⟩

def calculate (m : Metric) (table : Table) : Except Error Double := do
  let d ← Dataset.ofTable table m.config
  m.backend.statistic m.kind d m.config.unprivilegedGroup m.config.privilegedGroup

end Metric

end ModelProbe.Fairness
