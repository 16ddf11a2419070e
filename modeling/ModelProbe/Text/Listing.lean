/-! Lists and pairs of numbers as messages show them: `[2, 3]`, `(4, 1)`. -/
namespace ModelProbe.Text

/-- Items between square brackets. -/
def bracketed (items : List String) : String :=
  "[" ++ ", ".intercalate items ++ "]"

def naturals (ns : List Nat) : String :=
  bracketed (ns.map toString)

def integers (ns : List Int64) : String :=
  bracketed (ns.map fun n => toString n.toInt)

def pair (a b : Nat) : String :=
  s!"({a}, {b})"

end ModelProbe.Text
