import ModelProbe.Text.Digits
import ModelProbe.Text.Pieces

/-! Tables of code points, written as text.

A table is a list of lines of entries with blanks between them. An entry names one code
point or, with a dash, a range; numbers are hexadecimal. Where code points stand for others
an equals sign and those follow, with dots between: the first of a range stands for what is
named, the next ones for what comes behind it. A slash in place of the equals sign takes
every second code point only. -/
namespace ModelProbe.Text

structure CodeRange where
  first : Nat
  last : Nat
deriving DecidableEq

def CodeRange.has (r : CodeRange) (n : Nat) : Bool :=
  r.first ≤ n && n ≤ r.last

/-- The entries of a table. -/
def entries (lines : List String) : List (List Char) :=
  lines.flatMap fun line => pieces (· == ' ') line.toList

def range? (cs : List Char) : Option CodeRange :=
  match (pieces (· == '-') cs).mapM (digitsValue? 16) with
  | some [only] => some ⟨only, only⟩
  | some [first, last] => some ⟨first, last⟩
  | _ => none

def ranges (lines : List String) : List CodeRange :=
  (entries lines).filterMap range?

def isIn (table : List CodeRange) (n : Nat) : Bool :=
  table.any (·.has n)

/-- Code points that stand for others. -/
structure Images where
  domain : CodeRange
  step : Nat
  /-- What the first of them stands for. -/
  image : List Nat
deriving DecidableEq

def Images.image? (m : Images) (n : Nat) : Option (List Nat) :=
  if m.domain.has n && (n - m.domain.first) % m.step == 0 then
    some (m.image.map (· + (n - m.domain.first)))
  else none

def images? (cs : List Char) : Option Images := do
  let [domain, image] := pieces (fun c => c == '=' || c == '/') cs | none
  return ⟨← range? domain, if '/' ∈ cs then 2 else 1,
    ← (pieces (· == '.') image).mapM (digitsValue? 16)⟩

def images (lines : List String) : List Images :=
  (entries lines).filterMap images?

/-- What a code point stands for, if it is in the table. -/
def image? (table : List Images) (n : Nat) : Option (List Nat) :=
  table.findSome? (·.image? n)

end ModelProbe.Text
