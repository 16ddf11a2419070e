import ModelProbe.Text.CodePoints
import ModelProbe.Url.Name.MappingTable

/-! What characters of a name stand for.

Every character of a name is disallowed, ignored, an image of others, or itself. -/
namespace ModelProbe.Url.Name

open Text (Images CodeRange images ranges image? isIn)

def imageTable : List Images := images imageLines

def ignored : List CodeRange := ranges ignoredLines

def disallowed : List CodeRange := ranges disallowedLines

/-- The code points that one stands for, unless it is disallowed. -/
def mapped? (n : Nat) : Option (List Nat) :=
  match image? imageTable n with
  | some image => some image
  | none => if isIn disallowed n then none else some (if isIn ignored n then [] else [n])

/-- Whether a code point stands for itself. -/
def isValid (n : Nat) : Bool :=
  mapped? n == some [n]

end ModelProbe.Url.Name
