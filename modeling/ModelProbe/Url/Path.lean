import ModelProbe.Text.Pieces
import ModelProbe.Url.Percent

/-! Paths of URLs.

A path is a list of segments. Dots go away as they are read: one stands for the place
itself, two for the place above it. A drive letter is never left that way. -/
namespace ModelProbe.Url

def isSlash (c : Char) : Bool :=
  c == '/' || c == '\\'

/-- The number of dots, as themselves or with a percent sign, if there is nothing else. -/
def dots : List Char → Option Nat
  | [] => some 0
  | '.' :: rest => (dots rest).map (· + 1)
  | '%' :: '2' :: e :: rest => if e == 'e' || e == 'E' then (dots rest).map (· + 1) else none
  | _ => none

/-- A letter with a colon or a bar. -/
def isDrive : List Char → Bool
  | [letter, mark] => letter.isAlpha && (mark == ':' || mark == '|')
  | _ => false

/-- The segments without the last one, unless that is a drive. -/
def parent (segments : List (List Char)) : List (List Char) :=
  if segments.getLast?.any isDrive then segments else segments.dropLast

/-- One more piece behind the segments so far. At the end of a path dots leave an empty
segment. -/
def addPiece (segments : List (List Char)) (piece : List Char) (atEnd : Bool) :
    List (List Char) :=
  let closing := if atEnd then [[]] else []
  match dots piece with
  | some 1 => segments ++ closing
  | some 2 => parent segments ++ closing
  | _ => segments ++ [percentEncode escapedInPath piece]

/-- The segments that pieces come to. -/
def resolve (segments : List (List Char)) : List (List Char) → List (List Char)
  | [] => segments
  | [last] => addPiece segments last true
  | piece :: rest => resolve (addPiece segments piece false) rest

/-- The segments of a path, which is empty or begins with a slash. There is always one. -/
def segmentsOf (path : List Char) : List (List Char) :=
  resolve [] (Text.pieces isSlash (path.drop 1))

end ModelProbe.Url
