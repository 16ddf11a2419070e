/-! Cutting text at marks, which are left out. -/
namespace ModelProbe.Text

/-- The pieces between what is a mark; there is always one. -/
def pieces {α : Type} (isMark : α → Bool) : List α → List (List α)
  | [] => [[]]
  | c :: rest =>
    if isMark c then [] :: pieces isMark rest
    else
      match pieces isMark rest with
      | [] => [[c]]
      | piece :: more => (c :: piece) :: more

/-- What stands before and after the first place where `mark` occurs. -/
def splitOnce? (mark : List Char) : List Char → Option (List Char × List Char)
  | [] => if mark = [] then some ([], []) else none
  | c :: rest =>
    if mark.isPrefixOf (c :: rest) then some ([], (c :: rest).drop mark.length)
    else (splitOnce? mark rest).map fun (before, after) => (c :: before, after)

/-- What stands before and after the last place where `mark` occurs. -/
def splitLast? (mark : Char) : List Char → Option (List Char × List Char)
  | [] => none
  | c :: rest =>
    match splitLast? mark rest with
    | some (before, after) => some (c :: before, after)
    | none => if c = mark then some ([], rest) else none

end ModelProbe.Text
