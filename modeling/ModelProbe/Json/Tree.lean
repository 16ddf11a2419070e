import ModelProbe.Json.Token

/-! The syntax tree of a JSON text.

A tree keeps everything the text says: the literals of numbers, the keys of an object in
order with their repetitions, and strings that stand for no text. What of it a reader
looks at is the reader's business: a value that nobody asks for need only be well formed.

`Tree.ofTokens?` is a machine over the tokens with a stack of the containers that are
still open, so the nesting a text may have is bounded by no recursion. -/
namespace ModelProbe.Json

inductive Tree where
  | null
  | bool (b : Bool)
  | number (l : Literal)
  | string (text : Option String)
  | array (items : List Tree)
  | object (members : List (Option String × Tree))

instance : Inhabited Tree := ⟨.null⟩

mutual

/-- How many containers stand inside one another. -/
def Tree.depth : Tree → Nat
  | .array items => Tree.itemDepth items + 1
  | .object members => Tree.memberDepth members + 1
  | _ => 0

def Tree.itemDepth : List Tree → Nat
  | [] => 0
  | t :: rest => max t.depth (Tree.itemDepth rest)

def Tree.memberDepth : List (Option String × Tree) → Nat
  | [] => 0
  | (_, t) :: rest => max t.depth (Tree.memberDepth rest)

end

/-- An open container: what it holds so far, latest first, and for an object the key whose
value comes next. -/
inductive Frame where
  | array (items : List Tree)
  | object (members : List (Option String × Tree)) (key : Option String)

/-- What may come next. -/
inductive Expecting where
  /-- A value. -/
  | value
  /-- A value, or the end of an array that is still empty. -/
  | valueOrEnd
  /-- A key of the object with these members. -/
  | key (members : List (Option String × Tree))
  /-- A key, or the end of an object that is still empty. -/
  | keyOrEnd
  /-- What may follow this value. -/
  | after (t : Tree)

/-- Reads on, with the containers that are open, innermost first. -/
def advance : List Token → Expecting → List Frame → Option Tree
  | [], .after t, [] => some t
  | .comma :: rest, .after t, .array items :: open_ =>
    advance rest .value (.array (t :: items) :: open_)
  | .rightBracket :: rest, .after t, .array items :: open_ =>
    advance rest (.after (.array (t :: items).reverse)) open_
  | .comma :: rest, .after t, .object members key :: open_ =>
    advance rest (.key ((key, t) :: members)) open_
  | .rightBrace :: rest, .after t, .object members key :: open_ =>
    advance rest (.after (.object ((key, t) :: members).reverse)) open_
  | .string k :: .colon :: rest, .key members, open_ =>
    advance rest .value (.object members k :: open_)
  | .string k :: .colon :: rest, .keyOrEnd, open_ =>
    advance rest .value (.object [] k :: open_)
  | .rightBrace :: rest, .keyOrEnd, open_ => advance rest (.after (.object [])) open_
  | .rightBracket :: rest, .valueOrEnd, .array items :: open_ =>
    advance rest (.after (.array items.reverse)) open_
  | t :: rest, .value, open_ | t :: rest, .valueOrEnd, open_ =>
    match t with
    | .null => advance rest (.after .null) open_
    | .bool b => advance rest (.after (.bool b)) open_
    | .number l => advance rest (.after (.number l)) open_
    | .string s => advance rest (.after (.string s)) open_
    | .leftBracket => advance rest .valueOrEnd (.array [] :: open_)
    | .leftBrace => advance rest .keyOrEnd open_
    | _ => none
  | _, _, _ => none

def Tree.ofTokens? (tokens : List Token) : Option Tree :=
  advance tokens .value []

/-- The tree of a text that is one JSON value with white space around it. -/
def Tree.parse? (text : String) : Option Tree :=
  (tokens? text.toList).bind Tree.ofTokens?

end ModelProbe.Json
