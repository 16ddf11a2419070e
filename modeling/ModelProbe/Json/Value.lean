import ModelProbe.Json.Tree

/-! JSON values.

`Tree.value?` gives a tree its meaning: numbers in range, strings that stand for text, and
objects ordered by key in which the last of equal keys wins. `Value.text` writes a value
without spaces and an object in the order its members have. -/
namespace ModelProbe.Json

inductive Value where
  | null
  | bool (b : Bool)
  | number (n : Number)
  | string (s : String)
  | array (items : List Value)
  | object (members : List (String × Value))

instance : Inhabited Value := ⟨.null⟩

namespace Value

def int (n : Int) : Value := .number (.integer n)
def nat (n : Nat) : Value := int n
def double (x : Double) : Value := .number (.double x)
def strings (ss : List String) : Value := .array (ss.map .string)

/-- A value, or null. -/
def option {α : Type} (f : α → Value) (a : Option α) : Value :=
  a.elim .null f

/-- Puts a member into a list ordered by key, in place of one with the same key. -/
def insert (k : String) (v : Value) : List (String × Value) → List (String × Value)
  | [] => [(k, v)]
  | (k', v') :: rest =>
    if k < k' then (k, v) :: (k', v') :: rest
    else if k = k' then (k, v) :: rest
    else (k', v') :: insert k v rest

/-- The members ordered by key, the last of equal keys kept. -/
def settle (members : List (String × Value)) : List (String × Value) :=
  members.foldl (fun ms (k, v) => insert k v ms) []

end Value

mutual

/-- The value a tree stands for. -/
def Tree.value? : Tree → Option Value
  | .null => some .null
  | .bool b => some (.bool b)
  | .number l => l.number?.map .number
  | .string s => s.map .string
  | .array items => (itemValues? items).map .array
  | .object members => (memberValues? members).map fun ms => .object (Value.settle ms)

def itemValues? : List Tree → Option (List Value)
  | [] => some []
  | t :: rest =>
    match t.value?, itemValues? rest with
    | some v, some vs => some (v :: vs)
    | _, _ => none

def memberValues? : List (Option String × Tree) → Option (List (String × Value))
  | [] => some []
  | (some k, t) :: rest =>
    match t.value?, memberValues? rest with
    | some v, some vs => some ((k, v) :: vs)
    | _, _ => none
  | (none, _) :: _ => none

end

/-! ### Writing -/

/-- Two lower-case hexadecimal digits. -/
def hexPair (n : Nat) : List Char :=
  [Nat.digitChar (n / 16 % 16), Nat.digitChar (n % 16)]

/-- How a character stands inside quotes. -/
def escape (c : Char) : List Char :=
  match c with
  | '"' => ['\\', '"']
  | '\\' => ['\\', '\\']
  | '\x08' => ['\\', 'b']
  | '\x0c' => ['\\', 'f']
  | '\n' => ['\\', 'n']
  | '\r' => ['\\', 'r']
  | '\t' => ['\\', 't']
  | c => if c.toNat < 0x20 then '\\' :: 'u' :: '0' :: '0' :: hexPair c.toNat else [c]

def quoted (s : String) : List Char :=
  '"' :: (s.toList.flatMap escape ++ ['"'])

mutual

def Value.chars : Value → List Char
  | .null => ['n', 'u', 'l', 'l']
  | .bool true => ['t', 'r', 'u', 'e']
  | .bool false => ['f', 'a', 'l', 's', 'e']
  | .number n => n.text.toList
  | .string s => quoted s
  | .array items => '[' :: (itemChars items ++ [']'])
  | .object members => '\x7b' :: (memberChars members ++ ['\x7d'])

def itemChars : List Value → List Char
  | [] => []
  | [v] => v.chars
  | v :: rest => v.chars ++ ',' :: itemChars rest

def memberChars : List (String × Value) → List Char
  | [] => []
  | [(k, v)] => quoted k ++ ':' :: v.chars
  | (k, v) :: rest => quoted k ++ ':' :: (v.chars ++ ',' :: memberChars rest)

end

/-- The text of a value. -/
def Value.text (v : Value) : String :=
  String.ofList v.chars

end ModelProbe.Json
