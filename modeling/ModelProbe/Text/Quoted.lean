import ModelProbe.Text.Listing
import ModelProbe.Text.Shapeless

/-! Quoted text inside messages.

Quotes, backslashes and the usual controls have escapes of their own, shapeless characters
stand as their code points, and all else stands as it is. -/
namespace ModelProbe.Text

/-- A code point in braces. -/
def codePoint (c : Char) : List Char :=
  ['\\', 'u', '\x7b'] ++ Nat.toDigits 16 c.toNat ++ ['\x7d']

def quoteChar (c : Char) : List Char :=
  match c with
  | '"' => ['\\', '"']
  | '\\' => ['\\', '\\']
  | '\x00' => ['\\', '0']
  | '\t' => ['\\', 't']
  | '\r' => ['\\', 'r']
  | '\n' => ['\\', 'n']
  | c => if isShapeless c then codePoint c else [c]

def quote (s : String) : String :=
  String.ofList ('"' :: (s.toList.flatMap quoteChar ++ ['"']))

def quotes (ss : List String) : String :=
  bracketed (ss.map quote)

end ModelProbe.Text
