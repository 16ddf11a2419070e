import ModelProbe.Text.Digits

/-! Percent signs in URLs.

A byte that cannot stand as itself is written as a percent sign and two upper-case
hexadecimal digits; readers take either case. Which characters are escaped depends on where
they stand. -/
namespace ModelProbe.Url

/-! ### Writing -/

/-- Two hexadecimal digits behind a percent sign. -/
def percentByte (b : UInt8) : List Char :=
  ['%', (Nat.digitChar (b.toNat / 16)).toUpper, (Nat.digitChar (b.toNat % 16)).toUpper]

/-- Escapes the characters that are to be escaped, byte by byte of their UTF-8. -/
def percentEncode (escaped : Char → Bool) (cs : List Char) : List Char :=
  cs.flatMap fun c => if escaped c then (String.utf8EncodeChar c).flatMap percentByte else [c]

/-- Controls, blanks, the quotes and brackets that delimit URLs, and everything outside
ASCII. -/
def delimits (c : Char) : Bool :=
  c.toNat ≤ 0x20 || 0x7f ≤ c.toNat || c == '"' || c == '<' || c == '>'

def escapedInFragment (c : Char) : Bool :=
  delimits c || c == '`'

def escapedInQuery (c : Char) : Bool :=
  delimits c || c == '\''

def escapedInPath (c : Char) : Bool :=
  escapedInFragment c || c ∈ ['#', '?', '\x7b', '\x7d']

def escapedInCredentials (c : Char) : Bool :=
  escapedInPath c || c ∈ ['/', ':', ';', '=', '@', '[', '\\', ']', '^', '|']

/-! ### Reading -/

/-- The bytes of a text with its escapes resolved. A percent sign without two digits stands
for itself. -/
def percentDecode : List Char → List UInt8
  | [] => []
  | '%' :: a :: b :: rest =>
    match Text.hexValue? a, Text.hexValue? b with
    | some high, some low => UInt8.ofNat (16 * high + low) :: percentDecode rest
    | _, _ => 0x25 :: percentDecode (a :: b :: rest)
  | c :: rest => String.utf8EncodeChar c ++ percentDecode rest

/-- The text behind escapes, if their bytes are text. -/
def unescaped? (cs : List Char) : Option String :=
  String.fromUTF8? ⟨(percentDecode cs).toArray⟩

end ModelProbe.Url
