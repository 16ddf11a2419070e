/-! White space: the characters with the Unicode property `White_Space`.

A text of nothing but these counts as blank wherever a name, a target or a version must
not be. The property holds 25 characters; the zero width space and the byte order mark are
not among them. -/
namespace ModelProbe.Text

def isBlank (c : Char) : Bool :=
  let n := c.toNat
  (9 ≤ n && n ≤ 13) || n == 0x20 || n == 0x85 || n == 0xa0 || n == 0x1680 ||
    (0x2000 ≤ n && n ≤ 0x200a) || n == 0x2028 || n == 0x2029 || n == 0x202f || n == 0x205f ||
    n == 0x3000

def blank (s : String) : Bool :=
  s.toList.all isBlank

def trimEnd (p : Char → Bool) (cs : List Char) : List Char :=
  (cs.reverse.dropWhile p).reverse

/-- The text without the white space at its ends. -/
def trim (s : String) : String :=
  String.ofList (trimEnd isBlank (s.toList.dropWhile isBlank))

end ModelProbe.Text
