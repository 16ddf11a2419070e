import ModelProbe.Text.Pieces

/-! Which texts are URIs.

A URI here is an optional scheme, an authority, and after a scheme a path and a query. The
authority is ASCII without blanks: at most one colon outside brackets and before the port,
one pair of brackets, percent signs only before an `@`, and something after the `@`. -/
namespace ModelProbe.Uri

/-! ### Authorities -/

/-- ASCII that may stand in an authority. -/
def isAuthorityChar (c : Char) : Bool :=
  c.isAlphanum || c ∈ "!#$&'()*+,-./:;=?@[]_~".toList

def endsAuthority (c : Char) : Bool :=
  c == '/' || c == '?' || c == '#'

/-- What has been seen of an authority. -/
structure AuthorityScan where
  colons : Nat := 0
  opened : Bool := false
  closed : Bool := false
  percent : Bool := false
  /-- Whether the last character was an `@`. -/
  bare : Bool := false

def AuthorityScan.next (s : AuthorityScan) (c : Char) : Option AuthorityScan :=
  let s := { s with bare := false }
  if c = '%' then some { s with percent := true }
  else if !isAuthorityChar c then none
  else
    match c with
    | ':' => if 8 ≤ s.colons then none else some { s with colons := s.colons + 1 }
    | '[' => if s.percent || s.opened then none else some { s with opened := true }
    | ']' =>
      if !s.opened || s.closed then none
      else some { s with closed := true, colons := 0, percent := false }
    | '@' => some { s with bare := true, colons := 0, percent := false }
    | _ => some s

def isAuthority (cs : List Char) : Bool :=
  match cs.foldlM AuthorityScan.next {} with
  | some s => s.opened == s.closed && s.colons ≤ 1 && !s.bare && !s.percent
  | none => false

/-- The host of an authority: what stands behind an `@` and before a port. -/
def hostOf (authority : List Char) : List Char :=
  let place := ((Text.splitLast? '@' authority).map Prod.snd).getD authority
  match place with
  | '[' :: rest => rest.takeWhile (· != ']')
  | _ => place.takeWhile (· != ':')

/-! ### Paths and queries -/

/-- Anything but blanks, controls and the delimiters named. -/
def isOpen (delimiters : List Char) (c : Char) : Bool :=
  0x21 ≤ c.toNat && c.toNat != 0x7f && c ∉ delimiters

/-- Characters of a path; of those that should be escaped quotes and braces pass. -/
def isPathChar : Char → Bool :=
  isOpen ['<', '>', '`']

def isQueryChar : Char → Bool :=
  isOpen ['"', '<', '>']

/-- A path and a query, up to a fragment. -/
def isPathAndQuery (cs : List Char) : Bool :=
  let path := cs.takeWhile fun c => c != '?' && c != '#'
  let rest := cs.drop path.length
  let query := (rest.drop 1).takeWhile (· != '#')
  path.all isPathChar && (rest.head? != some '?' || query.all isQueryChar)

/-! ### Whole texts -/

def maxBytes : Nat := 65534

def schemeMark : List Char := "http://".toList

/-- The authority behind the scheme, if there is a scheme. -/
def authority? (text : String) : Option (List Char) :=
  let cs := text.toList
  if schemeMark.isPrefixOf cs then
    some ((cs.drop schemeMark.length).takeWhile (!endsAuthority ·))
  else none

/-- Whether a text that begins with `http://`, or is no more than `http:`, is a URI. -/
def isUri (text : String) : Bool :=
  let cs := text.toList
  if maxBytes < text.utf8ByteSize then false
  else
    match authority? text with
    | some authority =>
      authority ≠ [] && isAuthority authority &&
        isPathAndQuery (cs.drop (schemeMark.length + authority.length))
    | none => !cs.any endsAuthority && isAuthority cs

end ModelProbe.Uri
