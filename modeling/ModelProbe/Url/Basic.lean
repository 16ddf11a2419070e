import ModelProbe.Endpoint
import ModelProbe.Url.Host
import ModelProbe.Url.Path

/-! URLs as they go out.

The text of a URL is pasted from a target, a name and a version, all of which may hold
anything. Tabs and line ends fall away, the host is brought into its one form, the usual
port is left out, dot segments are resolved, and every character that cannot stand as
itself is escaped. A host or a port that cannot be read makes the whole text unreadable. -/
namespace ModelProbe

/-- A name and a password in front of a host, escaped. -/
structure Credentials where
  name : List Char := []
  password : List Char := []
deriving DecidableEq

/-- A URL of plain `http`. -/
structure Url where
  credentials : Credentials
  host : Url.Host
  /-- The port, unless it is the usual one. -/
  port : Option Nat
  /-- The segments of the path; there is always one. -/
  segments : List (List Char)
  query : Option (List Char)
  fragment : Option (List Char)
deriving DecidableEq

namespace Credentials

def ofText (cs : List Char) : Credentials :=
  let name := cs.takeWhile (· != ':')
  let escape := Url.percentEncode Url.escapedInCredentials
  ⟨escape name, escape (cs.drop (name.length + 1))⟩

def text (c : Credentials) : List Char :=
  if c = {} then []
  else c.name ++ (if c.password = [] then [] else ':' :: c.password) ++ ['@']

/-- Whether these can be sent beside the URL: a name that is text, and not nothing. -/
def isSendable (c : Credentials) : Bool :=
  match Url.unescaped? c.name with
  | none => false
  | some _ => c.name ≠ [] || (c.password ≠ [] && (Url.unescaped? c.password).isSome)

end Credentials

namespace Url

/-! ### Reading -/

/-- Tabs and line ends, which no URL keeps. -/
def isDropped (c : Char) : Bool :=
  c == '\t' || c == '\n' || c == '\r'

def endsAuthority (c : Char) : Bool :=
  isSlash c || c == '?' || c == '#'

/-- The host at the start of an authority: up to the first colon outside brackets. -/
def hostPart (inBrackets : Bool) : List Char → List Char
  | [] => []
  | ':' :: rest => if inBrackets then ':' :: hostPart true rest else []
  | '[' :: rest => '[' :: hostPart true rest
  | ']' :: rest => ']' :: hostPart false rest
  | c :: rest => c :: hostPart inBrackets rest

/-- The port behind a host: nothing, or a colon and digits. -/
def port? : List Char → Option (Option Nat)
  | [] | [':'] => some none
  | ':' :: digits => do
    let n ← Text.digitsValue? 10 digits
    if 65535 < n then none else some (if n = 80 then none else some n)
  | _ => none

/-- Reads a URL of plain `http`. Any number of slashes may stand before the authority. -/
def ofText? (text : String) : Option Url := do
  let cs := (text.toList.filter (!isDropped ·)).drop (Endpoint.scheme.length + 1)
  let cs := cs.dropWhile isSlash
  let authority := cs.takeWhile (!endsAuthority ·)
  let rest := cs.drop authority.length
  let (credentials, place) := (Text.splitLast? '@' authority).getD ([], authority)
  let host := hostPart false place
  let path := rest.takeWhile fun c => c != '?' && c != '#'
  let rest := rest.drop path.length
  let query := (rest.drop 1).takeWhile (· != '#')
  let hasQuery := rest.head? == some '?'
  let rest := if hasQuery then rest.drop (query.length + 1) else rest
  return {
    credentials := .ofText credentials
    host := ← Host.ofText? host
    port := ← port? (place.drop host.length)
    segments := segmentsOf path
    query := if hasQuery then some (percentEncode escapedInQuery query) else none
    fragment := if rest = [] then none else some (percentEncode escapedInFragment (rest.drop 1)) }

/-! ### Writing -/

variable (u : Url)

/-- The URL a message is sent to: credentials that can be sent beside it are not in it. -/
def sent : Url :=
  if u.credentials.isSendable then { u with credentials := {} } else u

/-- What a request line asks for: the path and the query. -/
def resource : List Char :=
  u.segments.flatMap ('/' :: ·) ++ u.query.elim [] ('?' :: ·)

def authority : List Char :=
  u.credentials.text ++ u.host.text ++ u.port.elim [] (':' :: Nat.toDigits 10 ·)

def text : String :=
  String.ofList (Endpoint.schemeMark ++ u.authority ++ u.resource ++ u.fragment.elim [] ('#' :: ·))

end Url

end ModelProbe
