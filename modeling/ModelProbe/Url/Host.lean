import ModelProbe.Url.Address
import ModelProbe.Url.Name.Basic
import ModelProbe.Url.Percent

/-! Hosts of URLs.

A host in brackets is an address of version 6. Any other is a name, with its escapes resolved
and in its ASCII form; a name that ends in a number has to be an address of version 4. -/
namespace ModelProbe.Url

inductive Host where
  | name (letters : List Char)
  | v4 (address : Ipv4)
  | v6 (address : Ipv6)
deriving DecidableEq

namespace Host

def ofName? (letters : List Char) : Option Host :=
  if letters = [] then none
  else if Ipv4.endsInNumber letters then (Ipv4.ofName? letters).map v4
  else some (.name letters)

def ofText? (cs : List Char) : Option Host :=
  match cs with
  | '[' :: rest =>
    if rest.getLast? = some ']' then (Ipv6.ofText? rest.dropLast).map v6 else none
  | _ => do ofName? (← Name.ascii? (← unescaped? cs))

def text : Host → List Char
  | .name letters => letters
  | .v4 address => address.text
  | .v6 address => '[' :: address.text ++ [']']

end Host

end ModelProbe.Url
