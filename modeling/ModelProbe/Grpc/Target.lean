import ModelProbe.Endpoint
import ModelProbe.Uri
import ModelProbe.Url.Address

/-! Where calls can go.

The base URL of an endpoint has to be a URI. One without a scheme is accepted, but no call
goes anywhere from it. -/
namespace ModelProbe.Grpc

/-- Refuses an endpoint whose base URL is no URI. -/
def checkTarget (e : Endpoint) : Except Error Unit :=
  if Uri.isUri e.baseUrl then .ok ()
  else .error (.configuration (.invalidTarget e.target))

def hasScheme (e : Endpoint) : Bool :=
  (Uri.authority? e.baseUrl).isSome

/-- Whether a host is an address or the machine itself, so that nothing has to be looked
up. -/
def isKnownHost (host : List Char) : Bool :=
  host == "localhost".toList || (Url.Ipv6.ofText? host).isSome ||
    (host.getLast? != some '.' && (Url.Ipv4.ofName? host).isSome)

def hasKnownHost (e : Endpoint) : Bool :=
  (Uri.authority? e.baseUrl).any fun authority =>
    isKnownHost ((Uri.hostOf authority).map Char.toLower)

end ModelProbe.Grpc
