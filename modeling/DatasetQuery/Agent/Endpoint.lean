import DatasetQuery.Agent.Config
import DatasetQuery.ServerName
import DatasetQuery.Uri
/-!
Endpoints: the settings with which channels to an agent are opened. One among the ports always
speaks the secure scheme, whatever scheme the address was written with.
-/
namespace DatasetQuery

namespace Uri

/-- Among the ports, the one that always speaks the secure scheme. -/
def securePort : Nat := 443

/-- Puts the secure scheme in the place of the one that is written. An address that is only an
authority has no path to put it before. -/
def withSecureScheme : Uri → Except UriError Uri
  | absolute _ a r => .ok (absolute .https a r)
  | authority _ | resource _ => .error .pathMissing

/-- Addresses with the secure number take the secure scheme; all others stay as they are. -/
def normalize (u : Uri) : Except UriError Uri :=
  if u.portNumber? = some securePort ∧ u.scheme? ≠ some .https then u.withSecureScheme else .ok u

end Uri

namespace Agent

/-- Where a channel leads, and its deadlines. -/
structure Endpoint where
  uri : Uri
  timeout : Duration
  connectTimeout : Duration
  deriving DecidableEq

namespace Endpoint

def isSecure (e : Endpoint) : Bool := e.uri.scheme? = some .https

def invalidAddress (address : String) (reason : UriError) : Error :=
  .config ("invalid agent endpoint '" ++ address ++ "': " ++ reason.message)

def invalidServer (address : String) : Error :=
  .config ("invalid TLS setup for '" ++ address ++ "': transport error")

/-- The normal form of the address that a text stands for. -/
def uriOf (address : String) : Except Error Uri :=
  match Uri.read address with
  | .error reason => .error (invalidAddress address reason)
  | .ok u =>
    match u.normalize with
    | .error reason => .error (invalidAddress address reason)
    | .ok u => .ok u

/-- The host of a secure endpoint must be able to prove who it is. -/
def ofConfig (c : Config) : Except Error Endpoint :=
  match uriOf c.endpoint with
  | .error e => .error e
  | .ok uri =>
    let endpoint : Endpoint := ⟨uri, c.timeout, c.connectTimeout⟩
    if endpoint.isSecure && !ServerName.isValid (uri.host?.getD "") then
      .error (invalidServer c.endpoint)
    else .ok endpoint

end Endpoint

end Agent

end DatasetQuery
