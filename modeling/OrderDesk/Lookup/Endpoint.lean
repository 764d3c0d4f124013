import OrderDesk.Lookup.Remote
import OrderDesk.Net.Uri

/-!
# Connecting to the market service

The market service is given by its address. The address is checked at once; a connection is made
when it is first needed, unless it is asked for earlier.
-/

namespace OrderDesk

/-- The market service as its callers know it: by an address that was checked. -/
structure Endpoint where
  text : String
  uri : Uri
  deriving DecidableEq, Repr

namespace Endpoint

def faultDetail (e : UriError) : String :=
  "invalid endpoint: " ++ e.message

def read (text : String) : Except RemoteError Endpoint :=
  match Uri.parse text with
  | .ok uri => .ok ⟨text, uri⟩
  | .error e => .error (.invalidConfig (faultDetail e))

/-- Checks an address and connects to it at once, if it is `reachable`. -/
def connect (text : String) (reachable : Bool) : Except RemoteError Endpoint :=
  match read text with
  | .error e => .error e
  | .ok endpoint =>
    if reachable && endpoint.uri.isAbsolute then .ok endpoint
    else .error (.invalidConfig ("connect to " ++ text ++ " failed: transport error"))

/-- The service at an address where nobody answers, in a place where no name of a host is known but
the machine's own. An address without a scheme or a host cannot even be called. -/
def deserted {σ : Type} (endpoint : Endpoint) : MarketService σ :=
  if !endpoint.uri.isAbsolute then unreachableService .unknown "transport error"
  else if endpoint.uri.namesAddress then unreachableService .unavailable "tcp connect error"
  else unreachableService .unavailable "dns error"

end Endpoint

end OrderDesk
