import IngressControl.Material

/-!
# Routing

Backends with their endpoints, virtual servers with their route tables, and services that are
passed through below HTTP.
-/

namespace IngressControl

/-- One address that traffic of a backend goes to. -/
structure Endpoint where
  address : String
  port : UInt16
  /-- The share of the traffic relative to the other endpoints. -/
  weight : UInt32 := 1
deriving DecidableEq

/-- A named group of endpoints, which locations refer to. -/
structure Backend where
  name : String
  endpoints : List Endpoint := []
  /-- A hint on how to choose among the endpoints. -/
  loadBalance : Option String := none
deriving DecidableEq

/-- An entry of a route table: requests under a path go to a backend. -/
structure Location where
  path : String
  backend : String
deriving DecidableEq

/-- A virtual server. -/
structure Server where
  hostname : String
  /-- The port that the server listens on. -/
  port : UInt16
  /-- The certificate served for the hostname. -/
  tls : Option Certificate := none
  locations : List Location := []
deriving DecidableEq

/-- A TCP or UDP service that is passed through on a port of its own. -/
structure Service where
  port : UInt16
  backend : String
  endpoints : List Endpoint := []
  proxyProtocol : Bool := false
deriving DecidableEq

end IngressControl
