import IngressControl.Change
import IngressControl.Json.Writer

/-!
# What the control surface is told about servers

Two tables in the order of their keys: the certificate of each TLS host, by content identity, and
the PEM text of each certificate. A later server takes the place of an earlier one with the same
key.
-/

namespace IngressControl

/-- Puts a value under a key of a table sorted by key. -/
def insertKey (key value : String) : List (String × String) → List (String × String)
  | [] => [(key, value)]
  | (k, v) :: rest =>
    match compare key k with
    | .lt => (key, value) :: (k, v) :: rest
    | .eq => (key, value) :: rest
    | .gt => (k, v) :: insertKey key value rest

/-- The tables of a configuration. -/
structure ServersPayload where
  /-- From hostnames to content identities. -/
  servers : List (String × String) := []
  /-- From content identities to PEM texts. -/
  certificates : List (String × String) := []
deriving DecidableEq

namespace ServersPayload

/-- Adds one server, if it has a certificate. -/
def add (p : ServersPayload) (s : Server) : ServersPayload :=
  match s.tls with
  | none => p
  | some certificate =>
    { servers := insertKey s.hostname certificate.identity p.servers
      certificates := insertKey certificate.identity certificate.pem p.certificates }

/-- The tables of a configuration's servers. -/
def of (c : Configuration) : ServersPayload := c.servers.foldl add {}

/-- A table as a JSON object. -/
def table (entries : List (String × String)) : List Char :=
  Json.object (entries.map fun (key, value) => (key, Json.quoted value))

/-- The JSON text of the payload. -/
def render (p : ServersPayload) : String :=
  String.ofList (Json.object [("servers", table p.servers), ("certificates", table p.certificates)])

end ServersPayload

end IngressControl
