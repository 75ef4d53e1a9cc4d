import IngressControl.Fingerprint
import IngressControl.Text.Split

/-!
# Artifacts

The configuration file of the proxy, rendered from a snapshot. A snapshot is coherent when each
server has a hostname that is not blank, no two servers share hostname and port, and each location
names a declared backend; only coherent snapshots are rendered. Which server is at fault first, and
for what, is decided in the order of the servers.

Endpoints never appear in an artifact: the proxy's balancer gets them from the control surface, and
so do the certificates of single servers.
-/

namespace IngressControl

/-- The ports that every artifact listens on. -/
structure ListenPorts where
  /-- The port of the server that answers what no other server does. -/
  defaultHttp : UInt16 := 80
  /-- The port of the server that health checks and the control surface use. -/
  status : UInt16 := 10246
deriving DecidableEq

/-- What an artifact refers to besides the snapshot. -/
structure RenderContext where
  fingerprint : Fingerprint
  /-- The path of the certificate served by default. -/
  defaultCertificate : Option String := none
  /-- The path of the Diffie-Hellman parameters. -/
  dhParam : Option String := none
  listen : ListenPorts := {}
deriving DecidableEq

/-- Why there is no artifact. -/
inductive RenderError where
  | emptyHostname (port : UInt16)
  | duplicateServer (hostname : String) (port : UInt16)
  | unknownBackend (hostname path backend : String)
  /-- The renderer could not write its text. -/
  | formatting
deriving DecidableEq

/-- The decimal text of a port. -/
def portText (port : UInt16) : String := String.ofList (Decimal.ofNat port.toNat)

/-- The text of a failure to render. -/
def RenderError.message : RenderError → String
  | .emptyHostname port => "server with empty hostname on port " ++ portText port
  | .duplicateServer hostname port => "duplicate server " ++ hostname ++ ":" ++ portText port
  | .unknownBackend hostname path backend =>
    "location " ++ path ++ " on " ++ hostname ++ " references unknown backend '" ++ backend ++ "'"
  | .formatting => "formatting failed"

namespace Artifact

/-- The fault of a server, given the declared backends and the servers in front of it. -/
def fault? (backends : List String) (earlier : List (String × UInt16)) (s : Server) :
    Option RenderError :=
  if isBlankText s.hostname then some (.emptyHostname s.port)
  else if earlier.contains (s.hostname, s.port) then some (.duplicateServer s.hostname s.port)
  else
    (s.locations.find? fun l => !backends.contains l.backend).map fun l =>
      .unknownBackend s.hostname l.path l.backend

/-- The first fault of a list of servers, given those in front of them. -/
def firstFault? (backends : List String) :
    (earlier : List (String × UInt16)) → List Server → Option RenderError
  | _, [] => none
  | earlier, s :: rest =>
    match fault? backends earlier s with
    | some e => some e
    | none => firstFault? backends ((s.hostname, s.port) :: earlier) rest

/-- The first fault of a snapshot, if it is not coherent. -/
def incoherence? (s : Snapshot) : Option RenderError :=
  firstFault? (s.backends.map (·.name)) [] s.servers

/-- The lines of one entry of a route table. -/
def locationLines (l : Location) : List String :=
  ["        location " ++ l.path ++ " \x7b",
    "            set $proxy_upstream_name \"" ++ l.backend ++ "\";",
    "            proxy_pass http://upstream_balancer;",
    "        \x7d"]

/-- The lines that open a server's port, with its certificate when it has one. -/
def listenLines (s : Server) : List String :=
  if s.tls.isSome then
    ["        listen " ++ portText s.port ++ " ssl;",
      "        ssl_certificate_by_lua_block \x7b certificate.call() \x7d"]
  else ["        listen " ++ portText s.port ++ ";"]

/-- The lines of a server. -/
def serverLines (s : Server) : List String :=
  ["", "    server \x7b", "        server_name " ++ s.hostname ++ ";"] ++ listenLines s ++
    s.locations.flatMap locationLines ++ ["    \x7d"]

/-- The lines of a service below HTTP. -/
def serviceLines (udp : Bool) (s : Service) : List String :=
  ["", "    server \x7b",
    "        listen " ++ portText s.port ++ (if udp then " udp;" else ";")] ++
    (if s.proxyProtocol then ["        proxy_protocol on;"] else []) ++
    ["        set $proxy_upstream_name \"" ++ s.backend ++ "\";",
      "        proxy_pass upstream_balancer;",
      "    \x7d"]

/-- The lines that say what an artifact was made from. -/
def headerLines (s : Snapshot) (c : RenderContext) : List String :=
  ["# Configuration checksum: " ++ String.ofList c.fingerprint.text,
    "# Generation: " ++ String.ofList (Decimal.ofInt s.generation.toInt)]

/-- The lines between the header and the default TLS material. -/
def balancerLines : List String :=
  ["", "worker_processes auto;", "", "events \x7b", "    worker_connections 16384;", "\x7d", "",
    "http \x7b", "    upstream upstream_balancer \x7b", "        server 0.0.0.1;",
    "        balancer_by_lua_block \x7b balancer.balance() \x7d", "        keepalive 320;",
    "    \x7d", ""]

/-- The lines that refer to the default TLS material. -/
def materialLines (c : RenderContext) : List String :=
  (match c.defaultCertificate with
    | some path => ["    ssl_certificate " ++ path ++ ";", "    ssl_certificate_key " ++ path ++ ";"]
    | none => []) ++
  (match c.dhParam with
    | some path => ["    ssl_dhparam " ++ path ++ ";"]
    | none => [])

/-- The lines of the two servers that every artifact has. -/
def fixedServerLines (listen : ListenPorts) : List String :=
  ["", "    server \x7b",
    "        listen " ++ portText listen.defaultHttp ++ " default_server;",
    "        server_name _;", "        location / \x7b return 404; \x7d", "    \x7d", "",
    "    server \x7b", "        listen 127.0.0.1:" ++ portText listen.status ++ ";",
    "        location /healthz \x7b return 200; \x7d",
    "        location /configuration \x7b content_by_lua_block \x7b configuration.call() \x7d \x7d",
    "    \x7d"]

/-- The lines of the services below HTTP, if there are any. -/
def streamLines (tcp udp : List Service) : List String :=
  if tcp.isEmpty && udp.isEmpty then []
  else
    ["", "stream \x7b", "    upstream upstream_balancer \x7b", "        server 0.0.0.1:1234;",
      "        balancer_by_lua_block \x7b tcp_udp_balancer.balance() \x7d", "    \x7d"] ++
      tcp.flatMap (serviceLines false) ++ udp.flatMap (serviceLines true) ++ ["\x7d"]

/-- The lines behind the header. -/
def bodyLines (s : Snapshot) (c : RenderContext) : List String :=
  balancerLines ++ materialLines c ++ fixedServerLines c.listen ++
    s.servers.flatMap serverLines ++ ["\x7d"] ++ streamLines s.tcpServices s.udpServices

/-- All lines of an artifact. -/
def lines (s : Snapshot) (c : RenderContext) : List String := headerLines s c ++ bodyLines s c

/-- The text of lines, each with a line feed at its end. -/
def ofLines (lines : List String) : String :=
  String.ofList (lines.flatMap fun line => line.toList ++ ['\n'])

/-- Renders a coherent snapshot. -/
def render (s : Snapshot) (c : RenderContext) : Except RenderError String :=
  match incoherence? s with
  | some e => .error e
  | none => .ok (ofLines (lines s c))

end Artifact

end IngressControl
